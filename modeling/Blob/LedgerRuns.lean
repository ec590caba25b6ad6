import Blob.DurableLedger
import Blob.RootBoundary

/-!
# One launch per authorization

Any number of boundary and helper calls, interleaved operation by
operation, crashing and restarting, on one ledger directory. The
permits, the host and the command runner may answer anything; only the
ledger is implemented, by the crate's file ledger on a shared file
system whose receipts nobody removes.

A call reaches its candidate command only past a receipt it created
itself (`receipt_before_launch`), and a receipt is created at most once
(`receipt_creator_unique`): so an authorization is launched at most once.
-/

namespace Blob

namespace LedgerRuns

open Pool PrivilegedNixOsActivationHelper

/-! ## The system -/

/-- Everything a boundary asks of the world: permits, host, runner, ledger. -/
abbrev BoundarySig : Sig := PermitSig.sum HelperSig

/-- The same with the ledger's file operations in place. -/
abbrev LedgerSig : Sig := FsSig.sum BoundarySig

/-- Implement `consume_once` by the file ledger; pass on every other call. -/
def withLedger (ledger : FilePrivilegedExecutionLedger) :
    (o : BoundarySig.Op) → Prog LedgerSig Empty (BoundarySig.Ans o)
  | .inr (.consumeOnce authorization preparedAtUnixMs) =>
      (ledger.consumeOnce authorization preparedAtUnixMs).attempt.inl
  | o => .call (.inr o) .pure

/-- One call of one of the two entry points. -/
inductive Call where
  | boundary (self : RootOwnedNixOsActivationBoundary)
      (prepared : PreparedPrivilegedActivation) (nowUnixMs : Nat)
  | helper (self : PrivilegedNixOsActivationHelper)
      (prepared : PreparedPrivilegedActivation) (nowUnixMs : Nat)

namespace Call

def prepared : Call → PreparedPrivilegedActivation
  | .boundary _ prepared _ => prepared
  | .helper _ prepared _ => prepared

/-- The helper that runs in a call. -/
def runtime : Call → PrivilegedNixOsActivationHelper
  | .boundary self _ _ => self.runtime
  | .helper self _ _ => self

def nowUnixMs : Call → Nat
  | .boundary _ _ nowUnixMs => nowUnixMs
  | .helper _ _ nowUnixMs => nowUnixMs

/-- The call with its ledger left open. -/
def body : Call → Prog BoundarySig RootActivationBoundaryError PrivilegedActivationExecution
  | .boundary self prepared nowUnixMs => self.execute prepared nowUnixMs .any
  | .helper self prepared nowUnixMs =>
      (self.execute prepared nowUnixMs).inr.mapErr .runtimeRejected

end Call

def isReceipt (ledger : FilePrivilegedExecutionLedger) (path : PathBuf) : Prop :=
  ∃ authorization, path = ledger.receiptPath authorization

/-- Calls on the files of one ledger. The environment may change the files
as it likes, only receipts stay. -/
abbrev system (ledger : FilePrivilegedExecutionLedger) : System where
  S := LedgerSig
  Call := Call
  Err _ := RootActivationBoundaryError
  Res _ := PrivilegedActivationExecution
  prog c := Prog.handle (withLedger ledger) c.body
  World := Fs
  step fs e fs' :=
    match e with
    | ⟨.inl o, ans⟩ => fs.Step ⟨o, ans⟩ fs'
    | ⟨.inr _, _⟩ => fs' = fs
  drift fs fs' := ∀ path, isReceipt ledger path → fs.names path ≠ none → fs'.names path ≠ none
  admits _ _ := True

/-! ## Launches -/

/-- The event of handing a command to the runner. -/
def runEvent (program : PathBuf) (argument : String)
    (answer : Except String PrivilegedCommandOutcome) : Event LedgerSig :=
  ⟨.inr (.inr (.run program argument)), answer⟩

def isRun : Event LedgerSig → Bool
  | ⟨.inr (.inr (.run _ _)), _⟩ => true
  | _ => false

/-- At place `n` of the history a call that carries `authorization` hands over
its first command, the candidate's. -/
def LaunchedAt (h : List (Act LedgerSig Call)) (n : Nat)
    (authorization : SystemAuthorizationId) : Prop :=
  ∃ i c program argument answer,
    h[n]? = some (.act i (runEvent program argument answer))
      ∧ (calls (h.take n))[i]? = some c ∧ c.prepared.authorization = authorization
      ∧ ∀ e ∈ proj i (h.take n), isRun e = false

/-! ## A call creates its receipt first -/

/-- A body's execution is a helper's, after operations of the permit store. -/
theorem Call.steps_body {c : Call} {tr : List (Event BoundarySig)}
    {r : Prog BoundarySig RootActivationBoundaryError PrivilegedActivationExecution}
    (h : c.body.Steps tr r) :
    ∃ (trp : List (Event PermitSig)) (trh : List (Event HelperSig)),
      tr = trp.map .inl ++ trh.map .inr ∧ Phase c.runtime c.prepared c.nowUnixMs trh := by
  cases c with
  | boundary self p now =>
      rcases RootOwnedNixOsActivationBoundary.steps_execute h with rfl | ⟨-, h'⟩
      · exact ⟨[], [], rfl, .observing rfl⟩
      · rcases h' with ⟨trp, -, rfl, -⟩ | ⟨trp, trh, q, rfl, -, hq⟩
        · exact ⟨trp, [], (List.append_nil _).symm, .observing rfl⟩
        · exact ⟨trp, trh, rfl, ((execute_all self.runtime p now).of_steps hq).1⟩
  | helper self p now =>
      obtain ⟨q, hq, -⟩ := Prog.steps_mapErr h
      obtain ⟨trh, q', rfl, hq', -⟩ := Prog.steps_inr hq
      exact ⟨[], trh, rfl, ((execute_all self p now).of_steps hq').1⟩

/-- The file operations of `consume_once` come in between, and nothing else. -/
theorem withLedger_overlays (ledger : FilePrivilegedExecutionLedger) :
    Prog.Overlays (withLedger ledger)
      (fun o => ∃ authorization preparedAtUnixMs,
        o = .inr (.consumeOnce authorization preparedAtUnixMs))
      (fun o => ∃ file, o = .inl file) .inr (fun _ a => a) where
  uses := by
    rintro _ ⟨authorization, preparedAt, rfl⟩
    exact Prog.uses_inl (Prog.uses_of_forall (fun o => ⟨o, rfl⟩) _)
  cases o := by
    rcases o with o | o
    · exact Or.inr rfl
    · cases o with
      | consumeOnce authorization preparedAt => exact Or.inl ⟨_, _, rfl⟩
      | _ => exact Or.inr rfl

/-- Where the ledger has agreed it has created the receipt. -/
theorem receipt_of_consumed {ledger : FilePrivilegedExecutionLedger}
    {tr : List (Event BoundarySig)} {done : List (Event LedgerSig)}
    (hx : Prog.Expands (withLedger ledger) tr done) {authorization : SystemAuthorizationId}
    {preparedAtUnixMs : Nat}
    (hconsumed : ⟨.inr (.consumeOnce authorization preparedAtUnixMs), .ok ()⟩ ∈ tr) :
    ∃ file, (⟨.inl (.createNew (ledger.receiptPath authorization) 0o600), .ok file⟩ :
      Event LedgerSig) ∈ done := by
  obtain ⟨seg, hseg, hall⟩ := hx.segment_of_mem hconsumed
  obtain ⟨file, hcreate⟩ := FilePrivilegedExecutionLedger.receipt_of_agreed hseg
  exact ⟨file, hall _ hcreate⟩

/-- Before a call hands over a command it has created the receipt of its
authorization. -/
theorem receipt_before_launch {ledger : FilePrivilegedExecutionLedger} {c : Call}
    {tr : List (Event LedgerSig)}
    {r : Prog LedgerSig RootActivationBoundaryError PrivilegedActivationExecution}
    {program : PathBuf} {argument : String}
    {answer : Except String PrivilegedCommandOutcome}
    (h : (Prog.handle (withLedger ledger) c.body).Steps
      (tr ++ [runEvent program argument answer]) r) :
    ∃ file, (⟨.inl (.createNew (ledger.receiptPath c.prepared.authorization) 0o600),
      .ok file⟩ : Event LedgerSig) ∈ tr := by
  -- a run is passed on, so no operation is cut off in it
  have houter : ¬ ∃ file : FsOp, (runEvent program argument answer).op = .inl file := nofun
  obtain ⟨tr', p', done, rest, hbody, hx, hsplit, hdone⟩ := Prog.steps_handle_of_last h
    (List.mem_append_right tr (List.mem_singleton_self _))
    fun hq hmem => ((withLedger_overlays ledger).op_of_mem hq hmem houter).2
  obtain ⟨o, a, seg, hmem, hseg, hin⟩ := hx.exists_of_mem hdone
  obtain ⟨hop, -⟩ := (withLedger_overlays ledger).op_of_mem hseg hin houter
  obtain rfl : .inr (.run program argument) = o := Sum.inr.inj hop
  obtain ⟨trp, trh, rfl, hphase⟩ := Call.steps_body hbody
  have hrun : ⟨.run program argument, a⟩ ∈ trh := by
    rcases List.mem_append.mp hmem with hp | hh
    · obtain ⟨e, -, he⟩ := List.mem_map.mp hp
      cases he
    · obtain ⟨e, he, heq⟩ := List.mem_map.mp hh
      obtain rfl : e = ⟨.run program argument, a⟩ := Event.inr_injective heq
      exact he
  obtain ⟨file, hcreate⟩ := receipt_of_consumed hx
    (List.mem_append_right _ (List.mem_map_of_mem (hphase.consumed_of_run hrun)))
  have hin' := List.mem_append_left rest hcreate
  rw [← hsplit] at hin'
  rcases List.mem_append.mp hin' with hin' | hin'
  · exact ⟨file, hin'⟩
  · cases List.mem_singleton.mp hin'

/-! ## A receipt is created once -/

/-- The event of creating the receipt of an authorization. -/
def Creates (ledger : FilePrivilegedExecutionLedger) (authorization : SystemAuthorizationId)
    (e : Event LedgerSig) : Prop :=
  ∃ file, e = ⟨.inl (.createNew (ledger.receiptPath authorization) 0o600), .ok file⟩

/-- An operation of the permits, host or runner, or one that removes no file. -/
def KeepsFiles : LedgerSig.Op → Prop
  | .inl o => o.isRemove = false
  | .inr _ => True

theorem keepsFiles (ledger : FilePrivilegedExecutionLedger) (c : Call) :
    (Prog.handle (withLedger ledger) c.body).Uses KeepsFiles := by
  refine Prog.uses_handle (fun o _ => ?_) (Prog.uses_of_forall (fun _ => trivial) _)
  rcases (withLedger_overlays ledger).cases o with ⟨authorization, preparedAt, rfl⟩ | hpass
  · exact Prog.uses_inl (Prog.uses_attempt
      ((ledger.consumeOnce_uses authorization preparedAt).imp fun _ => (·.keeps)))
  · rw [hpass]
    exact ⟨trivial, fun _ => trivial⟩

/-- A receipt is created where its name is free, and stays. -/
def receiptLatch (ledger : FilePrivilegedExecutionLedger)
    (authorization : SystemAuthorizationId) : Latch (system ledger) where
  closed fs := fs.names (ledger.receiptPath authorization) ≠ none
  closes := Creates ledger authorization
  keeps {c tr e q fs fs'} hs hstep hnamed := by
    have hkeep : KeepsFiles e.op :=
      (keepsFiles ledger c).of_steps hs e (List.mem_append_right _ (List.mem_singleton_self e))
    obtain ⟨o | o, ans⟩ := e
    · exact Fs.names_ne_none_of_step hstep hkeep hnamed
    · obtain rfl : fs' = fs := hstep
      exact hnamed
  shuts := by
    rintro fs fs' _ hstep ⟨file, rfl⟩
    obtain ⟨hfree, -, metadata, rfl⟩ := hstep
    exact ⟨not_not.mpr hfree.1, by simp⟩
  drift hdrift := hdrift _ ⟨authorization, rfl⟩

/-- Along every run a created receipt stays, and one call has created it. -/
theorem receipt_creator_unique {ledger : FilePrivilegedExecutionLedger} {fs₀ : Fs}
    {h : (system ledger).History} {fs : Fs} (hr : Run (system ledger) fs₀ h fs)
    (authorization : SystemAuthorizationId) :
    (∀ i e, .act i e ∈ h → Creates ledger authorization e →
        fs.names (ledger.receiptPath authorization) ≠ none)
      ∧ ∀ i j e e', .act i e ∈ h → .act j e' ∈ h → Creates ledger authorization e →
        Creates ledger authorization e' → i = j := by
  constructor
  · intro i e hmem hcreates
    exact (receiptLatch ledger authorization).closed_of hr (Or.inr ⟨i, e, hmem, hcreates⟩)
  · intro i j e e' hi hj hcreates hcreates'
    exact Latch.unique (L := receiptLatch ledger authorization) hr hi hj hcreates hcreates'

/-! ## At most one launch -/

/-- The call that launches has created the receipt of its authorization. -/
theorem creates_of_launchedAt {ledger : FilePrivilegedExecutionLedger} {fs₀ fs : Fs}
    {h : (system ledger).History} (hr : Run (system ledger) fs₀ h fs) {n i : Nat}
    {c : Call} {program : PathBuf} {argument : String}
    {answer : Except String PrivilegedCommandOutcome}
    (hn : h[n]? = some (.act i (runEvent program argument answer)))
    (hc : (calls (h.take n))[i]? = some c) :
    ∃ e, .act i e ∈ h ∧ Creates ledger c.prepared.authorization e := by
  obtain ⟨hlt, hget⟩ := List.getElem?_eq_some_iff.mp hn
  have hsplit : h = h.take n ++ .act i (runEvent program argument answer) :: h.drop (n + 1) := by
    rw [← hget, List.getElem_cons_drop, List.take_append_drop]
  rw [hsplit] at hr
  obtain ⟨c', fs₁, fs₂, q, hc', -, hs, -⟩ := hr.split
  obtain rfl := Option.some.inj (hc'.symm.trans hc)
  obtain ⟨file, hcreate⟩ := receipt_before_launch hs
  refine ⟨_, ?_, file, rfl⟩
  exact List.mem_of_mem_take (mem_proj.mp hcreate)

/-- Of one call, no command comes before its first. -/
theorem first_run_le {h : List (Act LedgerSig Call)} {m n i : Nat}
    {program : PathBuf} {argument : String} {answer : Except String PrivilegedCommandOutcome}
    (hm : h[m]? = some (.act i (runEvent program argument answer)))
    (hfirst : ∀ e ∈ proj i (h.take n), isRun e = false) : n ≤ m := by
  by_contra hlt
  have hmem : .act i (runEvent program argument answer) ∈ h.take n := by
    exact List.mem_of_getElem? (by rw [List.getElem?_take_of_lt (Nat.lt_of_not_le hlt), hm])
  exact absurd (hfirst _ (mem_proj.mpr hmem)) (by simp [runEvent, isRun])

/-- **At most one launch per authorization.** In every interleaving of
boundary and helper calls on one ledger directory, two launches under the
same authorization are the same event. -/
theorem launch_unique {ledger : FilePrivilegedExecutionLedger} {fs₀ fs : Fs}
    {h : (system ledger).History} (hr : Run (system ledger) fs₀ h fs)
    {authorization : SystemAuthorizationId} {m n : Nat}
    (hm : LaunchedAt h m authorization) (hn : LaunchedAt h n authorization) : m = n := by
  obtain ⟨i, c, program, argument, answer, hgetm, hcm, hauthm, hfirstm⟩ := hm
  obtain ⟨j, c', program', argument', answer', hgetn, hcn, hauthn, hfirstn⟩ := hn
  obtain ⟨e, hmem, hcreate⟩ := creates_of_launchedAt hr hgetm hcm
  obtain ⟨e', hmem', hcreate'⟩ := creates_of_launchedAt hr hgetn hcn
  rw [hauthm] at hcreate
  rw [hauthn] at hcreate'
  obtain rfl := (receipt_creator_unique hr authorization).2 i j e e' hmem hmem' hcreate hcreate'
  exact Nat.le_antisymm (first_run_le hgetn hfirstm) (first_run_le hgetm hfirstn)

/-! The pilot request, launched once and then replayed by a second call. -/

def pilotLedger : FilePrivilegedExecutionLedger :=
  ⟨.ofString "/var/lib/theblob/execution-ledger"⟩

def pilotReceipt : PathBuf := pilotLedger.receiptPath ⟨"auth:one"⟩

def pilotCall (nowUnixMs : Nat) : Call :=
  .helper pilotHelper (Pilot.prepared ⟨"auth:one"⟩) nowUnixMs

/-- The first call creates the receipt and launches. -/
def pilotLaunch : List (Event LedgerSig) :=
  pilotObservations.map (fun e => e.inr.inr)
    ++ ([ ⟨.symlinkMetadata pilotLedger.root, .ok ⟨false, true, false, 0, 0o700⟩⟩
        , ⟨.createNew pilotReceipt 0o600, .ok (.file 0)⟩
        , ⟨.writeAll (.file 0) "authorization=auth:one\n", .ok ()⟩
        , ⟨.writeAll (.file 0) "prepared-at-unix-ms=2000\n", .ok ()⟩
        , ⟨.syncAll (.file 0), .ok ()⟩
        , ⟨.openFile pilotLedger.root, .ok .dir⟩
        , ⟨.syncAll .dir, .ok ()⟩ ] : List (Event FsSig)).map .inl
    ++ [runEvent pilotObserved.candidateProgram "test" (.ok ⟨.succeeded, some 0, "", "", 9⟩)]

/-- The second call finds the receipt. -/
def pilotReplay : List (Event LedgerSig) :=
  pilotObservations.map (fun e => e.inr.inr)
    ++ ([ ⟨.symlinkMetadata pilotLedger.root, .ok ⟨false, true, false, 0, 0o700⟩⟩
        , ⟨.createNew pilotReceipt 0o600, .error ⟨.alreadyExists, "file exists"⟩⟩ ] :
          List (Event FsSig)).map .inl

def pilotHistory : (system pilotLedger).History :=
  [.spawn (pilotCall 2500)] ++ pilotLaunch.map (.act 0)
    ++ [.spawn (pilotCall 2600)] ++ pilotReplay.map (.act 1)

/-- The files after the launch. -/
def pilotUsed : Fs :=
  (((Fs.emptyDirectory pilotLedger.root).create pilotReceipt
    ⟨false, false, true, 0, 0o600⟩).append 0 "authorization=auth:one\n").append 0
      "prepared-at-unix-ms=2000\n"

theorem pilotHistory_run : Run (system pilotLedger) (.emptyDirectory pilotLedger.root)
    pilotHistory pilotUsed := by
  have hlaunch : Prog.Exec (system pilotLedger).step (.emptyDirectory pilotLedger.root)
      pilotLaunch pilotUsed :=
    .cons rfl <| .cons rfl <| .cons rfl <| .cons rfl <| .cons rfl <|
      .cons ⟨by decide, rfl⟩ <| .cons ⟨⟨rfl, by decide⟩, rfl, _, rfl⟩ <|
      .cons rfl <| .cons rfl <| .cons rfl <| .cons ⟨by decide, rfl⟩ <| .cons rfl <|
      .cons rfl .nil
  have hreplay : Prog.Exec (system pilotLedger).step pilotUsed pilotReplay pilotUsed :=
    .cons rfl <| .cons rfl <| .cons rfl <| .cons rfl <| .cons rfl <|
      .cons ⟨by decide, rfl⟩ <| .cons ⟨fun _ hfree => absurd hfree.1 (by decide), rfl⟩ .nil
  have hfirst : ∃ q, ((system pilotLedger).prog (pilotCall 2500)).Steps pilotLaunch q :=
    ⟨_, Prog.steps_of_follow rfl⟩
  have hsecond : ∃ q, ((system pilotLedger).prog (pilotCall 2600)).Steps pilotReplay q :=
    ⟨_, Prog.steps_of_follow rfl⟩
  obtain ⟨_, hfirst⟩ := hfirst
  obtain ⟨_, hsecond⟩ := hsecond
  have hrun := (Run.nil.spawn (pilotCall 2500) trivial).acts (i := 0) rfl hfirst hlaunch
  exact (hrun.spawn (pilotCall 2600) trivial).acts (i := 1) rfl hsecond hreplay

theorem pilot_launched_once : LaunchedAt pilotHistory 13 ⟨"auth:one"⟩
    ∧ ∀ n, LaunchedAt pilotHistory n ⟨"auth:one"⟩ → n = 13 := by
  have hlaunched : LaunchedAt pilotHistory 13 ⟨"auth:one"⟩ := by
    refine ⟨0, pilotCall 2500, pilotObserved.candidateProgram, "test",
      .ok ⟨.succeeded, some 0, "", "", 9⟩, rfl, rfl, rfl, ?_⟩
    decide
  exact ⟨hlaunched, fun n hn => launch_unique pilotHistory_run hn hlaunched⟩

end LedgerRuns

end Blob
