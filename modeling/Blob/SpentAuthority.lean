import Blob.DurableLedger
import Blob.PermitRuns

/-!
# Rejected requests cannot spend authority

One boundary call on a permit directory and a ledger directory with any
content, next to a host that does what it likes. The call goes through three
stages (`execute_stages`): validation, which touches nothing; the consumer,
which removes at most the permit of the request; and the helper with its
ledger, which removes nothing and creates only receipts (`helper_uses`).
-/

namespace Blob

namespace SpentAuthority

open Prog

/-! ## The call -/

/-- Everything a boundary call asks of the world, all its files being real. -/
abbrev FilesSig : Sig := FsSig.sum HelperSig

/-- Implement `consume_once` by the file ledger; pass on every other call. -/
def withLedger (ledger : FilePrivilegedExecutionLedger) :
    (o : FilesSig.Op) → Prog FilesSig Empty (FilesSig.Ans o)
  | .inr (.consumeOnce authorization preparedAtUnixMs) =>
      (ledger.consumeOnce authorization preparedAtUnixMs).attempt.inl
  | o => .call o .pure

/-- The file operations of `consume_once` come in between, and nothing else. -/
theorem withLedger_overlays (ledger : FilePrivilegedExecutionLedger) :
    Overlays (withLedger ledger)
      (fun o => ∃ authorization preparedAtUnixMs,
        o = .inr (.consumeOnce authorization preparedAtUnixMs))
      (fun o => ∃ file, o = .inl file) id (fun _ a => a) where
  uses := by
    rintro _ ⟨authorization, preparedAt, rfl⟩
    exact uses_inl (uses_of_forall (fun o => ⟨o, rfl⟩) _)
  cases o := by
    rcases o with o | o
    · exact Or.inr rfl
    · cases o with
      | consumeOnce authorization preparedAt => exact Or.inl ⟨_, _, rfl⟩
      | _ => exact Or.inr rfl

/-- `execute` with the production permit store and the production ledger. -/
def execute (self : RootOwnedNixOsActivationBoundary) (prepared : PreparedPrivilegedActivation)
    (nowUnixMs : Nat) (permits : FileTrustedActivationPermitStore)
    (ledger : FilePrivilegedExecutionLedger) :
    Prog FilesSig RootActivationBoundaryError PrivilegedActivationExecution :=
  handle (withLedger ledger) (self.execute prepared nowUnixMs permits.toStore)

/-- The files and the host, side by side. -/
def step {N : Type} (host : N → Event HelperSig → N → Prop) (w : Fs × N) :
    Event FilesSig → Fs × N → Prop
  | ⟨.inl o, ans⟩, w' => w.1.Step ⟨o, ans⟩ w'.1 ∧ w'.2 = w.2
  | ⟨.inr o, ans⟩, w' => w'.1 = w.1 ∧ host w.2 ⟨o, ans⟩ w'.2

variable {self : RootOwnedNixOsActivationBoundary} {p : PreparedPrivilegedActivation}
  {now : Nat} {permits : FileTrustedActivationPermitStore}
  {ledger : FilePrivilegedExecutionLedger}

/-! ## The stages -/

/-- The helper, with its ledger in place. -/
def helper (self : RootOwnedNixOsActivationBoundary) (prepared : PreparedPrivilegedActivation)
    (nowUnixMs : Nat) (ledger : FilePrivilegedExecutionLedger) :
    Prog FilesSig PrivilegedActivationError PrivilegedActivationExecution :=
  handle (withLedger ledger) (self.runtime.execute prepared nowUnixMs).inr

/-- A valid request first goes to the consumer and then to the helper. -/
theorem execute_of_valid (hvalid : self.runtime.validatePrepared p now = .ok ()) :
    execute self p now permits ledger
      = ((permits.consumeMatching p).inl.mapErr .trustedPermitRejected >>= fun _ =>
        (helper self p now ledger).mapErr .runtimeRejected) := by
  unfold execute RootOwnedNixOsActivationBoundary.execute
  rw [hvalid, ofExcept_ok, mapErr_pure, bind_pure, handle_bind, handle_mapErr,
    handle_inl _ (fun _ => rfl)]
  simp only [handle_mapErr]
  rfl

/-- Where an execution of the call stands. -/
inductive Stage (self : RootOwnedNixOsActivationBoundary) (p : PreparedPrivilegedActivation)
    (now : Nat) (permits : FileTrustedActivationPermitStore)
    (ledger : FilePrivilegedExecutionLedger) : List (Event FilesSig) →
      Status RootActivationBoundaryError PrivilegedActivationExecution → Prop
  /-- The request is not valid. -/
  | invalid (e : PrivilegedActivationError) :
      Stage self p now permits ledger [] (.failed (.preparedRejected e))
  /-- The consumer is at work, or has failed. -/
  | consuming {tr : List (Event FsSig)} {q : Prog FsSig TrustedActivationPermitError Unit}
      {st : Status RootActivationBoundaryError PrivilegedActivationExecution}
      (steps : (permits.consumeMatching p).Steps tr q) (unfinished : ∀ u, q ≠ .pure u)
      (failure : ∀ e, st = .failed e → ∃ e', e = .trustedPermitRejected e' ∧ q = .throw e') :
      Stage self p now permits ledger (tr.map .inl) st
  /-- The permit is spent, and the helper is at work or has ended. -/
  | helping {tr : List (Event FsSig)} {trh : List (Event FilesSig)}
      {q : Prog FilesSig PrivilegedActivationError PrivilegedActivationExecution}
      {st : Status RootActivationBoundaryError PrivilegedActivationExecution}
      (consumed : (permits.consumeMatching p).Steps tr (.pure ()))
      (steps : (helper self p now ledger).Steps trh q)
      (failure : ∀ e, st = .failed e → ∃ e', e = .runtimeRejected e') :
      Stage self p now permits ledger (tr.map .inl ++ trh) st

theorem execute_stages {tr : List (Event FilesSig)}
    {r : Prog FilesSig RootActivationBoundaryError PrivilegedActivationExecution}
    (h : (execute self p now permits ledger).Steps tr r) :
    Stage self p now permits ledger tr r.status := by
  cases hvalid : self.runtime.validatePrepared p now with
  | error e =>
      unfold execute RootOwnedNixOsActivationBoundary.execute at h
      rw [hvalid] at h
      cases h
      exact .invalid e
  | ok _ =>
      rw [execute_of_valid hvalid] at h
      rcases steps_bind h with ⟨q, hq, rfl, hne⟩ | ⟨_, tr₁, tr₂, rfl, hconsumed, hh⟩
      · obtain ⟨q', hq', rfl⟩ := steps_mapErr hq
        obtain ⟨tr', q, rfl, hs, rfl⟩ := steps_inl hq'
        refine .consuming hs ?_ ?_
        · rintro u rfl
          exact hne u rfl
        · intro e he
          cases q with
          | pure u => exact absurd rfl (hne u)
          | throw e' => exact ⟨e', (Status.failed.inj he).symm, rfl⟩
          | panic msg => cases he
          | call o k => cases he
      · obtain ⟨q', hq', heq⟩ := steps_mapErr hconsumed
        obtain rfl := mapErr_eq_pure heq.symm
        obtain ⟨tr', q, rfl, hs, heq'⟩ := steps_inl hq'
        obtain rfl := inl_eq_pure heq'.symm
        obtain ⟨q₂, hq₂, rfl⟩ := steps_mapErr hh
        exact .helping hs hq₂ fun e he => status_mapErr_failed he

/-! ## What the helper's stage leaves alone -/

/-- An operation that removes nothing and creates nothing but receipts. -/
def KeepsPermits (ledger : FilePrivilegedExecutionLedger) : FilesSig.Op → Prop
  | .inl (.removeFile _) => False
  | .inl (.createNew path _) => ∃ authorization, path = ledger.receiptPath authorization
  | _ => True

theorem ledger_uses (ledger : FilePrivilegedExecutionLedger)
    (authorization : SystemAuthorizationId) (preparedAtUnixMs : Nat) :
    (ledger.consumeOnce authorization preparedAtUnixMs).Uses
      fun o => KeepsPermits ledger (.inl o) := by
  refine (ledger.consumeOnce_uses authorization preparedAtUnixMs).imp fun o ho => ?_
  cases o with
  | createNew path mode => exact ⟨authorization, ho.1⟩
  | removeFile path => exact ho
  | _ => trivial

theorem helper_uses (self : RootOwnedNixOsActivationBoundary) (p : PreparedPrivilegedActivation)
    (now : Nat) (ledger : FilePrivilegedExecutionLedger) :
    (helper self p now ledger).Uses (KeepsPermits ledger) := by
  have hasks : (self.runtime.execute p now).inr.Uses
      fun o : FilesSig.Op => ∃ o' : HelperOp, o = Sum.inr o' :=
    uses_inr (uses_of_forall (fun o => ⟨o, rfl⟩) _)
  refine uses_handle ?_ hasks
  rintro _ ⟨o, rfl⟩
  cases o with
  | consumeOnce authorization preparedAtUnixMs =>
      exact uses_inl (uses_attempt (ledger_uses ledger authorization preparedAtUnixMs))
  | _ => exact ⟨trivial, fun _ => trivial⟩

/-! ## The files along the stages -/

variable {N : Type} {host : N → Event HelperSig → N → Prop}

/-- File operations alone leave the host as it is. -/
theorem exec_inl {w w' : Fs × N} {tr : List (Event FsSig)}
    (hx : Exec (step host) w (tr.map .inl) w') : Exec Fs.Step w.1 tr w'.1 ∧ w'.2 = w.2 := by
  induction tr generalizing w with
  | nil =>
      cases hx
      exact ⟨.nil, rfl⟩
  | cons e tr ih =>
      cases hx with
      | cons hstep hx =>
          obtain ⟨hfiles, hhost⟩ := ih hx
          exact ⟨.cons hstep.1 hfiles, hhost.trans hstep.2⟩

/-- What the helper's stage does to the names: none goes, and only receipts come. -/
theorem exec_keeps {w w' : Fs × N} {tr : List (Event FilesSig)}
    (hx : Exec (step host) w tr w') (hkeeps : ∀ e ∈ tr, KeepsPermits ledger e.op) :
    (∀ path i, w.1.names path = some i → w'.1.names path = some i)
      ∧ ∀ path, (∀ authorization, path ≠ ledger.receiptPath authorization) →
        w.1.names path = none → w'.1.names path = none := by
  induction hx with
  | nil => exact ⟨fun _ _ => id, fun _ _ => id⟩
  | @cons w w₁ w' e tr hstep _ ih =>
      obtain ⟨hsome, hnone⟩ := ih fun e he => hkeeps e (List.mem_cons_of_mem _ he)
      have hkeep := hkeeps e (List.mem_cons_self ..)
      obtain ⟨o | o, ans⟩ := e
      · have hremove : o.isRemove = false := by
          cases o <;> first | rfl | exact absurd hkeep id
        refine ⟨fun path i hname => hsome path i (Fs.names_of_step hstep.1 hremove hname),
          fun path hpath hfree => hnone path hpath (Fs.names_none_of_step hstep.1 ?_ hfree)⟩
        intro mode hop
        obtain rfl : o = .createNew path mode := hop
        obtain ⟨authorization, rfl⟩ := hkeep
        exact hpath authorization rfl
      · obtain ⟨hsame, -⟩ := hstep
        rw [hsame] at hsome hnone
        exact ⟨hsome, hnone⟩

theorem getLast?_utf8Bytes_append (s : String) {t : String} (ht : Text.utf8Bytes t ≠ []) :
    (Text.utf8Bytes (s ++ t)).getLast? = (Text.utf8Bytes t).getLast? := by
  rw [Text.utf8Bytes_append]
  exact List.getLast?_append_of_ne_nil _ ht

/-- A receipt is no permit, wherever the two directories are. -/
theorem permitPath_ne_receiptPath (permits : FileTrustedActivationPermitStore)
    (ledger : FilePrivilegedExecutionLedger) (a b : SystemAuthorizationId) :
    permits.permitPath a ≠ ledger.receiptPath b := by
  intro h
  have hpermit : ∀ s : String, (Text.utf8Bytes (s ++ ".permit")).getLast? = some 116 := fun s =>
    getLast?_utf8Bytes_append s (t := ".permit") (by decide)
  have hreceipt : ∀ s : String, (Text.utf8Bytes (s ++ ".used")).getLast? = some 100 := fun s =>
    getLast?_utf8Bytes_append s (t := ".used") (by decide)
  have hlast : (permits.permitPath a).bytes.getLast? = (ledger.receiptPath b).bytes.getLast? := by
    rw [h]
  unfold FileTrustedActivationPermitStore.permitPath permitFileName
    FilePrivilegedExecutionLedger.receiptPath at hlast
  rw [PathBuf.getLast?_join _ fun hnil => ?_, PathBuf.getLast?_join _ fun hnil => ?_, hpermit,
    hreceipt] at hlast
  · cases hlast
  · have := hreceipt ("authorization-" ++ FilePrivilegedExecutionLedger.encoded b)
    rw [hnil] at this
    cases this
  · have := hpermit ("authorization-" ++ Text.hexText a.value)
    rw [hnil] at this
    cases this

/-! ## The theorem -/

/-- The permit of the request is in place, with exactly its text. -/
def Permitted (permits : FileTrustedActivationPermitStore) (p : PreparedPrivilegedActivation)
    (fs : Fs) : Prop :=
  ∃ i, fs.names (permits.permitPath p.authorization) = some i
    ∧ fs.content i = (TrustedActivationPermit.fromPrepared p).canonicalText

/-- A past consumption has removed the request's permit. -/
theorem consumed_files {tr : List (Event FsSig)}
    (hs : (permits.consumeMatching p).Steps tr (.pure ())) {fs fs' : Fs}
    (hx : Exec Fs.Step fs tr fs') :
    Permitted permits p fs ∧ fs' = fs.remove (permits.permitPath p.authorization) := by
  rcases FileTrustedActivationPermitStore.consumeMatching_files hs hx with
    ⟨-, hne⟩ | ⟨i, hname, htext, hfs, -⟩
  · exact absurd rfl hne
  · exact ⟨⟨i, hname, htext⟩, hfs⟩

variable {fs fs' : Fs} {n n' : N} {tr : List (Event FilesSig)}
  {st : Status RootActivationBoundaryError PrivilegedActivationExecution}

theorem stage_of_behaves
    (hb : Behaves (step host) (execute self p now permits ledger) (fs, n) tr st (fs', n')) :
    Stage self p now permits ledger tr st ∧ Exec (step host) (fs, n) tr (fs', n') := by
  obtain ⟨q, hs, rfl, hx⟩ := hb
  exact ⟨execute_stages hs, hx⟩

theorem names_of_behaves
    (hb : Behaves (step host) (execute self p now permits ledger) (fs, n) tr st (fs', n'))
    {path : PathBuf} {i : Nat} (hname : fs.names path = some i) :
    fs'.names path = some i ∨ (path = permits.permitPath p.authorization
      ∧ fs.content i = (TrustedActivationPermit.fromPrepared p).canonicalText) := by
  obtain ⟨hstage, hx⟩ := stage_of_behaves hb
  cases hstage with
  | invalid e =>
      cases hx
      exact Or.inl hname
  | consuming hsteps _ _ =>
      rcases FileTrustedActivationPermitStore.consumeMatching_files hsteps (exec_inl hx).1 with
        ⟨hsame, -⟩ | ⟨j, hj, htext, hremoved, -⟩
      · obtain rfl : fs' = fs := hsame
        exact Or.inl hname
      · obtain rfl : fs' = fs.remove _ := hremoved
        by_cases hpath : path = permits.permitPath p.authorization
        · obtain rfl := Option.some.inj (hname.symm.trans (hpath ▸ hj))
          exact Or.inr ⟨hpath, htext⟩
        · exact Or.inl (by rw [Fs.remove_names_ne hpath, hname])
  | helping hconsumed hsteps _ =>
      obtain ⟨⟨fs₁, n₁⟩, hx₁, hx₂⟩ := hx.split
      obtain ⟨⟨j, hj, htext⟩, hremoved⟩ := consumed_files hconsumed (exec_inl hx₁).1
      obtain rfl : fs₁ = fs.remove _ := hremoved
      by_cases hpath : path = permits.permitPath p.authorization
      · obtain rfl := Option.some.inj (hname.symm.trans (hpath ▸ hj))
        exact Or.inr ⟨hpath, htext⟩
      · have hkept := (exec_keeps hx₂ ((helper_uses self p now ledger).of_steps hsteps)).1
        exact Or.inl (hkept path i (by rw [Fs.remove_names_ne hpath, hname]))

/-- The rejections before the permit was spent. -/
def RejectedUnspent (e : RootActivationBoundaryError) : Prop :=
  (∃ e', e = .preparedRejected e')
    ∨ ∃ e', e = .trustedPermitRejected e' ∧ ∀ text, e' ≠ .io text

theorem unchanged_of_rejected
    (hb : Behaves (step host) (execute self p now permits ledger) (fs, n) tr st (fs', n'))
    {e : RootActivationBoundaryError} (hst : st = .failed e) (he : RejectedUnspent e) :
    fs' = fs ∧ n' = n ∧ ∀ o ans, (⟨.inr o, ans⟩ : Event FilesSig) ∉ tr := by
  obtain ⟨hstage, hx⟩ := stage_of_behaves hb
  rw [hst] at hstage
  cases hstage with
  | invalid e' =>
      cases hx
      exact ⟨rfl, rfl, fun _ _ => List.not_mem_nil⟩
  | consuming hsteps _ hfailure =>
      obtain ⟨e', rfl, rfl⟩ := hfailure e rfl
      obtain ⟨hfiles, hhost⟩ := exec_inl hx
      refine ⟨?_, hhost, ?_⟩
      · rcases FileTrustedActivationPermitStore.consumeMatching_files hsteps hfiles with
          ⟨hsame, -⟩ | ⟨_, -, -, -, hio⟩
        · exact hsame
        · -- past the removal only an I/O error is left
          obtain ⟨text, rfl⟩ := hio e' rfl
          rcases he with ⟨_, heq⟩ | ⟨_, heq, hnotio⟩ <;> cases heq
          exact absurd rfl (hnotio text)
      · intro o ans hmem
        obtain ⟨e, -, heq⟩ := List.mem_map.mp hmem
        cases congrArg Event.op heq
  | helping _ _ hfailure =>
      obtain ⟨e', rfl⟩ := hfailure e rfl
      rcases he with ⟨_, heq⟩ | ⟨_, heq, -⟩ <;> cases heq

/-- The ledger has a receipt it did not have, or a command was handed over. -/
def Effect (ledger : FilePrivilegedExecutionLedger) (fs fs' : Fs)
    (tr : List (Event FilesSig)) : Prop :=
  (∃ authorization, fs.names (ledger.receiptPath authorization) = none
      ∧ fs'.names (ledger.receiptPath authorization) ≠ none)
    ∨ ∃ program argument answer, (⟨.inr (.run program argument), answer⟩ : Event FilesSig) ∈ tr

theorem spent_of_effect
    (hb : Behaves (step host) (execute self p now permits ledger) (fs, n) tr st (fs', n'))
    (heffect : Effect ledger fs fs' tr) :
    Permitted permits p fs ∧ fs'.names (permits.permitPath p.authorization) = none := by
  obtain ⟨hstage, hx⟩ := stage_of_behaves hb
  cases hstage with
  | invalid e =>
      cases hx
      rcases heffect with ⟨_, hfree, htaken⟩ | ⟨_, _, _, hmem⟩
      · exact absurd hfree htaken
      · cases hmem
  | consuming hsteps _ _ =>
      rcases heffect with ⟨authorization, hfree, htaken⟩ | ⟨_, _, _, hmem⟩
      · -- a consumer creates nothing
        refine absurd ?_ htaken
        rcases FileTrustedActivationPermitStore.consumeMatching_files hsteps (exec_inl hx).1 with
          ⟨hsame, -⟩ | ⟨_, -, -, hremoved, -⟩
        · obtain rfl : fs' = fs := hsame
          exact hfree
        · obtain rfl : fs' = fs.remove _ := hremoved
          rw [Fs.remove_names_ne (permitPath_ne_receiptPath permits ledger _ _).symm, hfree]
      · obtain ⟨e, -, heq⟩ := List.mem_map.mp hmem
        cases congrArg Event.op heq
  | helping hconsumed hsteps _ =>
      obtain ⟨⟨fs₁, n₁⟩, hx₁, hx₂⟩ := hx.split
      obtain ⟨hpermitted, hremoved⟩ := consumed_files hconsumed (exec_inl hx₁).1
      obtain rfl : fs₁ = fs.remove _ := hremoved
      have hnone := (exec_keeps hx₂ ((helper_uses self p now ledger).of_steps hsteps)).2
      exact ⟨hpermitted, hnone _ (permitPath_ne_receiptPath permits ledger _)
        (Fs.remove_names_self ..)⟩

/-- Rejected requests cannot spend authority: whatever the request, the time, the two
directories and the host, and wherever an execution of the call stands, no name is
gone but that of a permit with exactly the request's text; a call that was rejected
by validation or, without an I/O error, by the permit store has changed nothing and
asked nothing of the host; and before the ledger has a new receipt or a command is
handed over, the request's own permit was there and is removed. -/
theorem rejected_cannot_spend
    (hb : Behaves (step host) (execute self p now permits ledger) (fs, n) tr st (fs', n')) :
    (∀ path i, fs.names path = some i → fs'.names path = some i
        ∨ (path = permits.permitPath p.authorization
          ∧ fs.content i = (TrustedActivationPermit.fromPrepared p).canonicalText))
      ∧ (∀ e, st = .failed e → RejectedUnspent e →
        fs' = fs ∧ n' = n ∧ ∀ o ans, (⟨.inr o, ans⟩ : Event FilesSig) ∉ tr)
      ∧ (Effect ledger fs fs' tr → Permitted permits p fs
        ∧ fs'.names (permits.permitPath p.authorization) = none) :=
  ⟨fun _ _ => names_of_behaves hb, fun _ => unchanged_of_rejected hb, spent_of_effect hb⟩

/-! The pilot's permit, and a request forged to use it. -/

open PermitRuns (pilotRoot pilotPermits pilotPrepared withPermit)

def forgedPrepared : PreparedPrivilegedActivation :=
  { pilotPrepared with plan := { pilotPrepared.plan with candidate := ⟨"candidate:forged"⟩ } }

def pilotBoundary : RootOwnedNixOsActivationBoundary :=
  ⟨PrivilegedNixOsActivationHelper.pilotHelper⟩

def pilotLedger : FilePrivilegedExecutionLedger := ⟨.ofString "/var/lib/theblob/ledger"⟩

/-- The consumer looks at the permit and reads it. -/
def forgedTrace : List (Event FilesSig) :=
  [ ⟨.inl (.symlinkMetadata pilotRoot), .ok PermitRuns.rootMetadata⟩
  , ⟨.inl (.symlinkMetadata PermitRuns.pilotPath), .ok PermitRuns.permitMetadata⟩
  , ⟨.inl (.openFile PermitRuns.pilotPath), .ok (.file 0)⟩
  , ⟨.inl (.readToString (.file 0)),
      .ok (TrustedActivationPermit.fromPrepared pilotPrepared).canonicalText⟩ ]

theorem forged_behaves : Behaves (step fun (_ : Unit) _ _ => True)
    (execute pilotBoundary forgedPrepared 2500 pilotPermits pilotLedger)
    (withPermit (.emptyDirectory pilotRoot), ()) forgedTrace
    (.failed (.trustedPermitRejected .permitMismatch))
    (withPermit (.emptyDirectory pilotRoot), ()) := by
  have hempty : PermitRuns.Empty (.emptyDirectory pilotRoot) := ⟨fun _ => rfl, rfl⟩
  have hname : (withPermit (.emptyDirectory pilotRoot)).names PermitRuns.pilotPath = some 0 := by
    rw [PermitRuns.withPermit_names hempty, if_pos rfl]
    rfl
  have hother : (TrustedActivationPermit.fromPrepared pilotPrepared).canonicalText
      ≠ (TrustedActivationPermit.fromPrepared forgedPrepared).canonicalText := by
    intro h
    have hcandidate := congrArg TrustedActivationPermit.candidate
      (TrustedActivationPermit.eq_of_canonicalText_eq h)
    exact absurd hcandidate (by decide)
  have hs : (pilotPermits.consumeMatching forgedPrepared).Steps _ (.throw .permitMismatch) :=
    FileTrustedActivationPermitStore.consumeMatching_of_mismatch forgedPrepared
      PermitRuns.rootMetadata_safe PermitRuns.permitMetadata_safe (.file 0) hother
  refine ⟨.throw (.trustedPermitRejected .permitMismatch), ?_, rfl,
    .cons ⟨⟨PermitRuns.withPermit_stat_root hempty, rfl⟩, rfl⟩ <|
    .cons ⟨⟨PermitRuns.withPermit_stat, rfl⟩, rfl⟩ <| .cons ⟨⟨hname, rfl⟩, rfl⟩ <|
    .cons ⟨⟨PermitRuns.withPermit_content.symm, rfl⟩, rfl⟩ .nil⟩
  rw [execute_of_valid rfl]
  exact (hs.inl.mapErr _).bind_throw

theorem forged_spends_nothing : Behaves (step fun (_ : Unit) _ _ => True)
      (execute pilotBoundary forgedPrepared 2500 pilotPermits pilotLedger)
      (withPermit (.emptyDirectory pilotRoot), ()) forgedTrace
      (.failed (.trustedPermitRejected .permitMismatch))
      (withPermit (.emptyDirectory pilotRoot), ())
    ∧ ∀ o ans, (⟨.inr o, ans⟩ : Event FilesSig) ∉ forgedTrace :=
  ⟨forged_behaves, ((rejected_cannot_spend forged_behaves).2.1 _ rfl
    (Or.inr ⟨.permitMismatch, rfl, nofun⟩)).2.2⟩

end SpentAuthority

end Blob
