import Blob.Pool
import Blob.PrivilegedHelper

/-!
# The durable ledger

Any number of `consume_once` calls on one ledger directory, from any number
of processes: their file operations interleave in any order, each of them may
fail, and a call may stop after any of them. The environment may do what it
likes with the files, only receipts neither go nor come but by a call.

A call tries once to create the receipt of its authorization, and answers
what it saw there (`consumeOnce_all`). Creating a receipt closes a latch on
its path, and a path belongs to one authorization (`receiptPath_injective`):
so an authorization is consumed once, and only its own receipt can refuse it
(`consume_once_exclusive`).
-/

namespace Blob

namespace FilePrivilegedExecutionLedger

/-! ## One call -/

/-- Different authorizations have different receipts, whatever their text. -/
theorem receiptPath_injective (self : FilePrivilegedExecutionLedger) :
    Function.Injective self.receiptPath := by
  intro a b h
  exact (SystemAuthorizationId.mk.injEq ..).mpr
    (PathBuf.join_hexText_injective (by decide) (by decide) h)

/-- The operations of a call. -/
def Performs (self : FilePrivilegedExecutionLedger) (authorization : SystemAuthorizationId) :
    FsOp → Prop
  | .symlinkMetadata path => path = self.root
  | .createNew path mode => path = self.receiptPath authorization ∧ mode = 0o600
  | .openFile path => path = self.root
  | .writeAll _ _ => True
  | .syncAll _ => True
  | .readToString _ => False
  | .removeFile _ => False

theorem consumeOnce_uses (self : FilePrivilegedExecutionLedger)
    (authorization : SystemAuthorizationId) (preparedAtUnixMs : Nat) :
    (self.consumeOnce authorization preparedAtUnixMs).Uses (self.Performs authorization) := by
  have hroot : self.validateRoot.Uses (self.Performs authorization) :=
    Prog.uses_bind (Prog.uses_mapErr (Prog.uses_call (by rfl))) fun _ =>
      Prog.uses_bind Prog.uses_reject fun _ => Prog.uses_reject
  have hsync : (File.syncDirectory self.root).Uses (self.Performs authorization) :=
    Prog.uses_bind (Prog.uses_call (by rfl)) fun _ => Prog.uses_call trivial
  refine Prog.uses_bind hroot fun _ => Prog.uses_bind ?_ fun file =>
    Prog.uses_bind ?_ fun _ => Prog.uses_mapErr hsync
  · exact Prog.uses_mapErr (Prog.uses_call ⟨rfl, rfl⟩)
  · exact Prog.uses_mapErr (Prog.uses_bind (Prog.uses_call trivial) fun _ =>
      Prog.uses_bind (Prog.uses_call trivial) fun _ => Prog.uses_call trivial)

theorem Performs.keeps {self : FilePrivilegedExecutionLedger}
    {authorization : SystemAuthorizationId} {o : FsOp} (h : self.Performs authorization o) :
    o.isRemove = false := by
  cases o with
  | removeFile path => exact absurd h id
  | _ => rfl

/-- A part of a call whose failures are all reported as input and output errors
does not fail with `AlreadyConsumed`. -/
theorem all_io {p : Prog FsSig IoError Unit} (refused : SystemAuthorizationId) :
    (p.mapErr fun error => PrivilegedExecutionLedgerError.io error.text).All fun _ st =>
      st ≠ .failed (.alreadyConsumed refused) := by
  refine Prog.all_mapErr.mpr (Prog.all_of_forall fun tr q _ => ?_)
  cases q <;> exact nofun

/-- Once the receipt is created, a call no longer fails with `AlreadyConsumed`. -/
theorem all_record {contents sync : Prog FsSig IoError Unit} (refused : SystemAuthorizationId) :
    ((contents.mapErr fun error => PrivilegedExecutionLedgerError.io error.text) >>= fun _ =>
      sync.mapErr fun error => .io error.text).All fun _ st =>
        st ≠ .failed (.alreadyConsumed refused) := by
  refine Prog.all_bind.mpr (Prog.All.imp (all_io refused) fun tr st hst => ?_)
  cases st with
  | returned u => exact all_io refused
  | failed e => exact hst
  | running => exact nofun
  | panicked msg => exact nofun

/-- The answer of a call is what it saw when it tried to create the receipt. -/
theorem consumeOnce_all (self : FilePrivilegedExecutionLedger)
    (authorization : SystemAuthorizationId) (preparedAtUnixMs : Nat) :
    (self.consumeOnce authorization preparedAtUnixMs).All fun tr st =>
      (st = .returned () → ∃ file,
        ⟨.createNew (self.receiptPath authorization) 0o600, .ok file⟩ ∈ tr)
      ∧ ∀ refused, st = .failed (.alreadyConsumed refused) → refused = authorization
        ∧ ∃ seen error, tr = seen ++
            [⟨.createNew (self.receiptPath authorization) 0o600, .error error⟩]
          ∧ error.kind = .alreadyExists := by
  refine Prog.all_bind.mpr (Prog.all_ask.mpr ⟨⟨nofun, nofun⟩, ?_⟩)
  intro metadata
  rcases metadata with e | metadata
  · exact ⟨nofun, nofun⟩
  refine Prog.all_reject.mpr ⟨fun _ => ⟨nofun, nofun⟩, fun _ => ?_⟩
  refine Prog.all_reject_last.mpr ⟨fun _ => ⟨nofun, nofun⟩, fun _ => ?_⟩
  refine Prog.all_ask.mpr ⟨⟨nofun, nofun⟩, ?_⟩
  intro created
  rcases created with error | file
  · obtain ⟨kind, text⟩ := error
    refine ⟨nofun, fun refused hfailed => ?_⟩
    cases kind with
    | alreadyExists =>
        obtain rfl : authorization = refused :=
          PrivilegedExecutionLedgerError.alreadyConsumed.inj (Prog.Status.failed.inj hfailed)
        exact ⟨rfl, [_], ⟨.alreadyExists, text⟩, rfl, rfl⟩
    | _ => cases hfailed
  · -- past the creation there is only input and output that may fail
    refine Prog.all_of_forall fun tr q hs => ⟨fun _ => ⟨file, by simp⟩, fun refused hfailed => ?_⟩
    exact absurd hfailed ((all_record refused).of_steps hs)

/-- Where the ledger has agreed, it has created the receipt. -/
theorem receipt_of_agreed {T : Sig} {self : FilePrivilegedExecutionLedger}
    {authorization : SystemAuthorizationId} {preparedAtUnixMs : Nat}
    {tr : List (Event (FsSig.sum T))}
    (hs : ((self.consumeOnce authorization preparedAtUnixMs).attempt.inl :
      Prog (FsSig.sum T) Empty _).Steps tr (.pure (.ok ()))) :
    ∃ file, ⟨.inl (.createNew (self.receiptPath authorization) 0o600), .ok file⟩ ∈ tr := by
  obtain ⟨files, q, rfl, hfiles, hq⟩ := Prog.steps_inl hs
  obtain ⟨q', hledger, hq'⟩ := Prog.steps_attempt hfiles
  obtain rfl := Prog.inl_eq_pure hq.symm
  obtain rfl := Prog.attempt_eq_ok hq'.symm
  obtain ⟨file, hcreate⟩ := ((self.consumeOnce_all _ _).of_steps hledger).1 rfl
  exact ⟨file, List.mem_map_of_mem hcreate⟩

/-! ## On files that never fail -/

/-- A ledger directory a call accepts. -/
def SafeRoot (metadata : Metadata) : Prop :=
  ¬ (metadata.isSymlink = true ∨ metadata.isDir = false) ∧ metadata.mode &&& 0o077 = 0

instance (metadata : Metadata) : Decidable (SafeRoot metadata) :=
  inferInstanceAs (Decidable (_ ∧ _))

/-- What a call does that creates its receipt and returns `Ok`. -/
def consumeEvents (self : FilePrivilegedExecutionLedger) (authorization : SystemAuthorizationId)
    (preparedAtUnixMs : Nat) (metadata : Metadata) (file directory : Handle) :
    List (Event FsSig) :=
  [ ⟨.symlinkMetadata self.root, .ok metadata⟩
  , ⟨.createNew (self.receiptPath authorization) 0o600, .ok file⟩
  , ⟨.writeAll file ("authorization=" ++ authorization.value ++ "\n"), .ok ()⟩
  , ⟨.writeAll file ("prepared-at-unix-ms=" ++ toString preparedAtUnixMs ++ "\n"), .ok ()⟩
  , ⟨.syncAll file, .ok ()⟩
  , ⟨.openFile self.root, .ok directory⟩
  , ⟨.syncAll directory, .ok ()⟩ ]

/-- What a call does that finds its receipt. -/
def refuseEvents (self : FilePrivilegedExecutionLedger) (authorization : SystemAuthorizationId)
    (metadata : Metadata) : List (Event FsSig) :=
  [ ⟨.symlinkMetadata self.root, .ok metadata⟩
  , ⟨.createNew (self.receiptPath authorization) 0o600, .error Fs.fileExists⟩ ]

section Served

variable {self : FilePrivilegedExecutionLedger} {metadata : Metadata}

theorem steps_validateRoot (hsafe : SafeRoot metadata) :
    self.validateRoot.Steps [⟨.symlinkMetadata self.root, .ok metadata⟩] (.pure ()) := by
  have hlook : (File.symlinkMetadata self.root).Steps
      [⟨.symlinkMetadata self.root, .ok metadata⟩] (.pure metadata) := .call (.refl _)
  exact (hlook.mapErr _).bind ((Prog.steps_reject hsafe.1 _).bind
    (Prog.steps_reject (not_not.mpr hsafe.2) _))

theorem steps_consumeEvents (hsafe : SafeRoot metadata) (authorization : SystemAuthorizationId)
    (preparedAtUnixMs : Nat) (file directory : Handle) :
    (self.consumeOnce authorization preparedAtUnixMs).Steps
      (self.consumeEvents authorization preparedAtUnixMs metadata file directory)
      (.pure ()) :=
  (steps_validateRoot hsafe).bind
    (.call (.call (.call (.call (.call (.call (.refl _)))))))

theorem steps_refuseEvents (hsafe : SafeRoot metadata) (authorization : SystemAuthorizationId)
    (preparedAtUnixMs : Nat) :
    (self.consumeOnce authorization preparedAtUnixMs).Steps
      (self.refuseEvents authorization metadata) (.throw (.alreadyConsumed authorization)) :=
  (steps_validateRoot hsafe).bind (.call (.refl _))

/-- A call returns `Ok` if its receipt is not there, and is refused if it is. -/
theorem run_consumeOnce (created : Nat → Metadata) {fs : Fs}
    (hroot : fs.stat self.root = some metadata) (hsafe : SafeRoot metadata)
    (authorization : SystemAuthorizationId) (preparedAtUnixMs : Nat) :
    ((self.consumeOnce authorization preparedAtUnixMs).run (Fs.serve created) fs).1
      = if fs.Free (self.receiptPath authorization) then .returned ()
        else .failed (.alreadyConsumed authorization) := by
  have hlook : fs.serve created (.symlinkMetadata self.root) = (.ok metadata, fs) := by
    simp only [Fs.serve, hroot]
  have hthere := Fs.not_free_of_stat hroot
  by_cases hfree : fs.Free (self.receiptPath authorization)
  · have hother : self.root ≠ self.receiptPath authorization := by
      intro heq
      rw [heq] at hthere
      exact hthere hfree
    have hcreate : fs.serve created (.createNew (self.receiptPath authorization) 0o600)
        = (.ok (.file fs.next),
          fs.create (self.receiptPath authorization) (created 0o600)) := by
      simp only [Fs.serve, if_pos hfree]
    have hafter : ∀ first second, ¬ (((fs.create (self.receiptPath authorization)
        (created 0o600)).append fs.next first).append fs.next second).Free self.root := by
      rintro first second ⟨hname, hdir⟩
      rw [Fs.append_names, Fs.append_names, Fs.create_names_ne hother] at hname
      exact hthere ⟨hname, hdir⟩
    obtain ⟨directory, hopen⟩ := Fs.serve_openFile created (hafter _ _)
    rw [if_pos hfree, Prog.run_of_steps
      (steps_consumeEvents hsafe authorization preparedAtUnixMs (.file fs.next) directory)
      (.cons hlook <| .cons hcreate <| .cons rfl <| .cons rfl <| .cons rfl <|
        .cons hopen <| .cons rfl .nil)]
    rfl
  · have hrefuse : fs.serve created (.createNew (self.receiptPath authorization) 0o600)
        = (.error Fs.fileExists, fs) := by
      simp only [Fs.serve, if_neg hfree]
    rw [if_neg hfree, Prog.run_of_steps (steps_refuseEvents hsafe authorization preparedAtUnixMs)
      (.cons hlook <| .cons hrefuse .nil)]
    rfl

end Served

end FilePrivilegedExecutionLedger

namespace DurableLedger

open Pool FilePrivilegedExecutionLedger

/-! ## Calls on one directory -/

/-- The arguments of a `consume_once` call. -/
structure Call where
  authorization : SystemAuthorizationId
  preparedAtUnixMs : Nat

/-- Calls on one ledger directory. The environment neither deletes receipts nor
makes any. -/
abbrev system (ledger : FilePrivilegedExecutionLedger) : System where
  S := FsSig
  Call := Call
  Err _ := PrivilegedExecutionLedgerError
  Res _ := Unit
  prog c := ledger.consumeOnce c.authorization c.preparedAtUnixMs
  World := Fs
  step := Fs.Step
  drift fs fs' := ∀ authorization,
    fs'.Free (ledger.receiptPath authorization) ↔ fs.Free (ledger.receiptPath authorization)
  admits _ _ := True

/-- A file is created here in this event. -/
def Creates (path : PathBuf) (e : Event FsSig) : Prop :=
  ∃ mode file, e = ⟨.createNew path mode, .ok file⟩

/-- What a call does in one step, it performs for its own authorization. -/
theorem performs_of_steps {ledger : FilePrivilegedExecutionLedger} {c : Call}
    {tr : List (Event FsSig)} {e : Event FsSig}
    {q : Prog FsSig PrivilegedExecutionLedgerError Unit}
    (hs : ((system ledger).prog c).Steps (tr ++ [e]) q) :
    ledger.Performs c.authorization e.op :=
  (consumeOnce_uses ledger c.authorization c.preparedAtUnixMs).of_steps hs e
    (List.mem_append_right _ (List.mem_singleton_self e))

/-- The place of a receipt is taken by its creation, and stays taken. -/
def receiptLatch (ledger : FilePrivilegedExecutionLedger)
    (authorization : SystemAuthorizationId) : Latch (system ledger) where
  closed fs := ¬ fs.Free (ledger.receiptPath authorization)
  closes := Creates (ledger.receiptPath authorization)
  keeps hs hstep htaken hfree :=
    htaken ((Fs.free_of_step hstep (performs_of_steps hs).keeps _).mp hfree).1
  shuts := by
    rintro fs fs' _ hstep ⟨mode, file, rfl⟩
    have hmade : fs.Step ⟨.createNew (ledger.receiptPath authorization) mode, .ok file⟩ fs' :=
      hstep
    exact ⟨not_not.mpr hmade.1, fun hfree =>
      ((Fs.free_of_step hmade rfl _).mp hfree).2 ⟨mode, file, rfl⟩⟩
  drift hdrift htaken hfree := htaken ((hdrift authorization).mp hfree)

theorem receiptLatch_tight (ledger : FilePrivilegedExecutionLedger)
    (authorization : SystemAuthorizationId) : (receiptLatch ledger authorization).Tight where
  only hs hstep htaken := by
    have hafter := Fs.free_of_step hstep (performs_of_steps hs).keeps
      (ledger.receiptPath authorization)
    by_contra hnot
    obtain ⟨hfree, hother⟩ := not_or.mp hnot
    exact htaken (hafter.mpr ⟨not_not.mp hfree, hother⟩)
  drift hdrift htaken hfree := htaken ((hdrift authorization).mpr hfree)

/-! ## Answers -/

section Answers

variable (ledger : FilePrivilegedExecutionLedger)

/-- Call `i`, for this authorization, has ended with this result. -/
def Answered (h : (system ledger).History) (i : Nat) (authorization : SystemAuthorizationId)
    (result : Except PrivilegedExecutionLedgerError Unit) : Prop :=
  ∃ c, (calls h)[i]? = some c ∧ c.authorization = authorization
    ∧ ((system ledger).prog c).Steps (proj i h) (.ofExcept result)

/-- Call `i`, for this authorization, has created its receipt. -/
def Consumed (h : (system ledger).History) (i : Nat) (authorization : SystemAuthorizationId) :
    Prop :=
  ∃ c file, (calls h)[i]? = some c ∧ c.authorization = authorization
    ∧ .act i ⟨.createNew (ledger.receiptPath authorization) 0o600, .ok file⟩ ∈ h

/-- Call `i`, for this authorization, found its receipt, and it was there from the
start or a call for the same authorization had created it by then. -/
def Refused (fs₀ : Fs) (h : (system ledger).History) (i : Nat)
    (authorization : SystemAuthorizationId) : Prop :=
  ∃ before error after,
    h = before ++
        .act i ⟨.createNew (ledger.receiptPath authorization) 0o600, .error error⟩ :: after
      ∧ error.kind = .alreadyExists
      ∧ (¬ fs₀.Free (ledger.receiptPath authorization)
        ∨ ∃ k, Consumed ledger before k authorization)

/-- Each authorization is consumed at most once, and only by its own calls. -/
structure Exclusive (fs₀ fs : Fs) (h : (system ledger).History) : Prop where
  /-- Two calls for an authorization that returned `Ok` are one call. -/
  one_ok {authorization : SystemAuthorizationId} {i j : Nat} :
    Answered ledger h i authorization (.ok ()) →
      Answered ledger h j authorization (.ok ()) → i = j
  /-- Once a call has created the receipt no other returns `Ok`, whatever became
  of the first. -/
  spent {authorization : SystemAuthorizationId} {i k : Nat} :
    Consumed ledger h k authorization → Answered ledger h i authorization (.ok ()) → i = k
  /-- Nor does any where the receipt was there from the start. -/
  spent_before {authorization : SystemAuthorizationId} {i : Nat} :
    ¬ fs₀.Free (ledger.receiptPath authorization) →
      ¬ Answered ledger h i authorization (.ok ())
  /-- A call is refused by the receipt of its own authorization. -/
  refused {authorization named : SystemAuthorizationId} {i : Nat} :
    Answered ledger h i authorization (.error (.alreadyConsumed named)) →
      named = authorization ∧ Refused ledger fs₀ h i authorization
  /-- No other call takes the place of a receipt. -/
  taken {authorization : SystemAuthorizationId} :
    ¬ fs.Free (ledger.receiptPath authorization)
      ↔ ¬ fs₀.Free (ledger.receiptPath authorization)
        ∨ ∃ k, Consumed ledger h k authorization

end Answers

variable {ledger : FilePrivilegedExecutionLedger} {fs₀ fs : Fs} {h : (system ledger).History}
  {authorization : SystemAuthorizationId}

/-- Who creates a receipt is called for its authorization. -/
theorem consumed_of_creates (hr : Run (system ledger) fs₀ h fs) {i : Nat} {e : Event FsSig}
    (hmem : .act i e ∈ h) (he : Creates (ledger.receiptPath authorization) e) :
    Consumed ledger h i authorization := by
  obtain ⟨mode, file, rfl⟩ := he
  obtain ⟨before, after, rfl⟩ := List.append_of_mem hmem
  obtain ⟨c, fs₁, fs₂, q, hc, -, hs, -⟩ := hr.split
  obtain ⟨hpath, rfl⟩ := performs_of_steps hs
  obtain rfl := receiptPath_injective ledger hpath
  exact ⟨c, file, calls_mono _ hc, rfl, hmem⟩

theorem closedIn_iff (hr : Run (system ledger) fs₀ h fs) :
    (receiptLatch ledger authorization).ClosedIn h ↔ ∃ k, Consumed ledger h k authorization := by
  constructor
  · rintro ⟨i, e, hmem, he⟩
    exact ⟨i, consumed_of_creates hr hmem he⟩
  · rintro ⟨k, c, file, -, -, hmem⟩
    exact ⟨k, _, hmem, 0o600, file, rfl⟩

/-- The place of a receipt is taken just where it was from the start or a call for
its authorization has created it. -/
theorem taken_iff (hr : Run (system ledger) fs₀ h fs) (authorization : SystemAuthorizationId) :
    ¬ fs.Free (ledger.receiptPath authorization)
      ↔ ¬ fs₀.Free (ledger.receiptPath authorization)
        ∨ ∃ k, Consumed ledger h k authorization := by
  rw [← closedIn_iff hr]
  exact (receiptLatch_tight ledger authorization).closed_iff hr

/-- A call that returned `Ok` has created its receipt. -/
theorem Answered.consumed {i : Nat} (hi : Answered ledger h i authorization (.ok ())) :
    Consumed ledger h i authorization := by
  obtain ⟨c, hc, rfl, hs⟩ := hi
  obtain ⟨file, hcreated⟩ :=
    ((consumeOnce_all ledger c.authorization c.preparedAtUnixMs).of_steps hs).1 rfl
  exact ⟨c, file, hc, rfl, mem_proj.mp hcreated⟩

/-- One call creates a receipt. -/
theorem Consumed.unique (hr : Run (system ledger) fs₀ h fs) {i k : Nat}
    (hi : Consumed ledger h i authorization) (hk : Consumed ledger h k authorization) : i = k := by
  obtain ⟨-, file, -, -, hmem⟩ := hi
  obtain ⟨-, file', -, -, hmem'⟩ := hk
  exact Latch.unique (L := receiptLatch ledger authorization) hr hmem hmem' ⟨_, file, rfl⟩
    ⟨_, file', rfl⟩

/-- It was not there at the start. -/
theorem Consumed.free (hr : Run (system ledger) fs₀ h fs) {i : Nat}
    (hi : Consumed ledger h i authorization) : fs₀.Free (ledger.receiptPath authorization) := by
  obtain ⟨-, file, -, -, hmem⟩ := hi
  obtain ⟨before, after, rfl⟩ := List.append_of_mem hmem
  exact not_not.mp (Latch.open_before (L := receiptLatch ledger authorization) hr
    ⟨_, file, rfl⟩).1

/-- A refused call was refused by the receipt of its own authorization. -/
theorem Answered.refused (hr : Run (system ledger) fs₀ h fs) {i : Nat}
    {named : SystemAuthorizationId}
    (hi : Answered ledger h i authorization (.error (.alreadyConsumed named))) :
    named = authorization ∧ Refused ledger fs₀ h i authorization := by
  obtain ⟨c, hc, rfl, hs⟩ := hi
  obtain ⟨rfl, seen, error, hseen, hkind⟩ :=
    ((consumeOnce_all ledger c.authorization c.preparedAtUnixMs).of_steps hs).2 named rfl
  obtain ⟨before, after, rfl, -, -⟩ := proj_eq_append hseen
  obtain ⟨c', fs₁, fs₂, q, -, hr₁, -, hstep⟩ := hr.split
  exact ⟨rfl, before, error, after, rfl, hkind, (taken_iff hr₁ _).mp (hstep.1 hkind)⟩

/-- **The durable ledger never answers `Ok` twice and never confuses ids**, along
every run of calls on its directory. -/
theorem consume_once_exclusive (hr : Run (system ledger) fs₀ h fs) :
    Exclusive ledger fs₀ fs h where
  one_ok hi hj := hi.consumed.unique hr hj.consumed
  spent hk hi := hi.consumed.unique hr hk
  spent_before htaken hi := htaken (hi.consumed.free hr)
  refused hi := hi.refused hr
  taken := taken_iff hr _

/-- Nothing but its own receipt stands in the way of an authorization: on files that
do not fail it is consumed, whatever has been consumed before. -/
theorem ok_of_not_consumed (hr : Run (system ledger) fs₀ h fs)
    (hstart : fs₀.Free (ledger.receiptPath authorization))
    (hnone : ∀ k, ¬ Consumed ledger h k authorization) (created : Nat → Metadata)
    {metadata : Metadata} (hroot : fs.stat ledger.root = some metadata)
    (hsafe : SafeRoot metadata) (preparedAtUnixMs : Nat) :
    (((system ledger).prog ⟨authorization, preparedAtUnixMs⟩).run (Fs.serve created) fs).1
      = .returned () := by
  have hfree : fs.Free (ledger.receiptPath authorization) := by
    by_contra htaken
    rcases (taken_iff hr authorization).mp htaken with hbefore | ⟨k, hk⟩
    · exact hbefore hstart
    · exact hnone k hk
  show ((ledger.consumeOnce authorization preparedAtUnixMs).run (Fs.serve created) fs).1 = _
  rw [run_consumeOnce created hroot hsafe, if_pos hfree]

/-! Two calls for one authorization, the second begun before the first had created
the receipt, and one for another whose text would be a path. -/

def pilotLedger : FilePrivilegedExecutionLedger :=
  ⟨.ofString "/var/lib/theblob/execution-ledger"⟩

def pilotOne : SystemAuthorizationId := ⟨"auth:one"⟩

def pilotOther : SystemAuthorizationId := ⟨"../auth:ïne/."⟩

def pilotRoot : Metadata := ⟨false, true, false, 0, 0o700⟩

def pilotHistory : (system pilotLedger).History :=
  [.spawn ⟨pilotOne, 1000⟩, .spawn ⟨pilotOne, 1001⟩]
    ++ ((pilotLedger.refuseEvents pilotOne pilotRoot).take 1).map (.act 1)
    ++ (pilotLedger.consumeEvents pilotOne 1000 pilotRoot (.file 0) .dir).map (.act 0)
    ++ ((pilotLedger.refuseEvents pilotOne pilotRoot).drop 1).map (.act 1)
    ++ .spawn ⟨pilotOther, 1002⟩
      :: (pilotLedger.consumeEvents pilotOther 1002 pilotRoot (.file 1) .dir).map (.act 2)

/-- The files after a call has created a receipt and written to it. -/
def pilotUsed (fs : Fs) (c : Call) : Fs :=
  ((fs.create (pilotLedger.receiptPath c.authorization) ⟨false, false, true, 0, 0o600⟩).append
    fs.next ("authorization=" ++ c.authorization.value ++ "\n")).append
      fs.next ("prepared-at-unix-ms=" ++ toString c.preparedAtUnixMs ++ "\n")

theorem pilot_consumes (fs : Fs) (c : Call) (hroot : fs.stat pilotLedger.root = some pilotRoot)
    (hdir : fs.dirs pilotLedger.root ≠ none)
    (hfree : fs.Free (pilotLedger.receiptPath c.authorization)) :
    Prog.Exec Fs.Step fs (pilotLedger.consumeEvents c.authorization c.preparedAtUnixMs pilotRoot
      (.file fs.next) .dir) (pilotUsed fs c) :=
  .cons ⟨hroot, rfl⟩ <| .cons ⟨hfree, rfl, _, rfl⟩ <| .cons rfl <| .cons rfl <| .cons rfl <|
    .cons ⟨hdir, rfl⟩ <| .cons rfl .nil

theorem pilotHistory_run : Run (system pilotLedger) (.emptyDirectory pilotLedger.root)
    pilotHistory (pilotUsed (pilotUsed (.emptyDirectory pilotLedger.root) ⟨pilotOne, 1000⟩)
      ⟨pilotOther, 1002⟩) := by
  have hsafe : SafeRoot pilotRoot := by decide
  have hrefused : (pilotLedger.consumeOnce pilotOne 1001).Steps
      (pilotLedger.refuseEvents pilotOne pilotRoot) (.throw (.alreadyConsumed pilotOne)) :=
    steps_refuseEvents hsafe pilotOne 1001
  obtain ⟨q, hlook, -⟩ := Prog.Steps.split
    ((List.take_append_drop 1 (pilotLedger.refuseEvents pilotOne pilotRoot)).symm ▸ hrefused)
  have hspawned : Run (system pilotLedger) (.emptyDirectory pilotLedger.root)
      [.spawn ⟨pilotOne, 1000⟩, .spawn ⟨pilotOne, 1001⟩] (.emptyDirectory pilotLedger.root) :=
    (Run.nil.spawn _ trivial).spawn _ trivial
  have hlooked := hspawned.acts (i := 1) rfl hlook (.cons ⟨by decide, rfl⟩ .nil)
  have hconsumed := hlooked.acts (i := 0) rfl
    (steps_consumeEvents hsafe pilotOne 1000 (.file 0) .dir)
    (pilot_consumes (.emptyDirectory pilotLedger.root) ⟨pilotOne, 1000⟩
      (by decide) (by decide) (by decide))
  have hfound := hconsumed.acts (i := 1) rfl hrefused
    (.cons ⟨fun _ hfree => absurd hfree.1 (by decide), rfl⟩ .nil)
  exact hfound.call trivial (steps_consumeEvents hsafe pilotOther 1002 (.file 1) .dir)
    (pilot_consumes (pilotUsed (.emptyDirectory pilotLedger.root) ⟨pilotOne, 1000⟩)
      ⟨pilotOther, 1002⟩ (by decide) (by decide) (by decide))

/-- One call of the two returned `Ok`, the other was refused, and the other
authorization was consumed. -/
theorem pilot_exclusive :
    (∀ i, Answered pilotLedger pilotHistory i pilotOne (.ok ()) ↔ i = 0)
      ∧ Answered pilotLedger pilotHistory 1 pilotOne (.error (.alreadyConsumed pilotOne))
      ∧ Refused pilotLedger (.emptyDirectory pilotLedger.root) pilotHistory 1 pilotOne
      ∧ Answered pilotLedger pilotHistory 2 pilotOther (.ok ()) := by
  have hexclusive := consume_once_exclusive pilotHistory_run
  have hsafe : SafeRoot pilotRoot := by decide
  have hok : Answered pilotLedger pilotHistory 0 pilotOne (.ok ()) :=
    ⟨⟨pilotOne, 1000⟩, rfl, rfl, steps_consumeEvents hsafe pilotOne 1000 (.file 0) .dir⟩
  have hrefused : Answered pilotLedger pilotHistory 1 pilotOne
      (.error (.alreadyConsumed pilotOne)) :=
    ⟨⟨pilotOne, 1001⟩, rfl, rfl, steps_refuseEvents hsafe pilotOne 1001⟩
  refine ⟨fun i => ⟨fun hi => hexclusive.one_ok hi hok, ?_⟩, hrefused,
    (hexclusive.refused hrefused).2, ⟨⟨pilotOther, 1002⟩, rfl, rfl,
      steps_consumeEvents hsafe pilotOther 1002 (.file 1) .dir⟩⟩
  rintro rfl
  exact hok

end DurableLedger

end Blob
