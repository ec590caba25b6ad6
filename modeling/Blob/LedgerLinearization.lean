import Blob.DurableLedger
import Blob.Linearization
import Blob.MemoryStores

/-!
# The durable ledger is atomic

`consume_once` of the file ledger is seven file operations, among which those
of other calls fall, and any of which may fail. Its callers may think of the
set of consumed ids all the same: each call decides its answer in one
operation, the creation of its receipt, and the answers are those of the
in-memory ledger, asked in the order of the creations
(`consume_once_linearizable`). A call that fails later, while it records or
syncs, has consumed its authorization although it answers that the ledger
failed; any other failure left no trace.
-/

namespace Blob

namespace DurableLedger

open Pool FilePrivilegedExecutionLedger

abbrev Answer : Type := Except PrivilegedExecutionLedgerError Unit

/-- The answer a call decides on, where it tries to create its receipt. -/
def decides (c : Call) : Event FsSig → Option Answer
  | ⟨.createNew _ _, .ok _⟩ => some (.ok ())
  | ⟨.createNew _ _, .error e⟩ =>
      if e.kind = .alreadyExists then some (.error (.alreadyConsumed c.authorization)) else none
  | _ => none

/-- The set holds the authorizations whose receipts are there. -/
def Stands (ledger : FilePrivilegedExecutionLedger) (fs : Fs)
    (memory : InMemoryPrivilegedExecutionLedger) : Prop :=
  memory.poisoned = false
    ∧ ∀ authorization, authorization ∈ memory.consumed
      ↔ ¬ fs.Free (ledger.receiptPath authorization)

/-! ## One call -/

/-- What a call has decided on, and how it stands: nothing yet; to consume, after which
only the ledger may fail; it was refused. -/
inductive Decided (authorization : SystemAuthorizationId) :
    List Answer → Prog.Status PrivilegedExecutionLedgerError Unit → Prop
  | not {st} : st ≠ .returned () → (∀ named, st ≠ .failed (.alreadyConsumed named)) →
      Decided authorization [] st
  | consumed {st} : (∀ e, st = .failed e → ∃ message, e = .io message) →
      Decided authorization [.ok ()] st
  | refused : Decided authorization [.error (.alreadyConsumed authorization)]
      (.failed (.alreadyConsumed authorization))

section

variable {authorization : SystemAuthorizationId} {answers : List Answer}
  {st : Prog.Status PrivilegedExecutionLedgerError Unit}

theorem Decided.length_le (h : Decided authorization answers st) : answers.length ≤ 1 := by
  cases h <;> simp

theorem Decided.mem_of_returned (h : Decided authorization answers st) (hst : st = .returned ()) :
    .ok () ∈ answers := by
  cases h with
  | not hnot _ => exact absurd hst hnot
  | consumed _ => exact List.mem_singleton_self _
  | refused => cases hst

theorem Decided.mem_of_refused (h : Decided authorization answers st)
    {named : SystemAuthorizationId} (hst : st = .failed (.alreadyConsumed named)) :
    .error (.alreadyConsumed named) ∈ answers := by
  cases h with
  | not _ hnot => exact absurd hst (hnot named)
  | consumed hio =>
      obtain ⟨message, hmessage⟩ := hio _ hst
      cases hmessage
  | refused =>
      obtain rfl := PrivilegedExecutionLedgerError.alreadyConsumed.inj (Prog.Status.failed.inj hst)
      exact List.mem_singleton_self _

theorem Decided.of_failed (h : Decided authorization answers st)
    {e : PrivilegedExecutionLedgerError} (hst : st = .failed e) {answer : Answer}
    (hanswer : answer ∈ answers) :
    answer = .error e ∨ answer = .ok () ∧ ∃ message, e = .io message := by
  cases h with
  | not _ _ => cases hanswer
  | consumed hio => exact Or.inr ⟨List.mem_singleton.mp hanswer, hio e hst⟩
  | refused =>
      obtain rfl := Prog.Status.failed.inj hst
      exact Or.inl (List.mem_singleton.mp hanswer)

end

/-- An operation past the creation of the receipt. -/
def Records (o : FsOp) : Prop := ∀ path mode, o ≠ .createNew path mode

theorem decides_eq_none {c : Call} {e : Event FsSig} (he : Records e.op) :
    decides c e = none := by
  obtain ⟨op, ans⟩ := e
  cases op with
  | createNew path mode => exact absurd rfl (he path mode)
  | _ => rfl

theorem failures_io {p : Prog FsSig IoError Unit} :
    (p.mapErr fun error => PrivilegedExecutionLedgerError.io error.text).All fun _ st =>
      ∀ e, st = .failed e → ∃ message, e = .io message := by
  refine Prog.all_of_forall fun tr q hs e hfailed => ?_
  obtain ⟨q', -, rfl⟩ := Prog.steps_mapErr hs
  obtain ⟨error, -, rfl⟩ := Prog.status_mapErr_failed hfailed
  exact ⟨error.text, rfl⟩

theorem failures_io_bind {contents sync : Prog FsSig IoError Unit} :
    ((contents.mapErr fun error => PrivilegedExecutionLedgerError.io error.text) >>= fun _ =>
      sync.mapErr fun error => .io error.text).All fun _ st =>
        ∀ e, st = .failed e → ∃ message, e = .io message := by
  refine Prog.all_bind.mpr (failures_io.imp fun tr st hst => ?_)
  cases st with
  | returned u => exact failures_io
  | failed e => exact hst
  | running => exact nofun
  | panicked msg => exact nofun

theorem consumeOnce_decided (ledger : FilePrivilegedExecutionLedger) (c : Call) :
    (ledger.consumeOnce c.authorization c.preparedAtUnixMs).All fun tr st =>
      Decided c.authorization (tr.filterMap (decides c)) st := by
  refine Prog.all_bind.mpr (Prog.all_ask.mpr ⟨.not nofun nofun, ?_⟩)
  intro metadata
  rcases metadata with e | metadata
  · exact .not nofun nofun
  refine Prog.all_reject.mpr ⟨fun _ => .not nofun nofun, fun _ => ?_⟩
  refine Prog.all_reject_last.mpr ⟨fun _ => .not nofun nofun, fun _ => ?_⟩
  refine Prog.all_ask.mpr ⟨.not nofun nofun, ?_⟩
  intro created
  rcases created with error | file
  · obtain ⟨kind, text⟩ := error
    cases kind with
    | alreadyExists => exact .refused
    | _ => exact .not nofun nofun
  · -- the receipt is there, and the rest does not decide
    refine Prog.all_of_forall fun tr q hs => ?_
    have hfailures := failures_io_bind.of_steps hs
    have hnone : tr.filterMap (decides c) = [] := by
      refine List.filterMap_eq_nil_iff.mpr fun e he => decides_eq_none ?_
      refine Prog.Uses.of_steps (P := Records) ?_ hs e he
      refine Prog.uses_bind (Prog.uses_mapErr ?_) fun _ => Prog.uses_mapErr ?_
      · exact Prog.uses_bind (Prog.uses_call nofun) fun _ => Prog.uses_bind (Prog.uses_call nofun)
          fun _ => Prog.uses_call nofun
      · exact Prog.uses_bind (Prog.uses_call nofun) fun _ => Prog.uses_call nofun
    show Decided _ (.ok () :: tr.filterMap (decides c)) q.status
    rw [hnone]
    exact .consumed hfailures

/-! ## The object -/

theorem Stands.consumeOnce {ledger : FilePrivilegedExecutionLedger} {fs : Fs}
    {memory : InMemoryPrivilegedExecutionLedger} (h : Stands ledger fs memory)
    (authorization : SystemAuthorizationId) (preparedAtUnixMs : Nat) :
    memory.consumeOnce authorization preparedAtUnixMs
      = if fs.Free (ledger.receiptPath authorization)
        then (.ok (), { memory with consumed := insert authorization memory.consumed })
        else (.error (.alreadyConsumed authorization), memory) := by
  by_cases hfree : fs.Free (ledger.receiptPath authorization)
  · have hnew : authorization ∉ memory.consumed := fun hold => (h.2 authorization).mp hold hfree
    rw [if_pos hfree, InMemoryPrivilegedExecutionLedger.consumeOnce_new h.1 hnew]
  · rw [if_neg hfree,
      InMemoryPrivilegedExecutionLedger.consumeOnce_again h.1 ((h.2 authorization).mpr hfree)]

/-- What does not create a receipt leaves the set as it is. -/
theorem Stands.of_free_iff {ledger : FilePrivilegedExecutionLedger} {fs fs' : Fs}
    {memory : InMemoryPrivilegedExecutionLedger} (h : Stands ledger fs memory)
    (hsame : ∀ authorization, fs'.Free (ledger.receiptPath authorization)
      ↔ fs.Free (ledger.receiptPath authorization)) : Stands ledger fs' memory :=
  ⟨h.1, fun authorization => (h.2 authorization).trans (not_congr (hsame authorization)).symm⟩

/-- Creating a receipt adds its authorization. -/
theorem Stands.created {ledger : FilePrivilegedExecutionLedger} {fs : Fs}
    {memory : InMemoryPrivilegedExecutionLedger} (h : Stands ledger fs memory)
    {authorization : SystemAuthorizationId} (metadata : Metadata) :
    Stands ledger (fs.create (ledger.receiptPath authorization) metadata)
      { memory with consumed := insert authorization memory.consumed } := by
  refine ⟨h.1, fun other => ?_⟩
  rw [Finset.mem_insert, h.2 other]
  by_cases hsame : other = authorization
  · subst hsame
    refine iff_of_true (Or.inl rfl) fun hfree => ?_
    have hnone := hfree.1
    rw [Fs.create_names_self] at hnone
    cases hnone
  · have hne : ledger.receiptPath other ≠ ledger.receiptPath authorization :=
      fun heq => hsame (receiptPath_injective ledger heq)
    rw [or_iff_right hsame, Fs.Free, Fs.Free, Fs.create_names_ne hne]
    rfl

/-- The set of consumed ids, and where a call on the files asks it. -/
abbrev consumedIds (ledger : FilePrivilegedExecutionLedger) : Atomic (system ledger) where
  State := InMemoryPrivilegedExecutionLedger
  Answer := Answer
  apply c memory := memory.consumeOnce c.authorization c.preparedAtUnixMs
  decides := decides
  stands := Stands ledger
  once := by
    intro c tr q hs
    have hdecided := (consumeOnce_decided ledger c).of_steps hs
    exact hdecided.length_le
  decided := by
    intro c tr e q fs fs' memory r hs hstep hstands hdecides
    have hperforms := performs_of_steps hs
    obtain ⟨op, ans⟩ := e
    cases op with
    | createNew path mode =>
        obtain ⟨rfl, rfl⟩ := hperforms
        rw [hstands.consumeOnce]
        rcases ans with error | file
        · obtain ⟨hkind, hanswer⟩ := Option.ite_none_right_eq_some.mp hdecides
          obtain ⟨htaken, rfl⟩ := hstep
          rw [if_neg (htaken hkind)]
          exact ⟨Option.some.inj hanswer, hstands⟩
        · obtain rfl := Option.some.inj hdecides
          obtain ⟨hfree, -, metadata, rfl⟩ := hstep
          rw [if_pos hfree]
          exact ⟨rfl, hstands.created metadata⟩
    | _ => cases hdecides
  undecided := by
    intro c tr e q fs fs' memory hs hstep hstands hdecides
    refine hstands.of_free_iff fun authorization => ?_
    rw [Fs.free_of_step hstep (performs_of_steps hs).keeps, and_iff_left]
    rintro ⟨mode, file, rfl⟩
    cases hdecides
  drift hdrift hstands := hstands.of_free_iff hdrift

/-! ## Every run -/

section Runs

variable (ledger : FilePrivilegedExecutionLedger)

/-- The files answer as the set does, one call after the other. -/
structure Linearizable (memory : InMemoryPrivilegedExecutionLedger) (fs : Fs)
    (h : (system ledger).History) : Prop where
  /-- The creations of receipts, in their order, are calls on the set. -/
  linearized : (consumedIds ledger).Linearized memory h fs
  /-- A call that returned `Ok` or was refused has its place among them, with its answer. -/
  answered {i : Nat} {c : Call} {result : Answer} : (calls h)[i]? = some c →
    ((system ledger).prog c).Steps (proj i h) (.ofExcept result) →
      (result = .ok () ∨ ∃ named, result = .error (.alreadyConsumed named)) →
        ⟨i, c, result⟩ ∈ (consumedIds ledger).decisions h
  /-- A call that failed otherwise has none, or consumed before its ledger failed. -/
  failed {i : Nat} {c : Call} {e : PrivilegedExecutionLedgerError} {answer : Answer} :
    (calls h)[i]? = some c → ((system ledger).prog c).Steps (proj i h) (.throw e) →
      ⟨i, c, answer⟩ ∈ (consumedIds ledger).decisions h →
        answer = .error e ∨ answer = .ok () ∧ ∃ message, e = .io message

variable {ledger} {fs₀ fs : Fs} {h : (system ledger).History}
  {memory : InMemoryPrivilegedExecutionLedger}

/-- **Interleaved calls on the file ledger are sequential calls on the set.** -/
theorem consume_once_linearizable (hr : Run (system ledger) fs₀ h fs)
    (hstart : Stands ledger fs₀ memory) : Linearizable ledger memory fs h where
  linearized := Atomic.linearized hr hstart
  answered := by
    intro i c result hc hs hresult
    rw [Atomic.mem_decisions_iff hr hc]
    have hdecided := (consumeOnce_decided ledger c).of_steps hs
    rcases hresult with rfl | ⟨named, rfl⟩
    · exact hdecided.mem_of_returned rfl
    · exact hdecided.mem_of_refused rfl
  failed := by
    intro i c e answer hc hs hd
    rw [Atomic.mem_decisions_iff hr hc] at hd
    exact ((consumeOnce_decided ledger c).of_steps hs).of_failed rfl hd

end Runs

theorem stands_emptyDirectory : Stands pilotLedger (.emptyDirectory pilotLedger.root) {} := by
  refine ⟨rfl, fun authorization => iff_of_false (Finset.notMem_empty _) (not_not.mpr ⟨rfl, ?_⟩)⟩
  have hne : pilotLedger.receiptPath authorization ≠ pilotLedger.root := by
    intro heq
    have hlast := MemoryStores.getLast?_receiptPath pilotLedger authorization
    rw [heq] at hlast
    exact absurd hlast (by decide)
  simp only [Fs.emptyDirectory, if_neg hne]

/-- In the pilot run the first call consumes, the second is refused, though it was started
before the first did anything, and the third consumes its own. -/
theorem pilot_linearizable :
    Linearizable pilotLedger {}
      (pilotUsed (pilotUsed (.emptyDirectory pilotLedger.root) ⟨pilotOne, 1000⟩) ⟨pilotOther, 1002⟩)
      pilotHistory
      ∧ (consumedIds pilotLedger).decisions pilotHistory
        = [⟨0, ⟨pilotOne, 1000⟩, .ok ()⟩,
          ⟨1, ⟨pilotOne, 1001⟩, .error (.alreadyConsumed pilotOne)⟩,
          ⟨2, ⟨pilotOther, 1002⟩, .ok ()⟩] :=
  ⟨consume_once_linearizable pilotHistory_run stands_emptyDirectory, rfl⟩

end DurableLedger

end Blob
