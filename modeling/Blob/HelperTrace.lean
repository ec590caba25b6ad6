import Blob.PrivilegedHelper

/-!
# What a helper does to its host

The effects of an execution - the ledger entry it asks for and the
commands it hands to the runner - in the order they happen (`effects`).
Observations are not effects; everything else the helper does is one.

`observe_all`, `settle_all` and `execute_all` give the effects of the
three parts of `execute`, for every host, runner and ledger: each of
their calls may fail or answer anything, and an execution may be cut off
anywhere. How `settle` can end, answer by answer, is `Settled`; a proof
about `execute` as a whole starts from `execute_rule`.
-/

namespace Blob

namespace PrivilegedNixOsActivationHelper

open Text

inductive Effect where
  | consumption (authorization : SystemAuthorizationId) (preparedAtUnixMs : Nat)
      (granted : Bool)
  | command (program : PathBuf) (argument : String)
deriving Repr, DecidableEq

def effect? : Event HelperSig → Option Effect
  | ⟨.consumeOnce authorization preparedAtUnixMs, .ok _⟩ =>
      some (.consumption authorization preparedAtUnixMs true)
  | ⟨.consumeOnce authorization preparedAtUnixMs, .error _⟩ =>
      some (.consumption authorization preparedAtUnixMs false)
  | ⟨.run program argument, _⟩ => some (.command program argument)
  | _ => none

def effects (tr : List (Event HelperSig)) : List Effect := tr.filterMap effect?

/-- The commands handed to the runner, in order. -/
def commands (tr : List (Event HelperSig)) : List (PathBuf × String) :=
  (effects tr).filterMap fun
    | .command program argument => some (program, argument)
    | .consumption _ _ _ => none

@[simp] theorem effects_nil : effects [] = [] := rfl

@[simp] theorem effects_append (tr tr' : List (Event HelperSig)) :
    effects (tr ++ tr') = effects tr ++ effects tr' := List.filterMap_append

@[simp] theorem effects_consumed (a : SystemAuthorizationId) (t : Nat) (u : Unit)
    (tr : List (Event HelperSig)) :
    effects (⟨.consumeOnce a t, .ok u⟩ :: tr) = .consumption a t true :: effects tr := rfl

@[simp] theorem effects_refused (a : SystemAuthorizationId) (t : Nat)
    (e : PrivilegedExecutionLedgerError) (tr : List (Event HelperSig)) :
    effects (⟨.consumeOnce a t, .error e⟩ :: tr) = .consumption a t false :: effects tr :=
  rfl

@[simp] theorem effects_run (program : PathBuf) (argument : String)
    (ans : Except String PrivilegedCommandOutcome) (tr : List (Event HelperSig)) :
    effects (⟨.run program argument, ans⟩ :: tr) = .command program argument :: effects tr :=
  rfl

@[simp] theorem effects_canonicalizePath (path : PathBuf) (ans : Except String PathBuf)
    (tr : List (Event HelperSig)) :
    effects (⟨.canonicalizePath path, ans⟩ :: tr) = effects tr := rfl

@[simp] theorem effects_currentSystemClosure (ans : Except String PathBuf)
    (tr : List (Event HelperSig)) :
    effects (⟨.currentSystemClosure, ans⟩ :: tr) = effects tr := rfl

@[simp] theorem effects_bootDefaultClosure (ans : Except String PathBuf)
    (tr : List (Event HelperSig)) :
    effects (⟨.bootDefaultClosure, ans⟩ :: tr) = effects tr := rfl

@[simp] theorem effects_executableExists (path : PathBuf) (ans : Except String Bool)
    (tr : List (Event HelperSig)) :
    effects (⟨.executableExists path, ans⟩ :: tr) = effects tr := rfl

/-! ## Before the ledger -/

/-- The observations `obs` rests on: the canonical candidate, the live
closure and the boot default as the host answered them, and the two
executables that were found. -/
structure Ready (p : PreparedPrivilegedActivation) (obs : Observed)
    (canonical bootDefault : PathBuf) : Prop where
  candidate : obs.candidate = .ofString p.plan.systemClosure
  candidateProgram : obs.candidateProgram = .ofString p.plan.program
  rollbackProgram : obs.rollbackProgram = obs.before.join "bin/switch-to-configuration"
  canonical_eq : (canonical == obs.candidate) = true
  before_valid : validStoreClosure obs.before = true
  bootDefault_valid : validStoreClosure bootDefault = true
  before_eq : (obs.before == bootDefault) = true

/-- The calls of a successful `observe`, with their answers. -/
def observations (obs : Observed) (canonical bootDefault : PathBuf) :
    List (Event HelperSig) :=
  [ ⟨.canonicalizePath obs.candidate, .ok canonical⟩
  , ⟨.executableExists obs.candidateProgram, .ok true⟩
  , ⟨.currentSystemClosure, .ok obs.before⟩
  , ⟨.bootDefaultClosure, .ok bootDefault⟩
  , ⟨.executableExists obs.rollbackProgram, .ok true⟩ ]

@[simp] theorem effects_observations (obs : Observed) (canonical bootDefault : PathBuf) :
    effects (observations obs canonical bootDefault) = [] := rfl

/-- `observe` has no effect, and what it returns it has observed. -/
theorem observe_all (p : PreparedPrivilegedActivation) :
    (observe p).All fun tr st => effects tr = [] ∧ (∀ msg, st ≠ .panicked msg)
      ∧ ∀ obs, st = .returned obs → ∃ canonical bootDefault,
        Ready p obs canonical bootDefault ∧ tr = observations obs canonical bootDefault := by
  refine Prog.all_ask.mpr ⟨by simp, ?_⟩
  intro canonical
  rcases canonical with e | canonical
  · simp
  refine Prog.all_reject.mpr ⟨by simp, ?_⟩
  intro hcanonical
  refine Prog.all_ask.mpr ⟨by simp, ?_⟩
  intro candidateExists
  rcases candidateExists with e | candidateExists
  · simp
  refine Prog.all_reject.mpr ⟨by simp, ?_⟩
  intro hcandidate
  refine Prog.all_ask.mpr ⟨by simp, ?_⟩
  intro before
  rcases before with e | before
  · simp
  refine Prog.all_ask.mpr ⟨by simp, ?_⟩
  intro bootDefault
  rcases bootDefault with e | bootDefault
  · simp
  refine Prog.all_reject.mpr ⟨by simp, ?_⟩
  intro hvalid
  refine Prog.all_reject.mpr ⟨by simp, ?_⟩
  intro hequal
  refine Prog.all_ask.mpr ⟨by simp, ?_⟩
  intro rollbackExists
  rcases rollbackExists with e | rollbackExists
  · simp
  refine Prog.all_reject.mpr ⟨by simp, ?_⟩
  intro hrollback
  rw [Bool.not_eq_false] at hcanonical hcandidate hequal hrollback
  rw [not_or, Bool.not_eq_false, Bool.not_eq_false] at hvalid
  refine ⟨by simp, fun _ => nofun, ?_⟩
  intro obs hobs
  cases hobs
  refine ⟨canonical, bootDefault,
    ⟨rfl, rfl, rfl, hcanonical, hvalid.1, hvalid.2, hequal⟩, ?_⟩
  rw [hcandidate, hrollback]
  rfl

/-! ## Restoring the baseline -/

/-- The complete executions of `restoreBaseline`. -/
inductive Restored (baseline rollbackProgram : PathBuf) :
    List (Event HelperSig) → Prog.Status PrivilegedActivationError Unit → Prop
  | notRun (e : String) :
      Restored baseline rollbackProgram [⟨.run rollbackProgram "test", .error e⟩]
        (.failed (.spawn e))
  | refused {rollback : PrivilegedCommandOutcome} (failed : rollback.succeeded = false) :
      Restored baseline rollbackProgram [⟨.run rollbackProgram "test", .ok rollback⟩]
        (.failed .rollbackFailed)
  | unread (rollback : PrivilegedCommandOutcome) (e : String) :
      Restored baseline rollbackProgram
        [⟨.run rollbackProgram "test", .ok rollback⟩, ⟨.currentSystemClosure, .error e⟩]
        (.failed (.hostObservation e))
  | elsewhere (rollback : PrivilegedCommandOutcome) {live : PathBuf}
      (moved : (live == baseline) = false) :
      Restored baseline rollbackProgram
        [⟨.run rollbackProgram "test", .ok rollback⟩, ⟨.currentSystemClosure, .ok live⟩]
        (.failed .rollbackFailed)
  | restored (rollback : PrivilegedCommandOutcome) {live : PathBuf}
      (back : (live == baseline) = true) :
      Restored baseline rollbackProgram
        [⟨.run rollbackProgram "test", .ok rollback⟩, ⟨.currentSystemClosure, .ok live⟩]
        (.returned ())

theorem restoreBaseline_complete (baseline rollbackProgram : PathBuf) :
    (restoreBaseline baseline rollbackProgram).All fun tr st =>
      st ≠ .running → Restored baseline rollbackProgram tr st := by
  refine Prog.all_ask.mpr ⟨by simp, ?_⟩
  intro rollback
  rcases rollback with e | rollback
  · exact fun _ => .notRun e
  refine Prog.all_reject.mpr ⟨fun hfailed _ => .refused hfailed, fun _ => ?_⟩
  refine Prog.all_ask.mpr ⟨by simp, ?_⟩
  intro live
  rcases live with e | live
  · exact fun _ => .unread rollback e
  refine Prog.all_reject_last.mpr ⟨fun hmoved _ => .elsewhere rollback hmoved, fun hback _ => ?_⟩
  exact .restored rollback (Bool.of_not_eq_false hback)

/-! ## After the candidate command -/

/-- The live closure is what the action promises of a command that ended so. -/
def Kept (p : PreparedPrivilegedActivation) (obs : Observed) (command : PrivilegedCommandOutcome)
    (live : PathBuf) : Prop :=
  (p.plan.action = .previewActivation ∧ (live == obs.before) = true)
    ∨ (p.plan.action = .testActivation ∧ command.succeeded = true
      ∧ (live == obs.candidate) = true)

/-- The complete executions of `settle`. -/
inductive Settled (p : PreparedPrivilegedActivation) (obs : Observed)
    (command : PrivilegedCommandOutcome) : List (Event HelperSig) →
      Prog.Status PrivilegedActivationError PrivilegedActivationExecution → Prop
  | unread (e : String) :
      Settled p obs command [⟨.currentSystemClosure, .error e⟩] (.failed (.hostObservation e))
  | malformed {live : PathBuf} (invalid : validStoreClosure live = false) :
      Settled p obs command [⟨.currentSystemClosure, .ok live⟩] (.failed .invalidSystemClosure)
  | kept {live : PathBuf} (valid : validStoreClosure live = true)
      (promised : Kept p obs command live) :
      Settled p obs command [⟨.currentSystemClosure, .ok live⟩]
        (.returned (report p obs.before live command false))
  | unrestored {live : PathBuf} (valid : validStoreClosure live = true)
      {restore : List (Event HelperSig)} {e : PrivilegedActivationError}
      (failed : Restored obs.before obs.rollbackProgram restore (.failed e)) :
      Settled p obs command (⟨.currentSystemClosure, .ok live⟩ :: restore) (.failed e)
  /-- The promise was broken by a command that did not fail. -/
  | undone {live : PathBuf} (valid : validStoreClosure live = true)
      {restore : List (Event HelperSig)}
      (restored : Restored obs.before obs.rollbackProgram restore (.returned ()))
      {e : PrivilegedActivationError}
      (broken : e = .unexpectedLiveSystemChange ∨ e = .testActivationPostconditionFailed) :
      Settled p obs command (⟨.currentSystemClosure, .ok live⟩ :: restore) (.failed e)
  | unreported {live : PathBuf} (valid : validStoreClosure live = true)
      {restore : List (Event HelperSig)}
      (restored : Restored obs.before obs.rollbackProgram restore (.returned ())) (e : String) :
      Settled p obs command
        (⟨.currentSystemClosure, .ok live⟩ :: restore ++ [⟨.currentSystemClosure, .error e⟩])
        (.failed (.hostObservation e))
  | rolledBack {live : PathBuf} (valid : validStoreClosure live = true)
      (test : p.plan.action = .testActivation) (failed : command.succeeded = false)
      {restore : List (Event HelperSig)}
      (restored : Restored obs.before obs.rollbackProgram restore (.returned ()))
      (last : PathBuf) :
      Settled p obs command
        (⟨.currentSystemClosure, .ok live⟩ :: restore ++ [⟨.currentSystemClosure, .ok last⟩])
        (.returned (report p obs.before last command true))

/-- A branch that restores the baseline and goes on: it ends with the failure of
the restoration, or as what follows ends. -/
theorem restoreBaseline_then {obs : Observed} {k : Unit → Prog HelperSig PrivilegedActivationError
      PrivilegedActivationExecution} {Q : List (Event HelperSig) →
        Prog.Status PrivilegedActivationError PrivilegedActivationExecution → Prop}
    (hfailed : ∀ tr e, Restored obs.before obs.rollbackProgram tr (.failed e) → Q tr (.failed e))
    (hthen : ∀ tr, Restored obs.before obs.rollbackProgram tr (.returned ()) →
      (k ()).All fun tr' st => st ≠ .running → Q (tr ++ tr') st) :
    (restoreBaseline obs.before obs.rollbackProgram >>= k).All fun tr st =>
      st ≠ .running → Q tr st := by
  refine Prog.all_bind.mpr ((restoreBaseline_complete _ _).imp ?_)
  rintro tr (_ | u | e | msg) hrestored
  · exact fun hdone => absurd rfl hdone
  · exact hthen tr (hrestored (by simp))
  · exact fun _ => hfailed tr e (hrestored (by simp))
  · cases hrestored (by simp)

theorem settle_complete {p : PreparedPrivilegedActivation} (obs : Observed)
    (command : PrivilegedCommandOutcome)
    (hsupported : p.plan.action = .previewActivation ∨ p.plan.action = .testActivation) :
    (settle p obs command).All fun tr st => st ≠ .running → Settled p obs command tr st := by
  refine Prog.all_ask.mpr ⟨by simp, ?_⟩
  intro live
  rcases live with e | live
  · exact fun _ => .unread e
  refine Prog.all_reject.mpr ⟨fun hinvalid _ => .malformed hinvalid, fun hvalid => ?_⟩
  have hvalid := Bool.of_not_eq_false hvalid
  have hunrestored : ∀ tr e, Restored obs.before obs.rollbackProgram tr (.failed e) →
      Settled p obs command (⟨.currentSystemClosure, .ok live⟩ :: tr) (.failed e) :=
    fun _ _ hfailed => .unrestored hvalid hfailed
  rcases hsupported with haction | haction
  · simp only [haction]
    split
    · rename_i hbaseline
      exact fun _ => .kept hvalid (Or.inl ⟨haction, hbaseline⟩)
    · refine restoreBaseline_then hunrestored ?_
      intro tr hrestored _
      rw [List.append_nil]
      exact .undone hvalid hrestored (Or.inl rfl)
  · simp only [haction]
    split
    · rename_i hsucceeded
      split
      · rename_i hcandidate
        exact fun _ => .kept hvalid (Or.inr ⟨haction, hsucceeded, hcandidate⟩)
      · refine restoreBaseline_then hunrestored ?_
        intro tr hrestored _
        rw [List.append_nil]
        exact .undone hvalid hrestored (Or.inr rfl)
    · rename_i hfailed
      refine restoreBaseline_then hunrestored ?_
      intro tr hrestored
      refine Prog.all_ask.mpr ⟨by simp, ?_⟩
      intro last
      rcases last with e | last
      · exact fun _ => .unreported hvalid hrestored e
      · exact fun _ => .rolledBack hvalid haction (Bool.of_not_eq_true hfailed) hrestored last

theorem Restored.effects {baseline rollbackProgram : PathBuf} {tr : List (Event HelperSig)}
    {st : Prog.Status PrivilegedActivationError Unit}
    (h : Restored baseline rollbackProgram tr st) :
    effects tr = [.command rollbackProgram "test"] := by
  cases h <;> rfl

theorem Settled.effects {p : PreparedPrivilegedActivation} {obs : Observed}
    {command : PrivilegedCommandOutcome} {tr : List (Event HelperSig)}
    {st : Prog.Status PrivilegedActivationError PrivilegedActivationExecution}
    (h : Settled p obs command tr st) :
    effects tr = [] ∨ effects tr = [.command obs.rollbackProgram "test"] := by
  cases h with
  | unread e => exact Or.inl rfl
  | malformed _ => exact Or.inl rfl
  | kept _ _ => exact Or.inl rfl
  | unrestored _ hfailed => exact Or.inr hfailed.effects
  | undone _ hrestored _ => exact Or.inr hrestored.effects
  | unreported _ hrestored e => exact Or.inr (by simp [hrestored.effects])
  | rolledBack _ _ _ hrestored last => exact Or.inr (by simp [hrestored.effects])

instance (o : HelperSig.Op) : Nonempty (HelperSig.Ans o) := by
  cases o with
  | consumeOnce authorization preparedAtUnixMs => exact ⟨.ok ()⟩
  | _ => exact ⟨.error ""⟩

/-- After the candidate command the only command is one rollback, and the
action is one of the two the last match expects. -/
theorem settle_all {p : PreparedPrivilegedActivation} (obs : Observed)
    (command : PrivilegedCommandOutcome)
    (hsupported : p.plan.action = .previewActivation ∨ p.plan.action = .testActivation) :
    (settle p obs command).All fun tr st =>
      (effects tr = [] ∨ effects tr = [.command obs.rollbackProgram "test"])
        ∧ ∀ msg, st ≠ .panicked msg := by
  refine Prog.all_of_complete (settle_complete obs command hsupported) ?_ ?_
  · intro tr st hsettled
    exact ⟨hsettled.effects, by cases hsettled <;> simp⟩
  · intro tr tr' st hsettled
    have hbeginning : effects tr <+: effects (tr ++ tr') := ⟨effects tr', by simp⟩
    refine ⟨?_, by simp⟩
    rcases hsettled.effects with hnone | hrollback
    · rw [hnone] at hbeginning
      exact Or.inl (List.prefix_nil.mp hbeginning)
    · rw [hrollback] at hbeginning
      simpa [List.prefix_cons_iff] using hbeginning

/-! ## The whole execution -/

/-- How far an execution of `execute` has come. -/
inductive Phase (self : PrivilegedNixOsActivationHelper)
    (p : PreparedPrivilegedActivation) (now : Nat) : List (Event HelperSig) → Prop
  /-- Nothing but observations so far. -/
  | observing {tr : List (Event HelperSig)} (quiet : effects tr = []) : Phase self p now tr
  /-- The ledger has answered. -/
  | consumed {obs : Observed} {canonical bootDefault : PathBuf}
      (validated : self.validatePrepared p now = .ok ())
      (ready : Ready p obs canonical bootDefault)
      (answer : Except PrivilegedExecutionLedgerError Unit) :
      Phase self p now (observations obs canonical bootDefault
        ++ [⟨.consumeOnce p.authorization p.preparedAtUnixMs, answer⟩])
  /-- The ledger has agreed and the candidate command was handed over. -/
  | launched {obs : Observed} {canonical bootDefault : PathBuf} {argument : String}
      (validated : self.validatePrepared p now = .ok ())
      (ready : Ready p obs canonical bootDefault)
      (args : p.plan.args = [argument])
      (answer : Except String PrivilegedCommandOutcome) {after : List (Event HelperSig)}
      (settled : effects after = []
        ∨ effects after = [.command obs.rollbackProgram "test"]) :
      Phase self p now (observations obs canonical bootDefault
        ++ ⟨.consumeOnce p.authorization p.preparedAtUnixMs, .ok ()⟩
        :: ⟨.run obs.candidateProgram argument, answer⟩ :: after)

theorem supported_of_wellFormed {p : PreparedPrivilegedActivation} (h : WellFormed p) :
    (p.plan.action = .previewActivation ∧ p.plan.args = ["dry-activate"])
      ∨ (p.plan.action = .testActivation ∧ p.plan.args = ["test"]) := by
  obtain ⟨argument, haction, hargs⟩ := h.supported
  cases hact : p.plan.action with
  | previewActivation =>
      rw [hact] at haction
      obtain ⟨-, rfl⟩ := Prod.mk.inj (Except.ok.inj haction)
      exact Or.inl ⟨rfl, hargs⟩
  | testActivation =>
      rw [hact] at haction
      obtain ⟨-, rfl⟩ := Prod.mk.inj (Except.ok.inj haction)
      exact Or.inr ⟨rfl, hargs⟩
  | materialize => rw [hact] at haction; cases haction
  | buildIsolatedVm => rw [hact] at haction; cases haction

theorem supported_of_validated {self : PrivilegedNixOsActivationHelper}
    {p : PreparedPrivilegedActivation} {now : Nat} (h : self.validatePrepared p now = .ok ()) :
    p.plan.action = .previewActivation ∨ p.plan.action = .testActivation :=
  (supported_of_wellFormed (validatePrepared_ok.mp h).1).imp And.left And.left

/-- What holds of every execution of `execute`: it holds of those without an effect,
of those the ledger has answered, of those whose command the runner failed to run,
and of those that are settling what the command has done. -/
theorem execute_rule {self : PrivilegedNixOsActivationHelper}
    {p : PreparedPrivilegedActivation} {now : Nat} {Q : List (Event HelperSig) →
      Prog.Status PrivilegedActivationError PrivilegedActivationExecution → Prop}
    (hquiet : ∀ tr st, effects tr = [] → (st = .running ∨ ∃ e, st = .failed e) → Q tr st)
    (hconsumed : ∀ obs canonical bootDefault answer st,
      self.validatePrepared p now = .ok () → Ready p obs canonical bootDefault →
      (st = .running ∨ ∃ e, st = .failed e) →
      Q (observations obs canonical bootDefault
        ++ [⟨.consumeOnce p.authorization p.preparedAtUnixMs, answer⟩]) st)
    (hlaunched : ∀ obs canonical bootDefault argument,
      self.validatePrepared p now = .ok () → Ready p obs canonical bootDefault →
      p.plan.args = [argument] →
      (∀ e, Q (observations obs canonical bootDefault
        ++ ⟨.consumeOnce p.authorization p.preparedAtUnixMs, .ok ()⟩
        :: [⟨.run obs.candidateProgram argument, .error e⟩]) (.failed (.spawn e)))
      ∧ ∀ command, (settle p obs command).All fun (after : List (Event HelperSig)) =>
        Q (observations obs canonical bootDefault
          ++ ⟨.consumeOnce p.authorization p.preparedAtUnixMs, .ok ()⟩
          :: ⟨.run obs.candidateProgram argument, .ok command⟩ :: after)) :
    (self.execute p now).All Q := by
  unfold execute
  cases hvalid : self.validatePrepared p now with
  | error e => exact hquiet [] _ rfl (Or.inr ⟨e, rfl⟩)
  | ok _ =>
      obtain ⟨argument, hargs⟩ : ∃ argument, p.plan.args = [argument] := by
        rcases supported_of_wellFormed (validatePrepared_ok.mp hvalid).1 with
          ⟨-, hargs⟩ | ⟨-, hargs⟩ <;> exact ⟨_, hargs⟩
      rw [Prog.ofExcept_ok, Prog.bind_pure]
      refine Prog.all_bind.mpr ((observe_all p).imp ?_)
      rintro tr (_ | obs | e | msg) ⟨hnone, hpanic, hobserved⟩
      · exact hquiet tr _ hnone (Or.inl rfl)
      · obtain ⟨canonical, bootDefault, hready, rfl⟩ := hobserved obs rfl
        refine Prog.all_ask.mpr ⟨hquiet _ _ (by simp) (Or.inl rfl), ?_⟩
        intro granted
        rcases granted with e | _
        · exact hconsumed obs canonical bootDefault _ _ hvalid hready (Or.inr ⟨_, rfl⟩)
        · obtain ⟨hfailed, hsettle⟩ :=
            hlaunched obs canonical bootDefault argument hvalid hready hargs
          simp only [hargs, firstArgument, Prog.bind_pure]
          refine Prog.all_ask.mpr
            ⟨hconsumed obs canonical bootDefault _ _ hvalid hready (Or.inl rfl), ?_⟩
          intro outcome
          rcases outcome with e | command
          · exact hfailed e
          · exact hsettle command
      · exact hquiet tr _ hnone (Or.inr ⟨e, rfl⟩)
      · exact absurd rfl (hpanic msg)

/-- Every execution is in one of the phases, and none ends in a panic. -/
theorem execute_all (self : PrivilegedNixOsActivationHelper)
    (p : PreparedPrivilegedActivation) (now : Nat) :
    (self.execute p now).All fun tr st =>
      Phase self p now tr ∧ ∀ msg, st ≠ .panicked msg := by
  have hstopped : ∀ st : Prog.Status PrivilegedActivationError PrivilegedActivationExecution,
      (st = .running ∨ ∃ e, st = .failed e) → ∀ msg, st ≠ .panicked msg := by
    rintro st (rfl | ⟨e, rfl⟩) msg <;> simp
  refine execute_rule ?_ ?_ ?_
  · intro tr st hquiet hst
    exact ⟨.observing hquiet, hstopped st hst⟩
  · intro obs canonical bootDefault answer st hvalid hready hst
    exact ⟨.consumed hvalid hready answer, hstopped st hst⟩
  · intro obs canonical bootDefault argument hvalid hready hargs
    refine ⟨fun e => ⟨.launched hvalid hready hargs (.error e) (Or.inl rfl), fun _ => nofun⟩, ?_⟩
    intro command
    refine (settle_all obs command (supported_of_validated hvalid)).imp ?_
    rintro after st ⟨hsettled, hpanic⟩
    exact ⟨.launched hvalid hready hargs (.ok command) hsettled, hpanic⟩

/-- Whoever handed over a command has the ledger's agreement. -/
theorem Phase.consumed_of_run {self : PrivilegedNixOsActivationHelper}
    {p : PreparedPrivilegedActivation} {now : Nat} {tr : List (Event HelperSig)}
    (h : Phase self p now tr) {program : PathBuf} {argument : String}
    {answer : Except String PrivilegedCommandOutcome}
    (hrun : ⟨.run program argument, answer⟩ ∈ tr) :
    ⟨.consumeOnce p.authorization p.preparedAtUnixMs, .ok ()⟩ ∈ tr := by
  cases h with
  | observing quiet =>
      have heffect : Effect.command program argument ∈ effects tr :=
        List.mem_filterMap.mpr ⟨_, hrun, rfl⟩
      rw [quiet] at heffect
      cases heffect
  | consumed _ _ _ => simp [observations] at hrun
  | launched _ _ _ _ _ => simp

/-! ## Command discipline -/

/-- `program` is the `bin/switch-to-configuration` of a closure that is a
single entry of `/nix/store`, component by component. -/
def SwitchProgramOf (closure program : PathBuf) : Prop :=
  ∃ entry : List UInt8,
    closure.components
        = [.rootDir, .normal (utf8Bytes "nix"), .normal (utf8Bytes "store"), .normal entry]
      ∧ program.components = closure.components
        ++ [.normal (utf8Bytes "bin"), .normal (utf8Bytes "switch-to-configuration")]

theorem components_of_validStoreClosure {closure : PathBuf}
    (h : validStoreClosure closure = true) : ∃ entry : List UInt8,
      closure.components
        = [.rootDir, .normal (utf8Bytes "nix"), .normal (utf8Bytes "store"),
          .normal entry] := by
  unfold validStoreClosure at h
  split at h
  · rename_i nix store entry hcomps
    simp only [Bool.and_eq_true, beq_iff_eq] at h
    obtain ⟨⟨rfl, rfl⟩, -⟩ := h
    exact ⟨entry, hcomps⟩
  · cases h

theorem bytes_ne_nil_of_validStoreClosure {closure : PathBuf}
    (h : validStoreClosure closure = true) : closure.bytes ≠ [] := by
  intro hnil
  obtain ⟨bytes⟩ := closure
  obtain rfl : bytes = [] := hnil
  exact absurd h (by decide)

theorem below_switch : PathBuf.below "bin/switch-to-configuration"
    = [.normal (utf8Bytes "bin"), .normal (utf8Bytes "switch-to-configuration")] := by
  decide

theorem switchProgramOf_join {closure : PathBuf} (h : validStoreClosure closure = true) :
    SwitchProgramOf closure (closure.join "bin/switch-to-configuration") := by
  obtain ⟨entry, hcomps⟩ := components_of_validStoreClosure h
  refine ⟨entry, hcomps, ?_⟩
  rw [PathBuf.components_join (bytes_ne_nil_of_validStoreClosure h) (by decide),
    below_switch]

theorem switchProgramOf_append {closure : String}
    (h : validStoreClosure (.ofString closure) = true) :
    SwitchProgramOf (.ofString closure)
      (.ofString (closure ++ "/bin/switch-to-configuration")) := by
  obtain ⟨entry, hcomps⟩ := components_of_validStoreClosure h
  refine ⟨entry, hcomps, ?_⟩
  have hbytes : PathBuf.ofString (closure ++ "/bin/switch-to-configuration")
      = ⟨utf8Bytes closure ++ PathBuf.separator :: utf8Bytes "bin/switch-to-configuration"⟩ := by
    simp only [PathBuf.ofString, utf8Bytes_append]
    rfl
  have hne : utf8Bytes closure ≠ [] := bytes_ne_nil_of_validStoreClosure h
  rw [hbytes, PathBuf.components_append hne, below_switch]
  rfl

/-- For every request, time, and behaviour of host, runner and ledger, an
execution never panics and hands over nothing, the candidate command, or the
candidate command and then one rollback. Before the first command the request
has been validated, the live closure was observed equal to the boot default,
and the ledger has agreed; the candidate command is the switch program of the
plan's closure with the argument of the plan's action, the rollback that of
the observed baseline with `test`. -/
theorem execute_command_discipline (self : PrivilegedNixOsActivationHelper)
    (p : PreparedPrivilegedActivation) (now : Nat) {tr : List (Event HelperSig)}
    {q : Prog HelperSig PrivilegedActivationError PrivilegedActivationExecution}
    (h : (self.execute p now).Steps tr q) :
    (∀ msg, q ≠ .panic msg)
      ∧ (commands tr = []
        ∨ ∃ (argument : String) (before bootDefault : PathBuf)
            (answer : Except String PrivilegedCommandOutcome)
            (pre post : List (Event HelperSig)),
          let program := PathBuf.ofString
            (p.plan.systemClosure ++ "/bin/switch-to-configuration")
          let rollbackProgram := before.join "bin/switch-to-configuration"
          tr = pre ++ ⟨.run program argument, answer⟩ :: post
            ∧ commands pre = []
            ∧ self.validatePrepared p now = .ok ()
            ∧ ⟨.currentSystemClosure, .ok before⟩ ∈ pre
            ∧ ⟨.bootDefaultClosure, .ok bootDefault⟩ ∈ pre
            ∧ (before == bootDefault) = true
            ∧ ⟨.consumeOnce p.authorization p.preparedAtUnixMs, .ok ()⟩ ∈ pre
            ∧ ((p.plan.action = .previewActivation ∧ argument = "dry-activate")
              ∨ (p.plan.action = .testActivation ∧ argument = "test"))
            ∧ SwitchProgramOf (.ofString p.plan.systemClosure) program
            ∧ SwitchProgramOf before rollbackProgram
            ∧ (commands post = [] ∨ commands post = [(rollbackProgram, "test")])) := by
  obtain ⟨hphase, hpanic⟩ := (execute_all self p now).of_steps h
  refine ⟨fun msg hq => hpanic msg (by rw [hq]; rfl), ?_⟩
  cases hphase with
  | observing hquiet => exact Or.inl (by rw [commands, hquiet]; rfl)
  | consumed _ _ answer =>
      refine Or.inl ?_
      rcases answer with e | _ <;> simp [commands]
  | @launched obs canonical bootDefault argument hvalid hready hargs answer after hsettled =>
      have hwf := (validatePrepared_ok.mp hvalid).1
      have hprogram : obs.candidateProgram
          = .ofString (p.plan.systemClosure ++ "/bin/switch-to-configuration") := by
        rw [hready.candidateProgram, hwf.program]
      refine Or.inr ⟨argument, obs.before, bootDefault, answer,
        observations obs canonical bootDefault
          ++ [⟨.consumeOnce p.authorization p.preparedAtUnixMs, .ok ()⟩], after,
        ?_, ?_, hvalid, ?_, ?_, hready.before_eq, ?_, ?_, ?_, ?_, ?_⟩
      · rw [hprogram, List.append_assoc, List.singleton_append]
      · simp [commands]
      · simp [observations]
      · simp [observations]
      · simp
      · rcases supported_of_wellFormed hwf with ⟨haction, hargs'⟩ | ⟨haction, hargs'⟩
        · rw [hargs] at hargs'
          exact Or.inl ⟨haction, List.singleton_inj.mp hargs'⟩
        · rw [hargs] at hargs'
          exact Or.inr ⟨haction, List.singleton_inj.mp hargs'⟩
      · exact switchProgramOf_append hwf.closure
      · exact switchProgramOf_join hready.before_valid
      · rw [← hready.rollbackProgram]
        rcases hsettled with hsettled | hsettled
        · exact Or.inl (by rw [commands, hsettled]; rfl)
        · exact Or.inr (by rw [commands, hsettled]; rfl)

/-- What the pilot node shows a helper while its boot default is live. -/
def pilotObserved : Observed where
  candidate := .ofString Pilot.plan.systemClosure
  candidateProgram := .ofString Pilot.plan.program
  before := .ofString "/nix/store/base-nixos-system"
  rollbackProgram :=
    (PathBuf.ofString "/nix/store/base-nixos-system").join "bin/switch-to-configuration"

def pilotObservations : List (Event HelperSig) :=
  observations pilotObserved pilotObserved.candidate pilotObserved.before

/-- The pilot request when its candidate command fails: the baseline is
activated again, and the two commands are all there is. -/
def pilotRollback : List (Event HelperSig) :=
  pilotObservations
    ++ [ ⟨.consumeOnce ⟨"auth:one"⟩ 2000, .ok ()⟩
       , ⟨.run pilotObserved.candidateProgram "test",
          .ok ⟨.failed, some 4, "", "unit failed", 7⟩⟩
       , ⟨.currentSystemClosure, .ok pilotObserved.candidate⟩
       , ⟨.run pilotObserved.rollbackProgram "test", .ok ⟨.succeeded, some 0, "", "", 5⟩⟩
       , ⟨.currentSystemClosure, .ok pilotObserved.before⟩
       , ⟨.currentSystemClosure, .ok pilotObserved.before⟩ ]

/-- The ledger agrees to a pilot request. -/
def consumption (authorization : SystemAuthorizationId) : Event HelperSig :=
  ⟨.consumeOnce authorization 2000, .ok ()⟩

/-- The pilot's candidate command succeeds. -/
def testCommand : Event HelperSig :=
  ⟨.run pilotObserved.candidateProgram "test", .ok ⟨.succeeded, some 0, "", "", 9⟩⟩

/-- The helper of the pilot node. -/
def pilotHelper : PrivilegedNixOsActivationHelper := { localNode := ⟨"node:lab"⟩ }

theorem steps_pilotRollback :
    ∃ q, (pilotHelper.execute (Pilot.prepared ⟨"auth:one"⟩) 2500).Steps pilotRollback q :=
  ⟨_, Prog.steps_of_follow rfl⟩

theorem pilotRollback_commands :
    ∃ q, (pilotHelper.execute (Pilot.prepared ⟨"auth:one"⟩) 2500).Steps pilotRollback q
      ∧ (∀ msg, q ≠ .panic msg)
      ∧ commands pilotRollback =
        [ (.ofString "/nix/store/abc123-nixos-system-blob-pilot/bin/switch-to-configuration",
            "test")
        , (.ofString "/nix/store/base-nixos-system/bin/switch-to-configuration", "test") ] := by
  obtain ⟨q, hq⟩ := steps_pilotRollback
  exact ⟨q, hq,
    (execute_command_discipline pilotHelper (Pilot.prepared ⟨"auth:one"⟩) 2500 hq).1,
    by decide⟩

end PrivilegedNixOsActivationHelper

end Blob
