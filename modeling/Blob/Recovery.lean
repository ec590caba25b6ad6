import Blob.HelperTrace

/-!
# Recovery after a candidate command

Most ways a call can end once its candidate command is handed over
(`Completed`) are recoveries: the action's promise is kept, or the
baseline's switch program has been handed over. Three are not. A runner
that fails instead of answering, a host that cannot tell the live closure
right after the command, and one that tells something other than a store
closure each end the call with no attempt to restore the baseline.
`recovered_iff` says that these three are all.
-/

namespace Blob

namespace PrivilegedNixOsActivationHelper

/-! ## The whole execution -/

/-- The complete executions of `execute`. -/
inductive Completed (self : PrivilegedNixOsActivationHelper) (p : PreparedPrivilegedActivation)
    (now : Nat) : List (Event HelperSig) →
      Prog.Status PrivilegedActivationError PrivilegedActivationExecution → Prop
  /-- No command was handed over. -/
  | stopped {tr : List (Event HelperSig)} (quiet : commands tr = [])
      (e : PrivilegedActivationError) : Completed self p now tr (.failed e)
  | notRun {obs : Observed} {canonical bootDefault : PathBuf} {argument : String}
      (ready : Ready p obs canonical bootDefault) (e : String) :
      Completed self p now (observations obs canonical bootDefault
        ++ ⟨.consumeOnce p.authorization p.preparedAtUnixMs, .ok ()⟩
        :: [⟨.run obs.candidateProgram argument, .error e⟩]) (.failed (.spawn e))
  | settled {obs : Observed} {canonical bootDefault : PathBuf} {argument : String}
      (ready : Ready p obs canonical bootDefault) {command : PrivilegedCommandOutcome}
      {after : List (Event HelperSig)}
      {st : Prog.Status PrivilegedActivationError PrivilegedActivationExecution}
      (settlement : Settled p obs command after st) :
      Completed self p now (observations obs canonical bootDefault
        ++ ⟨.consumeOnce p.authorization p.preparedAtUnixMs, .ok ()⟩
        :: ⟨.run obs.candidateProgram argument, .ok command⟩ :: after) st

theorem execute_complete (self : PrivilegedNixOsActivationHelper)
    (p : PreparedPrivilegedActivation) (now : Nat) :
    (self.execute p now).All fun tr st => st ≠ .running → Completed self p now tr st := by
  refine execute_rule ?_ ?_ ?_
  · rintro tr st hquiet (rfl | ⟨e, rfl⟩) hdone
    · exact absurd rfl hdone
    · exact .stopped (by rw [commands, hquiet]; rfl) e
  · rintro obs canonical bootDefault answer st - - (rfl | ⟨e, rfl⟩) hdone
    · exact absurd rfl hdone
    · exact .stopped (by rcases answer with e | _ <;> simp [commands]) e
  · intro obs canonical bootDefault argument hvalid hready _
    refine ⟨fun e _ => .notRun hready e, ?_⟩
    intro command
    refine (settle_complete obs command (supported_of_validated hvalid)).imp ?_
    intro after st hsettled hdone
    exact .settled hready (hsettled hdone)

/-! ## The recovery obligation -/

@[simp] theorem commands_append (tr tr' : List (Event HelperSig)) :
    commands (tr ++ tr') = commands tr ++ commands tr' := by
  simp [commands]

@[simp] theorem commands_run (program : PathBuf) (argument : String)
    (answer : Except String PrivilegedCommandOutcome) (tr : List (Event HelperSig)) :
    commands (⟨.run program argument, answer⟩ :: tr) = (program, argument) :: commands tr := rfl

/-- The command at which the commands begin is one, and so is what surrounds it. -/
theorem first_command_unique {pre pre' post post' : List (Event HelperSig)}
    {program program' : PathBuf} {argument argument' : String}
    {answer answer' : Except String PrivilegedCommandOutcome}
    (h : pre ++ ⟨.run program argument, answer⟩ :: post
      = pre' ++ ⟨.run program' argument', answer'⟩ :: post')
    (hpre : commands pre = []) (hpre' : commands pre' = []) :
    pre = pre' ∧ program = program' ∧ argument = argument' ∧ answer = answer'
      ∧ post = post' := by
  rcases List.append_eq_append_iff.mp h with ⟨zs, rfl, hzs⟩ | ⟨zs, rfl, hzs⟩
  · cases zs with
    | nil =>
        cases hzs
        exact ⟨(List.append_nil _).symm, rfl, rfl, rfl, rfl⟩
    | cons z zs =>
        obtain ⟨rfl, -⟩ := List.cons.inj hzs
        simp at hpre'
  · cases zs with
    | nil =>
        cases hzs
        exact ⟨List.append_nil _, rfl, rfl, rfl, rfl⟩
    | cons z zs =>
        obtain ⟨rfl, -⟩ := List.cons.inj hzs
        simp at hpre

/-- The closures the host told to be live, in order. -/
def observedLive (tr : List (Event HelperSig)) : List PathBuf :=
  tr.filterMap fun
    | ⟨.currentSystemClosure, .ok live⟩ => some live
    | _ => none

/-- What is owed once the candidate command was handed over: the action's
promise, seen to hold at the end, or an attempt to restore the baseline.
`answer` is the runner's to the candidate command, `post` what followed it. -/
def Recovered (p : PreparedPrivilegedActivation) (baseline : PathBuf)
    (answer : Except String PrivilegedCommandOutcome) (post : List (Event HelperSig))
    (st : Prog.Status PrivilegedActivationError PrivilegedActivationExecution) : Prop :=
  (∃ outcome live, st = .returned outcome ∧ (observedLive post).getLast? = some live
    ∧ ((p.plan.action = .testActivation
        ∧ (∃ command, answer = .ok command ∧ command.succeeded = true)
        ∧ (live == .ofString p.plan.systemClosure) = true)
      ∨ (p.plan.action = .previewActivation ∧ (live == baseline) = true)))
  ∨ (baseline.join "bin/switch-to-configuration", "test") ∈ commands post

theorem Restored.attempted {baseline rollbackProgram : PathBuf} {tr : List (Event HelperSig)}
    {st : Prog.Status PrivilegedActivationError Unit}
    (h : Restored baseline rollbackProgram tr st) : (rollbackProgram, "test") ∈ commands tr := by
  simp [commands, h.effects]

/-- A settlement that begins with a store closure read is a recovery, and no other is. -/
theorem Settled.recovers {p : PreparedPrivilegedActivation} {obs : Observed}
    {canonical bootDefault : PathBuf} (hready : Ready p obs canonical bootDefault)
    {command : PrivilegedCommandOutcome} {post : List (Event HelperSig)}
    {st : Prog.Status PrivilegedActivationError PrivilegedActivationExecution}
    (h : Settled p obs command post st) :
    Recovered p obs.before (.ok command) post st ↔
      ∃ live rest, post = ⟨.currentSystemClosure, .ok live⟩ :: rest
        ∧ validStoreClosure live = true := by
  have hattempted : ∀ (live : PathBuf) (restore rest : List (Event HelperSig)) u,
      Restored obs.before obs.rollbackProgram restore u →
      Recovered p obs.before (.ok command)
        (⟨.currentSystemClosure, .ok live⟩ :: restore ++ rest) st := by
    intro live restore rest u hrestored
    have hmem := hrestored.attempted
    rw [hready.rollbackProgram] at hmem
    refine Or.inr ?_
    rw [commands_append]
    exact List.mem_append_left _ hmem
  cases h with
  | unread e => simp [Recovered, commands]
  | @malformed live hinvalid => simp [Recovered, commands, hinvalid]
  | @kept live hvalid hpromised =>
      refine iff_of_true (Or.inl ⟨_, live, rfl, rfl, ?_⟩) ⟨live, [], rfl, hvalid⟩
      rcases hpromised with ⟨haction, hbaseline⟩ | ⟨haction, hsucceeded, hcandidate⟩
      · exact Or.inr ⟨haction, hbaseline⟩
      · rw [hready.candidate] at hcandidate
        exact Or.inl ⟨haction, ⟨command, rfl, hsucceeded⟩, hcandidate⟩
  | @unrestored live hvalid restore e hrestored =>
      have hrecovered := hattempted live restore [] _ hrestored
      rw [List.append_nil] at hrecovered
      exact iff_of_true hrecovered ⟨live, restore, rfl, hvalid⟩
  | @undone live hvalid restore hrestored e _ =>
      have hrecovered := hattempted live restore [] _ hrestored
      rw [List.append_nil] at hrecovered
      exact iff_of_true hrecovered ⟨live, restore, rfl, hvalid⟩
  | @unreported live hvalid restore hrestored e =>
      exact iff_of_true (hattempted live restore _ _ hrestored) ⟨live, _, rfl, hvalid⟩
  | @rolledBack live hvalid _ _ restore hrestored last =>
      exact iff_of_true (hattempted live restore _ _ hrestored) ⟨live, _, rfl, hvalid⟩

/-- Whatever host, runner and ledger answer: an execution that has handed over
its candidate command and come to an end has met its recovery obligation if
and only if the runner answered and the host then told a store closure to
be live. -/
theorem recovered_iff {self : PrivilegedNixOsActivationHelper}
    {p : PreparedPrivilegedActivation} {now : Nat} {tr pre post : List (Event HelperSig)}
    {q : Prog HelperSig PrivilegedActivationError PrivilegedActivationExecution}
    {program baseline : PathBuf} {argument : String}
    {answer : Except String PrivilegedCommandOutcome}
    (hs : (self.execute p now).Steps tr q) (hdone : q.status ≠ .running)
    (hlaunch : tr = pre ++ ⟨.run program argument, answer⟩ :: post)
    (hfirst : commands pre = []) (hbaseline : ⟨.currentSystemClosure, .ok baseline⟩ ∈ pre) :
    Recovered p baseline answer post q.status ↔
      (∃ command, answer = .ok command)
        ∧ ∃ live rest, post = ⟨.currentSystemClosure, .ok live⟩ :: rest
          ∧ validStoreClosure live = true := by
  have hcompleted := (execute_complete self p now).of_steps hs hdone
  have hprelude : ∀ (obs : Observed) (canonical bootDefault : PathBuf),
      commands (observations obs canonical bootDefault
        ++ [⟨.consumeOnce p.authorization p.preparedAtUnixMs, .ok ()⟩]) = [] :=
    fun _ _ _ => rfl
  -- the live closure is read once before the candidate command
  have hread : ∀ (obs : Observed) (canonical bootDefault : PathBuf),
      ⟨.currentSystemClosure, .ok baseline⟩ ∈ observations obs canonical bootDefault
        ++ [⟨.consumeOnce p.authorization p.preparedAtUnixMs, .ok ()⟩] →
      baseline = obs.before := by
    intro obs canonical bootDefault hmem
    simpa [observations] using hmem
  generalize hst : q.status = st at hcompleted ⊢
  cases hcompleted with
  | stopped hquiet e =>
      rw [hlaunch] at hquiet
      simp at hquiet
  | @notRun obs canonical bootDefault argument' hready e =>
      rw [List.append_cons] at hlaunch
      obtain ⟨-, -, -, rfl, rfl⟩ := first_command_unique hlaunch (hprelude _ _ _) hfirst
      simp [Recovered, commands]
  | @settled obs canonical bootDefault argument' hready command after _ hsettled =>
      rw [List.append_cons] at hlaunch
      obtain ⟨rfl, -, -, rfl, rfl⟩ := first_command_unique hlaunch (hprelude _ _ _) hfirst
      obtain rfl := hread _ _ _ hbaseline
      rw [hsettled.recovers hready]
      simp

/-- The answer to a pilot's candidate command that fails. -/
def failedCommand : Except String PrivilegedCommandOutcome :=
  .ok ⟨.failed, some 4, "", "unit failed", 7⟩

/-- The candidate command has failed and the live closure cannot be read: the call
returns without an attempt to restore the baseline. -/
theorem unrestored_failure :
    ∃ (tr pre post : List (Event HelperSig))
      (q : Prog HelperSig PrivilegedActivationError PrivilegedActivationExecution),
      (pilotHelper.execute (Pilot.prepared ⟨"auth:one"⟩) 2500).Steps tr q
        ∧ q.status = .failed (.hostObservation "input/output error")
        ∧ tr = pre ++ ⟨.run pilotObserved.candidateProgram "test", failedCommand⟩ :: post
        ∧ commands pre = []
        ∧ ⟨.currentSystemClosure, .ok pilotObserved.before⟩ ∈ pre
        ∧ ¬ Recovered (Pilot.prepared ⟨"auth:one"⟩) pilotObserved.before failedCommand post
          q.status := by
  refine ⟨_, pilotObservations ++ [consumption ⟨"auth:one"⟩],
    [⟨.currentSystemClosure, .error "input/output error"⟩], _, Prog.steps_of_follow rfl, rfl,
    rfl, rfl, ?_, ?_⟩
  · simp [pilotObservations, observations]
  · rintro (⟨_, _, hreturned, _⟩ | hattempted)
    · cases hreturned
    · cases hattempted

/-- The pilot's failed command whose live closure can be read. -/
theorem pilotRollback_recovered :
    ∃ (pre post : List (Event HelperSig))
      (q : Prog HelperSig PrivilegedActivationError PrivilegedActivationExecution),
      pilotRollback = pre
          ++ ⟨.run pilotObserved.candidateProgram "test", failedCommand⟩ :: post
        ∧ Recovered (Pilot.prepared ⟨"auth:one"⟩) pilotObserved.before failedCommand post
          q.status := by
  have hs : (pilotHelper.execute (Pilot.prepared ⟨"auth:one"⟩) 2500).Steps pilotRollback
      (.pure (report (Pilot.prepared ⟨"auth:one"⟩) pilotObserved.before pilotObserved.before
        ⟨.failed, some 4, "", "unit failed", 7⟩ true)) :=
    Prog.steps_of_follow rfl
  have hbaseline : ⟨.currentSystemClosure, .ok pilotObserved.before⟩
      ∈ pilotObservations ++ [consumption ⟨"auth:one"⟩] := by
    simp [pilotObservations, observations]
  refine ⟨pilotObservations ++ [consumption ⟨"auth:one"⟩], _, _, rfl,
    (recovered_iff hs ?_ rfl rfl hbaseline).mpr ⟨⟨_, rfl⟩, pilotObserved.candidate, _, rfl, ?_⟩⟩
  · simp [Prog.status]
  · rfl

end PrivilegedNixOsActivationHelper

end Blob
