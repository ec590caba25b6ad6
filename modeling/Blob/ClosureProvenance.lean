import Blob.ActivationGate
import Blob.SystemExecutor

/-!
# Closure provenance

From the operation that builds a candidate to the plan that activates it:
the backend plans a build, the executor runs it, its result is accepted as a
materialized candidate, and the planner plans an activation of that. Each
stage keeps the identity it was given; the closure enters once, as the only
store path among the lines of what the build printed.
-/

namespace Blob

open Text Checks

namespace MaterializedNixOsCandidate

def fromOperationResult (result : SystemOperationResult) :
    Except ImmutableActivationError MaterializedNixOsCandidate := do
  reject (result.action ≠ .materialize ∨ result.effectClass ≠ .materializationOnly)
    .notSystemMaterialization
  reject (result.status ≠ .succeeded) .materializationFailed
  match result.storePaths with
  | [systemClosure] => do
      validateNixStoreClosure systemClosure
      return {
        candidate := result.candidate
        systemSpec := result.systemSpec
        materializationOperation := result.operationId
        systemClosure }
  | storePaths => .error (.expectedSingleSystemClosure storePaths.length)

/-- What a materialized candidate takes over from an accepted result. -/
structure Accepted (result : SystemOperationResult)
    (materialized : MaterializedNixOsCandidate) : Prop where
  action : result.action = .materialize
  succeeded : result.status = .succeeded
  storePaths : result.storePaths = [materialized.systemClosure]
  candidate : materialized.candidate = result.candidate
  systemSpec : materialized.systemSpec = result.systemSpec
  materialization : materialized.materializationOperation = result.operationId

theorem accepted_of_fromOperationResult {result : SystemOperationResult}
    {materialized : MaterializedNixOsCandidate}
    (h : fromOperationResult result = .ok materialized) : Accepted result materialized := by
  simp only [fromOperationResult, bind_eq_ok, reject_eq_ok, not_or, ne_eq, not_not] at h
  obtain ⟨_, ⟨haction, -⟩, _, hstatus, h⟩ := h
  split at h
  · rename_i systemClosure hpaths
    simp only [bind_eq_ok, pure_eq_ok] at h
    obtain ⟨_, -, rfl⟩ := h
    exact ⟨haction, hstatus, hpaths, rfl, rfl, rfl⟩
  · cases h

end MaterializedNixOsCandidate

/-! ## The one store path of the output -/

/-- `line` is, trimmed, the closure, and no other line of the output is, trimmed,
a store path. -/
structure OnlyStorePath (stdout systemClosure : String) (before : List String)
    (line : String) (after : List String) : Prop where
  printed : lines stdout = before ++ line :: after
  trimmed : trim line = systemClosure
  storePath : isStorePath systemClosure = true
  only : ∀ other ∈ before ++ after, isStorePath (trim other) = false

theorem onlyStorePath_of_parse {stdout systemClosure : String}
    (h : parseStorePaths stdout = [systemClosure]) :
    ∃ before line after, OnlyStorePath stdout systemClosure before line after := by
  rw [parseStorePaths, List.filter_map] at h
  obtain ⟨line, hfilter, htrim⟩ := List.map_eq_singleton_iff.mp h
  obtain ⟨before, after, hprinted, hbefore, hpath, hafter⟩ := List.filter_eq_cons_iff.mp hfilter
  rw [Function.comp_apply, htrim] at hpath
  refine ⟨before, line, after, hprinted, htrim, hpath, ?_⟩
  intro other hother
  rcases List.mem_append.mp hother with hother | hother
  · simpa using hbefore other hother
  · simpa using List.filter_eq_nil_iff.mp hafter other hother

/-! ## From build to activation -/

/-- What an activation plan is known to activate: the closure that one finished
build of the candidate printed, and nothing else it could be taken for. -/
structure Provenance (built : SystemCandidateOperation) (activated : SystemCandidateOperation)
    (output : ProcessOutput) (plan : ImmutableNixOsActivationPlan) : Prop where
  action : built.action = .materialize
  succeeded : output.status.success = true
  builtCandidate : plan.candidate = built.candidate
  builtSystemSpec : plan.systemSpec = built.systemSpec
  candidate : plan.candidate = activated.candidate
  systemSpec : plan.systemSpec = activated.systemSpec
  materialization : plan.materializationOperation = built.id
  closure : ∃ before line after,
    OnlyStorePath (fromUtf8Lossy output.stdout) plan.systemClosure before line after

/-- Whatever the build printed and however it ended: when its result is accepted
and an activation of it is planned, the build was a successful materialization of
the activated candidate, and the closure is the one store path it printed. -/
theorem closure_provenance {built activated : SystemCandidateOperation}
    {target : NixOsCandidateTarget} {command : NixCommandPlan} {directory : PathBuf}
    {tr : List (Event ProcessSig)} {result : SystemOperationResult}
    {materialized : MaterializedNixOsCandidate} {plan : ImmutableNixOsActivationPlan}
    (hcommand : NixOsBackend.planOperation built target = .ok command)
    (hexecuted : (NonPrivilegedNixExecutor.execute command directory).Steps tr (.pure result))
    (haccepted : MaterializedNixOsCandidate.fromOperationResult result = .ok materialized)
    (hplan : ImmutableNixOsActivationPlanner.plan activated materialized = .ok plan) :
    ∃ output micros,
      tr = Process.finished command.program command.args directory output micros
        ∧ Provenance built activated output plan := by
  have hplanned := NixOsBackend.planned_of_planOperation hcommand
  obtain ⟨-, output, micros, htrace, rfl⟩ :=
    (NonPrivilegedNixExecutor.execute_all command directory).of_steps hexecuted result rfl
  have hmaterialized := MaterializedNixOsCandidate.accepted_of_fromOperationResult haccepted
  have hderived := ImmutableNixOsActivationPlanner.plan_derived hplan
  have hconsistent := ImmutableNixOsActivationPlanner.consistent_of_plan hplan
  have hpaths := hmaterialized.storePaths
  rw [operationResult_storePaths, ← hderived.closure] at hpaths
  refine ⟨output, micros, htrace, ?_⟩
  exact {
    action := hplanned.action.symm.trans hmaterialized.action
    succeeded := success_of_operationResult hmaterialized.succeeded
    builtCandidate := calc plan.candidate
      _ = activated.candidate := hderived.candidate
      _ = materialized.candidate := hconsistent.candidate
      _ = command.candidate := hmaterialized.candidate
      _ = built.candidate := hplanned.candidate
    builtSystemSpec := calc plan.systemSpec
      _ = activated.systemSpec := hderived.systemSpec
      _ = materialized.systemSpec := hconsistent.systemSpec
      _ = command.systemSpec := hmaterialized.systemSpec
      _ = built.systemSpec := hplanned.systemSpec
    candidate := hderived.candidate
    systemSpec := hderived.systemSpec
    materialization := calc plan.materializationOperation
      _ = materialized.materializationOperation := hderived.materialization
      _ = command.operationId := hmaterialized.materialization
      _ = built.id := hplanned.operationId
    closure := onlyStorePath_of_parse hpaths }

/-! The pilot's build, which printed a warning before its closure. -/

namespace Pilot

def materialization : SystemCandidateOperation :=
  .new ⟨"op:materialize"⟩ ⟨"candidate:one"⟩ ⟨"system:one"⟩ .materialize

def target : NixOsCandidateTarget where
  flakePath := .ofString "/candidates/one"
  configuration := "pilot"

def command : NixCommandPlan where
  operationId := ⟨"op:materialize"⟩
  candidate := ⟨"candidate:one"⟩
  systemSpec := ⟨"system:one"⟩
  action := .materialize
  effectClass := .materializationOnly
  authority := .user
  program := "nix"
  args :=
    [ "build", "--no-link", "--print-out-paths"
    , "/candidates/one#nixosConfigurations.pilot.config.system.build.toplevel" ]
  expectedEffects :=
    [ "materialize immutable candidate closure in the Nix store"
    , "do not activate the candidate on the running host" ]
  rollbackSemantics :=
    "No live-system rollback is needed because the candidate is not activated."

def buildOutput : ProcessOutput where
  status := .exited 0
  stdout := utf8Bytes "warning\n/nix/store/abc123-nixos-system-blob-pilot\n"
  stderr := []

theorem steps_execute (directory : PathBuf) :
    (NonPrivilegedNixExecutor.execute command directory).Steps
      (Process.finished command.program command.args directory buildOutput 42)
      (.pure (operationResult command buildOutput 42)) := by
  have hvalid : validateNonPrivilegedPlan command = .ok () := rfl
  simp only [NonPrivilegedNixExecutor.execute, hvalid]
  exact .call (.call (.refl _))

theorem accepted_buildOutput :
    MaterializedNixOsCandidate.fromOperationResult (operationResult command buildOutput 42)
      = .ok materialized := by
  have hpaths : parseStorePaths (fromUtf8Lossy buildOutput.stdout)
      = [materialized.systemClosure] := by decide
  have hclosure : validateNixStoreClosure materialized.systemClosure = .ok () := rfl
  simp only [MaterializedNixOsCandidate.fromOperationResult, operationResult, hpaths, hclosure]
  rfl

end Pilot

theorem pilot_provenance :
    Provenance Pilot.materialization Pilot.operation Pilot.buildOutput Pilot.plan := by
  have hcommand : NixOsBackend.planOperation Pilot.materialization Pilot.target
      = .ok Pilot.command := rfl
  have hplan : ImmutableNixOsActivationPlanner.plan Pilot.operation Pilot.materialized
      = .ok Pilot.plan := rfl
  obtain ⟨output, micros, htrace, hprovenance⟩ := closure_provenance hcommand
    (Pilot.steps_execute (.ofString ".")) Pilot.accepted_buildOutput hplan
  obtain ⟨rfl, -⟩ : Pilot.buildOutput = output ∧ 42 = micros := by
    simpa [Process.finished] using htrace
  exact hprovenance

end Blob
