import Blob.NixBackend
import Blob.Process

/-!
# The non-privileged system executor

Runs the `nix build` of a command plan as the calling user. Plans are
checked again before they are run - a plan is data, and anybody can build
one - and the store paths of the result are scanned from the process's
standard output, whatever it printed.
-/

namespace Blob

open Text Checks

inductive SystemOperationStatus where
  | succeeded
  | failed
deriving Repr, DecidableEq

structure SystemOperationResult where
  operationId : SystemOperationId
  candidate : SystemCandidateId
  systemSpec : SystemSpecId
  action : SystemCandidateAction
  effectClass : SystemEffectClass
  status : SystemOperationStatus
  exitCode : Option Int
  stdout : String
  stderr : String
  durationUs : Nat
  storePaths : List String
deriving Repr, DecidableEq

inductive SystemExecutionError where
  | privilegedOperationRejected
  | liveSystemOperationRejected
  | unsupportedAction
  | malformedPlan (reason : String)
  | spawn (text : String)
deriving Repr, DecidableEq

/-! ## The plan check -/

/-- What the derivation selector of an action ends in. -/
def expectedSuffix : SystemCandidateAction → Except SystemExecutionError String
  | .materialize => .ok ".config.system.build.toplevel"
  | .buildIsolatedVm => .ok ".config.system.build.vm"
  | .previewActivation | .testActivation => .error .unsupportedAction

def forbiddenArguments : List String :=
  ["--impure", "--expr", "--command", "switch", "boot", "test", "dry-activate"]

def validateNonPrivilegedPlan (plan : NixCommandPlan) : Except SystemExecutionError Unit := do
  reject (plan.authority ≠ .user) .privilegedOperationRejected
  reject (plan.effectClass ≠ .materializationOnly) .liveSystemOperationRejected
  let suffix ← expectedSuffix plan.action
  reject (plan.program ≠ "nix")
    (.malformedPlan "non-privileged executor only permits the nix executable")
  reject (plan.args.length ≠ 4 ∨ plan.args[0]? ≠ some "build"
      ∨ plan.args[1]? ≠ some "--no-link" ∨ plan.args[2]? ≠ some "--print-out-paths")
    (.malformedPlan "unexpected nix build argument shape")
  reject (∃ arg ∈ plan.args, arg ∈ forbiddenArguments)
    (.malformedPlan "forbidden argument in non-privileged system plan")
  reject ((plan.args[3]?.any fun selector => endsWith selector suffix) = false)
    (.malformedPlan "derivation selector does not match semantic action")

/-! ## Execution -/

/-- A trimmed line that is a path below the Nix store. -/
def isStorePath (line : String) : Bool := startsWith line "/nix/store/"

def parseStorePaths (stdout : String) : List String :=
  ((lines stdout).map trim).filter isStorePath

/-- The result of a plan whose process has ended. -/
def operationResult (plan : NixCommandPlan) (output : ProcessOutput) (durationUs : Nat) :
    SystemOperationResult :=
  let stdout := fromUtf8Lossy output.stdout
  { operationId := plan.operationId
    candidate := plan.candidate
    systemSpec := plan.systemSpec
    action := plan.action
    effectClass := plan.effectClass
    status := if output.status.success then .succeeded else .failed
    exitCode := output.status.code
    stdout
    stderr := fromUtf8Lossy output.stderr
    durationUs
    storePaths := parseStorePaths stdout }

@[simp] theorem operationResult_storePaths (plan : NixCommandPlan) (output : ProcessOutput)
    (durationUs : Nat) : (operationResult plan output durationUs).storePaths
      = parseStorePaths (fromUtf8Lossy output.stdout) := by
  simp only [operationResult]

theorem success_of_operationResult {plan : NixCommandPlan} {output : ProcessOutput}
    {durationUs : Nat} (h : (operationResult plan output durationUs).status = .succeeded) :
    output.status.success = true := by
  simp only [operationResult] at h
  split at h
  · assumption
  · cases h

namespace NonPrivilegedNixExecutor

def execute (plan : NixCommandPlan) (workingDirectory : PathBuf) :
    Prog ProcessSig SystemExecutionError SystemOperationResult := do
  Prog.ofExcept (validateNonPrivilegedPlan plan)
  let output ← (Process.output plan.program plan.args workingDirectory).mapErr .spawn
  let duration ← Process.durationUs
  return operationResult plan output duration

/-- An execution that has returned ran the plan's process, once, and reports it. -/
theorem execute_all (plan : NixCommandPlan) (workingDirectory : PathBuf) :
    (execute plan workingDirectory).All fun tr st => ∀ result, st = .returned result →
      validateNonPrivilegedPlan plan = .ok () ∧ ∃ output micros,
        tr = Process.finished plan.program plan.args workingDirectory output micros
          ∧ result = operationResult plan output (min micros (2 ^ 64 - 1)) := by
  unfold execute
  cases hvalid : validateNonPrivilegedPlan plan with
  | error e => intro result h; cases h
  | ok _ =>
      refine Process.all_timed ?_ ?_ ?_
      · intro tr result h
        cases h
      · intro e result h
        cases h
      · intro output micros result h
        cases h
        exact ⟨rfl, output, micros, List.append_nil _, rfl⟩

end NonPrivilegedNixExecutor

end Blob
