import Blob.Ids
import Blob.Process

/-!
# The local process executor

Runs the process of a capsule for a task under a lease, and reports how it
ended.
-/

namespace Blob

open Text

structure LocalProcessCapsule where
  implementation : ImplementationId
  program : String
  args : List String
deriving Repr, DecidableEq

structure ExecutionRequest where
  task : TaskId
  lease : BindingLeaseId
  workingDirectory : PathBuf
  capsule : LocalProcessCapsule
deriving Repr, DecidableEq

inductive ExecutionStatus where
  | succeeded
  | failed
deriving Repr, DecidableEq

def ExecutionStatus.debug : ExecutionStatus → String
  | .succeeded => "Succeeded"
  | .failed => "Failed"

structure ExecutionResult where
  task : TaskId
  lease : BindingLeaseId
  implementation : ImplementationId
  status : ExecutionStatus
  exitCode : Option Int
  stdout : String
  stderr : String
  durationUs : Nat
deriving Repr, DecidableEq

inductive ExecutionError where
  | emptyProgram
  | spawn (text : String)
deriving Repr, DecidableEq

/-- The result of a request whose process has ended. -/
def executionResult (request : ExecutionRequest) (output : ProcessOutput) (durationUs : Nat) :
    ExecutionResult where
  task := request.task
  lease := request.lease
  implementation := request.capsule.implementation
  status := if output.status.success then .succeeded else .failed
  exitCode := output.status.code
  stdout := fromUtf8Lossy output.stdout
  stderr := fromUtf8Lossy output.stderr
  durationUs := durationUs

namespace LocalProcessExecutor

def execute (request : ExecutionRequest) : Prog ProcessSig ExecutionError ExecutionResult := do
  Prog.reject ((trim request.capsule.program).isEmpty = true) .emptyProgram
  let output ← (Process.output request.capsule.program request.capsule.args
    request.workingDirectory).mapErr .spawn
  let duration ← Process.durationUs
  return executionResult request output duration

/-- An execution never panics, and one that has returned ran the capsule's process,
once, and reports it. -/
theorem execute_all (request : ExecutionRequest) :
    (execute request).All fun tr st => (∀ msg, st ≠ .panicked msg)
      ∧ ∀ result, st = .returned result → ∃ output micros,
        tr = Process.finished request.capsule.program request.capsule.args
            request.workingDirectory output micros
          ∧ result = executionResult request output (min micros (2 ^ 64 - 1)) := by
  unfold execute
  rw [Prog.all_reject]
  refine ⟨by simp, ?_⟩
  intro _
  refine Process.all_timed (by simp) (by simp) ?_
  intro output micros
  refine ⟨by simp, ?_⟩
  intro result h
  cases h
  exact ⟨output, micros, List.append_nil _, rfl⟩

/-- A process that is started is run to its end. -/
theorem steps_execute {request : ExecutionRequest}
    (hprogram : (trim request.capsule.program).isEmpty = false) (output : ProcessOutput)
    (micros : Nat) :
    (execute request).Steps
      (Process.finished request.capsule.program request.capsule.args request.workingDirectory
        output micros)
      (.pure (executionResult request output (min micros (2 ^ 64 - 1)))) := by
  unfold execute
  rw [Prog.reject_neg (by simp [hprogram]), Prog.bind_pure]
  exact .call (.call (.refl _))

-- callers go by these two: unfolding the test of the program text is slow
attribute [irreducible] execute

end LocalProcessExecutor

end Blob
