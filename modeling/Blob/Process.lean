import Mathlib.Algebra.Group.Nat.Defs
import Blob.Path
import Blob.Prog

/-!
# Child processes

`std::process::Command` run to its end, and the clock it is timed with. A
process may fail to start, end in any way and print any bytes.
-/

namespace Blob

/-- How a process ended (`std::process::ExitStatus`, on Unix). -/
inductive ExitStatus where
  | exited (code : Int)
  | signaled (signal : Int)
deriving Repr, DecidableEq

def ExitStatus.success : ExitStatus → Bool
  | .exited code => code == 0
  | .signaled _ => false

def ExitStatus.code : ExitStatus → Option Int
  | .exited code => some code
  | .signaled _ => none

/-- `std::process::Output`. -/
structure ProcessOutput where
  status : ExitStatus
  stdout : List UInt8
  stderr : List UInt8
deriving Repr, DecidableEq

inductive ProcessOp where
  /-- Run a program to its end. -/
  | output (program : String) (args : List String) (directory : PathBuf)
  /-- Microseconds since the process was about to start. -/
  | elapsedMicros
deriving Repr, DecidableEq

abbrev ProcessOp.Ans : ProcessOp → Type
  | .output _ _ _ => Except String ProcessOutput
  | .elapsedMicros => Nat

abbrev ProcessSig : Sig where
  Op := ProcessOp
  Ans := ProcessOp.Ans

namespace Process

open Prog

def output (program : String) (args : List String) (directory : PathBuf) :
    Prog ProcessSig String ProcessOutput :=
  .call (.output program args directory) .ofExcept

/-- `started.elapsed().as_micros().min(u64::MAX as u128) as u64`. -/
def durationUs {ε : Type} : Prog ProcessSig ε Nat :=
  .call .elapsedMicros fun micros => .pure (min micros (2 ^ 64 - 1))

/-- The calls of a process that was started: its end, and the time it took. -/
def finished (program : String) (args : List String) (directory : PathBuf)
    (output : ProcessOutput) (micros : Nat) : List (Event ProcessSig) :=
  [⟨.output program args directory, .ok output⟩, ⟨.elapsedMicros, micros⟩]

/-- A program that runs one process and times it: an execution that has returned
made exactly the calls of a finished process. -/
theorem all_timed {ε α : Type} {Q : List (Event ProcessSig) → Status ε α → Prop}
    {program : String} {args : List String} {directory : PathBuf} {f : String → ε}
    {k : ProcessOutput → Nat → Prog ProcessSig ε α}
    (hrunning : ∀ tr, Q tr .running)
    (hspawn : ∀ e, Q [⟨.output program args directory, .error e⟩] (.failed (f e)))
    (hdone : ∀ output micros, (k output (min micros (2 ^ 64 - 1))).All
      fun tr st => Q (finished program args directory output micros ++ tr) st) :
    ((Process.output program args directory).mapErr f >>= fun output =>
      durationUs >>= fun duration => k output duration).All Q := by
  refine Prog.all_ask.mpr ⟨hrunning [], ?_⟩
  intro answer
  rcases answer with e | output
  · exact hspawn e
  refine Prog.all_call.mpr ⟨hrunning _, ?_⟩
  intro micros
  exact hdone output micros

end Process

end Blob
