import Mathlib.Algebra.Group.Nat.Defs
import Blob.Ids
import Blob.Path
import Blob.Prog

/-!
# The component runtimes

Two runtimes run WebAssembly components in wasmtime: one links a component
with nothing at all, the other runs a WASI command with the directories of an
explicit grant set. wasmtime may refuse any call and answer anything, so its
calls are operations, and a context is what it was built with.

An execution of either runtime is a beginning of one course of calls, or such
a beginning whose last call was refused (`Keeps`, `executeU32_all`,
`executeCommand_all`). So a guest of the WASI runtime is run at most once,
after every grant has been opened, in a context built with no more than them
(`guest_granted`).
-/

namespace Blob

/-! ## What is asked of wasmtime -/

structure WasmComponent where
  handle : Nat
deriving Repr, DecidableEq

structure WasmInstance where
  handle : Nat
deriving Repr, DecidableEq

structure WasmFunc where
  handle : Nat
deriving Repr, DecidableEq

/-- An instantiated component with the `wasi:cli/run` world. -/
structure WasiCommand where
  handle : Nat
deriving Repr, DecidableEq

inductive FsPerms where
  | readOnly
  | readWrite
deriving Repr, DecidableEq

/-- A call on a `WasiCtxBuilder`. -/
inductive WasiCtxSetting where
  | allowTcp (enable : Bool)
  | allowUdp (enable : Bool)
  | allowIpNameLookup (enable : Bool)
  | preopenedDir (hostPath : PathBuf) (guestPath : String) (perms : FsPerms)
deriving Repr, DecidableEq

/-- A context: the calls on its builder, in order. -/
abbrev WasiCtx := List WasiCtxSetting

/-- Why `call_run` did not return: the guest called `exit`, or anything else. -/
inductive CallRunError where
  | i32Exit (code : Int)
  | other (message : String)
deriving Repr, DecidableEq

inductive WasmtimeOp where
  /-- `Component::new`. -/
  | compile (bytes : List UInt8)
  /-- Instantiate with a linker that nothing was added to. -/
  | instantiate (component : WasmComponent)
  | getTypedFunc (inst : WasmInstance) (name : String)
  | call (func : WasmFunc)
  | addToLinkerSync
  /-- `WasiCtxBuilder::preopened_dir`, which opens the directory. -/
  | preopenedDir (hostPath : PathBuf) (guestPath : String) (perms : FsPerms)
  /-- `Command::instantiate`, in a store with this context. -/
  | instantiateCommand (component : WasmComponent) (ctx : WasiCtx)
  | callRun (command : WasiCommand)
  /-- Microseconds since the guest was about to be called. -/
  | elapsedMicros
deriving Repr, DecidableEq

abbrev WasmtimeOp.Ans : WasmtimeOp → Type
  | .compile _ => Except String WasmComponent
  | .instantiate _ => Except String WasmInstance
  | .getTypedFunc _ _ => Except String WasmFunc
  | .call _ => Except String Nat
  | .addToLinkerSync => Except String Unit
  | .preopenedDir _ _ _ => Except String Unit
  | .instantiateCommand _ _ => Except String WasiCommand
  | .callRun _ => Except CallRunError (Except Unit Unit)
  | .elapsedMicros => Nat

abbrev WasmtimeSig : Sig where
  Op := WasmtimeOp
  Ans := WasmtimeOp.Ans

namespace Wasmtime

/-- `started.elapsed().as_micros().min(u64::MAX as u128) as u64`. -/
def durationUs {ε : Type} : Prog WasmtimeSig ε Nat :=
  .call (S := WasmtimeSig) .elapsedMicros fun micros => .pure (min micros (2 ^ 64 - 1))

/-- A call that runs the guest. -/
def RunsGuest : WasmtimeOp → Prop
  | .call _ => True
  | .callRun _ => True
  | _ => False

def isPreopen : WasmtimeOp → Bool
  | .preopenedDir _ _ _ => true
  | _ => false

/-- The directories that were asked for, in order. -/
def opens (tr : List (Event WasmtimeSig)) : List WasmtimeOp := (tr.map Event.op).filter isPreopen

/-- The execution keeps to a course of calls: it has made a beginning of them, or all
of them, or the last call it made has failed. -/
def Keeps {ε α : Type} (course : List (Event WasmtimeSig))
    (failure : Event WasmtimeSig → Option ε) (result : α) :
    List (Event WasmtimeSig) → Prog.Status ε α → Prop
  | tr, .running => tr <+: course
  | tr, .returned a => tr = course ∧ a = result
  | tr, .failed e => ∃ before event next after, tr = before ++ [event]
      ∧ course = before ++ next :: after ∧ event.op = next.op ∧ failure event = some e
  | _, .panicked _ => False

section Keeps

variable {ε α : Type} {before after rest tr : List (Event WasmtimeSig)}
  {event called : Event WasmtimeSig} {failure : Event WasmtimeSig → Option ε} {result : α}
  {st : Prog.Status ε α}

/-- The one run of a guest in a list of calls. -/
theorem guest_unique (hbefore : ∀ e ∈ before, ¬ RunsGuest e.op)
    (hafter : ∀ e ∈ after, ¬ RunsGuest e.op) {init last : List (Event WasmtimeSig)}
    (hevent : RunsGuest event.op) (h : init ++ event :: last = before ++ called :: after) :
    init = before ∧ event = called ∧ last = after := by
  induction before generalizing init with
  | nil =>
      cases init with
      | nil => simpa using h
      | cons e init =>
          obtain ⟨-, rfl⟩ := List.cons.inj h
          exact absurd hevent (hafter event (by simp))
  | cons e before ih =>
      cases init with
      | nil =>
          obtain ⟨rfl, -⟩ := List.cons.inj h
          exact absurd hevent (hbefore _ (List.mem_cons_self ..))
      | cons e' init =>
          obtain ⟨rfl, htail⟩ := List.cons.inj h
          obtain ⟨rfl, hrest⟩ := ih (fun e he => hbefore e (List.mem_cons_of_mem _ he)) htail
          exact ⟨rfl, hrest⟩

/-- What keeps to a course with one run of a guest runs it at that point only. -/
theorem Keeps.guest (hkeeps : Keeps (before ++ called :: after) failure result tr st)
    (hbefore : ∀ e ∈ before, ¬ RunsGuest e.op) (hafter : ∀ e ∈ after, ¬ RunsGuest e.op)
    {init last : List (Event WasmtimeSig)} (htr : tr = init ++ event :: last)
    (hevent : RunsGuest event.op) :
    init = before ∧ event.op = called.op ∧ ∀ e ∈ last, ¬ RunsGuest e.op := by
  subst htr
  have hcourse : ∀ {rest}, (init ++ event :: last) ++ rest = before ++ called :: after →
      init = before ∧ event.op = called.op ∧ ∀ e ∈ last, ¬ RunsGuest e.op := by
    intro rest h
    rw [List.append_assoc] at h
    obtain ⟨rfl, rfl, hlast⟩ := guest_unique hbefore hafter hevent h
    exact ⟨rfl, rfl, fun e he => hafter e (hlast ▸ List.mem_append_left rest he)⟩
  cases st with
  | running =>
      obtain ⟨rest, h⟩ := hkeeps
      exact hcourse h
  | returned a => exact hcourse (by rw [hkeeps.1, List.append_nil])
  | failed e =>
      obtain ⟨done, failed, next, later, htr, h, hop, -⟩ := hkeeps
      rcases List.eq_nil_or_concat' last with rfl | ⟨last, lastEvent, rfl⟩
      · -- the guest is what failed
        obtain ⟨rfl, hthis⟩ := List.append_inj' htr rfl
        obtain ⟨rfl, -⟩ := List.cons.inj hthis
        obtain ⟨rfl, rfl, -⟩ := guest_unique hbefore hafter (hop ▸ hevent) h.symm
        exact ⟨rfl, hop, by simp⟩
      · rw [← List.cons_append, ← List.append_assoc] at htr
        obtain ⟨rfl, hthis⟩ := List.append_inj' htr rfl
        obtain ⟨rfl, -⟩ := List.cons.inj hthis
        rw [List.append_assoc] at h
        obtain ⟨rfl, rfl, hlast⟩ := guest_unique hbefore hafter hevent h.symm
        refine ⟨rfl, rfl, fun e he => ?_⟩
        rcases List.mem_append.mp he with he | he
        · exact hafter e (hlast ▸ List.mem_append_left _ he)
        · rw [List.mem_singleton.mp he, hop]
          exact hafter next (hlast ▸ List.mem_append_right _ (List.mem_cons_self ..))
  | panicked msg => cases hkeeps

variable {β : Type} {course : List (Event WasmtimeSig)} {result' : β}

/-- A program within another keeps to a part of the course of the other. -/
theorem Keeps.running_within (h : Keeps course failure result tr .running)
    (before after : List (Event WasmtimeSig)) :
    Keeps (before ++ (course ++ after)) failure result' (before ++ tr) .running := by
  obtain ⟨rest, rfl⟩ := h
  exact ⟨rest ++ after, by simp⟩

theorem Keeps.failed_within {e : ε} (h : Keeps course failure result tr (.failed e))
    (before after : List (Event WasmtimeSig)) :
    Keeps (before ++ (course ++ after)) failure result' (before ++ tr) (.failed e) := by
  obtain ⟨done, event, next, later, rfl, rfl, hop, hfail⟩ := h
  exact ⟨before ++ done, event, next, later ++ after, by simp, by simp, hop, hfail⟩

theorem Keeps.append (h : Keeps course failure result tr st)
    (before : List (Event WasmtimeSig)) :
    Keeps (before ++ course) failure result (before ++ tr) st := by
  cases st with
  | running => exact (List.prefix_append_right_inj _).mpr h
  | returned a =>
      obtain ⟨rfl, rfl⟩ := h
      exact ⟨rfl, rfl⟩
  | failed e =>
      obtain ⟨done, event, next, later, rfl, rfl, hop, hfail⟩ := h
      exact ⟨before ++ done, event, next, later, by simp, by simp, hop, hfail⟩
  | panicked msg => cases h

theorem Keeps.ops (h : Keeps course failure result tr st) :
    tr.map Event.op <+: course.map Event.op := by
  cases st with
  | running => exact List.IsPrefix.map _ h
  | returned a => exact h.1 ▸ List.prefix_rfl
  | failed e =>
      obtain ⟨done, event, next, later, rfl, rfl, hop, -⟩ := h
      exact ⟨later.map Event.op, by simp [hop]⟩
  | panicked msg => cases h

end Keeps

end Wasmtime

/-! ## The runtime without capabilities -/

structure WasmComponentCapsule where
  implementation : ImplementationId
  componentBytes : List UInt8
  entrypoint : String
deriving Repr, DecidableEq

structure ComponentExecutionRequest where
  task : TaskId
  lease : BindingLeaseId
  capsule : WasmComponentCapsule
deriving Repr, DecidableEq

structure ComponentExecutionResult where
  task : TaskId
  lease : BindingLeaseId
  implementation : ImplementationId
  runtime : String
  returnCode : Nat
  durationUs : Nat
deriving Repr, DecidableEq

inductive RuntimeStage where
  | compile
  | instantiate
  | exportLookup
  | execute
deriving Repr, DecidableEq

structure RuntimeError where
  stage : RuntimeStage
  message : String
deriving Repr, DecidableEq

namespace DenyByDefaultComponentRuntime

open Prog Wasmtime

def runtimeId : String := "wasmtime-component@48"

def executeU32 (request : ComponentExecutionRequest) :
    Prog WasmtimeSig RuntimeError ComponentExecutionResult := do
  let component ← (Prog.call (S := WasmtimeSig) (.compile request.capsule.componentBytes)
    .ofExcept).mapErr (RuntimeError.mk .compile)
  -- the linker is left empty: every import of the component is denied
  let inst ← (Prog.call (S := WasmtimeSig) (.instantiate component) .ofExcept).mapErr
    (RuntimeError.mk .instantiate)
  let run ← (Prog.call (S := WasmtimeSig) (.getTypedFunc inst request.capsule.entrypoint)
    .ofExcept).mapErr (RuntimeError.mk .exportLookup)
  let returnCode ← (Prog.call (S := WasmtimeSig) (.call run) .ofExcept).mapErr
    (RuntimeError.mk .execute)
  let duration ← durationUs
  return {
    task := request.task
    lease := request.lease
    implementation := request.capsule.implementation
    runtime := runtimeId
    returnCode
    durationUs := duration }

/-- The calls of a component whose function is called. -/
def course (request : ComponentExecutionRequest) (component : WasmComponent)
    (inst : WasmInstance) (run : WasmFunc) (returnCode micros : Nat) :
    List (Event WasmtimeSig) :=
  [ ⟨.compile request.capsule.componentBytes, .ok component⟩
  , ⟨.instantiate component, .ok inst⟩
  , ⟨.getTypedFunc inst request.capsule.entrypoint, .ok run⟩
  , ⟨.call run, .ok returnCode⟩
  , ⟨.elapsedMicros, micros⟩ ]

def failure : Event WasmtimeSig → Option RuntimeError
  | ⟨.compile _, .error message⟩ => some ⟨.compile, message⟩
  | ⟨.instantiate _, .error message⟩ => some ⟨.instantiate, message⟩
  | ⟨.getTypedFunc _ _, .error message⟩ => some ⟨.exportLookup, message⟩
  | ⟨.call _, .error message⟩ => some ⟨.execute, message⟩
  | _ => none

theorem executeU32_all (request : ComponentExecutionRequest) :
    (executeU32 request).All fun tr st => ∃ component inst run returnCode micros,
      Keeps (course request component inst run returnCode micros) failure
        { task := request.task
          lease := request.lease
          implementation := request.capsule.implementation
          runtime := runtimeId
          returnCode
          durationUs := min micros (2 ^ 64 - 1) : ComponentExecutionResult } tr st := by
  unfold executeU32
  refine Prog.all_ask.mpr ⟨⟨⟨0⟩, ⟨0⟩, ⟨0⟩, 0, 0, List.nil_prefix⟩, fun component => ?_⟩
  rcases component with message | component
  · exact ⟨⟨0⟩, ⟨0⟩, ⟨0⟩, 0, 0, [], _, _, _, rfl, rfl, rfl, rfl⟩
  refine Prog.all_ask.mpr ⟨⟨component, ⟨0⟩, ⟨0⟩, 0, 0, _, rfl⟩, fun inst => ?_⟩
  rcases inst with message | inst
  · exact ⟨component, ⟨0⟩, ⟨0⟩, 0, 0, [_], _, _, _, rfl, rfl, rfl, rfl⟩
  refine Prog.all_ask.mpr ⟨⟨component, inst, ⟨0⟩, 0, 0, _, rfl⟩, fun run => ?_⟩
  rcases run with message | run
  · exact ⟨component, inst, ⟨0⟩, 0, 0, [_, _], _, _, _, rfl, rfl, rfl, rfl⟩
  refine Prog.all_ask.mpr ⟨⟨component, inst, run, 0, 0, _, rfl⟩, fun returnCode => ?_⟩
  rcases returnCode with message | returnCode
  · exact ⟨component, inst, run, 0, 0, [_, _, _], _, _, _, rfl, rfl, rfl, rfl⟩
  refine Prog.all_call.mpr ⟨⟨component, inst, run, returnCode, 0, _, rfl⟩, fun micros => ?_⟩
  exact ⟨component, inst, run, returnCode, micros, rfl, rfl⟩

/-- A component is linked with nothing and given no directory, and its function is called
at most once. -/
theorem guest_alone (request : ComponentExecutionRequest) :
    (executeU32 request).All fun tr _ =>
      (∀ e ∈ tr, e.op ≠ WasmtimeOp.addToLinkerSync ∧ isPreopen e.op = false)
      ∧ ∀ before event after, tr = before ++ event :: after → RunsGuest event.op →
        (∃ component inst run, event.op = .call run
          ∧ before = [ ⟨.compile request.capsule.componentBytes, .ok component⟩
                     , ⟨.instantiate component, .ok inst⟩
                     , ⟨.getTypedFunc inst request.capsule.entrypoint, .ok run⟩ ])
        ∧ ∀ e ∈ after, ¬ RunsGuest e.op := by
  refine (executeU32_all request).imp ?_
  rintro tr st ⟨component, inst, run, returnCode, micros, hkeeps⟩
  constructor
  · intro e he
    have hop := hkeeps.ops.subset (List.mem_map_of_mem he)
    simp only [course, List.map_cons, List.map_nil, List.mem_cons, List.not_mem_nil,
      or_false] at hop
    rcases hop with hop | hop | hop | hop | hop <;> simp [hop, isPreopen]
  · intro before event after htr hevent
    have hsplit : Keeps ([_, _, _] ++ _ :: [_]) failure _ tr st := hkeeps
    obtain ⟨rfl, hop, hafter⟩ := hsplit.guest (by simp [RunsGuest]) (by simp [RunsGuest]) htr
      hevent
    exact ⟨⟨component, inst, run, hop, rfl⟩, hafter⟩

end DenyByDefaultComponentRuntime

/-! ## The runtime with explicit grants -/

inductive FilesystemGrantMode where
  | readOnly
  | readWrite
deriving Repr, DecidableEq

structure FilesystemGrant where
  hostPath : PathBuf
  guestPath : String
  mode : FilesystemGrantMode
deriving Repr, DecidableEq

structure WasiGrantSet where
  preopenedDirs : List FilesystemGrant
deriving Repr, DecidableEq

structure WasiCommandCapsule where
  implementation : ImplementationId
  componentBytes : List UInt8
deriving Repr, DecidableEq

structure WasiCommandExecutionRequest where
  task : TaskId
  lease : BindingLeaseId
  capsule : WasiCommandCapsule
  grants : WasiGrantSet
deriving Repr, DecidableEq

structure AppliedFilesystemGrant where
  guestPath : String
  mode : FilesystemGrantMode
deriving Repr, DecidableEq

structure WasiCommandExecutionResult where
  task : TaskId
  lease : BindingLeaseId
  implementation : ImplementationId
  runtime : String
  exitCode : Int
  success : Bool
  durationUs : Nat
  appliedFilesystemGrants : List AppliedFilesystemGrant
deriving Repr, DecidableEq

inductive WasiRuntimeStage where
  | compile
  | link
  | grantMaterialization
  | instantiate
  | execute
deriving Repr, DecidableEq

structure WasiRuntimeError where
  stage : WasiRuntimeStage
  message : String
deriving Repr, DecidableEq

namespace FilesystemGrant

variable (self : FilesystemGrant)

def perms : FsPerms :=
  match self.mode with
  | .readOnly => .readOnly
  | .readWrite => .readWrite

def setting : WasiCtxSetting := .preopenedDir self.hostPath self.guestPath self.perms

def applied : AppliedFilesystemGrant := ⟨self.guestPath, self.mode⟩

def op : WasmtimeOp := .preopenedDir self.hostPath self.guestPath self.perms

end FilesystemGrant

namespace ExplicitGrantWasiRuntime

open Prog Wasmtime

def wasiRuntimeId : String := "wasmtime-wasip2@48"

/-- The error when the directory of a grant cannot be opened. -/
def grantError (hostPath : PathBuf) (guestPath message : String) : WasiRuntimeError where
  stage := .grantMaterialization
  message := "failed to materialize filesystem grant " ++ hostPath.display ++ " -> "
    ++ guestPath ++ ": " ++ message

/-- The loop over the grants: what was built, and what was applied. -/
def materialize (ctx : WasiCtx) (applied : List AppliedFilesystemGrant) :
    List FilesystemGrant →
      Prog WasmtimeSig WasiRuntimeError (WasiCtx × List AppliedFilesystemGrant)
  | [] => .pure (ctx, applied)
  | grant :: grants => do
      let _ ← (Prog.call (S := WasmtimeSig)
        (.preopenedDir grant.hostPath grant.guestPath grant.perms) .ofExcept).mapErr
          (grantError grant.hostPath grant.guestPath)
      materialize (ctx ++ [grant.setting]) (applied ++ [grant.applied]) grants

/-- The exit code of a guest, or why there is none. -/
def exitCode : Except CallRunError (Except Unit Unit) → Except String Int
  | .ok (.ok _) => .ok 0
  | .ok (.error _) => .ok 1
  | .error (.i32Exit code) => .ok code
  | .error (.other message) => .error message

def executeCommand (request : WasiCommandExecutionRequest) :
    Prog WasmtimeSig WasiRuntimeError WasiCommandExecutionResult := do
  let component ← (Prog.call (S := WasmtimeSig) (.compile request.capsule.componentBytes)
    .ofExcept).mapErr (WasiRuntimeError.mk .compile)
  let _ ← (Prog.call (S := WasmtimeSig) .addToLinkerSync .ofExcept).mapErr
    (WasiRuntimeError.mk .link)
  let (ctx, appliedFilesystemGrants) ← materialize
    [.allowTcp false, .allowUdp false, .allowIpNameLookup false] [] request.grants.preopenedDirs
  let command ← (Prog.call (S := WasmtimeSig) (.instantiateCommand component ctx)
    .ofExcept).mapErr (WasiRuntimeError.mk .instantiate)
  let exitCode ← (Prog.call (S := WasmtimeSig) (.callRun command) fun ran =>
    .ofExcept (exitCode ran)).mapErr (WasiRuntimeError.mk .execute)
  let duration ← durationUs
  return {
    task := request.task
    lease := request.lease
    implementation := request.capsule.implementation
    runtime := wasiRuntimeId
    exitCode
    success := exitCode == 0
    durationUs := duration
    appliedFilesystemGrants }

/-- The context of the granted directories: no network, and one preopen a grant. -/
def context (grants : List FilesystemGrant) : WasiCtx :=
  [.allowTcp false, .allowUdp false, .allowIpNameLookup false]
    ++ grants.map FilesystemGrant.setting

def opened (grant : FilesystemGrant) : Event WasmtimeSig := ⟨grant.op, .ok ()⟩

/-- The calls before the guest of a request is run. -/
def preparation (request : WasiCommandExecutionRequest) (component : WasmComponent)
    (command : WasiCommand) : List (Event WasmtimeSig) :=
  ⟨.compile request.capsule.componentBytes, .ok component⟩ :: ⟨.addToLinkerSync, .ok ()⟩
    :: request.grants.preopenedDirs.map opened
    ++ [⟨.instantiateCommand component (context request.grants.preopenedDirs), .ok command⟩]

/-- The calls of a command that is run. -/
def course (request : WasiCommandExecutionRequest) (component : WasmComponent)
    (command : WasiCommand) (ran : Except CallRunError (Except Unit Unit)) (micros : Nat) :
    List (Event WasmtimeSig) :=
  preparation request component command ++ [⟨.callRun command, ran⟩, ⟨.elapsedMicros, micros⟩]

theorem course_eq (request : WasiCommandExecutionRequest) (component : WasmComponent)
    (command : WasiCommand) (ran : Except CallRunError (Except Unit Unit)) (micros : Nat) :
    course request component command ran micros
      = [⟨.compile request.capsule.componentBytes, .ok component⟩, ⟨.addToLinkerSync, .ok ()⟩]
        ++ (request.grants.preopenedDirs.map opened
          ++ [ ⟨.instantiateCommand component (context request.grants.preopenedDirs), .ok command⟩
             , ⟨.callRun command, ran⟩, ⟨.elapsedMicros, micros⟩ ]) := by
  simp [course, preparation]

def failure : Event WasmtimeSig → Option WasiRuntimeError
  | ⟨.compile _, .error message⟩ => some ⟨.compile, message⟩
  | ⟨.addToLinkerSync, .error message⟩ => some ⟨.link, message⟩
  | ⟨.preopenedDir hostPath guestPath _, .error message⟩ =>
      some (grantError hostPath guestPath message)
  | ⟨.instantiateCommand _ _, .error message⟩ => some ⟨.instantiate, message⟩
  | ⟨.callRun _, .error (.other message)⟩ => some ⟨.execute, message⟩
  | _ => none

def commandResult (request : WasiCommandExecutionRequest) (exitCode : Int) (micros : Nat) :
    WasiCommandExecutionResult where
  task := request.task
  lease := request.lease
  implementation := request.capsule.implementation
  runtime := wasiRuntimeId
  exitCode
  success := exitCode == 0
  durationUs := min micros (2 ^ 64 - 1)
  appliedFilesystemGrants := request.grants.preopenedDirs.map FilesystemGrant.applied

/-- The loop opens the grants in order, up to one that cannot be opened. -/
theorem materialize_all (grants : List FilesystemGrant) (ctx : WasiCtx)
    (applied : List AppliedFilesystemGrant) :
    (materialize ctx applied grants).All
      (Keeps (grants.map opened) failure
        (ctx ++ grants.map FilesystemGrant.setting,
          applied ++ grants.map FilesystemGrant.applied)) := by
  induction grants generalizing ctx applied with
  | nil => exact ⟨rfl, by simp⟩
  | cons grant grants ih =>
      refine Prog.all_ask.mpr ⟨List.nil_prefix, fun answer => ?_⟩
      rcases answer with message | ⟨⟩
      · exact ⟨[], _, _, _, rfl, rfl, rfl, rfl⟩
      have hbuilt := ih (ctx ++ [grant.setting]) (applied ++ [grant.applied])
      simp only [List.append_assoc, List.singleton_append] at hbuilt
      exact hbuilt.imp fun tr st hkeeps => hkeeps.append [opened grant]

/-- With every grant opened, what is left is to keep to the last three calls. -/
theorem keeps_course {request : WasiCommandExecutionRequest} {component : WasmComponent}
    {command : WasiCommand} {ran : Except CallRunError (Except Unit Unit)} {micros : Nat}
    {result : WasiCommandExecutionResult} {tr : List (Event WasmtimeSig)}
    {st : Status WasiRuntimeError WasiCommandExecutionResult}
    (h : Keeps
      [ ⟨.instantiateCommand component (context request.grants.preopenedDirs), .ok command⟩
      , ⟨.callRun command, ran⟩, ⟨.elapsedMicros, micros⟩ ] failure result tr st) :
    Keeps (course request component command ran micros) failure result
      ([⟨.compile request.capsule.componentBytes, .ok component⟩, ⟨.addToLinkerSync, .ok ()⟩]
        ++ (request.grants.preopenedDirs.map opened ++ tr)) st := by
  rw [course_eq]
  exact (h.append _).append _

theorem executeCommand_all (request : WasiCommandExecutionRequest) :
    (executeCommand request).All fun tr st => ∃ component command ran code micros,
      exitCode ran = .ok code ∧ Keeps (course request component command ran micros) failure
        (commandResult request code micros) tr st := by
  unfold executeCommand
  refine Prog.all_ask.mpr ⟨⟨⟨0⟩, ⟨0⟩, .ok (.ok ()), 0, 0, rfl, List.nil_prefix⟩,
    fun component => ?_⟩
  rcases component with message | component
  · exact ⟨⟨0⟩, ⟨0⟩, .ok (.ok ()), 0, 0, rfl, [], _, _, _, rfl, rfl, rfl, rfl⟩
  refine Prog.all_ask.mpr ⟨⟨component, ⟨0⟩, .ok (.ok ()), 0, 0, rfl, _, rfl⟩, fun linked => ?_⟩
  rcases linked with message | ⟨⟩
  · exact ⟨component, ⟨0⟩, .ok (.ok ()), 0, 0, rfl, [_], _, _, _, rfl, rfl, rfl, rfl⟩
  refine Prog.all_bind.mpr ((materialize_all _ _ _).imp ?_)
  intro tr st hkeeps
  cases st with
  | running =>
      refine ⟨component, ⟨0⟩, .ok (.ok ()), 0, 0, rfl, ?_⟩
      rw [course_eq]
      exact hkeeps.running_within [_, _] _
  | failed e =>
      refine ⟨component, ⟨0⟩, .ok (.ok ()), 0, 0, rfl, ?_⟩
      rw [course_eq]
      exact hkeeps.failed_within [_, _] _
  | panicked msg => exact hkeeps.elim
  | returned built =>
      obtain ⟨rfl, rfl⟩ := hkeeps
      refine Prog.all_ask.mpr ⟨⟨component, ⟨0⟩, .ok (.ok ()), 0, 0, rfl, keeps_course ?_⟩,
        fun command => ?_⟩
      · exact List.nil_prefix
      rcases command with message | command
      · refine ⟨component, ⟨0⟩, .ok (.ok ()), 0, 0, rfl, keeps_course ?_⟩
        exact ⟨[], _, _, _, rfl, rfl, rfl, rfl⟩
      refine Prog.all_ask.mpr ⟨⟨component, command, .ok (.ok ()), 0, 0, rfl, keeps_course ?_⟩,
        fun ran => ?_⟩
      · exact ⟨_, rfl⟩
      cases hcode : exitCode ran with
      | error message =>
          refine ⟨component, command, .ok (.ok ()), 0, 0, rfl, keeps_course ?_⟩
          refine ⟨[_], _, _, _, rfl, rfl, rfl, ?_⟩
          rcases ran with (_ | _) | (_ | _) <;> cases hcode
          rfl
      | ok code =>
          refine Prog.all_call.mpr ⟨⟨component, command, ran, code, 0, hcode, keeps_course ?_⟩,
            fun micros => ⟨component, command, ran, code, micros, hcode, keeps_course ?_⟩⟩
          · exact ⟨_, rfl⟩
          · exact ⟨rfl, rfl⟩

/-! ## What a guest is given -/

theorem preparation_guestless (request : WasiCommandExecutionRequest)
    (component : WasmComponent) (command : WasiCommand) :
    ∀ e ∈ preparation request component command, ¬ RunsGuest e.op := by
  intro e he
  simp only [preparation, List.cons_append, List.mem_cons, List.mem_append, List.mem_map,
    List.not_mem_nil, or_false] at he
  rcases he with rfl | rfl | ⟨grant, -, rfl⟩ | rfl <;> exact id

theorem opens_course (request : WasiCommandExecutionRequest) (component : WasmComponent)
    (command : WasiCommand) (ran : Except CallRunError (Except Unit Unit)) (micros : Nat) :
    opens (course request component command ran micros)
      = request.grants.preopenedDirs.map FilesystemGrant.op := by
  have hgrants : (request.grants.preopenedDirs.map FilesystemGrant.op).filter isPreopen
      = request.grants.preopenedDirs.map FilesystemGrant.op := by
    refine List.filter_eq_self.mpr fun o ho => ?_
    obtain ⟨grant, -, rfl⟩ := List.mem_map.mp ho
    rfl
  rw [course_eq, opens, List.map_append, List.map_append, List.filter_append,
    List.filter_append, List.map_map]
  exact (List.append_nil _).trans hgrants

theorem failure_stage {event : Event WasmtimeSig} {error : WasiRuntimeError}
    (h : failure event = some error) : error.stage = .execute ↔ RunsGuest event.op := by
  unfold failure at h
  split at h
  · obtain rfl := Option.some.inj h
    simp [RunsGuest]
  · obtain rfl := Option.some.inj h
    simp [RunsGuest]
  · obtain rfl := Option.some.inj h
    simp [RunsGuest, grantError]
  · obtain rfl := Option.some.inj h
    simp [RunsGuest]
  · obtain rfl := Option.some.inj h
    simp [RunsGuest]
  · cases h

/-- An execution of a WASI command, at any point: it has asked for a beginning of the
granted directories. If it runs the guest, then once, and after exactly this: the
component was compiled, every grant was opened, and the component was instantiated with no
network and the grants as preopens. It reports a result, or a failure of the guest, only
after that. -/
theorem guest_granted (request : WasiCommandExecutionRequest) :
    (executeCommand request).All fun tr st =>
      (∃ grants, grants <+: request.grants.preopenedDirs
        ∧ opens tr = grants.map FilesystemGrant.op)
      ∧ (∀ before event after, tr = before ++ event :: after → RunsGuest event.op →
        (∃ component command, event.op = .callRun command
          ∧ before = preparation request component command)
        ∧ ∀ e ∈ after, ¬ RunsGuest e.op)
      ∧ (∀ result, st = .returned result → ∃ component command ran code micros,
        tr = course request component command ran micros ∧ exitCode ran = .ok code
          ∧ result = commandResult request code micros)
      ∧ (∀ error, st = .failed error →
        (error.stage = .execute ↔ ∃ e ∈ tr, RunsGuest e.op))
      ∧ ∀ msg, st ≠ .panicked msg := by
  refine (executeCommand_all request).imp ?_
  rintro tr st ⟨component, command, ran, code, micros, hcode, hkeeps⟩
  have hafter : ∀ e ∈ [(⟨.elapsedMicros, micros⟩ : Event WasmtimeSig)], ¬ RunsGuest e.op := by
    simp [RunsGuest]
  have hbefore := preparation_guestless request component command
  refine ⟨?_, ?_, ?_, ?_, ?_⟩
  · have hopens : opens tr <+: opens (course request component command ran micros) :=
      hkeeps.ops.filter isPreopen
    rw [opens_course] at hopens
    exact List.prefix_map_iff.mp hopens
  · intro before event after htr hevent
    obtain ⟨rfl, hop, hlast⟩ := hkeeps.guest hbefore hafter htr hevent
    exact ⟨⟨component, command, hop, rfl⟩, hlast⟩
  · rintro result rfl
    exact ⟨component, command, ran, code, micros, hkeeps.1, hcode, hkeeps.2⟩
  · rintro error rfl
    obtain ⟨done, event, next, later, rfl, hcourse, hop, hfail⟩ := hkeeps
    rw [failure_stage hfail]
    constructor
    · exact fun hevent => ⟨event, by simp, hevent⟩
    · rintro ⟨e, he, hguest⟩
      rcases List.mem_append.mp he with he | he
      · -- the guest was run before the last call, which then is the clock's
        obtain ⟨init, last, rfl⟩ := List.append_of_mem he
        rw [List.append_assoc] at hcourse
        obtain ⟨-, -, hlast⟩ := guest_unique hbefore hafter hguest hcourse.symm
        obtain ⟨-, h⟩ | ⟨-, h⟩ := List.append_eq_singleton_iff.mp hlast
        · obtain ⟨rfl, -⟩ := List.cons.inj h
          obtain ⟨o, answer⟩ := event
          obtain rfl : o = .elapsedMicros := hop
          cases hfail
        · cases h
      · exact List.mem_singleton.mp he ▸ hguest
  · rintro msg rfl
    exact hkeeps

end ExplicitGrantWasiRuntime

end Blob
