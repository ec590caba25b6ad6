import Blob.HelperTrace
import Blob.Pool

/-!
# Stacked temporary activations

Any number of helper calls on one node, interleaved operation by
operation. The node answers truthfully what its live closure and its
boot default are; the live closure changes only through `test` commands.

A call launches only after it has seen the live closure equal to the
boot default, but the ledger lies between the look and the launch and
excludes no other authorization. Two calls can therefore both look
before either launches (`stacked_activation`). What the helper does
guarantee is `test_launched_on_boot_default`: the live closure is the
boot default at a launch unless another call's `test` command came
between the look and the launch.
-/

namespace Blob

namespace Stacking

open Pool PrivilegedNixOsActivationHelper

/-! ## The system -/

structure Node where
  live : PathBuf
  bootDefault : PathBuf
deriving Repr, DecidableEq

structure Call where
  helper : PrivilegedNixOsActivationHelper
  prepared : PreparedPrivilegedActivation
  nowUnixMs : Nat

/-- Helper calls on one node. A `test` command may leave any closure live,
whatever it answers; no other command changes the node. -/
abbrev system : System where
  S := HelperSig
  Call := Call
  Err _ := PrivilegedActivationError
  Res _ := PrivilegedActivationExecution
  prog c := c.helper.execute c.prepared c.nowUnixMs
  World := Node
  step node e node' :=
    match e with
    | ⟨.currentSystemClosure, .ok path⟩ => path = node.live ∧ node' = node
    | ⟨.bootDefaultClosure, .ok path⟩ => path = node.bootDefault ∧ node' = node
    | ⟨.run _ argument, _⟩ => node'.bootDefault = node.bootDefault
        ∧ (argument ≠ "test" → node'.live = node.live)
    | _ => node' = node
  drift _ _ := False
  admits _ _ := True

def isRun : Event HelperSig → Bool
  | ⟨.run _ _, _⟩ => true
  | _ => false

def isTest : Event HelperSig → Bool
  | ⟨.run _ argument, _⟩ => argument == "test"
  | _ => false

/-- After `h`, call `i` can launch its candidate's `test` command: it is the
first command the call hands over. -/
def LaunchesTest (h : system.History) (i : Nat) (c : Call) : Prop :=
  (calls h)[i]? = some c
    ∧ (∃ program answer q, (system.prog c).Steps
      (proj i h ++ [⟨.run program "test", answer⟩]) q)
    ∧ ∀ e ∈ proj i h, isRun e = false

/-- No other call has handed over a `test` command since call `i` looked at the
live closure. -/
def Undisturbed (h : system.History) (i : Nat) : Prop :=
  ∀ before answer since, h = before ++ .act i ⟨.currentSystemClosure, answer⟩ :: since →
    ∀ j e, .act j e ∈ since → j ≠ i → isTest e = false

/-! ## What a call has seen -/

theorem bootDefault_of_step {node node' : Node} {e : Event HelperSig}
    (h : system.step node e node') : node'.bootDefault = node.bootDefault := by
  obtain ⟨op, ans⟩ := e
  cases op with
  | run program argument => exact h.1
  | currentSystemClosure => rcases ans with e | path <;> simp_all
  | bootDefaultClosure => rcases ans with e | path <;> simp_all
  | _ => simp_all

theorem live_of_step {node node' : Node} {e : Event HelperSig}
    (h : system.step node e node') (htest : isTest e = false) : node'.live = node.live := by
  obtain ⟨op, ans⟩ := e
  cases op with
  | run program argument => exact h.2 (by simpa [isTest] using htest)
  | currentSystemClosure => rcases ans with e | path <;> simp_all
  | bootDefaultClosure => rcases ans with e | path <;> simp_all
  | _ => simp_all

/-- The boot default never changes: whoever read it, read it as it is. -/
theorem bootDefault_of_read {node₀ node : Node} {h : system.History}
    (hr : Run system node₀ h node) {i : Nat} {path : PathBuf}
    (hread : .act i ⟨.bootDefaultClosure, .ok path⟩ ∈ h) : path = node.bootDefault := by
  induction hr with
  | nil => cases hread
  | spawn c _ _ ih =>
      rcases List.mem_append.mp hread with hread | hread
      · exact ih hread
      · cases List.mem_singleton.mp hread
  | @act h node node' j c e q _ _ _ hstep ih =>
      rcases List.mem_append.mp hread with hread | hread
      · rw [bootDefault_of_step hstep]
        exact ih hread
      · obtain ⟨rfl, rfl⟩ := Act.act.inj (List.mem_singleton.mp hread)
        obtain ⟨hpath, rfl⟩ := hstep
        exact hpath
  | drift _ hdrift _ => exact hdrift.elim

/-- The live closure is the one last read, as long as no `test` command has
followed. -/
theorem live_of_read {node₀ node : Node} {h : system.History}
    (hr : Run system node₀ h node) {i : Nat} {path : PathBuf} {before since : system.History}
    (hread : h = before ++ .act i ⟨.currentSystemClosure, .ok path⟩ :: since)
    (hquiet : ∀ j e, .act j e ∈ since → isTest e = false) : path = node.live := by
  induction hr generalizing since with
  | nil => simp at hread
  | @spawn h node c _ _ ih =>
      rcases List.eq_nil_or_concat since with rfl | ⟨since', a, rfl⟩
      · cases (List.append_inj' hread rfl).2
      · rw [List.concat_eq_append, ← List.cons_append, ← List.append_assoc] at hread
        obtain ⟨rfl, -⟩ := List.append_inj' hread rfl
        exact ih rfl fun j e he => hquiet j e (by simp [he])
  | @act h node node' k c e q _ _ _ hstep ih =>
      rcases List.eq_nil_or_concat since with rfl | ⟨since', a, rfl⟩
      · obtain ⟨-, hlast⟩ := List.append_inj' hread rfl
        obtain ⟨rfl, rfl⟩ := Act.act.inj (List.singleton_inj.mp hlast)
        obtain ⟨hpath, rfl⟩ := hstep
        exact hpath
      · rw [List.concat_eq_append, ← List.cons_append, ← List.append_assoc] at hread
        obtain ⟨rfl, hlast⟩ := List.append_inj' hread rfl
        obtain rfl := List.singleton_inj.mp hlast
        rw [live_of_step hstep (hquiet k e (by simp))]
        exact ih rfl fun j e he => hquiet j e (by simp [he])
  | drift _ hdrift _ => exact hdrift.elim

/-- Before its launch a call has looked at both closures and found them
equal. -/
theorem reads_of_launchesTest {h : system.History} {i : Nat} {c : Call}
    (hlaunch : LaunchesTest h i c) : ∃ live bootDefault,
      (live == bootDefault) = true
        ∧ ⟨.currentSystemClosure, .ok live⟩ ∈ proj i h
        ∧ ⟨.bootDefaultClosure, .ok bootDefault⟩ ∈ proj i h := by
  obtain ⟨-, ⟨program, answer, q, hs⟩, hfirst⟩ := hlaunch
  have hphase := ((execute_all c.helper c.prepared c.nowUnixMs).of_steps hs).1
  generalize hg : proj i h ++ [⟨.run program "test", answer⟩] = tr at hphase
  cases hphase with
  | observing hquiet =>
      rw [← hg, effects_append] at hquiet
      simp at hquiet
  | consumed _ _ _ => cases (List.append_inj' hg rfl).2
  | @launched obs canonical bootDefault argument _ hready _ answer' after _ =>
      refine ⟨obs.before, bootDefault, hready.before_eq, ?_, ?_⟩
      · have hmem : (⟨.currentSystemClosure, .ok obs.before⟩ : Event HelperSig)
            ∈ proj i h ++ [⟨.run program "test", answer⟩] := by
          rw [hg]; simp [observations]
        rcases List.mem_append.mp hmem with hmem | hmem
        · exact hmem
        · cases List.mem_singleton.mp hmem
      · have hmem : (⟨.bootDefaultClosure, .ok bootDefault⟩ : Event HelperSig)
            ∈ proj i h ++ [⟨.run program "test", answer⟩] := by
          rw [hg]; simp [observations]
        rcases List.mem_append.mp hmem with hmem | hmem
        · exact hmem
        · cases List.mem_singleton.mp hmem

/-! ## Launches on the boot default -/

/-- In every interleaving of any number of calls: when a call launches its
candidate's `test` command and no other call's `test` command came between
its look at the live closure and the launch, the live closure is the boot
default at that moment. -/
theorem test_launched_on_boot_default {node₀ node : Node} {h : system.History}
    (hr : Run system node₀ h node) {i : Nat} {c : Call} (hlaunch : LaunchesTest h i c)
    (hundisturbed : Undisturbed h i) : (node.live == node.bootDefault) = true := by
  obtain ⟨live, bootDefault, heq, hlive, hboot⟩ := reads_of_launchesTest hlaunch
  obtain ⟨before, since, hsplit⟩ := List.append_of_mem (mem_proj.mp hlive)
  have hquiet : ∀ j e, .act j e ∈ since → isTest e = false := by
    intro j e he
    by_cases hj : j = i
    · subst hj
      have hmem : e ∈ proj j h := mem_proj.mpr (by rw [hsplit]; simp [he])
      have hrun := hlaunch.2.2 e hmem
      obtain ⟨op, ans⟩ := e
      cases op <;> first | rfl | simp [isRun] at hrun
    · exact hundisturbed before _ since hsplit j e he hj
  rw [← live_of_read hr hsplit hquiet, ← bootDefault_of_read hr (mem_proj.mp hboot)]
  exact heq

/-- Nothing disturbs a call that looks after all `test` commands of the others. -/
theorem undisturbed_of_append {before since : system.History} {i : Nat}
    (hlook : ∀ e ∈ proj i before, e.op ≠ .currentSystemClosure)
    (hquiet : ∀ j e, .act j e ∈ since → isTest e = false) : Undisturbed (before ++ since) i := by
  intro before' answer since' hsplit j e he _
  rcases List.append_eq_append_iff.mp hsplit with ⟨mid, -, hsince⟩ | ⟨mid, hbefore, hrest⟩
  · exact hquiet j e (by rw [hsince]; simp [he])
  · cases mid with
    | nil => exact hquiet j e (by rw [← List.nil_append since, ← hrest]; simp [he])
    | cons a mid =>
        obtain ⟨rfl, -⟩ := List.cons.inj hrest
        exact absurd rfl (hlook ⟨.currentSystemClosure, answer⟩
          (mem_proj.mpr (by rw [hbefore]; simp)))

/-! The pilot node, and two calls on it that differ in their authorization. -/

def pilotNode : Node where
  live := .ofString "/nix/store/base-nixos-system"
  bootDefault := .ofString "/nix/store/base-nixos-system"

def pilotCall (authorization : SystemAuthorizationId) : Call where
  helper := pilotHelper
  prepared := Pilot.prepared authorization
  nowUnixMs := 2500

/-- The second call's command fails and changes nothing. -/
def failedCommand : Event HelperSig :=
  ⟨.run pilotObserved.candidateProgram "test", .ok ⟨.failed, some 4, "", "unit failed", 7⟩⟩

/-- Between the first and the last step of the first call, the second one has its
command run and looks at the live closure. -/
def pilotHistory : system.History :=
  [.spawn (pilotCall ⟨"auth:one"⟩)] ++ [.spawn (pilotCall ⟨"auth:two"⟩)]
    ++ (pilotObservations.take 2).map (.act 0)
    ++ (pilotObservations ++ [consumption ⟨"auth:two"⟩, failedCommand]).map (.act 1)
    ++ (pilotObservations.drop 2).map (.act 0)
    ++ [⟨.currentSystemClosure, .ok pilotObserved.before⟩].map (.act 1)
    ++ [consumption ⟨"auth:one"⟩].map (.act 0)

theorem pilotHistory_run : Run system pilotNode pilotHistory pilotNode := by
  have hone : ∃ q, (system.prog (pilotCall ⟨"auth:one"⟩)).Steps
      (pilotObservations.take 2 ++ (pilotObservations.drop 2 ++ [consumption ⟨"auth:one"⟩])) q :=
    ⟨_, Prog.steps_of_follow rfl⟩
  have htwo : ∃ q, (system.prog (pilotCall ⟨"auth:two"⟩)).Steps
      ((pilotObservations ++ [consumption ⟨"auth:two"⟩, failedCommand])
        ++ [⟨.currentSystemClosure, .ok pilotObserved.before⟩]) q :=
    ⟨_, Prog.steps_of_follow rfl⟩
  obtain ⟨_, hone⟩ := hone
  obtain ⟨_, htwo⟩ := htwo
  obtain ⟨_, hone₁, hone₂⟩ := hone.split
  obtain ⟨_, hone₂, -⟩ := hone₂.split
  obtain ⟨_, htwo₁, -⟩ := htwo.split
  have hrun : Run system pilotNode
      ([.spawn (pilotCall ⟨"auth:one"⟩)] ++ [.spawn (pilotCall ⟨"auth:two"⟩)]) pilotNode :=
    (Run.nil.spawn _ trivial).spawn _ trivial
  have hrun := hrun.acts (i := 0) rfl hone₁ (.cons rfl (.cons rfl .nil))
  have hrun := hrun.acts (i := 1) rfl htwo₁ <| .cons rfl <| .cons rfl <| .cons ⟨rfl, rfl⟩ <|
    .cons ⟨rfl, rfl⟩ <| .cons rfl <| .cons rfl <| .cons ⟨rfl, fun _ => rfl⟩ .nil
  have hrun := hrun.acts (i := 0) rfl (hone₁.trans hone₂) <|
    .cons ⟨rfl, rfl⟩ <| .cons ⟨rfl, rfl⟩ <| .cons rfl .nil
  have hrun := hrun.acts (i := 1) rfl htwo (.cons ⟨rfl, rfl⟩ .nil)
  exact hrun.acts (i := 0) rfl hone (.cons rfl .nil)

theorem pilot_launches : LaunchesTest pilotHistory 0 (pilotCall ⟨"auth:one"⟩) :=
  ⟨rfl, ⟨pilotObserved.candidateProgram, .ok ⟨.succeeded, some 0, "", "", 9⟩, _,
    Prog.steps_of_follow rfl⟩, by decide⟩

/-- The second call's command came before the look of the first. -/
theorem pilot_undisturbed : Undisturbed pilotHistory 0 := by
  have hsplit : pilotHistory
      = ([.spawn (pilotCall ⟨"auth:one"⟩)] ++ [.spawn (pilotCall ⟨"auth:two"⟩)]
          ++ (pilotObservations.take 2).map (.act 0)
          ++ (pilotObservations ++ [consumption ⟨"auth:two"⟩, failedCommand]).map (.act 1))
        ++ ((pilotObservations.drop 2).map (.act 0)
          ++ [⟨.currentSystemClosure, .ok pilotObserved.before⟩].map (.act 1)
          ++ [consumption ⟨"auth:one"⟩].map (.act 0)) := rfl
  rw [hsplit]
  refine undisturbed_of_append (by decide) ?_
  have hquiet : ∀ e ∈ pilotObservations.drop 2
      ++ [⟨.currentSystemClosure, .ok pilotObserved.before⟩] ++ [consumption ⟨"auth:one"⟩],
      isTest e = false := by decide
  intro j e he
  simp only [List.mem_append, List.mem_map, Act.act.injEq] at he
  rcases he with (⟨_, he, -, rfl⟩ | ⟨_, he, -, rfl⟩) | ⟨_, he, -, rfl⟩
  · exact hquiet _ (List.mem_append_left _ (List.mem_append_left _ he))
  · exact hquiet _ (List.mem_append_left _ (List.mem_append_right _ he))
  · exact hquiet _ (List.mem_append_right _ he)

/-- The first call launches on the boot default, although another call has handed
over its own `test` command. -/
theorem pilot_launched_on_boot_default :
    LaunchesTest pilotHistory 0 (pilotCall ⟨"auth:one"⟩)
      ∧ .act 1 failedCommand ∈ pilotHistory ∧ isTest failedCommand = true
      ∧ (pilotNode.live == pilotNode.bootDefault) = true :=
  ⟨pilot_launches, by simp [pilotHistory], rfl,
    test_launched_on_boot_default pilotHistory_run pilot_launches pilot_undisturbed⟩

/-- Two calls look, the first launches, and the second goes on to its launch. -/
def stackedHistory : system.History :=
  [.spawn (pilotCall ⟨"auth:one"⟩)] ++ [.spawn (pilotCall ⟨"auth:two"⟩)]
    ++ pilotObservations.map (.act 0) ++ pilotObservations.map (.act 1)
    ++ [consumption ⟨"auth:one"⟩, testCommand].map (.act 0)
    ++ [consumption ⟨"auth:two"⟩].map (.act 1)

/-- The node with the first call's candidate live. -/
def activatedNode : Node := { pilotNode with live := pilotObserved.candidate }

theorem stackedHistory_run : Run system pilotNode stackedHistory activatedNode := by
  have hlook : Prog.Exec system.step pilotNode pilotObservations pilotNode :=
    .cons rfl <| .cons rfl <| .cons ⟨rfl, rfl⟩ <| .cons ⟨rfl, rfl⟩ <| .cons rfl .nil
  have hlaunch : Prog.Exec system.step pilotNode
      [consumption ⟨"auth:one"⟩, testCommand] activatedNode := by
    refine .cons rfl (.cons ?_ .nil)
    exact ⟨rfl, fun hne => absurd rfl hne⟩
  have hone : ∃ q, (system.prog (pilotCall ⟨"auth:one"⟩)).Steps
      (pilotObservations ++ [consumption ⟨"auth:one"⟩, testCommand]) q :=
    ⟨_, Prog.steps_of_follow rfl⟩
  have htwo : ∃ q, (system.prog (pilotCall ⟨"auth:two"⟩)).Steps
      (pilotObservations ++ [consumption ⟨"auth:two"⟩]) q :=
    ⟨_, Prog.steps_of_follow rfl⟩
  obtain ⟨_, hone⟩ := hone
  obtain ⟨_, htwo⟩ := htwo
  obtain ⟨_, hone', -⟩ := hone.split
  obtain ⟨_, htwo', -⟩ := htwo.split
  have hrun : Run system pilotNode
      ([.spawn (pilotCall ⟨"auth:one"⟩)] ++ [.spawn (pilotCall ⟨"auth:two"⟩)]) pilotNode :=
    (Run.nil.spawn _ trivial).spawn _ trivial
  have hrun := hrun.acts (i := 0) rfl hone' hlook
  have hrun := hrun.acts (i := 1) rfl htwo' hlook
  have hrun := hrun.acts (i := 0) rfl hone hlaunch
  exact hrun.acts (i := 1) rfl htwo (.cons rfl .nil)

/-- Two calls under different authorizations, and a run of theirs after which
the second one launches on top of the first one's temporary activation. -/
theorem stacked_activation :
    ∃ (node₀ node : Node) (h : system.History) (a b : Call),
      Run system node₀ h node ∧ (node₀.live == node₀.bootDefault) = true
        ∧ calls h = [a, b] ∧ a.prepared.authorization ≠ b.prepared.authorization
        ∧ LaunchesTest h 1 b ∧ (node.live == node.bootDefault) = false := by
  refine ⟨pilotNode, activatedNode, stackedHistory, pilotCall ⟨"auth:one"⟩,
    pilotCall ⟨"auth:two"⟩, stackedHistory_run, by decide, rfl, by decide, ?_, by decide⟩
  exact ⟨rfl, ⟨pilotObserved.candidateProgram, .ok ⟨.succeeded, some 0, "", "", 9⟩, _,
      Prog.steps_of_follow rfl⟩, by decide⟩

end Stacking

end Blob
