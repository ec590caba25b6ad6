import Mathlib.Order.BooleanAlgebra.Defs
import Blob.ActivationGate
import Blob.Information

/-!
# The node probe

What the read-only probe observed of a node, the confirmations a person
adds to it, and the readiness record made of both. The probe may fail to
observe a fact; the record then holds the worst value there is. So a
record made of fewer observations is nowhere safer (`toReadiness_noSafer`),
and a profile that accepts a record accepts every safer one
(`validateReadiness_mono`).
-/

namespace Blob

open Checks Information

structure NixOsProbeSnapshot where
  node : NodeId
  observedArchitecture : SystemArchitecture
  observedSubstrate : PhysicalNodeSubstrate
  onExternalPower : Option Bool
  freeSpaceBytes : Option Nat
  currentBootGeneration : Option String
  rollbackReference : Option String
  runningSystemStorePath : Option String
  bootProfileStorePath : Option String
  observedAtUnixMs : Nat
  evidence : List String
  warnings : List String
deriving Repr, DecidableEq

structure NodeSafetyConfirmations where
  enrolled : Bool
  trusted : Bool
  storageHealthOk : Bool
  localConsoleRecoveryConfirmed : Bool
  /-- A person's word on the power state, for when sysfs cannot tell it. -/
  externalPowerOverride : Option Bool
deriving Repr, DecidableEq

namespace NixOsProbeSnapshot

def toReadiness (self : NixOsProbeSnapshot) (confirmations : NodeSafetyConfirmations) :
    PhysicalTestNodeReadiness where
  node := self.node
  observedArchitecture := self.observedArchitecture
  observedSubstrate := self.observedSubstrate
  enrolled := confirmations.enrolled
  trusted := confirmations.trusted
  onExternalPower := (self.onExternalPower.or confirmations.externalPowerOverride).getD false
  freeSpaceBytes := self.freeSpaceBytes.getD 0
  storageHealthOk := confirmations.storageHealthOk
  currentBootGeneration := self.currentBootGeneration
  rollbackReference := self.rollbackReference
  localConsoleRecoveryConfirmed := confirmations.localConsoleRecoveryConfirmed
  observedAtUnixMs := self.observedAtUnixMs

def evidenceLines (self : NixOsProbeSnapshot) : List String :=
  self.evidence ++
    [ "probe-node:" ++ self.node.value
    , "probe-architecture:" ++ self.observedArchitecture.debug
    , "probe-substrate:" ++ self.observedSubstrate.debug
    , "probe-external-power:" ++ (self.onExternalPower.map boolText).getD "unknown"
    , "probe-free-space-bytes:" ++ (self.freeSpaceBytes.map toString).getD "unknown"
    , "probe-current-boot-generation:" ++ self.currentBootGeneration.getD "unknown"
    , "probe-rollback-reference:" ++ self.rollbackReference.getD "unknown"
    , "probe-observed-at-unix-ms:" ++ toString self.observedAtUnixMs ]

end NixOsProbeSnapshot

/-! ## Safety of a readiness record -/

/-- Two records of one machine, the first nowhere safer than the second. -/
structure PhysicalTestNodeReadiness.NoSafer (r r' : PhysicalTestNodeReadiness) : Prop where
  node : r.node = r'.node
  architecture : r.observedArchitecture = r'.observedArchitecture
  substrate : r.observedSubstrate = r'.observedSubstrate
  enrolled : r.enrolled ≤ r'.enrolled
  trusted : r.trusted ≤ r'.trusted
  power : r.onExternalPower ≤ r'.onExternalPower
  freeSpace : r.freeSpaceBytes ≤ r'.freeSpaceBytes
  storage : r.storageHealthOk ≤ r'.storageHealthOk
  generation : Below r.currentBootGeneration r'.currentBootGeneration
  rollback : Below r.rollbackReference r'.rollbackReference
  console : r.localConsoleRecoveryConfirmed ≤ r'.localConsoleRecoveryConfirmed

namespace PhysicalTestNodeProfile

variable {profile : PhysicalTestNodeProfile} {r r' : PhysicalTestNodeReadiness}
  {action : SystemCandidateAction}

theorem validateReadiness_eq_ok :
    profile.validateReadiness action r = .ok () ↔
      r.node = profile.node ∧ r.observedArchitecture = profile.expectedArchitecture
        ∧ r.observedSubstrate = profile.expectedSubstrate ∧ r.enrolled = true
        ∧ r.trusted = true ∧ r.storageHealthOk = true
        ∧ profile.minimumFreeSpaceBytes ≤ r.freeSpaceBytes
        ∧ profile.actionViolations r action = [] := by
  simp [validateReadiness]

theorem actionViolations_testActivation_eq_nil :
    profile.actionViolations r .testActivation = [] ↔
      profile.allowTestActivation = true
        ∧ (profile.requireExternalPowerForLiveActivation = true → r.onExternalPower = true)
        ∧ (profile.requireLocalConsoleForLiveActivation = true
            → r.localConsoleRecoveryConfirmed = true)
        ∧ (profile.requireKnownBootRollbackForLiveActivation = true
            → r.currentBootGeneration ≠ none)
        ∧ (profile.requireKnownBootRollbackForLiveActivation = true
            → r.rollbackReference ≠ none) := by
  simp [actionViolations]

theorem actionViolations_mono (h : r.NoSafer r')
    (haccepted : profile.actionViolations r action = []) :
    profile.actionViolations r' action = [] := by
  cases action with
  | materialize => rfl
  | buildIsolatedVm => rfl
  | previewActivation => exact haccepted
  | testActivation =>
      obtain ⟨hallow, hpower, hconsole, hgeneration, hrollback⟩ :=
        actionViolations_testActivation_eq_nil.mp haccepted
      refine actionViolations_testActivation_eq_nil.mpr ⟨hallow, ?_, ?_, ?_, ?_⟩
      · intro hrequired
        exact h.power (hpower hrequired)
      · intro hrequired
        exact h.console (hconsole hrequired)
      · intro hrequired hunknown
        exact hgeneration hrequired (hunknown ▸ h.generation).eq_none
      · intro hrequired hunknown
        exact hrollback hrequired (hunknown ▸ h.rollback).eq_none

/-- A profile that accepts a record accepts every safer one. -/
theorem validateReadiness_mono (h : r.NoSafer r')
    (haccepted : profile.validateReadiness action r = .ok ()) :
    profile.validateReadiness action r' = .ok () := by
  obtain ⟨hnode, harchitecture, hsubstrate, henrolled, htrusted, hstorage, hspace, haction⟩ :=
    validateReadiness_eq_ok.mp haccepted
  exact validateReadiness_eq_ok.mpr
    ⟨h.node ▸ hnode, h.architecture ▸ harchitecture, h.substrate ▸ hsubstrate,
      h.enrolled henrolled, h.trusted htrusted, h.storage hstorage, hspace.trans h.freeSpace,
      actionViolations_mono h haction⟩

end PhysicalTestNodeProfile

/-! ## What a snapshot tells -/

namespace NixOsProbeSnapshot

/-- The optional facts a readiness record is made of. -/
inductive SafetyFact where
  | externalPower
  | freeSpace
  | bootGeneration
  | rollback
deriving Repr, DecidableEq

/-- The snapshot with the `unknown` facts missing. -/
def forget (self : NixOsProbeSnapshot) (unknown : SafetyFact → Bool) : NixOsProbeSnapshot :=
  { self with
    onExternalPower := Information.forget (unknown .externalPower) self.onExternalPower
    freeSpaceBytes := Information.forget (unknown .freeSpace) self.freeSpaceBytes
    currentBootGeneration :=
      Information.forget (unknown .bootGeneration) self.currentBootGeneration
    rollbackReference := Information.forget (unknown .rollback) self.rollbackReference }

/-- Fewer observations make a record that is nowhere safer, unless a person
vouches for the power. -/
theorem toReadiness_noSafer (self : NixOsProbeSnapshot) (unknown : SafetyFact → Bool)
    {confirmations : NodeSafetyConfirmations}
    (hoverride : confirmations.externalPowerOverride ≠ some true) :
    ((self.forget unknown).toReadiness confirmations).NoSafer
      (self.toReadiness confirmations) := by
  have hfallback : confirmations.externalPowerOverride.getD false = false := by
    rcases h : confirmations.externalPowerOverride with _ | _ | _
    · rfl
    · rfl
    · exact absurd h hoverride
  exact {
    node := rfl
    architecture := rfl
    substrate := rfl
    enrolled := le_refl _
    trusted := le_refl _
    power := by
      refine (forget_below _ _).or_getD_le ?_
      intro observed
      rw [hfallback]
      exact Bool.false_le observed
    freeSpace := (forget_below _ _).getD_le Nat.zero_le
    storage := le_refl _
    generation := forget_below _ _
    rollback := forget_below _ _
    console := le_refl _ }

/-- An observed power state overrides the person's word. -/
theorem toReadiness_of_observed {self : NixOsProbeSnapshot}
    (hobserved : self.onExternalPower ≠ none) (confirmations : NodeSafetyConfirmations)
    (override : Option Bool) :
    self.toReadiness { confirmations with externalPowerOverride := override }
      = self.toReadiness confirmations := by
  obtain ⟨power, hpower⟩ := Option.ne_none_iff_exists'.mp hobserved
  simp only [toReadiness, hpower, Option.some_or]

end NixOsProbeSnapshot

open NixOsProbeSnapshot in
/-- **Unknown is never safer than known.** -/
theorem unknown_never_safer (profile : PhysicalTestNodeProfile) (action : SystemCandidateAction)
    (snapshot : NixOsProbeSnapshot) (confirmations : NodeSafetyConfirmations) :
    (confirmations.externalPowerOverride ≠ some true →
      ∀ unknown violations,
        profile.validateReadiness action (snapshot.toReadiness confirmations)
            = .error violations →
          ∃ violations', profile.validateReadiness action
            ((snapshot.forget unknown).toReadiness confirmations) = .error violations')
    ∧ (snapshot.onExternalPower ≠ none →
      ∀ override, profile.validateReadiness action
          (snapshot.toReadiness { confirmations with externalPowerOverride := override })
        = profile.validateReadiness action (snapshot.toReadiness confirmations)) := by
  refine ⟨?_, ?_⟩
  · intro hoverride unknown violations hrejected
    cases haccepted : profile.validateReadiness action
        ((snapshot.forget unknown).toReadiness confirmations) with
    | error violations' => exact ⟨violations', rfl⟩
    | ok _ =>
        have hsafer := PhysicalTestNodeProfile.validateReadiness_mono
          (toReadiness_noSafer snapshot unknown hoverride) haccepted
        rw [hrejected] at hsafer
        cases hsafer
  · intro hobserved override
    rw [toReadiness_of_observed hobserved]

namespace Pilot

/-- A node seen to run on its battery. -/
def snapshot : NixOsProbeSnapshot where
  node := ⟨"node:lab"⟩
  observedArchitecture := .x86_64
  observedSubstrate := .nixOs
  onExternalPower := some false
  freeSpaceBytes := some (16 * 1024 * 1024 * 1024)
  currentBootGeneration := some "nixos-generation:42"
  rollbackReference := some "nixos-generation:42"
  runningSystemStorePath := none
  bootProfileStorePath := none
  observedAtUnixMs := 1000
  evidence := []
  warnings := []

def confirmations : NodeSafetyConfirmations where
  enrolled := true
  trusted := true
  storageHealthOk := true
  localConsoleRecoveryConfirmed := true
  externalPowerOverride := none

/-- Nothing known is no safer than the battery, and no word on the power helps. -/
theorem battery_never_safer :
    (∃ violations, profile.validateReadiness .testActivation
        ((snapshot.forget fun _ => true).toReadiness confirmations) = .error violations)
      ∧ profile.validateReadiness .testActivation
          (snapshot.toReadiness { confirmations with externalPowerOverride := some true })
        = .error [.externalPowerRequired] := by
  have hbattery : profile.validateReadiness .testActivation (snapshot.toReadiness confirmations)
      = .error [.externalPowerRequired] := rfl
  obtain ⟨hforget, hword⟩ :=
    unknown_never_safer profile .testActivation snapshot confirmations
  refine ⟨hforget ?_ _ _ hbattery, ?_⟩
  · decide
  · rw [hword (by decide) (some true), hbattery]

end Pilot

end Blob
