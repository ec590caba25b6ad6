import Blob.System

/-!
# Physical test nodes

The readiness snapshot of a physical node and the profile it is checked
against before an action may touch it.
-/

namespace Blob

open Checks

inductive PhysicalNodeSubstrate where
  | nixOs
  | linuxHosted
  | macOsHosted
  | windowsHosted
deriving Repr, DecidableEq

def PhysicalNodeSubstrate.debug : PhysicalNodeSubstrate → String
  | .nixOs => "NixOs"
  | .linuxHosted => "LinuxHosted"
  | .macOsHosted => "MacOsHosted"
  | .windowsHosted => "WindowsHosted"

structure PhysicalTestNodeProfile where
  node : NodeId
  expectedArchitecture : SystemArchitecture
  expectedSubstrate : PhysicalNodeSubstrate
  minimumFreeSpaceBytes : Nat
  allowPreviewActivation : Bool
  allowTestActivation : Bool
  requireExternalPowerForLiveActivation : Bool
  requireLocalConsoleForLiveActivation : Bool
  requireKnownBootRollbackForLiveActivation : Bool
deriving Repr, DecidableEq

structure PhysicalTestNodeReadiness where
  node : NodeId
  observedArchitecture : SystemArchitecture
  observedSubstrate : PhysicalNodeSubstrate
  enrolled : Bool
  trusted : Bool
  onExternalPower : Bool
  freeSpaceBytes : Nat
  storageHealthOk : Bool
  currentBootGeneration : Option String
  rollbackReference : Option String
  localConsoleRecoveryConfirmed : Bool
  observedAtUnixMs : Nat
deriving Repr, DecidableEq

inductive PhysicalTestNodeViolation where
  | nodeMismatch
  | architectureMismatch
  | substrateMismatch
  | notEnrolled
  | notTrusted
  | storageHealthNotConfirmed
  | insufficientFreeSpace (requiredBytes observedBytes : Nat)
  | previewActivationDisabled
  | testActivationDisabled
  | externalPowerRequired
  | localConsoleRecoveryNotConfirmed
  | currentBootGenerationUnknown
  | rollbackReferenceMissing
deriving Repr, DecidableEq

namespace PhysicalTestNodeProfile

def nixosPilot (node : NodeId) (architecture : SystemArchitecture) :
    PhysicalTestNodeProfile where
  node := node
  expectedArchitecture := architecture
  expectedSubstrate := .nixOs
  minimumFreeSpaceBytes := 8 * 1024 * 1024 * 1024
  allowPreviewActivation := true
  allowTestActivation := true
  requireExternalPowerForLiveActivation := true
  requireLocalConsoleForLiveActivation := true
  requireKnownBootRollbackForLiveActivation := true

/-- The tests that depend on the action: none for a build. -/
def actionViolations (self : PhysicalTestNodeProfile)
    (readiness : PhysicalTestNodeReadiness) :
    SystemCandidateAction → List PhysicalTestNodeViolation
  | .materialize | .buildIsolatedVm => []
  | .previewActivation =>
      violation (self.allowPreviewActivation = false) .previewActivationDisabled
  | .testActivation =>
      [ violation (self.allowTestActivation = false) .testActivationDisabled
      , violation (self.requireExternalPowerForLiveActivation = true
          ∧ readiness.onExternalPower = false) .externalPowerRequired
      , violation (self.requireLocalConsoleForLiveActivation = true
          ∧ readiness.localConsoleRecoveryConfirmed = false)
          .localConsoleRecoveryNotConfirmed
      , violation (self.requireKnownBootRollbackForLiveActivation = true
          ∧ readiness.currentBootGeneration = none) .currentBootGenerationUnknown
      , violation (self.requireKnownBootRollbackForLiveActivation = true
          ∧ readiness.rollbackReference = none) .rollbackReferenceMissing ].flatten

def validateReadiness (self : PhysicalTestNodeProfile) (action : SystemCandidateAction)
    (readiness : PhysicalTestNodeReadiness) :
    Except (List PhysicalTestNodeViolation) Unit :=
  verdict
    [ violation (readiness.node ≠ self.node) .nodeMismatch
    , violation (readiness.observedArchitecture ≠ self.expectedArchitecture)
        .architectureMismatch
    , violation (readiness.observedSubstrate ≠ self.expectedSubstrate)
        .substrateMismatch
    , violation (readiness.enrolled = false) .notEnrolled
    , violation (readiness.trusted = false) .notTrusted
    , violation (readiness.storageHealthOk = false) .storageHealthNotConfirmed
    , violation (readiness.freeSpaceBytes < self.minimumFreeSpaceBytes)
        (.insufficientFreeSpace self.minimumFreeSpaceBytes readiness.freeSpaceBytes)
    , self.actionViolations readiness action ]

end PhysicalTestNodeProfile

/-- Display of a `bool`. -/
def boolText : Bool → String
  | true => "true"
  | false => "false"

def PhysicalTestNodeReadiness.evidenceLines (self : PhysicalTestNodeReadiness) :
    List String :=
  [ "node:" ++ self.node.value
  , "architecture:" ++ self.observedArchitecture.debug
  , "substrate:" ++ self.observedSubstrate.debug
  , "enrolled:" ++ boolText self.enrolled
  , "trusted:" ++ boolText self.trusted
  , "external-power:" ++ boolText self.onExternalPower
  , "free-space-bytes:" ++ toString self.freeSpaceBytes
  , "storage-health-ok:" ++ boolText self.storageHealthOk
  , "current-boot-generation:" ++ self.currentBootGeneration.getD "unknown"
  , "rollback-reference:" ++ self.rollbackReference.getD "none"
  , "local-console-recovery:" ++ boolText self.localConsoleRecoveryConfirmed
  , "observed-at-unix-ms:" ++ toString self.observedAtUnixMs ]

end Blob
