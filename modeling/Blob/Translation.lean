import Mathlib.Data.List.Nodup
import Mathlib.Data.String.Basic
import Blob.KeySort
import Blob.SystemSpec

/-!
# Translation to a NixOS module

`translate` writes a specification as a NixOS module, and next to it a trace
of what became of what. The features are put in the order of their ids
before any of them is looked at; so the result depends on which features are
selected and not on the order they are listed in (`translate_canonical`).
-/

namespace Blob

open Text Checks KeySort

structure TranslationStep where
  semanticSource : String
  nixTarget : String
deriving Repr, DecidableEq

structure NixTranslation where
  moduleText : String
  trace : List TranslationStep
deriving Repr, DecidableEq

inductive NixBackendError where
  | invalidSpec (violations : List SystemSpecViolation)
  | unsupportedChannel (channel : SystemChannel)
  | unsupportedFeature (feature : SystemFeatureId)
deriving Repr, DecidableEq

def stateName : FeatureState → String
  | .enabled => "enabled"
  | .disabled => "disabled"

def boolLiteral : FeatureState → String
  | .enabled => "true"
  | .disabled => "false"

/-- The features that have an option, with their options. -/
def featureOptions : List (String × String) :=
  [ ("bluetooth", "hardware.bluetooth.enable")
  , ("containers", "virtualisation.podman.enable")
  , ("flatpak", "services.flatpak.enable")
  , ("hyprland", "programs.hyprland.enable")
  , ("pipewire", "services.pipewire.enable")
  , ("printing", "services.printing.enable")
  , ("ssh", "services.openssh.enable") ]

def translateFeature (selection : SystemFeatureSelection) :
    Except NixBackendError (String × String) :=
  match featureOptions.lookup selection.feature.value with
  | some option => .ok (option, boolLiteral selection.state)
  | none => .error (.unsupportedFeature selection.feature)

def hostPlatform : SystemArchitecture → String
  | .x86_64 => "x86_64-linux"
  | .aarch64 => "aarch64-linux"

/-- The lines and the step of a kernel policy; the default needs no line. -/
def translateKernelPolicy : KernelPolicy → List String × TranslationStep
  | .distributionDefault =>
      ( []
      , { semanticSource := "SystemSpec.kernel_policy=distribution-default"
          nixTarget := "backend default kernel selection" } )
  | .latestSupported =>
      ( ["  boot.kernelPackages = pkgs.linuxPackages_latest;"]
      , { semanticSource := "SystemSpec.kernel_policy=latest-supported"
          nixTarget := "boot.kernelPackages = pkgs.linuxPackages_latest" } )

namespace NixOsBackend

/-- One pass of the loop over the features: the line and the step of a selection. -/
def featureLine (selection : SystemFeatureSelection) :
    Except NixBackendError (String × TranslationStep) := do
  let (option, value) ← translateFeature selection
  return (
    "  " ++ option ++ " = " ++ value ++ ";",
    { semanticSource :=
        "feature:" ++ selection.feature.value ++ "=" ++ stateName selection.state
      nixTarget := option })

def translate (spec : SystemSpec) : Except NixBackendError NixTranslation := do
  spec.validate.mapError .invalidSpec
  reject (spec.baseChannel ≠ .stable) (.unsupportedChannel spec.baseChannel)
  let (kernelLines, kernelStep) := translateKernelPolicy spec.kernelPolicy
  -- sorted before the first lookup, so an unsupported feature is reported in this order too
  let features := byKey (fun selection => selection.feature.value) spec.profile.features
  let translated ← features.mapM featureLine
  let lines :=
    [ "\x7b pkgs, ... \x7d:"
    , "\x7b"
    , "  networking.hostName = \"" ++ spec.hostname ++ "\";"
    , "  nixpkgs.hostPlatform = \"" ++ hostPlatform spec.architecture ++ "\";" ]
    ++ kernelLines ++ translated.map (·.1) ++ ["\x7d"]
  return {
    moduleText := joinLines lines ++ "\n"
    trace :=
      [ { semanticSource := "SystemSpec.hostname", nixTarget := "networking.hostName" }
      , { semanticSource := "SystemSpec.architecture", nixTarget := "nixpkgs.hostPlatform" }
      , kernelStep ]
      ++ translated.map (·.2) }

/-! ## The order of the features -/

/-- What a translation is made from. -/
structure SameSystem (spec spec' : SystemSpec) : Prop where
  hostname : spec.hostname = spec'.hostname
  architecture : spec.architecture = spec'.architecture
  baseChannel : spec.baseChannel = spec'.baseChannel
  kernelPolicy : spec.kernelPolicy = spec'.kernelPolicy
  features : spec.profile.features.Perm spec'.profile.features

/-- Of a valid specification, a feature id names one selection. -/
theorem selection_eq_of_feature {spec : SystemSpec} (h : spec.Valid)
    {a b : SystemFeatureSelection} (ha : a ∈ spec.profile.features)
    (hb : b ∈ spec.profile.features) (hvalue : a.feature.value = b.feature.value) : a = b := by
  refine List.inj_on_of_nodup_map h.features ha hb ?_
  obtain ⟨⟨_⟩, _⟩ := a
  obtain ⟨⟨_⟩, _⟩ := b
  exact congrArg SystemFeatureId.mk hvalue

theorem sorted_eq_of_perm {spec spec' : SystemSpec} (h : spec.Valid)
    (hperm : spec.profile.features.Perm spec'.profile.features) :
    byKey (fun selection => selection.feature.value) spec.profile.features
      = byKey (fun selection => selection.feature.value) spec'.profile.features :=
  byKey_eq_of_perm hperm fun _ ha _ hb => selection_eq_of_feature h ha hb

/-- Valid specifications of one system have one translation, or fail alike: neither the
order of the features nor any other field has a part in it. -/
theorem translate_canonical {spec spec' : SystemSpec} (h : spec.validate = .ok ())
    (h' : spec'.validate = .ok ()) (hsame : SameSystem spec spec') :
    translate spec = translate spec' := by
  have hsorted := sorted_eq_of_perm (SystemSpec.validate_eq_ok.mp h) hsame.features
  unfold translate
  rw [h, h', hsame.hostname, hsame.architecture, hsame.baseChannel, hsame.kernelPolicy, hsorted]

/-! The pilot's specification, its features listed in two orders. -/

def pilotSpec (features : List SystemFeatureSelection) : SystemSpec where
  id := ⟨"system:linux-pilot"⟩
  hostname := "blob-pilot"
  architecture := .x86_64
  baseChannel := .stable
  kernelPolicy := .latestSupported
  profile := {
    id := ⟨"profile:dev"⟩
    constructionMode := .aiDesigned
    priorities := [.reliability, .energy]
    features }
  experienceProfile := some ⟨"experience:hyprland"⟩

def pipewire : SystemFeatureSelection := ⟨⟨"pipewire"⟩, .enabled⟩

def printing : SystemFeatureSelection := ⟨⟨"printing"⟩, .disabled⟩

theorem pilot_canonical :
    translate (pilotSpec [printing, pipewire]) = translate (pilotSpec [pipewire, printing]) := by
  refine translate_canonical (by decide) (by decide) ?_
  exact {
    hostname := rfl
    architecture := rfl
    baseChannel := rfl
    kernelPolicy := rfl
    features := .swap pipewire printing [] }

end NixOsBackend

end Blob
