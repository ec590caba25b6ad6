import Blob.Numerals
import Blob.Path
import Blob.Utf8

/-!
# Generation links

The boot profile is a link to `system-N-link`, and the probe reads the
generation off the link's name. What stands between the two affixes is
whatever the integer parser takes for a number, so a generation has more
names than the one nix gives it (`parse_generation_iff`): a `+` or zeros may
stand in front. A name without these is of one generation, which has no
other such name.
-/

namespace Blob

open Text

namespace PathBuf

/-- `Path::file_name`: the last component, if it is a name. -/
def fileName (self : PathBuf) : Option (List UInt8) :=
  match self.components.getLast? with
  | some (.normal name) => some name
  | _ => none

end PathBuf

/-- `OsStr::to_str`: what was decoded without a loss. -/
def toStr (bytes : List UInt8) : Option String :=
  let text := fromUtf8Lossy bytes
  if utf8Bytes text = bytes then some text else none

/-! ## The probe -/

structure BootProfileObservation where
  currentGeneration : Option String := none
  evidence : List String := []
  warnings : List String := []
deriving Repr, DecidableEq

def parseGenerationName (name : String) : Option Nat := do
  let rest ← stripPrefix name "system-"
  let number ← stripSuffix rest "-link"
  parseU64 number

def parseGenerationFromPath (path : PathBuf) : Option Nat := do
  let name ← path.fileName
  parseGenerationName (← toStr name)

/-- `probe_boot_profile`, of what the link `system` of the profiles says. -/
def probeBootProfile (link : Except String PathBuf) : BootProfileObservation :=
  match link with
  | .ok target =>
      let evidence := ["nixos-system-profile-link:" ++ target.display]
      match parseGenerationFromPath target with
      | some generation =>
          { currentGeneration := some ("nixos-generation:" ++ toString generation), evidence }
      | none => { evidence, warnings := ["could-not-parse-current-system-generation"] }
  | .error message => { warnings := ["system-profile-unavailable:" ++ message] }

/-! ## Names -/

/-- The name nix gives a generation. -/
def generationName (n : Nat) : String := "system-" ++ toString n ++ "-link"

/-- A name with a spelling of the generation in it. -/
theorem parseGenerationName_eq_some {name : String} {n : Nat} :
    parseGenerationName name = some n
      ↔ ∃ number, name = "system-" ++ number ++ "-link" ∧ n < 2 ^ 64 ∧ Spells number n := by
  simp only [parseGenerationName, Option.bind_eq_bind, Option.bind_eq_some_iff,
    stripPrefix_eq_some, stripSuffix_eq_some, parseU64_eq_some]
  constructor
  · rintro ⟨_, rfl, number, rfl, h⟩
    exact ⟨number, by rw [String.append_assoc], h⟩
  · rintro ⟨number, rfl, h⟩
    exact ⟨number ++ "-link", by rw [String.append_assoc], number, rfl, h⟩

theorem parseGenerationName_generationName {m n : Nat} :
    parseGenerationName (generationName m) = some n ↔ m = n ∧ n < 2 ^ 64 := by
  rw [parseGenerationName_eq_some]
  constructor
  · rintro ⟨number, hname, hn, hspells⟩
    rw [generationName, String.append_left_inj, String.append_right_inj] at hname
    subst hname
    exact ⟨(spells_natText m).unique hspells, hn⟩
  · rintro ⟨rfl, hn⟩
    exact ⟨toString m, rfl, hn, spells_natText m⟩

/-- The names of a generation: with or without a `+`, with any number of zeros in front. The
name nix gives is one of them, of no other generation. -/
theorem parse_generation_iff (name : String) (n : Nat) :
    (parseGenerationName name = some n ↔ n < 2 ^ 64 ∧ ∃ sign zeros, (sign = "" ∨ sign = "+")
        ∧ name = "system-" ++ (sign ++ String.ofList (List.replicate zeros '0') ++ toString n)
          ++ "-link")
      ∧ ∀ m, parseGenerationName (generationName m) = some n ↔ m = n ∧ n < 2 ^ 64 := by
  refine ⟨?_, fun m => parseGenerationName_generationName⟩
  rw [parseGenerationName_eq_some]
  constructor
  · rintro ⟨_, hname, hn, sign, zeros, hsign, rfl⟩
    exact ⟨hn, sign, zeros, hsign, hname⟩
  · rintro ⟨hn, sign, zeros, hsign, hname⟩
    exact ⟨_, hname, hn, sign, zeros, hsign, rfl⟩

/-- Three names of one generation, of which nix gives it one. -/
theorem generation_of_three_names :
    parseGenerationName "system-+7-link" = some 7
      ∧ parseGenerationName "system-007-link" = some 7
      ∧ parseGenerationName (generationName 7) = some 7
      ∧ "system-+7-link" ≠ generationName 7 ∧ "system-007-link" ≠ generationName 7 := by
  decide

/-! ## The current generation -/

theorem toStr_eq_some {bytes : List UInt8} {name : String} :
    toStr bytes = some name ↔ bytes = utf8Bytes name := by
  simp only [toStr, Option.ite_none_right_eq_some, Option.some.injEq]
  constructor
  · rintro ⟨hbytes, rfl⟩
    exact hbytes.symm
  · rintro rfl
    rw [fromUtf8Lossy_utf8Bytes]
    exact ⟨rfl, rfl⟩

theorem parseGenerationFromPath_eq_some {target : PathBuf} {n : Nat} :
    parseGenerationFromPath target = some n
      ↔ ∃ name, target.fileName = some (utf8Bytes name) ∧ parseGenerationName name = some n := by
  simp only [parseGenerationFromPath, Option.bind_eq_bind, Option.bind_eq_some_iff, toStr_eq_some]
  constructor
  · rintro ⟨_, hfile, name, rfl, hname⟩
    exact ⟨name, hfile, hname⟩
  · rintro ⟨name, hfile, hname⟩
    exact ⟨_, hfile, name, rfl, hname⟩

/-- The probe reports a generation just when the link's name is one of its names. -/
theorem probeBootProfile_generation (target : PathBuf) (n : Nat) :
    (probeBootProfile (.ok target)).currentGeneration = some ("nixos-generation:" ++ toString n)
      ↔ ∃ name, target.fileName = some (utf8Bytes name)
        ∧ parseGenerationName name = some n := by
  rw [← parseGenerationFromPath_eq_some]
  cases hgeneration : parseGenerationFromPath target with
  | none => simp [probeBootProfile, hgeneration]
  | some m =>
      have hreported : (probeBootProfile (.ok target)).currentGeneration
          = some ("nixos-generation:" ++ toString m) := by
        simp only [probeBootProfile, hgeneration]
      rw [hreported, Option.some.injEq, Option.some.injEq, String.append_right_inj]
      exact ⟨fun h => natText_injective h, fun h => by rw [h]⟩

example : (probeBootProfile (.ok (.ofString "system-42-link"))).currentGeneration
    = some "nixos-generation:42" := by decide

end Blob
