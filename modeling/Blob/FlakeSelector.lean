import Mathlib.Data.List.TakeWhile
import Blob.NixBackend
import Blob.Utf8

/-!
# Flake selectors

The last argument of a command plan names what is built or activated:
the flake, a `#`, and an attribute of it. Nix reads the flake up to the
first `#`. The attribute holds none, but the flake path is put in as it
is: a path with a `#`, one that begins with `-`, and one that is not text
are planned like any other (`unambiguous_iff`).
-/

namespace Blob

open Text Checks

/-! ## Reading a selector -/

/-- An installable as nix reads it: the flake reference before the first `#`, and
the attribute path after it. -/
def readInstallable (argument : String) : Option (String × String) :=
  match argument.toList.dropWhile (· != '#') with
  | [] => none
  | _ :: attrPath =>
      some (String.ofList (argument.toList.takeWhile (· != '#')), String.ofList attrPath)

theorem readInstallable_append {flake : String} (attrPath : String)
    (hflake : '#' ∉ flake.toList) :
    readInstallable (flake ++ "#" ++ attrPath) = some (flake, attrPath) := by
  have htext : (flake ++ "#" ++ attrPath).toList = flake.toList ++ '#' :: attrPath.toList := by
    simp
  obtain ⟨hbefore, hafter⟩ := takeWhile_separated attrPath.toList hflake
  rw [readInstallable, htext, hbefore, hafter]
  simp

/-- A selector is read in one way: up to a `#` that is its first. -/
theorem readInstallable_eq_some {argument flake attrPath : String} :
    readInstallable argument = some (flake, attrPath)
      ↔ '#' ∉ flake.toList ∧ argument = flake ++ "#" ++ attrPath := by
  constructor
  · intro h
    have hparts := List.takeWhile_append_dropWhile (p := (· != '#')) (l := argument.toList)
    have hstop := List.head?_dropWhile_not (· != '#') argument.toList
    rw [readInstallable] at h
    split at h
    · cases h
    rename_i c rest hdrop
    obtain ⟨rfl, rfl⟩ := Prod.mk.inj (Option.some.inj h)
    rw [hdrop] at hparts hstop
    obtain rfl : c = '#' := by simpa using hstop
    refine ⟨?_, String.toList_inj.mp ?_⟩
    · intro hmem
      rw [String.toList_ofList] at hmem
      simpa using List.mem_takeWhile_imp hmem
    · simpa using hparts.symm
  · rintro ⟨hflake, rfl⟩
    exact readInstallable_append attrPath hflake

/-! ## The selector of a plan -/

namespace NixOsBackend

/-- The attribute that an action is carried out on. -/
def attrPath (configuration : String) : SystemCandidateAction → String
  | .materialize =>
      "nixosConfigurations." ++ configuration ++ ".config.system.build.toplevel"
  | .buildIsolatedVm => "nixosConfigurations." ++ configuration ++ ".config.system.build.vm"
  | .previewActivation | .testActivation => configuration

/-- The last argument of a command, whatever the action. -/
theorem selector_of_commandTexts (flake configuration : String)
    (action : SystemCandidateAction) :
    (commandTexts (flake ++ "#" ++ configuration)
        (flake ++ "#nixosConfigurations." ++ configuration) action).2.1.getLast?
      = some (flake ++ "#" ++ attrPath configuration action) := by
  have hcut : flake ++ "#nixosConfigurations." = flake ++ "#" ++ "nixosConfigurations." := by
    rw [String.append_assoc, String.append_right_inj]
    decide
  rw [hcut]
  cases action with
  | materialize =>
      show some (_ ++ "nixosConfigurations." ++ configuration ++ _)
        = some (_ ++ ("nixosConfigurations." ++ configuration ++ _))
      simp only [String.append_assoc]
  | buildIsolatedVm =>
      show some (_ ++ "nixosConfigurations." ++ configuration ++ _)
        = some (_ ++ ("nixosConfigurations." ++ configuration ++ _))
      simp only [String.append_assoc]
  | previewActivation => rfl
  | testActivation => rfl

/-- The last argument of a plan is the selector of its target. -/
theorem selector_of_planOperation {operation : SystemCandidateOperation}
    {target : NixOsCandidateTarget} {plan : NixCommandPlan}
    (h : planOperation operation target = .ok plan) :
    plan.args.getLast? = some (target.flakePath.display ++ "#"
      ++ attrPath target.configuration operation.action) := by
  simp only [planOperation, bind_eq_ok, mapError_eq_ok, pure_eq_ok] at h
  obtain ⟨_, -, _, -, h⟩ := h
  rw [← h]
  exact selector_of_commandTexts ..

/-- What a planned selector ought to be: no option, and read as the flake path and
the attribute it was made from. -/
def Unambiguous (operation : SystemCandidateOperation) (target : NixOsCandidateTarget)
    (plan : NixCommandPlan) : Prop :=
  ∃ selector flake, plan.args.getLast? = some selector
    ∧ selector.toList.head? ≠ some '-'
    ∧ readInstallable selector
      = some (flake, attrPath target.configuration operation.action)
    ∧ PathBuf.ofString flake = target.flakePath

end NixOsBackend

namespace PathBuf

/-- A flake path that is text, begins with no `-` and holds no `#`. -/
structure Addressable (path : PathBuf) : Prop where
  text : ofString path.display = path
  noHash : '#' ∉ path.display.toList
  noDash : path.display.toList.head? ≠ some '-'

@[simp] theorem display_ofString (s : String) : (ofString s).display = s :=
  fromUtf8Lossy_utf8Bytes s

theorem bytes_ofString_ne_nil {s : String} (h : s ≠ "") : (ofString s).bytes ≠ [] := by
  intro hbytes
  refine h (utf8Bytes_injective ?_)
  exact hbytes

/-- What is displayed of a path that is not empty is not empty. -/
theorem display_ne_empty {path : PathBuf} (h : path.bytes ≠ []) : path.display ≠ "" := by
  obtain ⟨byte, bytes, hbytes⟩ := List.exists_cons_of_ne_nil h
  intro hempty
  have htext := congrArg String.toList hempty
  simp [display, fromUtf8Lossy, hbytes, lossyChars] at htext

theorem addressable_ofString {s : String} (hhash : '#' ∉ s.toList)
    (hdash : s.toList.head? ≠ some '-') : (ofString s).Addressable := by
  refine ⟨?_, ?_, ?_⟩ <;> rw [display_ofString]
  · exact hhash
  · exact hdash

end PathBuf

namespace NixOsBackend

section

variable {operation : SystemCandidateOperation} {target : NixOsCandidateTarget}
  {plan : NixCommandPlan}

theorem head?_selector (flake rest : String) :
    (flake ++ "#" ++ rest).toList.head? ≠ some '-' ↔ flake.toList.head? ≠ some '-' := by
  cases hflake : flake.toList <;> simp [hflake]

theorem unambiguous_of_addressable (h : planOperation operation target = .ok plan)
    (hpath : target.flakePath.Addressable) : Unambiguous operation target plan :=
  ⟨_, _, selector_of_planOperation h, (head?_selector _ _).mpr hpath.noDash,
    readInstallable_append _ hpath.noHash, hpath.text⟩

theorem addressable_of_unambiguous (h : planOperation operation target = .ok plan)
    (hread : Unambiguous operation target plan) : target.flakePath.Addressable := by
  obtain ⟨selector, flake, hlast, hdash, hread, hpath⟩ := hread
  obtain rfl := Option.some.inj ((selector_of_planOperation h).symm.trans hlast)
  obtain ⟨hhash, htext⟩ := readInstallable_eq_some.mp hread
  obtain rfl : target.flakePath.display = flake := by simpa using htext
  exact ⟨hpath, hhash, (head?_selector _ _).mp hdash⟩

/-- The selector of a plan is unambiguous exactly when the flake path of its target is
addressable. -/
theorem unambiguous_iff (h : planOperation operation target = .ok plan) :
    Unambiguous operation target plan ↔ target.flakePath.Addressable :=
  ⟨addressable_of_unambiguous h, unambiguous_of_addressable h⟩

end

/-! The pilot's candidate, once in a directory whose name holds a `#`. -/

def pilotOperation : SystemCandidateOperation :=
  .new ⟨"op:materialize"⟩ ⟨"candidate:one"⟩ ⟨"system:one"⟩ .materialize

def pilotTarget (flake : String) : NixOsCandidateTarget where
  flakePath := .ofString flake
  configuration := "pilot"

theorem pilot_selector :
    ∃ plan, planOperation pilotOperation (pilotTarget "/candidates/one") = .ok plan
      ∧ Unambiguous pilotOperation (pilotTarget "/candidates/one") plan := by
  refine ⟨_, rfl, (unambiguous_iff rfl).mpr ?_⟩
  exact PathBuf.addressable_ofString (by decide) (by decide)

/-- The plan for the candidate in `/candidates/one#2` is read as one for an attribute
of `/candidates/one`. -/
theorem hash_misread :
    ∃ plan selector, planOperation pilotOperation (pilotTarget "/candidates/one#2") = .ok plan
      ∧ plan.args.getLast? = some selector
      ∧ readInstallable selector = some ("/candidates/one",
        "2#nixosConfigurations.pilot.config.system.build.toplevel")
      ∧ ¬ Unambiguous pilotOperation (pilotTarget "/candidates/one#2") plan := by
  have hdisplay : (pilotTarget "/candidates/one#2").flakePath.display = "/candidates/one#2" :=
    PathBuf.display_ofString _
  obtain ⟨plan, hplan⟩ : ∃ plan, planOperation pilotOperation
      (pilotTarget "/candidates/one#2") = .ok plan := ⟨_, rfl⟩
  refine ⟨plan, _, hplan, selector_of_planOperation hplan, ?_, ?_⟩
  · rw [hdisplay]
    decide
  · intro hread
    have hhash := (addressable_of_unambiguous hplan hread).noHash
    rw [hdisplay] at hhash
    exact hhash (by decide)

end NixOsBackend

end Blob
