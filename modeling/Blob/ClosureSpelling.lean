import Blob.ClosureProvenance
import Blob.GateHelper
import Blob.HelperTrace
import Blob.Utf8

/-!
# Spellings of a closure

A closure is validated, and compared with what the host answers, as a path:
component by component. It is passed on, approved and recorded as a text.
The two agree on texts in which nothing is skipped when they are read as a
path (`PathBuf.Plain`): such a text is determined by its components
(`eq_of_plain`). A repeated separator, one at the end and a `.` part change
the text and not the path, and neither check refuses them
(`one_spelling_iff`).
-/

namespace Blob

open Text Checks

namespace PathBuf

/-! ## One text per path -/

/-- No part after the first separator is skipped: none is empty, and none is `.`. -/
def Plain (path : PathBuf) : Prop :=
  ∀ part ∈ (path.bytes.splitOn separator).tail, part ≠ [] ∧ part ≠ utf8Bytes "."

instance (path : PathBuf) : Decidable path.Plain :=
  inferInstanceAs (Decidable (∀ part ∈ _, _))

/-- The component of a part that is not skipped. -/
def partComponent (part : List UInt8) : Component :=
  if part = utf8Bytes ".." then .parentDir else .normal part

theorem partComponent_eq_normal {part name : List UInt8}
    (h : partComponent part = .normal name) : part = name := by
  unfold partComponent at h
  split at h
  · cases h
  · exact Component.normal.inj h

theorem partComponent_injective : Function.Injective partComponent := by
  intro part part' h
  unfold partComponent at h
  split at h <;> split at h <;> simp_all

theorem filterMap_partComponent {parts : List (List UInt8)}
    (h : ∀ part ∈ parts, part ≠ [] ∧ part ≠ utf8Bytes ".") :
    parts.filterMap partComponent? = parts.map partComponent := by
  rw [← List.filterMap_eq_map]
  refine List.filterMap_congr ?_
  intro part hpart
  obtain ⟨hempty, hdot⟩ := h part hpart
  simp only [partComponent?, hempty, hdot, if_false, partComponent, Function.comp_apply]
  split <;> rfl

theorem intercalate_parts (path : PathBuf) :
    [separator].intercalate (path.bytes.splitOn separator) = path.bytes :=
  List.intercalate_splitOn separator

/-- An absolute path starts with an empty part. -/
theorem splitOn_absolute {path : PathBuf} (h : path.isAbsolute = true) :
    path.bytes.splitOn separator = [] :: (path.bytes.splitOn separator).tail := by
  obtain ⟨rest, hbytes⟩ : ∃ rest, path.bytes = separator :: rest := by
    rw [isAbsolute, beq_iff_eq, List.head?_eq_some_iff] at h
    exact h
  rw [hbytes, List.splitOn_cons_eq_if_modifyHead, if_pos (beq_self_eq_true separator)]
  rfl

theorem components_absolute {path : PathBuf} (h : path.isAbsolute = true) :
    path.components
      = .rootDir :: (path.bytes.splitOn separator).tail.filterMap partComponent? := by
  rw [components, h, splitOn_absolute h]
  simp [partComponent?]

theorem absolute_of_components {path : PathBuf} {rest : List Component}
    (h : path.components = .rootDir :: rest) : path.isAbsolute = true := by
  by_contra hrelative
  have hroot : Component.rootDir ∈ path.components := by
    rw [h]
    exact List.mem_cons_self ..
  simp only [components, if_neg hrelative, List.mem_append, List.mem_filterMap] at hroot
  rcases hroot with hroot | ⟨part, -, hpart⟩
  · split at hroot <;> simp at hroot
  · unfold partComponent? at hpart
    grind

/-- The components of a plain absolute path are its parts. -/
theorem components_of_plain {path : PathBuf} (hplain : path.Plain)
    (habsolute : path.isAbsolute = true) : path.components
      = .rootDir :: (path.bytes.splitOn separator).tail.map partComponent := by
  rw [components_absolute habsolute, filterMap_partComponent hplain]

/-- Equal plain absolute paths have equal texts. -/
theorem eq_of_plain {path path' : PathBuf} (hplain : path.Plain) (hplain' : path'.Plain)
    (habsolute : path.isAbsolute = true) (h : path.components = path'.components) :
    path.bytes = path'.bytes := by
  have habsolute' : path'.isAbsolute = true :=
    absolute_of_components (h.symm.trans (components_absolute habsolute))
  rw [components_of_plain hplain habsolute, components_of_plain hplain' habsolute'] at h
  have htail := List.map_injective_iff.mpr partComponent_injective (List.cons.inj h).2
  rw [← intercalate_parts path, splitOn_absolute habsolute, htail,
    ← splitOn_absolute habsolute', intercalate_parts path']

end PathBuf

/-! ## The spelling of a store path -/

/-- `/nix/store/` and one name. -/
def Spelled (text : String) : Prop :=
  ∃ name : String, name ≠ "" ∧ '/' ∉ name.toList ∧ text = "/nix/store/" ++ name

theorem separator_mem_utf8Bytes {s : String} :
    PathBuf.separator ∈ utf8Bytes s ↔ '/' ∈ s.toList := by
  rw [mem_utf8Bytes (by decide)]
  constructor
  · rintro ⟨c, hc, hslash⟩
    have hchar : c = '/' := Char.toNat_inj.mp hslash
    rwa [← hchar]
  · intro hslash
    exact ⟨'/', hslash, rfl⟩

theorem components_of_isStoreEntry {cs : List Component} (h : isStoreEntry cs = true) :
    ∃ entry, cs = [.rootDir, .normal (utf8Bytes "nix"), .normal (utf8Bytes "store"),
      .normal entry] := by
  unfold isStoreEntry at h
  split at h
  · rename_i nix store entry
    simp only [Bool.and_eq_true, beq_iff_eq] at h
    obtain ⟨rfl, rfl⟩ := h
    exact ⟨entry, rfl⟩
  · cases h

section

variable {text : String} {entry : List UInt8}

theorem spelled_of_plain (hcomponents : (PathBuf.ofString text).components
      = [.rootDir, .normal (utf8Bytes "nix"), .normal (utf8Bytes "store"), .normal entry])
    (hplain : (PathBuf.ofString text).Plain) : Spelled text := by
  have habsolute := PathBuf.absolute_of_components hcomponents
  rw [PathBuf.components_of_plain hplain habsolute] at hcomponents
  obtain ⟨nix, rest, htail, hnix, hrest⟩ := List.map_eq_cons_iff.mp (List.cons.inj hcomponents).2
  obtain ⟨store, rest, rfl, hstore, hrest⟩ := List.map_eq_cons_iff.mp hrest
  obtain ⟨name, rfl, hname⟩ := List.map_eq_singleton_iff.mp hrest
  obtain rfl := PathBuf.partComponent_eq_normal hnix
  obtain rfl := PathBuf.partComponent_eq_normal hstore
  -- nothing was skipped, so the parts put together again are the text
  have hparts := PathBuf.splitOn_absolute habsolute
  rw [htail] at hparts
  have hbytes : (PathBuf.ofString text).bytes = utf8Bytes "/nix/store/" ++ name := by
    rw [← PathBuf.intercalate_parts (.ofString text), hparts]
    simp only [List.intercalate_cons_cons, List.intercalate_singleton]
    rfl
  obtain ⟨name', rfl, hname'⟩ := exists_append_of_utf8Bytes hbytes
  have hmem : name ∈ (PathBuf.ofString ("/nix/store/" ++ name')).bytes.splitOn
      PathBuf.separator := by
    rw [hparts]
    simp
  refine ⟨name', ?_, ?_, rfl⟩
  · rintro rfl
    have hne := (hplain name (by rw [htail]; simp)).1
    exact hne hname'.symm
  · rw [← separator_mem_utf8Bytes, hname']
    exact notMem_of_mem_splitOn hmem

theorem plain_of_spelled (hcomponents : (PathBuf.ofString text).components
      = [.rootDir, .normal (utf8Bytes "nix"), .normal (utf8Bytes "store"), .normal entry])
    (h : Spelled text) : (PathBuf.ofString text).Plain := by
  obtain ⟨name, hne, hslash, rfl⟩ := h
  have habsolute := PathBuf.absolute_of_components hcomponents
  have hbytes : (PathBuf.ofString ("/nix/store/" ++ name)).bytes
      = PathBuf.separator :: (utf8Bytes "nix" ++ PathBuf.separator
        :: (utf8Bytes "store" ++ PathBuf.separator :: utf8Bytes name)) := by
    rw [PathBuf.ofString, utf8Bytes_append]
    rfl
  have hsplit : (PathBuf.ofString ("/nix/store/" ++ name)).bytes.splitOn PathBuf.separator
      = [[], utf8Bytes "nix", utf8Bytes "store", utf8Bytes name] := by
    rw [hbytes, List.splitOn_cons_eq_if_modifyHead, if_pos (beq_self_eq_true _),
      List.splitOn_append_cons_self_of_not_mem (by decide),
      List.splitOn_append_cons_self_of_not_mem (by decide),
      List.splitOn_eq_singleton (separator_mem_utf8Bytes.not.mpr hslash)]
  -- a name that is skipped would leave the path with two components below the root
  rw [PathBuf.components_absolute habsolute, hsplit] at hcomponents
  intro part hpart
  rw [hsplit] at hpart
  simp only [List.tail_cons, List.mem_cons, List.not_mem_nil, or_false] at hpart
  rcases hpart with rfl | rfl | rfl
  · decide
  · decide
  · refine ⟨fun hempty => ?_, fun hdot => ?_⟩
    · exact hne (utf8Bytes_injective hempty)
    · rw [hdot] at hcomponents
      have hlength : 3 = 4 := congrArg List.length hcomponents
      omega

/-- A store path is spelled in the one way exactly when its text is plain. -/
theorem spelled_iff_plain (h : isStoreEntry (PathBuf.ofString text).components = true) :
    Spelled text ↔ (PathBuf.ofString text).Plain := by
  obtain ⟨entry, hcomponents⟩ := components_of_isStoreEntry h
  exact ⟨plain_of_spelled hcomponents, spelled_of_plain hcomponents⟩

end

/-! ## Accepted and executed closures -/

theorem isStoreEntry_of_validate {text : String} (h : validateNixStoreClosure text = .ok ()) :
    isStoreEntry (PathBuf.ofString text).components = true := by
  unfold validateNixStoreClosure at h
  split at h
  · assumption
  · cases h

theorem isStoreEntry_of_fromOperationResult {result : SystemOperationResult}
    {materialized : MaterializedNixOsCandidate}
    (h : MaterializedNixOsCandidate.fromOperationResult result = .ok materialized) :
    isStoreEntry (PathBuf.ofString materialized.systemClosure).components = true := by
  simp only [MaterializedNixOsCandidate.fromOperationResult, bind_eq_ok] at h
  obtain ⟨_, -, _, -, h⟩ := h
  split at h
  · simp only [bind_eq_ok, pure_eq_ok] at h
    obtain ⟨_, hclosure, rfl⟩ := h
    exact isStoreEntry_of_validate hclosure
  · cases h

namespace PrivilegedNixOsActivationHelper

/-- Whoever handed over a command was first told a canonical path, with the
components of the closure. -/
theorem Phase.canonical_of_run {self : PrivilegedNixOsActivationHelper}
    {p : PreparedPrivilegedActivation} {now : Nat} {tr : List (Event HelperSig)}
    (h : Phase self p now tr) {program : PathBuf} {argument : String}
    {answer : Except String PrivilegedCommandOutcome}
    (hrun : ⟨.run program argument, answer⟩ ∈ tr) : ∃ canonical,
      tr.head? = some ⟨.canonicalizePath (.ofString p.plan.systemClosure), .ok canonical⟩
        ∧ canonical.components = (PathBuf.ofString p.plan.systemClosure).components
        ∧ isStoreEntry (PathBuf.ofString p.plan.systemClosure).components = true := by
  cases h with
  | observing quiet =>
      have heffect : Effect.command program argument ∈ effects tr :=
        List.mem_filterMap.mpr ⟨_, hrun, rfl⟩
      rw [quiet] at heffect
      cases heffect
  | consumed _ _ _ => simp [observations] at hrun
  | @launched obs canonical bootDefault _ validated ready _ _ _ _ =>
      have hsame : (canonical.components == obs.candidate.components) = true :=
        ready.canonical_eq
      have hcanonical := eq_of_beq hsame
      rw [ready.candidate] at hcanonical
      refine ⟨canonical, ?_, hcanonical, ?_⟩
      · rw [← ready.candidate]
        rfl
      · rw [← validStoreClosure_eq]
        exact (validatePrepared_ok.mp validated).1.closure

end PrivilegedNixOsActivationHelper

/-- A canonical path with the components of a store path has its text, and that the one
spelling, exactly when both texts are plain. -/
theorem same_spelling_iff {text : String} {canonical : PathBuf}
    (hentry : isStoreEntry (PathBuf.ofString text).components = true)
    (hcanonical : canonical.components = (PathBuf.ofString text).components) :
    (Spelled text ∧ canonical.bytes = utf8Bytes text)
      ↔ (PathBuf.ofString text).Plain ∧ canonical.Plain := by
  rw [spelled_iff_plain hentry]
  refine and_congr_right ?_
  intro hplain
  obtain ⟨entry, hcomponents⟩ := components_of_isStoreEntry hentry
  constructor
  · intro hbytes
    have hpath : canonical = PathBuf.ofString text := congrArg PathBuf.mk hbytes
    rw [hpath]
    exact hplain
  · intro hplain'
    exact PathBuf.eq_of_plain hplain' hplain
      (PathBuf.absolute_of_components (hcanonical.trans hcomponents)) hcanonical

/-- A closure that is accepted has the one spelling exactly when its text is plain; in
an execution that handed over a command it also has the text of the canonical path
exactly when both texts are. -/
theorem one_spelling_iff (result : SystemOperationResult)
    (self : PrivilegedNixOsActivationHelper) (p : PreparedPrivilegedActivation) (now : Nat) :
    (∀ materialized, MaterializedNixOsCandidate.fromOperationResult result = .ok materialized →
      (Spelled materialized.systemClosure
        ↔ (PathBuf.ofString materialized.systemClosure).Plain))
    ∧ ∀ (tr : List (Event HelperSig))
        (q : Prog HelperSig PrivilegedActivationError PrivilegedActivationExecution)
        (program : PathBuf) (argument : String) (answer : Except String PrivilegedCommandOutcome),
      (self.execute p now).Steps tr q → ⟨.run program argument, answer⟩ ∈ tr →
      ∃ canonical,
        tr.head? = some ⟨.canonicalizePath (.ofString p.plan.systemClosure), .ok canonical⟩
        ∧ ((Spelled p.plan.systemClosure ∧ canonical.bytes = utf8Bytes p.plan.systemClosure)
          ↔ (PathBuf.ofString p.plan.systemClosure).Plain ∧ canonical.Plain) := by
  constructor
  · intro materialized haccepted
    exact spelled_iff_plain (isStoreEntry_of_fromOperationResult haccepted)
  · intro tr q program argument answer hsteps hrun
    obtain ⟨hphase, -⟩ := (PrivilegedNixOsActivationHelper.execute_all self p now).of_steps hsteps
    obtain ⟨canonical, hhead, hcanonical, hentry⟩ := hphase.canonical_of_run hrun
    exact ⟨canonical, hhead, same_spelling_iff hentry hcanonical⟩

/-! The pilot's closure, once with a separator at its end. -/

namespace Pilot

open PrivilegedNixOsActivationHelper

def respelled : String := "/nix/store/abc123-nixos-system-blob-pilot/"

/-- The result of the pilot's build, with the closure spelled `text`. -/
def resultFor (text : String) : SystemOperationResult :=
  { operationResult command buildOutput 42 with storePaths := [text] }

/-- The pilot request, with the closure spelled `text`. -/
def preparedFor (text : String) : PreparedPrivilegedActivation :=
  { prepared ⟨"auth:one"⟩ with
    plan := { plan with systemClosure := text, program := switchProgram text } }

/-- Its execution up to the command; the host answers the pilot's own spelling. -/
def launch (text : String) : List (Event HelperSig) :=
  [ ⟨.canonicalizePath (.ofString text), .ok (.ofString plan.systemClosure)⟩
  , ⟨.executableExists (.ofString (switchProgram text)), .ok true⟩
  , ⟨.currentSystemClosure, .ok pilotObserved.before⟩
  , ⟨.bootDefaultClosure, .ok pilotObserved.before⟩
  , ⟨.executableExists pilotObserved.rollbackProgram, .ok true⟩
  , ⟨.consumeOnce ⟨"auth:one"⟩ 2000, .ok ()⟩
  , ⟨.run (.ofString (switchProgram text)) "test", .ok ⟨.succeeded, some 0, "", "", 9⟩⟩ ]

theorem steps_launch :
    ∃ q, (pilotHelper.execute (preparedFor plan.systemClosure) 2500).Steps
      (launch plan.systemClosure) q :=
  ⟨_, Prog.steps_of_follow rfl⟩

theorem steps_launch_respelled :
    ∃ q, (pilotHelper.execute (preparedFor respelled) 2500).Steps (launch respelled) q :=
  ⟨_, Prog.steps_of_follow rfl⟩

theorem not_spelled_respelled : ¬ Spelled respelled := by
  rw [spelled_iff_plain (by decide)]
  decide

end Pilot

theorem pilot_spelling :
    (∃ materialized, MaterializedNixOsCandidate.fromOperationResult
        (Pilot.resultFor Pilot.plan.systemClosure) = .ok materialized
      ∧ (Spelled materialized.systemClosure
        ↔ (PathBuf.ofString materialized.systemClosure).Plain))
    ∧ Spelled Pilot.plan.systemClosure := by
  have haccepted : MaterializedNixOsCandidate.fromOperationResult
      (Pilot.resultFor Pilot.plan.systemClosure) = .ok Pilot.materialized := rfl
  obtain ⟨haccept, hexecute⟩ := one_spelling_iff
    (Pilot.resultFor Pilot.plan.systemClosure) PrivilegedNixOsActivationHelper.pilotHelper
    (Pilot.preparedFor Pilot.plan.systemClosure) 2500
  refine ⟨⟨_, haccepted, haccept _ haccepted⟩, ?_⟩
  obtain ⟨q, hq⟩ := Pilot.steps_launch
  obtain ⟨canonical, hhead, hiff⟩ := hexecute _ _ _ _ _ hq (List.mem_of_getLast? rfl)
  simp only [Pilot.launch, List.head?_cons, Option.some.injEq, Event.mk.injEq] at hhead
  obtain rfl := Except.ok.inj (eq_of_heq hhead.2)
  exact (hiff.mpr ⟨by decide, by decide⟩).1

/-- The respelled closure is accepted, and its command handed over, although the host
answers another text. -/
theorem respelled_closure_executed :
    (∃ materialized, MaterializedNixOsCandidate.fromOperationResult
        (Pilot.resultFor Pilot.respelled) = .ok materialized
      ∧ ¬ Spelled materialized.systemClosure)
    ∧ ∃ q program argument answer canonical,
      (PrivilegedNixOsActivationHelper.pilotHelper.execute
          (Pilot.preparedFor Pilot.respelled) 2500).Steps (Pilot.launch Pilot.respelled) q
      ∧ ⟨.run program argument, answer⟩ ∈ Pilot.launch Pilot.respelled
      ∧ ⟨.canonicalizePath (.ofString Pilot.respelled), .ok canonical⟩
        ∈ Pilot.launch Pilot.respelled
      ∧ ¬ Spelled (Pilot.preparedFor Pilot.respelled).plan.systemClosure
      ∧ canonical.bytes ≠ utf8Bytes (Pilot.preparedFor Pilot.respelled).plan.systemClosure := by
  refine ⟨⟨_, rfl, Pilot.not_spelled_respelled⟩, ?_⟩
  obtain ⟨q, hq⟩ := Pilot.steps_launch_respelled
  exact ⟨q, _, _, _, _, hq, List.mem_of_getLast? rfl, List.mem_cons_self ..,
    Pilot.not_spelled_respelled, by decide⟩

end Blob
