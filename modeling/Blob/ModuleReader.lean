import Mathlib.Data.List.TakeWhile
import Blob.Translation

/-!
# Reading a module back

A NixOS module of the translation is a header, one assignment a line, and a
footer. `readModule` reads such a text line by line, `readConfiguration` what
its assignments say; neither knows the specification. What a translation wrote
is read as what was specified (`translation_preserves`): the host name holds
nothing that ends its literal or its line, no two features have one option,
and text and trace are made of the same selections in the same order.
-/

namespace Blob

open Text Checks KeySort

/-- An option and the text of its value. -/
abbrev Assignment : Type := String × String

/-! ## Lines -/

def renderAssignment (assignment : Assignment) : String :=
  "  " ++ assignment.1 ++ " = " ++ assignment.2 ++ ";"

/-- A module that makes some assignments, and nothing else. -/
def renderModule (assignments : List Assignment) : String :=
  joinLines (["\x7b pkgs, ... \x7d:", "\x7b"] ++ assignments.map renderAssignment
    ++ ["\x7d", ""])

def readAssignment (line : List Char) : Option Assignment :=
  match line with
  | ' ' :: ' ' :: rest =>
      match rest.dropWhile (· != ' ') with
      | ' ' :: '=' :: ' ' :: value =>
          if value.getLast? = some ';' then
            some (String.ofList (rest.takeWhile (· != ' ')), String.ofList value.dropLast)
          else none
      | _ => none
  | _ => none

/-- The assignments up to the footer, which the text ends with. -/
def readBody : List (List Char) → Option (List Assignment)
  | [closing, last] => if closing = "\x7d".toList ∧ last = [] then some [] else none
  | line :: next :: after :: rest => do
      let assignment ← readAssignment line
      let assignments ← readBody (next :: after :: rest)
      return assignment :: assignments
  | _ => none

def readModule (text : String) : Option (List Assignment) :=
  match text.toList.splitOn '\n' with
  | header :: opening :: body =>
      if header = "\x7b pkgs, ... \x7d:".toList ∧ opening = "\x7b".toList then readBody body
      else none
  | _ => none

/-- An assignment that stays on its line, of an option without a blank. -/
structure Readable (assignment : Assignment) : Prop where
  option : ' ' ∉ assignment.1.toList
  optionLine : OneLine assignment.1
  valueLine : OneLine assignment.2

theorem readable_quoted {option value : String} (hblank : ' ' ∉ option.toList)
    (hoption : OneLine option) (hvalue : OneLine value) :
    Readable (option, "\"" ++ value ++ "\"") := by
  have hquote : OneLine "\"" := by decide
  exact ⟨hblank, hoption, (hquote.append hvalue).append hquote⟩

theorem readAssignment_render {assignment : Assignment} (h : Readable assignment) :
    readAssignment (renderAssignment assignment).toList = some assignment := by
  obtain ⟨option, value⟩ := assignment
  have hline : (renderAssignment (option, value)).toList = ' ' :: ' ' :: (option.toList
      ++ ' ' :: '=' :: ' ' :: (value.toList ++ [';'])) := by
    simp [renderAssignment]
  obtain ⟨hbefore, hafter⟩ := takeWhile_separated ('=' :: ' ' :: (value.toList ++ [';'])) h.option
  rw [hline, readAssignment, hbefore, hafter]
  simp

theorem readBody_render {assignments : List Assignment}
    (h : ∀ assignment ∈ assignments, Readable assignment) :
    readBody ((assignments.map renderAssignment ++ ["\x7d", ""]).map String.toList)
      = some assignments := by
  induction assignments with
  | nil => rfl
  | cons assignment assignments ih =>
      have hfirst := readAssignment_render (h assignment (List.mem_cons_self ..))
      have hrest := ih fun a ha => h a (List.mem_cons_of_mem _ ha)
      -- behind every assignment there are two more lines at least
      obtain ⟨next, after, rest, hlines⟩ : ∃ next after rest,
          (assignments.map renderAssignment ++ ["\x7d", ""]).map String.toList
            = next :: after :: rest := by
        rcases assignments with _ | ⟨a, _ | ⟨b, rest⟩⟩
        · exact ⟨_, _, _, rfl⟩
        · exact ⟨_, _, _, rfl⟩
        · exact ⟨_, _, _, rfl⟩
      rw [hlines] at hrest
      rw [List.map_cons, List.cons_append, List.map_cons, hlines, readBody, hfirst, hrest]
      rfl

/-- Rendered assignments are read back. -/
theorem readModule_render {assignments : List Assignment}
    (h : ∀ assignment ∈ assignments, Readable assignment) :
    readModule (renderModule assignments) = some assignments := by
  have hone : ∀ line ∈ ["\x7b pkgs, ... \x7d:", "\x7b"] ++ assignments.map renderAssignment
      ++ ["\x7d", ""], OneLine line := by
    intro line hline
    simp only [List.mem_append, List.mem_cons, List.not_mem_nil, or_false, List.mem_map] at hline
    rcases hline with ((rfl | rfl) | ⟨assignment, hmem, rfl⟩) | rfl | rfl
    · decide
    · decide
    · obtain ⟨-, hoption, hvalue⟩ := h assignment hmem
      have hindent : OneLine "  " := by decide
      have hequals : OneLine " = " := by decide
      have hend : OneLine ";" := by decide
      exact (((hindent.append hoption).append hequals).append hvalue).append hend
    · decide
    · decide
  rw [readModule, renderModule, splitOn_joinLines (by simp) hone, List.append_assoc,
    List.map_append]
  show (if _ then readBody _ else none) = _
  rw [if_pos ⟨rfl, rfl⟩]
  exact readBody_render h

/-! ## What the assignments say -/

/-- The system that a module describes. -/
structure NixConfiguration where
  hostname : String
  architecture : SystemArchitecture
  kernelPolicy : KernelPolicy
  features : List SystemFeatureSelection
deriving Repr, DecidableEq

/-- The text of a string literal that needs no escape. -/
def unquote (value : String) : Option String :=
  match value.toList with
  | '\x22' :: rest =>
      if rest.getLast? = some '\x22'
          ∧ rest.dropLast.all fun c => c ≠ '\x22' ∧ c ≠ '\x5c' ∧ c ≠ '$' then
        some (String.ofList rest.dropLast)
      else none
  | _ => none

def readHostname (assignment : Assignment) : Option String :=
  if assignment.1 = "networking.hostName" then unquote assignment.2 else none

def readArchitecture (assignment : Assignment) : Option SystemArchitecture :=
  if assignment.1 = "nixpkgs.hostPlatform" then
    (unquote assignment.2).bind fun platform =>
      [SystemArchitecture.x86_64, .aarch64].find? (hostPlatform · == platform)
  else none

/-- The kernel policy, and the assignments after it; the default has none. -/
def readKernelPolicy : List Assignment → KernelPolicy × List Assignment
  | [] => (.distributionDefault, [])
  | assignment :: rest =>
      if assignment = ("boot.kernelPackages", "pkgs.linuxPackages_latest") then
        (.latestSupported, rest)
      else (.distributionDefault, assignment :: rest)

def readFeature (assignment : Assignment) : Option SystemFeatureSelection := do
  let (feature, _) ← featureOptions.find? (·.2 == assignment.1)
  let state ← [FeatureState.enabled, .disabled].find? (boolLiteral · == assignment.2)
  return { feature := ⟨feature⟩, state }

def readConfiguration : List Assignment → Option NixConfiguration
  | hostname :: platform :: rest => do
      let hostname ← readHostname hostname
      let architecture ← readArchitecture platform
      let (kernelPolicy, rest) := readKernelPolicy rest
      let features ← rest.mapM readFeature
      return { hostname, architecture, kernelPolicy, features }
  | _ => none

/-! ## What a translation writes -/

/-- The option of a supported feature. -/
def optionOf (selection : SystemFeatureSelection) : String :=
  (featureOptions.lookup selection.feature.value).getD ""

def featureAssignment (selection : SystemFeatureSelection) : Assignment :=
  (optionOf selection, boolLiteral selection.state)

def featureStep (selection : SystemFeatureSelection) : TranslationStep where
  semanticSource := "feature:" ++ selection.feature.value ++ "=" ++ stateName selection.state
  nixTarget := optionOf selection

def kernelAssignments : KernelPolicy → List Assignment
  | .distributionDefault => []
  | .latestSupported => [("boot.kernelPackages", "pkgs.linuxPackages_latest")]

/-- The assignments of a specification, its features in the order of `selections`. -/
def assignmentsOf (spec : SystemSpec) (selections : List SystemFeatureSelection) :
    List Assignment :=
  ("networking.hostName", "\"" ++ spec.hostname ++ "\"")
    :: ("nixpkgs.hostPlatform", "\"" ++ hostPlatform spec.architecture ++ "\"")
    :: (kernelAssignments spec.kernelPolicy ++ selections.map featureAssignment)

/-- The steps of a specification, one for each of its features in the same order. -/
def stepsOf (spec : SystemSpec) (selections : List SystemFeatureSelection) :
    List TranslationStep :=
  [ { semanticSource := "SystemSpec.hostname", nixTarget := "networking.hostName" }
  , { semanticSource := "SystemSpec.architecture", nixTarget := "nixpkgs.hostPlatform" }
  , (translateKernelPolicy spec.kernelPolicy).2 ]
  ++ selections.map featureStep

/-- The feature of a selection has an option. -/
def Supported (selection : SystemFeatureSelection) : Prop :=
  (selection.feature.value, optionOf selection) ∈ featureOptions

theorem translateFeature_eq_ok {selection : SystemFeatureSelection} {option value : String}
    (h : translateFeature selection = .ok (option, value)) :
    Supported selection ∧ (option, value) = featureAssignment selection := by
  unfold translateFeature at h
  split at h
  · rename_i found hlookup
    obtain ⟨rfl, rfl⟩ := Prod.mk.inj (Except.ok.inj h)
    have hoption : optionOf selection = found := by rw [optionOf, hlookup, Option.getD_some]
    refine ⟨?_, by rw [featureAssignment, hoption]⟩
    rw [Supported, hoption]
    obtain ⟨before, after, htable, -⟩ := List.lookup_eq_some_iff.mp hlookup
    rw [htable]
    exact List.mem_append_right _ (List.mem_cons_self ..)
  · cases h

/-- One pass of the loop writes the assignment and the step of the selection. -/
theorem featureLine_eq_ok {selection : SystemFeatureSelection}
    {written : String × TranslationStep} (h : NixOsBackend.featureLine selection = .ok written) :
    Supported selection
      ∧ written = (renderAssignment (featureAssignment selection), featureStep selection) := by
  simp only [NixOsBackend.featureLine, bind_eq_ok, pure_eq_ok] at h
  obtain ⟨⟨option, value⟩, htranslated, rfl⟩ := h
  obtain ⟨hsupported, hassignment⟩ := translateFeature_eq_ok htranslated
  obtain ⟨rfl, rfl⟩ := Prod.mk.inj hassignment
  exact ⟨hsupported, rfl⟩

/-- The loop writes the assignments and the steps of the selections. -/
theorem mapM_featureLine {selections : List SystemFeatureSelection}
    {written : List (String × TranslationStep)}
    (h : selections.mapM NixOsBackend.featureLine = .ok written) :
    (∀ selection ∈ selections, Supported selection)
      ∧ written.map (·.1) = (selections.map featureAssignment).map renderAssignment
      ∧ written.map (·.2) = selections.map featureStep := by
  have hpasses := mapM_eq_ok.mp h
  clear h
  induction hpasses with
  | nil => simp
  | cons hpass _ ih =>
      obtain ⟨hsupported, rfl⟩ := featureLine_eq_ok hpass
      obtain ⟨hall, hlines, hsteps⟩ := ih
      refine ⟨?_, ?_, ?_⟩
      · rintro selection hselection
        rcases List.mem_cons.mp hselection with rfl | hselection
        · exact hsupported
        · exact hall selection hselection
      · rw [List.map_cons, List.map_cons, List.map_cons, hlines]
      · rw [List.map_cons, List.map_cons, hsteps]

/-- What a translation has written. -/
structure Written (spec : SystemSpec) (translation : NixTranslation)
    (selections : List SystemFeatureSelection) : Prop where
  valid : spec.Valid
  channel : spec.baseChannel = .stable
  perm : selections.Perm spec.profile.features
  supported : ∀ selection ∈ selections, Supported selection
  text : translation.moduleText = renderModule (assignmentsOf spec selections)
  trace : translation.trace = stepsOf spec selections

theorem joinLines_terminated {ls : List String} (hne : ls ≠ []) :
    joinLines ls ++ "\n" = joinLines (ls ++ [""]) := by
  rw [← String.toList_inj, toList_joinLines_terminated hne, String.toList_append]
  rfl

/-- A line that is written with the quotes of its value around it. -/
theorem renderAssignment_quoted {before option : String} (value : String)
    (h : before = "  " ++ option ++ " = " ++ "\"") :
    before ++ value ++ "\";" = renderAssignment (option, "\"" ++ value ++ "\"") := by
  have hend : "\";" = "\"" ++ ";" := by decide
  rw [h, hend, renderAssignment]
  simp only [String.append_assoc]

theorem kernelLines_eq (policy : KernelPolicy) :
    (translateKernelPolicy policy).1 = (kernelAssignments policy).map renderAssignment := by
  cases policy <;> decide

theorem written_of_translate {spec : SystemSpec} {translation : NixTranslation}
    (h : NixOsBackend.translate spec = .ok translation) :
    ∃ selections, Written spec translation selections := by
  simp only [NixOsBackend.translate, bind_eq_ok, mapError_eq_ok, reject_eq_ok, ne_eq, not_not,
    pure_eq_ok] at h
  obtain ⟨_, hvalid, _, hchannel, written, hwritten, rfl⟩ := h
  obtain ⟨hsupported, hlines, hsteps⟩ := mapM_featureLine hwritten
  refine ⟨_, SystemSpec.validate_eq_ok.mp hvalid, hchannel, byKey_perm _ _, hsupported, ?_, ?_⟩
  · have hhost : "  networking.hostName = \"" ++ spec.hostname ++ "\";" = renderAssignment
        ("networking.hostName", "\"" ++ spec.hostname ++ "\"") :=
      renderAssignment_quoted _ (by decide)
    have hplatform : "  nixpkgs.hostPlatform = \"" ++ hostPlatform spec.architecture ++ "\";"
        = renderAssignment
          ("nixpkgs.hostPlatform", "\"" ++ hostPlatform spec.architecture ++ "\"") :=
      renderAssignment_quoted _ (by decide)
    show joinLines _ ++ "\n" = _
    rw [joinLines_terminated (by simp), hlines, kernelLines_eq, hhost, hplatform, renderModule,
      assignmentsOf]
    simp only [List.map_cons, List.map_append, List.cons_append, List.nil_append,
      List.append_assoc]
  · show _ ++ written.map (·.2) = _
    rw [hsteps]
    rfl

/-! ## What is read of it -/

/-- The options of the table, among them no option that is written for anything else. -/
theorem optionOf_ne {selection : SystemFeatureSelection} (h : Supported selection) :
    optionOf selection ≠ "networking.hostName" ∧ optionOf selection ≠ "nixpkgs.hostPlatform"
      ∧ optionOf selection ≠ "boot.kernelPackages" := by
  have htable : ∀ entry ∈ featureOptions, entry.2 ≠ "networking.hostName"
      ∧ entry.2 ≠ "nixpkgs.hostPlatform" ∧ entry.2 ≠ "boot.kernelPackages" := by
    decide
  exact htable _ h

/-- No two features have one option. -/
theorem find_optionOf {selection : SystemFeatureSelection} (h : Supported selection) :
    featureOptions.find? (·.2 == optionOf selection)
      = some (selection.feature.value, optionOf selection) := by
  have htable : ∀ entry ∈ featureOptions,
      featureOptions.find? (·.2 == entry.2) = some entry := by
    decide
  exact htable _ h

theorem readFeature_featureAssignment {selection : SystemFeatureSelection}
    (h : Supported selection) : readFeature (featureAssignment selection) = some selection := by
  have hstate : [FeatureState.enabled, .disabled].find?
      (boolLiteral · == boolLiteral selection.state) = some selection.state := by
    cases selection.state <;> decide
  rw [readFeature, featureAssignment]
  dsimp only
  rw [find_optionOf h, hstate]
  rfl

theorem mapM_readFeature {selections : List SystemFeatureSelection}
    (h : ∀ selection ∈ selections, Supported selection) :
    (selections.map featureAssignment).mapM readFeature = some selections := by
  induction selections with
  | nil => rfl
  | cons selection selections ih =>
      have hfirst := readFeature_featureAssignment (h selection (List.mem_cons_self ..))
      have hrest := ih fun s hs => h s (List.mem_cons_of_mem _ hs)
      rw [List.map_cons, List.mapM_cons, hfirst, hrest]
      rfl

theorem unquote_quoted {text : String}
    (h : ∀ c ∈ text.toList, c ≠ '\x22' ∧ c ≠ '\x5c' ∧ c ≠ '$') :
    unquote ("\"" ++ text ++ "\"") = some text := by
  have hquoted : ("\"" ++ text ++ "\"").toList = '\x22' :: (text.toList ++ ['\x22']) := by
    simp
  have hlast : (text.toList ++ ['\x22']).getLast? = some '\x22' := List.getLast?_concat
  have hinner : (text.toList ++ ['\x22']).dropLast = text.toList := List.dropLast_concat
  have hall : text.toList.all (fun c => c ≠ '\x22' ∧ c ≠ '\x5c' ∧ c ≠ '$') = true :=
    List.all_eq_true.mpr fun c hc => decide_eq_true (h c hc)
  rw [unquote, hquoted]
  show (if _ ∧ _ then some _ else none) = _
  rw [hlast, hinner, if_pos ⟨rfl, hall⟩, String.ofList_toList]

theorem readHostname_assignment {hostname : String} (h : validHostname hostname = true) :
    readHostname ("networking.hostName", "\"" ++ hostname ++ "\"") = some hostname := by
  have hplain : ∀ special : Char, special.toNat < 0x80 →
      hostnameByte (UInt8.ofNat special.toNat) = false → ∀ c ∈ hostname.toList, c ≠ special := by
    rintro special hascii hother c hc rfl
    exact notMem_of_validHostname h hascii hother hc
  have hquote := hplain '\x22' (by decide) (by decide)
  have hbackslash := hplain '\x5c' (by decide) (by decide)
  have hdollar := hplain '$' (by decide) (by decide)
  rw [readHostname, if_pos rfl]
  exact unquote_quoted fun c hc => ⟨hquote c hc, hbackslash c hc, hdollar c hc⟩

theorem readArchitecture_assignment (architecture : SystemArchitecture) :
    readArchitecture ("nixpkgs.hostPlatform", "\"" ++ hostPlatform architecture ++ "\"")
      = some architecture := by
  have hplain : ∀ c ∈ (hostPlatform architecture).toList,
      c ≠ '\x22' ∧ c ≠ '\x5c' ∧ c ≠ '$' := by
    cases architecture <;> simp [hostPlatform]
  have hfind : [SystemArchitecture.x86_64, .aarch64].find?
      (hostPlatform · == hostPlatform architecture) = some architecture := by
    cases architecture <;> decide
  rw [readArchitecture, if_pos rfl, unquote_quoted hplain, Option.bind_some, hfind]

theorem readKernelPolicy_assignments (policy : KernelPolicy)
    {selections : List SystemFeatureSelection}
    (h : ∀ selection ∈ selections, Supported selection) :
    readKernelPolicy (kernelAssignments policy ++ selections.map featureAssignment)
      = (policy, selections.map featureAssignment) := by
  cases policy with
  | latestSupported => rfl
  | distributionDefault =>
      -- the line after the platform is a feature's, and no feature has the kernel's option
      rcases selections with _ | ⟨selection, selections⟩
      · rfl
      · have hne : featureAssignment selection
            ≠ ("boot.kernelPackages", "pkgs.linuxPackages_latest") := by
          intro heq
          exact (optionOf_ne (h selection (List.mem_cons_self ..))).2.2 (Prod.mk.inj heq).1
        rw [kernelAssignments, List.nil_append, List.map_cons, readKernelPolicy, if_neg hne]

namespace Written

variable {spec : SystemSpec} {translation : NixTranslation}
  {selections : List SystemFeatureSelection}

theorem readable (h : Written spec translation selections) :
    ∀ assignment ∈ assignmentsOf spec selections, Readable assignment := by
  intro assignment hmem
  simp only [assignmentsOf, List.mem_cons, List.mem_append, List.mem_map] at hmem
  rcases hmem with rfl | rfl | hkernel | ⟨selection, hselection, rfl⟩
  · have hline : OneLine spec.hostname :=
      notMem_of_validHostname h.valid.hostname (by decide) (by decide)
    exact readable_quoted (by decide) (by decide) hline
  · have hline : OneLine (hostPlatform spec.architecture) := by
      cases spec.architecture <;> decide
    exact readable_quoted (by decide) (by decide) hline
  · cases hpolicy : spec.kernelPolicy with
    | distributionDefault =>
        rw [hpolicy] at hkernel
        cases hkernel
    | latestSupported =>
        rw [hpolicy, kernelAssignments, List.mem_singleton] at hkernel
        subst hkernel
        exact ⟨by decide, by decide, by decide⟩
  · have htable : ∀ entry ∈ featureOptions, ' ' ∉ entry.2.toList ∧ OneLine entry.2 := by
      decide
    obtain ⟨hoption, hline⟩ := htable _ (h.supported selection hselection)
    have hvalue : OneLine (boolLiteral selection.state) := by
      cases selection.state <;> decide
    exact ⟨hoption, hline, hvalue⟩

theorem readModule_eq (h : Written spec translation selections) :
    readModule translation.moduleText = some (assignmentsOf spec selections) := by
  rw [h.text]
  exact readModule_render h.readable

theorem readConfiguration_eq (h : Written spec translation selections) :
    readConfiguration (assignmentsOf spec selections)
      = some ⟨spec.hostname, spec.architecture, spec.kernelPolicy, selections⟩ := by
  rw [assignmentsOf, readConfiguration, readHostname_assignment h.valid.hostname,
    readArchitecture_assignment, readKernelPolicy_assignments _ h.supported]
  show ((selections.map featureAssignment).mapM readFeature).bind _ = _
  rw [mapM_readFeature h.supported]
  rfl

/-- The selections are of different features, so the options are different. -/
theorem nodup_optionOf (h : Written spec translation selections) :
    (selections.map optionOf).Nodup := by
  have hselections : selections.Nodup :=
    h.perm.nodup_iff.mpr (List.Nodup.of_map _ h.valid.features)
  refine List.Nodup.map_on ?_ hselections
  intro a ha b hb hoption
  have hvalue : some (a.feature.value, optionOf a) = some (b.feature.value, optionOf b) := by
    rw [← find_optionOf (h.supported a ha), ← find_optionOf (h.supported b hb), hoption]
  exact NixOsBackend.selection_eq_of_feature h.valid (h.perm.mem_iff.mp ha)
    (h.perm.mem_iff.mp hb) (Prod.mk.inj (Option.some.inj hvalue)).1

theorem nodup_assigned (h : Written spec translation selections) :
    ((assignmentsOf spec selections).map (·.1)).Nodup := by
  have hnotMem : ∀ option : String, (∀ selection ∈ selections, optionOf selection ≠ option) →
      option ∉ selections.map optionOf := by
    intro option hne hmem
    obtain ⟨selection, hselection, rfl⟩ := List.mem_map.mp hmem
    exact hne selection hselection rfl
  have hhost := hnotMem "networking.hostName" fun s hs => (optionOf_ne (h.supported s hs)).1
  have hplatform := hnotMem "nixpkgs.hostPlatform" fun s hs =>
    (optionOf_ne (h.supported s hs)).2.1
  have hkernel := hnotMem "boot.kernelPackages" fun s hs => (optionOf_ne (h.supported s hs)).2.2
  have hmap : (selections.map featureAssignment).map (·.1) = selections.map optionOf := by
    rw [List.map_map]
    rfl
  rw [assignmentsOf, List.map_cons, List.map_cons, List.map_append, hmap]
  cases spec.kernelPolicy with
  | distributionDefault =>
      simp [kernelAssignments, hhost, hplatform, h.nodup_optionOf]
  | latestSupported =>
      simp [kernelAssignments, hhost, hplatform, hkernel, h.nodup_optionOf]

end Written

namespace NixOsBackend

/-- A translation is read as its specification: of every option one assignment, of the host
name, the architecture, the kernel policy and the features what was specified, and
nothing else; and the trace names the options in the order of the lines. So what two
specifications with one text say of these is the same. -/
theorem translation_preserves {spec : SystemSpec} {t : NixTranslation}
    (h : translate spec = .ok t) :
    (∃ selections, selections.Perm spec.profile.features
      ∧ t.moduleText = renderModule (assignmentsOf spec selections)
      ∧ readModule t.moduleText = some (assignmentsOf spec selections)
      ∧ ((assignmentsOf spec selections).map (·.1)).Nodup
      ∧ readConfiguration (assignmentsOf spec selections)
          = some ⟨spec.hostname, spec.architecture, spec.kernelPolicy, selections⟩
      ∧ t.trace = stepsOf spec selections)
    ∧ ∀ spec' t', translate spec' = .ok t' → t'.moduleText = t.moduleText →
        SameSystem spec spec' := by
  obtain ⟨selections, hwritten⟩ := written_of_translate h
  constructor
  · exact ⟨selections, hwritten.perm, hwritten.text, hwritten.readModule_eq,
      hwritten.nodup_assigned, hwritten.readConfiguration_eq, hwritten.trace⟩
  · intro spec' t' h' htext
    obtain ⟨selections', hwritten'⟩ := written_of_translate h'
    have hassignments : assignmentsOf spec selections = assignmentsOf spec' selections' := by
      have hread := hwritten'.readModule_eq
      rw [htext, hwritten.readModule_eq] at hread
      exact Option.some.inj hread
    have hconfiguration := hwritten'.readConfiguration_eq
    rw [← hassignments, hwritten.readConfiguration_eq] at hconfiguration
    obtain ⟨hhost, harchitecture, hkernel, rfl⟩ :=
      NixConfiguration.mk.inj (Option.some.inj hconfiguration)
    exact {
      hostname := hhost
      architecture := harchitecture
      baseChannel := hwritten.channel.trans hwritten'.channel.symm
      kernelPolicy := hkernel
      features := hwritten.perm.symm.trans hwritten'.perm }

/-- What became of the pilot's specification. -/
def pilotTranslation : NixTranslation where
  moduleText := joinLines
    [ "\x7b pkgs, ... \x7d:"
    , "\x7b"
    , "  networking.hostName = \"blob-pilot\";"
    , "  nixpkgs.hostPlatform = \"x86_64-linux\";"
    , "  boot.kernelPackages = pkgs.linuxPackages_latest;"
    , "  services.pipewire.enable = true;"
    , "  services.printing.enable = false;"
    , "\x7d"
    , "" ]
  trace :=
    [ ⟨"SystemSpec.hostname", "networking.hostName"⟩
    , ⟨"SystemSpec.architecture", "nixpkgs.hostPlatform"⟩
    , ⟨"SystemSpec.kernel_policy=latest-supported",
        "boot.kernelPackages = pkgs.linuxPackages_latest"⟩
    , ⟨"feature:pipewire=enabled", "services.pipewire.enable"⟩
    , ⟨"feature:printing=disabled", "services.printing.enable"⟩ ]

theorem pilot_preserved : ∃ selections, selections.Perm [pipewire, printing]
    ∧ (readModule pilotTranslation.moduleText).bind readConfiguration
      = some ⟨"blob-pilot", .x86_64, .latestSupported, selections⟩ := by
  have hsorted : byKey (fun selection => selection.feature.value)
      (pilotSpec [pipewire, printing]).profile.features = [pipewire, printing] :=
    byKey_of_pairwise (by decide)
  have htranslated : translate (pilotSpec [pipewire, printing]) = .ok pilotTranslation := by
    rw [translate, hsorted]
    decide +kernel
  obtain ⟨⟨selections, hperm, -, hread, -, hconfiguration, -⟩, -⟩ :=
    translation_preserves htranslated
  refine ⟨selections, hperm, ?_⟩
  rw [hread, Option.bind_some, hconfiguration]
  rfl

end NixOsBackend

end Blob
