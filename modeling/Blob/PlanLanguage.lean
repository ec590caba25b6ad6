import Blob.FlakeSelector
import Blob.SystemExecutor

/-!
# The language of build plans

The backend makes the plans of the two building actions; the executor
checks what it is given, whoever made it. Both fix the program and the
first three arguments. Of the selector the executor looks at the end only:
it accepts every plan of the backend (`validate_of_plans`), and of the
others those whose selector ends as the action's does (`validate_eq_ok`).
-/

namespace Blob

open Text Checks

/-- The arguments of a build command. -/
def buildArgs (selector : String) : List String :=
  ["build", "--no-link", "--print-out-paths", selector]

/-! ## What the executor accepts -/

theorem expectedSuffix_ok {action : SystemCandidateAction} {suffix : String}
    (h : expectedSuffix action = .ok suffix) :
    (action = .materialize ∧ suffix = ".config.system.build.toplevel")
      ∨ (action = .buildIsolatedVm ∧ suffix = ".config.system.build.vm") := by
  cases action with
  | materialize => exact Or.inl ⟨rfl, (Except.ok.inj h).symm⟩
  | buildIsolatedVm => exact Or.inr ⟨rfl, (Except.ok.inj h).symm⟩
  | previewActivation => cases h
  | testActivation => cases h

/-- The plans of building actions that carry the policy of their action, the command
of a build, and a selector that ends as their action's. -/
structure Permitted (plan : NixCommandPlan) : Prop where
  authority : plan.authority = .user
  effectClass : plan.effectClass = .materializationOnly
  program : plan.program = "nix"
  command : ∃ suffix selector, expectedSuffix plan.action = .ok suffix
    ∧ plan.args = buildArgs selector ∧ endsWith selector suffix = true

/-- No forbidden argument ends as a selector does. -/
theorem notMem_forbidden {action : SystemCandidateAction} {suffix selector : String}
    (hsuffix : expectedSuffix action = .ok suffix) (hend : endsWith selector suffix = true) :
    selector ∉ forbiddenArguments := by
  intro hmem
  have hnone : ∀ arg ∈ forbiddenArguments, endsWith arg suffix = false := by
    rcases expectedSuffix_ok hsuffix with ⟨-, rfl⟩ | ⟨-, rfl⟩ <;> decide
  rw [hnone selector hmem] at hend
  cases hend

theorem buildArgs_of_shape {args : List String} (hlength : args.length = 4)
    (h₀ : args[0]? = some "build") (h₁ : args[1]? = some "--no-link")
    (h₂ : args[2]? = some "--print-out-paths") : ∃ selector, args = buildArgs selector := by
  match args, hlength with
  | [a, b, c, selector], _ =>
      simp at h₀ h₁ h₂
      exact ⟨selector, by rw [h₀, h₁, h₂]; rfl⟩

/-- The executor's check, as a whole. -/
theorem validate_eq_ok {plan : NixCommandPlan} :
    validateNonPrivilegedPlan plan = .ok () ↔ Permitted plan := by
  simp only [validateNonPrivilegedPlan, bind_eq_ok, reject_eq_ok, exists_const, ne_eq, not_not,
    not_or, not_exists, not_and, Bool.not_eq_false]
  constructor
  · rintro ⟨hauthority, heffect, suffix, hsuffix, hprogram, ⟨hlength, h₀, h₁, h₂⟩, -, hend⟩
    obtain ⟨selector, hargs⟩ := buildArgs_of_shape hlength h₀ h₁ h₂
    refine ⟨hauthority, heffect, hprogram, suffix, selector, hsuffix, hargs, ?_⟩
    rw [hargs] at hend
    exact hend
  · rintro ⟨hauthority, heffect, hprogram, suffix, selector, hsuffix, hargs, hend⟩
    rw [hargs]
    refine ⟨hauthority, heffect, suffix, hsuffix, hprogram, ⟨rfl, rfl, rfl, rfl⟩, ?_, hend⟩
    intro arg harg
    simp only [buildArgs, List.mem_cons, List.not_mem_nil, or_false] at harg
    rcases harg with rfl | rfl | rfl | rfl
    · decide
    · decide
    · decide
    · exact notMem_forbidden hsuffix hend

/-! ## What the backend plans -/

/-- Two plans with one command under one policy. -/
structure SameCommand (plan plan' : NixCommandPlan) : Prop where
  action : plan.action = plan'.action
  effectClass : plan.effectClass = plan'.effectClass
  authority : plan.authority = plan'.authority
  program : plan.program = plan'.program
  args : plan.args = plan'.args

namespace NixOsBackend

/-- The backend has, for some building operation and some target, a plan with the
command of this one. -/
def Plans (plan : NixCommandPlan) : Prop :=
  ∃ operation target planned, (operation.action = .materialize
      ∨ operation.action = .buildIsolatedVm)
    ∧ planOperation operation target = .ok planned ∧ SameCommand planned plan

/-- The selector names an attribute of a configuration of some flake. -/
def Shaped (plan : NixCommandPlan) : Prop :=
  ∃ flake configuration, flake ≠ "" ∧ validConfigurationName configuration = true
    ∧ plan.args = buildArgs (flake ++ "#" ++ attrPath configuration plan.action)

theorem validateTarget_ok {target : NixOsCandidateTarget} :
    validateTarget target = .ok () ↔
      target.flakePath.bytes ≠ [] ∧ validConfigurationName target.configuration = true := by
  simp [validateTarget]

/-- A valid operation and a valid target have a plan. -/
theorem exists_planOperation {operation : SystemCandidateOperation}
    {target : NixOsCandidateTarget} (hoperation : operation.validatePolicy = .ok ())
    (htarget : validateTarget target = .ok ()) :
    ∃ planned, planOperation operation target = .ok planned := by
  simp only [planOperation, hoperation, htarget]
  exact ⟨_, rfl⟩

/-- The plan of a building action: a build of the attribute of its target. -/
theorem build_of_planOperation {operation : SystemCandidateOperation}
    {target : NixOsCandidateTarget} {planned : NixCommandPlan}
    (h : planOperation operation target = .ok planned)
    (hbuild : operation.action = .materialize ∨ operation.action = .buildIsolatedVm) :
    validateTarget target = .ok () ∧ planned.program = "nix"
      ∧ planned.args = buildArgs (target.flakePath.display ++ "#"
        ++ attrPath target.configuration operation.action) := by
  have hselector := selector_of_planOperation h
  simp only [planOperation, bind_eq_ok, mapError_eq_ok, pure_eq_ok] at h
  obtain ⟨_, -, _, htarget, h⟩ := h
  have hcommand : planned.program = "nix" ∧ ∃ selector, planned.args = buildArgs selector := by
    rw [← h]
    rcases hbuild with haction | haction <;> rw [haction] <;> exact ⟨rfl, _, rfl⟩
  obtain ⟨hprogram, selector, hargs⟩ := hcommand
  rw [hargs] at hselector ⊢
  obtain rfl := Option.some.inj hselector
  exact ⟨htarget, hprogram, rfl⟩

theorem attrPath_of_suffix {action : SystemCandidateAction} {suffix : String}
    (hsuffix : expectedSuffix action = .ok suffix) (configuration : String) :
    attrPath configuration action = "nixosConfigurations." ++ configuration ++ suffix := by
  rcases expectedSuffix_ok hsuffix with ⟨rfl, rfl⟩ | ⟨rfl, rfl⟩
  · rfl
  · rfl

/-- A selector of a building action ends as the executor expects of the action. -/
theorem endsWith_selector {action : SystemCandidateAction} {suffix : String}
    (hsuffix : expectedSuffix action = .ok suffix) (flake configuration : String) :
    endsWith (flake ++ "#" ++ attrPath configuration action) suffix = true := by
  rw [attrPath_of_suffix hsuffix, ← String.append_assoc]
  exact endsWith_append _ _

theorem exists_expectedSuffix {action : SystemCandidateAction} :
    (∃ suffix, expectedSuffix action = .ok suffix)
      ↔ action = .materialize ∨ action = .buildIsolatedVm := by
  cases action <;> simp [expectedSuffix]

variable {plan : NixCommandPlan}

theorem permitted_of_plans (h : Plans plan) : Permitted plan := by
  obtain ⟨operation, target, planned, hbuild, hplanned, hsame⟩ := h
  have hplan := planned_of_planOperation hplanned
  obtain ⟨-, hprogram, hargs⟩ := build_of_planOperation hplanned hbuild
  have haction : plan.action = operation.action := hsame.action.symm.trans hplan.action
  have hpolicy : (plan.effectClass, plan.authority) = (.materializationOnly, .user) := by
    rw [← hsame.effectClass, ← hsame.authority, hplan.policy, hplan.action]
    rcases hbuild with hbuild | hbuild <;> rw [hbuild] <;> rfl
  obtain ⟨suffix, hsuffix⟩ := exists_expectedSuffix.mpr hbuild
  exact {
    authority := (Prod.mk.inj hpolicy).2
    effectClass := (Prod.mk.inj hpolicy).1
    program := hsame.program.symm.trans hprogram
    command := ⟨suffix, _, haction ▸ hsuffix, hsame.args.symm.trans hargs,
      endsWith_selector hsuffix _ _⟩ }

theorem shaped_of_plans (h : Plans plan) : Shaped plan := by
  obtain ⟨operation, target, planned, hbuild, hplanned, hsame⟩ := h
  have hplan := planned_of_planOperation hplanned
  obtain ⟨htarget, -, hargs⟩ := build_of_planOperation hplanned hbuild
  obtain ⟨hpath, hname⟩ := validateTarget_ok.mp htarget
  refine ⟨target.flakePath.display, target.configuration, ?_, hname, ?_⟩
  · exact PathBuf.display_ne_empty hpath
  · rw [← hsame.args, hargs, ← hsame.action, hplan.action]

theorem plans_of_shaped (hpermitted : Permitted plan) (hshaped : Shaped plan) : Plans plan := by
  obtain ⟨flake, configuration, hflake, hname, hargs⟩ := hshaped
  obtain ⟨suffix, -, hsuffix, -, -⟩ := hpermitted.command
  have hbuild := exists_expectedSuffix.mp ⟨suffix, hsuffix⟩
  -- the ids of the operation do not show in the command
  let operation := SystemCandidateOperation.new ⟨""⟩ ⟨""⟩ ⟨""⟩ plan.action
  let target : NixOsCandidateTarget := ⟨.ofString flake, configuration⟩
  have htarget : validateTarget target = .ok () := by
    refine validateTarget_ok.mpr ⟨?_, hname⟩
    exact PathBuf.bytes_ofString_ne_nil hflake
  obtain ⟨planned, hplanned⟩ := exists_planOperation
    (SystemCandidateOperation.validatePolicy_new ⟨""⟩ ⟨""⟩ ⟨""⟩ plan.action) htarget
  have hplan := planned_of_planOperation hplanned
  obtain ⟨-, hprogram, hbuildArgs⟩ := build_of_planOperation hplanned hbuild
  have hpolicy : (planned.effectClass, planned.authority) = (.materializationOnly, .user) := by
    rw [hplan.policy, hplan.action]
    show actionPolicy plan.action = _
    rcases hbuild with hbuild | hbuild <;> rw [hbuild] <;> rfl
  refine ⟨operation, target, planned, hbuild, hplanned, ?_⟩
  exact {
    action := hplan.action
    effectClass := (Prod.mk.inj hpolicy).1.trans hpermitted.effectClass.symm
    authority := (Prod.mk.inj hpolicy).2.trans hpermitted.authority.symm
    program := hprogram.trans hpermitted.program.symm
    args := by
      rw [hbuildArgs, hargs]
      simp only [target, PathBuf.display_ofString]
      rfl }

end NixOsBackend

/-- What the executor accepts, and where its language and the backend's agree: it
accepts the build commands whose selector ends as their action's does, and of
these the backend plans the ones whose selector has the backend's shape. -/
theorem accepted_plans (plan : NixCommandPlan) :
    (validateNonPrivilegedPlan plan = .ok () ↔ Permitted plan)
      ∧ (NixOsBackend.Plans plan ↔
        validateNonPrivilegedPlan plan = .ok () ∧ NixOsBackend.Shaped plan) := by
  refine ⟨validate_eq_ok, ?_, ?_⟩
  · intro hplans
    exact ⟨validate_eq_ok.mpr (NixOsBackend.permitted_of_plans hplans),
      NixOsBackend.shaped_of_plans hplans⟩
  · rintro ⟨hvalid, hshaped⟩
    exact NixOsBackend.plans_of_shaped (validate_eq_ok.mp hvalid) hshaped

/-- A plan of nobody's: its selector has the end, but names no configuration. -/
def unplanned : NixCommandPlan where
  operationId := ⟨"op:one"⟩
  candidate := ⟨"candidate:one"⟩
  systemSpec := ⟨"system:one"⟩
  action := .materialize
  effectClass := .materializationOnly
  authority := .user
  program := "nix"
  args := buildArgs "/candidates/one.config.system.build.toplevel"
  expectedEffects := []
  rollbackSemantics := ""

theorem unplanned_accepted :
    validateNonPrivilegedPlan unplanned = .ok () ∧ ¬ NixOsBackend.Plans unplanned := by
  have hend : endsWith ("/candidates/one" ++ ".config.system.build.toplevel")
      ".config.system.build.toplevel" = true := endsWith_append _ _
  refine ⟨validate_eq_ok.mpr ⟨rfl, rfl, rfl, _, _, rfl, rfl, hend⟩, ?_⟩
  intro hplans
  obtain ⟨flake, configuration, -, -, hargs⟩ := NixOsBackend.shaped_of_plans hplans
  have hselector : "/candidates/one.config.system.build.toplevel"
      = flake ++ "#" ++ NixOsBackend.attrPath configuration .materialize :=
    (List.cons.inj (List.cons.inj (List.cons.inj (List.cons.inj hargs).2).2).2).1
  have hhash : '#' ∈ (flake ++ "#"
      ++ NixOsBackend.attrPath configuration .materialize).toList := by
    simp
  rw [← hselector] at hhash
  exact absurd hhash (by decide)

end Blob
