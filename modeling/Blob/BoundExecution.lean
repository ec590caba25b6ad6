import Blob.VerticalSlice

/-!
# The implementation that is run

A resolution binds an implementation id. The run looks a capsule up under
that id, and what it runs and reports is the capsule's own: its program, and
the implementation the capsule says it is of. Nobody compares the two, so a
run is one of the bound implementation exactly when the capsule that the map
holds under the id declares it (`ran_bound_iff`).
-/

namespace Blob

namespace VerticalSlice

/-- What was run is what was bound: the capsule found under the bound implementation
declares it, and so does the result. -/
def RanBound (processCapsules : ImplementationId → Option LocalProcessCapsule)
    (workingDirectory : PathBuf) (tr : List (Event ProcessSig))
    (outcome : VerticalSliceOutcome) : Prop :=
  ∃ role capsule output micros, outcome.plan.resolvedCapabilities = [role]
    ∧ processCapsules role.implementation = some capsule
    ∧ tr = Process.finished capsule.program capsule.args workingDirectory output micros
    ∧ capsule.implementation = role.implementation
    ∧ outcome.execution.implementation = role.implementation

/-- The map holds, under the id of the best implementation of a capability, a capsule
that declares it, if any. -/
def Declared (registry : Registry) (capability : CapabilityId)
    (processCapsules : ImplementationId → Option LocalProcessCapsule) : Prop :=
  ∀ implementation node, Resolver.Best registry capability implementation node →
    ∀ capsule, processCapsules implementation.id = some capsule →
      capsule.implementation = implementation.id

section

variable {event : Core.Event} {activeWorkspace : WorkspaceId} {registry : Registry}
  {processCapsules : ImplementationId → Option LocalProcessCapsule}
  {workingDirectory : PathBuf} {tr : List (Event ProcessSig)} {outcome : VerticalSliceOutcome}

/-- The bound implementation is the best of the registry for the test capability. -/
theorem Returned.best (h : Returned event activeWorkspace registry processCapsules
    workingDirectory tr outcome) {role : ResolvedCapabilityRole}
    (hrole : outcome.plan.resolvedCapabilities = [role]) :
    ∃ implementation node, Resolver.Best registry ⟨"test.run"⟩ implementation node
      ∧ role.implementation = implementation.id := by
  have hbound := h.bound
  rw [h.outcome_eq] at hbound
  obtain ⟨_, _, implementation, node, -, hroles, hhead, -, hplan, -⟩ :=
    Resolver.resolve_eq_ok hbound
  have hcapability := (Prod.mk.inj (List.singleton_inj.mp hroles)).2
  rw [← hcapability] at hhead
  refine ⟨implementation, node, Resolver.best_of_head hhead, ?_⟩
  have hplan : outcome.plan = _ := hplan
  rw [hplan] at hrole
  rw [← List.singleton_inj.mp hrole]

theorem Returned.ranBound (h : Returned event activeWorkspace registry processCapsules
    workingDirectory tr outcome) (hdeclared : Declared registry ⟨"test.run"⟩ processCapsules) :
    RanBound processCapsules workingDirectory tr outcome := by
  obtain ⟨role, capsule, output, micros, hrole, hcapsule, htrace, hexecution⟩ := h.executed
  obtain ⟨implementation, node, hbest, hid⟩ := h.best hrole
  rw [hid] at hcapsule
  have hown := hdeclared implementation node hbest capsule hcapsule
  refine ⟨role, capsule, output, micros, hrole, ?_, htrace, ?_, ?_⟩
  · rw [hid]
    exact hcapsule
  · rw [hid]
    exact hown
  · rw [hexecution, hid]
    exact hown

theorem Returned.declared (h : Returned event activeWorkspace registry processCapsules
    workingDirectory tr outcome)
    (hran : RanBound processCapsules workingDirectory tr outcome) :
    Declared registry ⟨"test.run"⟩ processCapsules := by
  obtain ⟨role, capsule, output, micros, hrole, hcapsule, -, hown, -⟩ := hran
  obtain ⟨implementation, node, hbest, hid⟩ := h.best hrole
  intro implementation' node' hbest' capsule' hcapsule'
  obtain ⟨hids, -⟩ := hbest'.ids_eq hbest
  rw [hids, ← hid, hcapsule, Option.some.injEq] at hcapsule'
  rw [← hcapsule', hown, hid, hids]

/-- A run that has returned ran the implementation it bound exactly when the capsule
under the id of the best test implementation declares that implementation. -/
theorem ran_bound_iff
    (hs : (runSourceChangeTest event activeWorkspace registry processCapsules
      workingDirectory).Steps tr (.pure outcome)) :
    RanBound processCapsules workingDirectory tr outcome
      ↔ Declared registry ⟨"test.run"⟩ processCapsules := by
  obtain ⟨-, -, hreturned⟩ := (run_all event activeWorkspace registry processCapsules
    workingDirectory).of_steps hs
  have h := hreturned outcome rfl
  exact ⟨h.declared, h.ranBound⟩

end

/-! The pilot's registry, once with a capsule of another implementation. -/

namespace Pilot

/-- The pilot's capsule, as one of `declared`. -/
def capsuleOf (declared : ImplementationId) (id : ImplementationId) :
    Option LocalProcessCapsule :=
  if id = ⟨"impl:test"⟩ then some { capsule with implementation := declared } else none

/-- The run of the pilot's registry on such a capsule: it binds the implementation of the
registry, and reports the one of the capsule. -/
theorem steps_capsuleOf (declared : ImplementationId) : ∃ outcome tr role,
    (runSourceChangeTest event Blob.Pilot.workspace registry (capsuleOf declared)
        (.ofString ".")).Steps tr (.pure outcome)
      ∧ outcome.plan.resolvedCapabilities = [role]
      ∧ role.implementation = ⟨"impl:test"⟩
      ∧ outcome.execution.implementation = declared := by
  have hbound := @Resolver.resolve_of_accepted registry (testGraph (newTask event))
    _ _ _ _ rfl rfl (by rw [valid_registry]; rfl) (by decide)
  have hcapsule : capsuleOf declared ⟨"impl:test"⟩
      = some { capsule with implementation := declared } := if_pos rfl
  have hprogram : (Text.trim capsule.program).isEmpty = false := by decide
  exact ⟨_, _, _, steps_run rfl hbound rfl hcapsule hprogram testOutput 42, rfl, rfl, rfl⟩

theorem best_implementation :
    Resolver.Best registry ⟨"test.run"⟩ implementation Resolver.testNode :=
  Resolver.best_of_head (by rw [valid_registry]; rfl)

theorem declared_iff (declared : ImplementationId) :
    Declared registry ⟨"test.run"⟩ (capsuleOf declared) ↔ declared = ⟨"impl:test"⟩ := by
  constructor
  · intro h
    exact h implementation Resolver.testNode best_implementation _ (if_pos rfl)
  · rintro rfl implementation node hbest capsule hcapsule
    obtain ⟨hid, -⟩ := hbest.ids_eq best_implementation
    rw [hid] at hcapsule ⊢
    obtain rfl := Option.some.inj ((if_pos rfl).symm.trans hcapsule)
    rfl

end Pilot

theorem pilot_ran_bound : ∃ outcome tr,
    (runSourceChangeTest Pilot.event Blob.Pilot.workspace Pilot.registry
        (Pilot.capsuleOf ⟨"impl:test"⟩) (.ofString ".")).Steps tr (.pure outcome)
      ∧ RanBound (Pilot.capsuleOf ⟨"impl:test"⟩) (.ofString ".") tr outcome := by
  obtain ⟨outcome, tr, _, hsteps, -⟩ := Pilot.steps_capsuleOf ⟨"impl:test"⟩
  exact ⟨outcome, tr, hsteps, (ran_bound_iff hsteps).mpr ((Pilot.declared_iff _).mpr rfl)⟩

/-- A capsule of another implementation is run for the bound one. -/
theorem other_implementation_ran : ∃ outcome tr role,
    (runSourceChangeTest Pilot.event Blob.Pilot.workspace Pilot.registry
        (Pilot.capsuleOf ⟨"impl:other"⟩) (.ofString ".")).Steps tr (.pure outcome)
      ∧ outcome.plan.resolvedCapabilities = [role]
      ∧ role.implementation = ⟨"impl:test"⟩
      ∧ outcome.execution.implementation = ⟨"impl:other"⟩
      ∧ ¬ RanBound (Pilot.capsuleOf ⟨"impl:other"⟩) (.ofString ".") tr outcome := by
  obtain ⟨outcome, tr, role, hsteps, hrole, hbound, hreported⟩ :=
    Pilot.steps_capsuleOf ⟨"impl:other"⟩
  refine ⟨outcome, tr, role, hsteps, hrole, hbound, hreported, ?_⟩
  rintro ⟨role', _, _, _, hrole', -, -, -, hsame⟩
  obtain rfl := List.singleton_inj.mp (hrole.symm.trans hrole')
  rw [hreported, hbound] at hsame
  exact absurd hsame (by decide)

end VerticalSlice

end Blob
