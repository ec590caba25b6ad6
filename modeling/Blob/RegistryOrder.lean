import Blob.Ranking

/-!
# Resolution does not depend on the order of the registry

Two registries with the same entries in different orders. When no two
implementations and no two nodes share an id, the rank tells all candidates
apart and every lookup by id has one answer, so the sorted candidates and the
verifier's report are the same; only the list of rejections keeps the order of
the registry (`resolve_of_perm`).
-/

namespace Blob

namespace Resolver

open Checks BindingVerifier KeySort

/-- The same entries, in any order. -/
structure Reordered (registry registry' : Registry) : Prop where
  implementations : registry.implementations.Perm registry'.implementations
  nodes : registry.nodes.Perm registry'.nodes

/-- No two implementations and no two nodes share an id. -/
structure UniqueIds (registry : Registry) : Prop where
  implementations : (registry.implementations.map CapabilityImplementation.id).Nodup
  nodes : (registry.nodes.map NodeFacts.id).Nodup

/-- The same error, or plans and leases that agree but for the order of the
rejections. -/
inductive Agree : Except ResolveError (BindingPlan × BindingLease) →
    Except ResolveError (BindingPlan × BindingLease) → Prop
  | error (e : ResolveError) : Agree (.error e) (.error e)
  | ok {bound bound' : BindingPlan} {granted : BindingLease}
      (id : bound.id = bound'.id)
      (graph : bound.graph = bound'.graph)
      (bindings : bound.resolvedCapabilities = bound'.resolvedCapabilities)
      (grants : bound.grants = bound'.grants)
      (routes : bound.dataRoutes = bound'.dataRoutes)
      (effects : bound.expectedEffects = bound'.expectedEffects)
      (objective : bound.trace.objectiveVector = bound'.trace.objectiveVector)
      (notes : bound.trace.candidateNotes = bound'.trace.candidateNotes)
      (rejected : bound.trace.rejectedCandidates.Perm bound'.trace.rejectedCandidates) :
      Agree (.ok (bound, granted)) (.ok (bound', granted))

variable {registry registry' : Registry}

/-- With unique ids a lookup does not depend on the order. -/
theorem find_of_perm {α κ : Type} [DecidableEq κ] (key : α → κ) {l l' : List α}
    (hperm : l.Perm l') (hnodup : (l.map key).Nodup) (k : κ) :
    l.find? (fun x => key x = k) = l'.find? fun x => key x = k := by
  cases hfind : l.find? fun x => key x = k with
  | some a =>
      have hmem := List.mem_of_find?_eq_some hfind
      obtain rfl : key a = k := by simpa using List.find?_some hfind
      exact (find_of_nodup key ((hperm.map key).nodup_iff.mp hnodup) (hperm.mem_iff.mp hmem)).symm
  | none =>
      refine (List.find?_eq_none.mpr fun a ha => ?_).symm
      exact List.find?_eq_none.mp hfind a (hperm.mem_iff.mpr ha)

/-- The verifier reports the same on every plan. -/
theorem verify_of_perm (h : Reordered registry registry') (hids : UniqueIds registry)
    (graph : RequirementGraph) (bound : BindingPlan) :
    verify registry graph bound = verify registry' graph bound := by
  have himpl : ∀ id, findImplementation registry id = findImplementation registry' id :=
    find_of_perm CapabilityImplementation.id h.implementations hids.implementations
  have hnode : ∀ id, findNode registry id = findNode registry' id :=
    find_of_perm NodeFacts.id h.nodes hids.nodes
  have hentry : entryErrors registry graph = entryErrors registry' graph := by
    funext entry
    simp only [entryErrors, candidateErrors, himpl, hnode]
  simp only [verify, hentry]

theorem candidates_perm (h : Reordered registry registry') (capability : CapabilityId) :
    (candidates registry capability).Perm (candidates registry' capability) := by
  refine ((h.implementations.filter _).flatMap_right _).trans ?_
  exact List.Perm.flatMap_left _ fun implementation _ => h.nodes.map _

/-- The sorted candidates are the same: two with one rank have the same ids, and
so are the same entries. -/
theorem valid_of_perm (h : Reordered registry registry') (hids : UniqueIds registry)
    (capability : CapabilityId) : valid registry capability = valid registry' capability := by
  rw [valid_eq, valid_eq]
  refine byKey_eq_of_perm ((candidates_perm h capability).filter _) ?_
  intro a ha b hb hrank
  obtain ⟨himplA, -, hnodeA, -⟩ := mem_admissible.mp ha
  obtain ⟨himplB, -, hnodeB, -⟩ := mem_admissible.mp hb
  obtain ⟨himpl, hnode⟩ := ids_of_rank_eq hrank
  exact Prod.ext (List.inj_on_of_nodup_map hids.implementations himplA himplB himpl)
    (List.inj_on_of_nodup_map hids.nodes hnodeA hnodeB hnode)

theorem rejected_perm (h : Reordered registry registry') (capability : CapabilityId) :
    (rejected registry capability).Perm (rejected registry' capability) :=
  ((candidates_perm h capability).filter _).map _

/-- A graph outside the resolver's scope is refused whatever the registry holds. -/
theorem resolve_of_unsupported {graph : RequirementGraph}
    (h : ¬ (graph.constraints = [] ∧ ∃ role capability,
      capabilityRoles graph = [(role, capability)])) :
    ∃ reason, ∀ registry, resolveSingleCapability registry graph
      = .error (.unsupportedGraph reason) := by
  by_cases hconstraints : graph.constraints = []
  · refine ⟨"MVP resolver requires exactly one Capability role", ?_⟩
    intro registry
    unfold resolveSingleCapability
    rw [hconstraints, List.isEmpty_nil]
    split
    · rename_i role capability hroles
      exact absurd ⟨hconstraints, role, capability, hroles⟩ h
    · rfl
  · refine ⟨"MVP resolver does not evaluate Constraint IR yet", ?_⟩
    intro registry
    have hnonempty : graph.constraints.isEmpty = false :=
      List.isEmpty_eq_false_iff.mpr hconstraints
    unfold resolveSingleCapability
    rw [reject, if_pos hnonempty]
    rfl

/-- **Registry order is irrelevant.** For every graph and any two orders of one
registry with unique ids, resolution ends in the same error, or in plans and
leases that agree but for the order of the rejected candidates. -/
theorem resolve_of_perm (graph : RequirementGraph) (h : Reordered registry registry')
    (hids : UniqueIds registry) :
    Agree (resolveSingleCapability registry graph) (resolveSingleCapability registry' graph) := by
  by_cases hsupported : graph.constraints = [] ∧ ∃ role capability,
      capabilityRoles graph = [(role, capability)]
  · obtain ⟨hconstraints, role, capability, hroles⟩ := hsupported
    have hvalid := valid_of_perm h hids capability
    cases hhead : (valid registry capability).head? with
    | none =>
        rw [resolve_of_no_head hconstraints hroles hhead,
          resolve_of_no_head hconstraints hroles (hvalid ▸ hhead)]
        exact .error _
    | some best =>
        have hhead' : (valid registry' capability).head? = some best := hvalid ▸ hhead
        obtain ⟨implementation, node⟩ := best
        have hown : ownErrors registry graph role capability implementation node
            = ownErrors registry' graph role capability implementation node :=
          congrArg VerificationReport.errors (verify_of_perm h hids graph _)
        by_cases hverified : ownErrors registry graph role capability implementation node = []
        · rw [resolve_of_accepted hconstraints hroles hhead hverified,
            resolve_of_accepted hconstraints hroles hhead' (hown ▸ hverified)]
          exact .ok rfl rfl rfl rfl rfl rfl rfl (congrArg (List.map _) hvalid)
            (rejected_perm h capability)
        · rw [resolve_of_refused hconstraints hroles hhead hverified,
            resolve_of_refused hconstraints hroles hhead' (hown ▸ hverified), hown]
          exact .error _
  · obtain ⟨reason, hrefused⟩ := resolve_of_unsupported hsupported
    rw [hrefused, hrefused]
    exact .error _

/-! The lab registry in the other order. -/

def reversedRegistry : Registry :=
  ⟨[betterImplementation, testImplementation], [offlineNode, testNode]⟩

theorem lab_agrees : Agree (resolveSingleCapability labRegistry oneRoleGraph)
    (resolveSingleCapability reversedRegistry oneRoleGraph) :=
  resolve_of_perm oneRoleGraph ⟨.swap _ _ _, .swap _ _ _⟩ ⟨by decide, by decide⟩

end Resolver

end Blob
