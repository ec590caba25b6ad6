import Blob.Resolver
import Mathlib.Data.List.Dedup
import Mathlib.Data.List.Perm.Subperm

/-!
# What a verified plan leaves unbound

The verifier runs over the entries of a plan, not over the roles of the
graph: it accepts a plan exactly when the plan names the graph and every
entry is `Accepted`. So it accepts the empty plan of any graph
(`empty_plan_verifies`).

`verify_complete_iff` says when its silence does mean that the graph is
bound: the entries must name distinct roles, there must be as many of
them as there are distinct Capability roles, and Capability roles that
share an id must agree on the capability.
-/

namespace Blob

namespace BindingVerifier

open Checks Resolver

/-- An entry the verifier has nothing to report on. -/
structure Accepted (registry : Registry) (graph : RequirementGraph)
    (entry : ResolvedCapabilityRole) : Prop where
  requested : requestedCapability graph entry.role = some entry.capability
  candidate : ∃ implementation node,
    findImplementation registry entry.implementation = some implementation
      ∧ implementation.implements = entry.capability
      ∧ findNode registry entry.node = some node
      ∧ candidateRejectionReasons implementation node = []

theorem roleErrors_eq_nil {graph : RequirementGraph} {entry : ResolvedCapabilityRole} :
    roleErrors graph entry = []
      ↔ requestedCapability graph entry.role = some entry.capability := by
  unfold roleErrors
  split
  · rename_i capability heq
    simp [heq]
  · rename_i heq
    simp [heq]

theorem candidateErrors_eq_nil {registry : Registry} {entry : ResolvedCapabilityRole} :
    candidateErrors registry entry = []
      ↔ ∃ implementation node,
        findImplementation registry entry.implementation = some implementation
          ∧ implementation.implements = entry.capability
          ∧ findNode registry entry.node = some node
          ∧ candidateRejectionReasons implementation node = [] := by
  unfold candidateErrors
  split
  · rename_i heq
    simp [heq]
  · rename_i implementation heq
    rw [List.append_eq_nil_iff, violation_eq_nil, not_not]
    split
    · rename_i hnode
      simp [hnode]
    · rename_i node hnode
      simp [heq, hnode]

theorem entryErrors_eq_nil {registry : Registry} {graph : RequirementGraph}
    {entry : ResolvedCapabilityRole} :
    entryErrors registry graph entry = [] ↔ Accepted registry graph entry := by
  rw [entryErrors, List.append_eq_nil_iff, roleErrors_eq_nil, candidateErrors_eq_nil]
  exact ⟨fun ⟨hrole, hcandidate⟩ => ⟨hrole, hcandidate⟩, fun h => ⟨h.requested, h.candidate⟩⟩

/-- The verifier reports nothing exactly on plans for the graph whose entries
are all accepted. -/
theorem errors_eq_nil {registry : Registry} {graph : RequirementGraph} {plan : BindingPlan} :
    (verify registry graph plan).errors = []
      ↔ plan.graph = graph.id
        ∧ ∀ entry ∈ plan.resolvedCapabilities, Accepted registry graph entry := by
  simp only [verify, List.append_eq_nil_iff, violation_eq_nil, ne_eq, not_not,
    List.flatMap_eq_nil_iff, entryErrors_eq_nil]

/-! ## Capability roles -/

theorem mem_capabilityRoles {graph : RequirementGraph} {id : RequirementRoleId}
    {capability : CapabilityId} :
    (id, capability) ∈ capabilityRoles graph
      ↔ ∃ role ∈ graph.roles, role.id = id ∧ role.kind = .capability capability := by
  simp only [capabilityRoles, List.mem_filterMap]
  refine exists_congr fun role => and_congr Iff.rfl ?_
  cases hkind : role.kind <;> simp

/-- A requested capability is the capability of a role of the graph. -/
theorem mem_of_requestedCapability {graph : RequirementGraph} {id : RequirementRoleId}
    {capability : CapabilityId} (h : requestedCapability graph id = some capability) :
    (id, capability) ∈ capabilityRoles graph := by
  obtain ⟨role, hmem, heq⟩ := List.exists_of_findSome?_eq_some h
  rw [mem_capabilityRoles]
  split at heq
  · rename_i hid
    split at heq
    · rename_i capability' hkind
      obtain rfl := Option.some.inj heq
      exact ⟨role, hmem, hid, hkind⟩
    · cases heq
  · cases heq

/-- Every Capability role of the graph is bound by exactly one entry, with the
capability it requests. -/
def Complete (graph : RequirementGraph) (plan : BindingPlan) : Prop :=
  ∀ id capability, (id, capability) ∈ capabilityRoles graph →
    ∃ entry, plan.resolvedCapabilities.filter (fun entry => entry.role = id) = [entry]
      ∧ entry.capability = capability

/-- The ids of the graph's Capability roles, each once. -/
def capabilityRoleIds (graph : RequirementGraph) : List RequirementRoleId :=
  ((capabilityRoles graph).map Prod.fst).dedup

/-- The entries name distinct roles, as many as there are Capability role ids,
and Capability roles with one id request one capability. -/
structure Covers (graph : RequirementGraph) (plan : BindingPlan) : Prop where
  distinct : (plan.resolvedCapabilities.map ResolvedCapabilityRole.role).Nodup
  enough : plan.resolvedCapabilities.length = (capabilityRoleIds graph).length
  consistent : ∀ id capability capability', (id, capability) ∈ capabilityRoles graph →
    (id, capability') ∈ capabilityRoles graph → capability = capability'

variable {registry : Registry} {graph : RequirementGraph} {plan : BindingPlan}

theorem mem_capabilityRoleIds {id : RequirementRoleId} :
    id ∈ capabilityRoleIds graph ↔ ∃ capability, (id, capability) ∈ capabilityRoles graph := by
  rw [capabilityRoleIds, List.mem_dedup, List.mem_map]
  constructor
  · rintro ⟨⟨id', capability⟩, hmem, rfl⟩
    exact ⟨capability, hmem⟩
  · rintro ⟨capability, hmem⟩
    exact ⟨(id, capability), hmem, rfl⟩

/-- Accepted entries name Capability roles only. -/
theorem roles_subset (h : ∀ entry ∈ plan.resolvedCapabilities, Accepted registry graph entry) :
    plan.resolvedCapabilities.map ResolvedCapabilityRole.role ⊆ capabilityRoleIds graph := by
  intro id hid
  obtain ⟨entry, hmem, rfl⟩ := List.mem_map.mp hid
  exact mem_capabilityRoleIds.mpr ⟨_, mem_of_requestedCapability (h entry hmem).requested⟩

theorem length_filter_role (id : RequirementRoleId) :
    (plan.resolvedCapabilities.filter fun entry => entry.role = id).length
      = (plan.resolvedCapabilities.map ResolvedCapabilityRole.role).count id := by
  rw [List.count, List.countP_map, List.countP_eq_length_filter]
  congr 1

theorem covers_of_complete
    (h : ∀ entry ∈ plan.resolvedCapabilities, Accepted registry graph entry)
    (hcomplete : Complete graph plan) : Covers graph plan := by
  have hdistinct : (plan.resolvedCapabilities.map ResolvedCapabilityRole.role).Nodup := by
    rw [List.nodup_iff_count_le_one]
    intro id
    by_cases hid : id ∈ plan.resolvedCapabilities.map ResolvedCapabilityRole.role
    · obtain ⟨capability, hmem⟩ := mem_capabilityRoleIds.mp (roles_subset h hid)
      obtain ⟨entry, hfilter, -⟩ := hcomplete id capability hmem
      rw [← length_filter_role, hfilter]
      exact Nat.le_refl 1
    · rw [List.count_eq_zero_of_not_mem hid]
      exact Nat.zero_le 1
  refine ⟨hdistinct, ?_, ?_⟩
  · have hperm : (plan.resolvedCapabilities.map ResolvedCapabilityRole.role).Perm
        (capabilityRoleIds graph) := by
      refine (List.perm_ext_iff_of_nodup hdistinct (List.nodup_dedup _)).mpr ?_
      intro id
      refine ⟨fun hid => roles_subset h hid, ?_⟩
      intro hid
      obtain ⟨capability, hmem⟩ := mem_capabilityRoleIds.mp hid
      obtain ⟨entry, hfilter, -⟩ := hcomplete id capability hmem
      have hentry : entry ∈ plan.resolvedCapabilities.filter fun entry => entry.role = id := by
        rw [hfilter]
        exact List.mem_singleton_self entry
      obtain ⟨hin, hrole⟩ := List.mem_filter.mp hentry
      exact List.mem_map.mpr ⟨entry, hin, of_decide_eq_true hrole⟩
    rw [← hperm.length_eq, List.length_map]
  · intro id capability capability' hmem hmem'
    obtain ⟨entry, hfilter, rfl⟩ := hcomplete id capability hmem
    obtain ⟨entry', hfilter', rfl⟩ := hcomplete id capability' hmem'
    rw [hfilter] at hfilter'
    rw [List.singleton_inj.mp hfilter']

theorem complete_of_covers
    (h : ∀ entry ∈ plan.resolvedCapabilities, Accepted registry graph entry)
    (hcovers : Covers graph plan) : Complete graph plan := by
  -- distinct roles, all of them Capability roles, and as many: all of them
  have hperm : (plan.resolvedCapabilities.map ResolvedCapabilityRole.role).Perm
      (capabilityRoleIds graph) := by
    refine (List.subperm_of_subset hcovers.distinct (roles_subset h)).perm_of_length_le ?_
    rw [List.length_map]
    exact Nat.le_of_eq hcovers.enough.symm
  intro id capability hmem
  have hid : id ∈ plan.resolvedCapabilities.map ResolvedCapabilityRole.role :=
    hperm.mem_iff.mpr (mem_capabilityRoleIds.mpr ⟨capability, hmem⟩)
  have hone : (plan.resolvedCapabilities.filter fun entry => entry.role = id).length = 1 := by
    rw [length_filter_role, List.count_eq_one_of_mem hcovers.distinct hid]
  obtain ⟨entry, hfilter⟩ := List.length_eq_one_iff.mp hone
  refine ⟨entry, hfilter, ?_⟩
  have hentry : entry ∈ plan.resolvedCapabilities.filter fun entry => entry.role = id := by
    rw [hfilter]
    exact List.mem_singleton_self entry
  obtain ⟨hin, hrole⟩ := List.mem_filter.mp hentry
  obtain rfl := of_decide_eq_true hrole
  exact hcovers.consistent _ _ _ (mem_of_requestedCapability (h entry hin).requested) hmem

/-- **When the verifier's silence means a complete binding.** For every
registry, graph and plan: that no reported error implies a complete binding
holds exactly when the plan is for another graph, or has an entry that is not
accepted, or covers the graph. -/
theorem verify_complete_iff (registry : Registry) (graph : RequirementGraph)
    (plan : BindingPlan) :
    ((verify registry graph plan).errors = [] → Complete graph plan)
      ↔ plan.graph ≠ graph.id
        ∨ (∃ entry ∈ plan.resolvedCapabilities, ¬ Accepted registry graph entry)
        ∨ Covers graph plan := by
  rw [errors_eq_nil]
  constructor
  · intro himp
    by_cases hgraph : plan.graph = graph.id
    · by_cases hall : ∀ entry ∈ plan.resolvedCapabilities, Accepted registry graph entry
      · exact Or.inr (Or.inr (covers_of_complete hall (himp ⟨hgraph, hall⟩)))
      · exact Or.inr (Or.inl (by simpa only [not_forall, exists_prop] using hall))
    · exact Or.inl hgraph
  · rintro (hgraph | ⟨entry, hmem, hbad⟩ | hcovers) ⟨hsame, hall⟩
    · exact absurd hsame hgraph
    · exact absurd (hall entry hmem) hbad
    · exact complete_of_covers hall hcovers

/-- A graph with one Capability role. -/
def oneRoleGraph : RequirementGraph where
  id := ⟨"graph:test"⟩
  roles := [⟨⟨"role:runner"⟩, .capability ⟨"capability:test.run"⟩⟩]
  relations := []
  constraints := []
  requestedEffects := ⟨[]⟩

/-- The plan that binds nothing. -/
def emptyPlan : BindingPlan where
  id := ⟨"plan:empty"⟩
  graph := ⟨"graph:test"⟩
  resolvedCapabilities := []
  grants := []
  dataRoutes := []
  expectedEffects := ⟨[]⟩
  trace := ⟨[], [], none, [], [], none⟩

/-- The verifier reports nothing on the plan that binds nothing. -/
theorem empty_plan_verifies :
    (verify ⟨[], []⟩ oneRoleGraph emptyPlan).errors = []
      ∧ ¬ Complete oneRoleGraph emptyPlan := by
  refine ⟨by decide, ?_⟩
  intro hcomplete
  obtain ⟨entry, hfilter, -⟩ := hcomplete ⟨"role:runner"⟩ ⟨"capability:test.run"⟩ (by decide)
  cases hfilter

end BindingVerifier

end Blob
