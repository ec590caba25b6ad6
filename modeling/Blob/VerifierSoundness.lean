import Blob.Ranking

/-!
# What a verified plan guarantees, and what it does not

A plan without errors is for the graph, and every one of its entries binds a
Capability role to a pair that `Fits`: the seven conditions on an
implementation and a node, one for each rejection reason (`verify_sound`).

Nothing else of a plan is looked at: the report is a function of the plan's
graph and bindings (`verify_congr`), so a plan may carry any effects and any
data routes and still verify (`widened_plan_verifies`). The resolver's own
plans carry the requested effects and no routes (`resolved_within_graph`).
-/

namespace Blob

namespace BindingVerifier

open Checks Resolver

/-! ## Entries -/

/-- The implementation can run on the node, and both are trusted. -/
structure Fits (implementation : CapabilityImplementation) (node : NodeFacts) : Prop where
  implementation_trusted : implementation.trusted = true
  node_trusted : node.trusted = true
  online : node.online = true
  platform : "*" ∈ implementation.supportedPlatforms
    ∨ node.platform ∈ implementation.supportedPlatforms
  memory : implementation.requiredMemoryBytes ≤ node.memoryBytes
  accelerators : ∀ required ∈ implementation.requiredAccelerators,
    required ∈ node.acceleratorTags
  runtime : implementation.runtime.tag ∈ node.runtimeTags

/-- There is a rejection reason unless the implementation fits the node. -/
theorem candidateRejectionReasons_eq_nil {implementation : CapabilityImplementation}
    {node : NodeFacts} :
    candidateRejectionReasons implementation node = [] ↔ Fits implementation node := by
  have hplatform : (∃ platform ∈ implementation.supportedPlatforms,
        platform = "*" ∨ platform = node.platform)
      ↔ "*" ∈ implementation.supportedPlatforms
        ∨ node.platform ∈ implementation.supportedPlatforms := by
    constructor
    · rintro ⟨platform, hmem, rfl | rfl⟩
      · exact Or.inl hmem
      · exact Or.inr hmem
    · rintro (hmem | hmem)
      · exact ⟨_, hmem, Or.inl rfl⟩
      · exact ⟨_, hmem, Or.inr rfl⟩
  simp only [candidateRejectionReasons, List.flatten_eq_nil_iff, List.forall_mem_cons,
    violation_eq_nil, Bool.not_eq_false, not_not, hplatform, UInt64.not_lt, exists_eq_right,
    List.not_mem_nil, IsEmpty.forall_iff, implies_true, and_true]
  exact ⟨fun ⟨h1, h2, h3, h4, h5, h6, h7⟩ => ⟨h1, h2, h3, h4, h5, h6, h7⟩,
    fun ⟨h1, h2, h3, h4, h5, h6, h7⟩ => ⟨h1, h2, h3, h4, h5, h6, h7⟩⟩

/-- **A verified plan binds what the graph asks for to what fits.** For every
registry, graph and plan, whoever made it: without errors, the plan is for the
graph, and each of its entries binds a Capability role of the graph, with the
capability that role requests, to an implementation of it that fits the node;
both are the first registry entries with the ids the entry names. -/
theorem verify_sound {registry : Registry} {graph : RequirementGraph} {bound : BindingPlan}
    (h : (verify registry graph bound).errors = []) :
    bound.graph = graph.id ∧ ∀ entry ∈ bound.resolvedCapabilities,
      (∃ role ∈ graph.roles, role.id = entry.role ∧ role.kind = .capability entry.capability)
        ∧ ∃ implementation node,
          registry.implementations.find? (fun candidate => candidate.id = entry.implementation)
              = some implementation
            ∧ registry.nodes.find? (fun candidate => candidate.id = entry.node) = some node
            ∧ implementation.implements = entry.capability
            ∧ Fits implementation node := by
  obtain ⟨hgraph, haccepted⟩ := errors_eq_nil.mp h
  refine ⟨hgraph, ?_⟩
  intro entry hmem
  obtain ⟨hrequested, implementation, node, himpl, hcap, hnode, hreasons⟩ := haccepted entry hmem
  refine ⟨mem_capabilityRoles.mp (mem_of_requestedCapability hrequested), implementation, node,
    himpl, hnode, hcap, candidateRejectionReasons_eq_nil.mp hreasons⟩

/-- One entry that binds the role of the test graph. -/
def testEntry : ResolvedCapabilityRole where
  role := ⟨"role:runner"⟩
  capability := ⟨"capability:test.run"⟩
  implementation := ⟨"impl:test"⟩
  node := ⟨"node:lab"⟩

def testPlan : BindingPlan := { emptyPlan with resolvedCapabilities := [testEntry] }

/-- A graph with a second role for the same capability. -/
def twoRoleGraph : RequirementGraph :=
  { oneRoleGraph with
    roles := oneRoleGraph.roles ++ [⟨⟨"role:checker"⟩, .capability ⟨"capability:test.run"⟩⟩] }

def checkerEntry : ResolvedCapabilityRole :=
  { testEntry with role := ⟨"role:checker"⟩, implementation := ⟨"impl:better"⟩ }

def twoRolePlan : BindingPlan :=
  { emptyPlan with resolvedCapabilities := [testEntry, checkerEntry] }

theorem two_role_plan_fits :
    Fits testImplementation testNode ∧ Fits betterImplementation testNode := by
  have hverified : (verify labRegistry twoRoleGraph twoRolePlan).errors = [] := by decide
  obtain ⟨-, hentries⟩ := verify_sound hverified
  constructor
  · obtain ⟨-, implementation, node, himpl, hnode, -, hfits⟩ :=
      hentries testEntry List.mem_cons_self
    obtain rfl : testImplementation = implementation := Option.some.inj himpl
    obtain rfl : testNode = node := Option.some.inj hnode
    exact hfits
  · obtain ⟨-, implementation, node, himpl, hnode, -, hfits⟩ :=
      hentries checkerEntry (List.mem_cons_of_mem _ List.mem_cons_self)
    obtain rfl : betterImplementation = implementation := Option.some.inj himpl
    obtain rfl : testNode = node := Option.some.inj hnode
    exact hfits

/-! ## Effects and routes -/

/-- Every expected effect is a requested one, and data flows between roles of
the graph only. -/
structure WithinGraph (graph : RequirementGraph) (bound : BindingPlan) : Prop where
  effects : ∀ effect ∈ bound.expectedEffects.effects, effect ∈ graph.requestedEffects.effects
  routes : ∀ route ∈ bound.dataRoutes, (∃ role ∈ graph.roles, role.id = route.sourceRole)
    ∧ ∃ role ∈ graph.roles, role.id = route.destinationRole

/-- The report depends on the plan's graph and bindings only. -/
theorem verify_congr (registry : Registry) (graph : RequirementGraph)
    {bound bound' : BindingPlan} (hgraph : bound.graph = bound'.graph)
    (hbindings : bound.resolvedCapabilities = bound'.resolvedCapabilities) :
    verify registry graph bound = verify registry graph bound' := by
  unfold verify
  rw [hgraph, hbindings]

/-- **The verifier does not look at effects and routes; the resolver's plans stay
within the graph all the same.** Plans with one graph and the same bindings get
the same report, and a plan of the resolver verifies, expects no effect that
was not requested and routes no data outside the graph. -/
theorem resolved_within_graph (registry : Registry) (graph : RequirementGraph) :
    (∀ bound bound' : BindingPlan, bound.graph = bound'.graph →
        bound.resolvedCapabilities = bound'.resolvedCapabilities →
        verify registry graph bound = verify registry graph bound')
      ∧ ∀ bound granted, resolveSingleCapability registry graph = .ok (bound, granted) →
        (verify registry graph bound).errors = [] ∧ WithinGraph graph bound := by
  refine ⟨fun bound bound' => verify_congr registry graph, ?_⟩
  intro bound granted hok
  obtain ⟨role, capability, implementation, node, -, -, -, hown, rfl, -⟩ := resolve_eq_ok hok
  refine ⟨hown, fun effect heffect => heffect, ?_⟩
  intro route hroute
  cases hroute

theorem test_plan_within_graph :
    verify uniqueRegistry oneRoleGraph testPlan
        = verify uniqueRegistry oneRoleGraph
          { testPlan with expectedEffects := ⟨[⟨.delete, none, false⟩]⟩ }
      ∧ ∃ bound granted, resolveSingleCapability uniqueRegistry oneRoleGraph = .ok (bound, granted)
        ∧ WithinGraph oneRoleGraph bound := by
  obtain ⟨hcongr, hresolved⟩ := resolved_within_graph uniqueRegistry oneRoleGraph
  refine ⟨hcongr _ _ rfl rfl, ?_⟩
  have hvalid : valid uniqueRegistry ⟨"capability:test.run"⟩ = [(testImplementation, testNode)] :=
    List.mergeSort_singleton _
  have hok := @resolve_of_accepted uniqueRegistry oneRoleGraph _ _ _ _ rfl rfl
    (by rw [hvalid]; rfl) (by decide)
  exact ⟨_, _, hok, (hresolved _ _ hok).2⟩

/-- The test plan, with an effect nobody requested and a route between roles the
graph does not have. -/
def widenedPlan : BindingPlan :=
  { testPlan with
    expectedEffects := ⟨[⟨.delete, none, false⟩]⟩
    dataRoutes := [⟨⟨"role:anything"⟩, ⟨"role:elsewhere"⟩, none⟩] }

theorem widened_plan_verifies :
    (verify uniqueRegistry oneRoleGraph widenedPlan).errors = []
      ∧ (∃ effect ∈ widenedPlan.expectedEffects.effects,
        effect ∉ oneRoleGraph.requestedEffects.effects)
      ∧ ∃ route ∈ widenedPlan.dataRoutes,
        ¬ ∃ role ∈ oneRoleGraph.roles, role.id = route.sourceRole := by
  decide

end BindingVerifier

end Blob
