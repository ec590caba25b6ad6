import Blob.Ranking
import Blob.Text

/-!
# Binding ids

A plan is named after its graph, its implementation and its node, with
colons between them; its lease is named after the plan. The three ids may
hold colons too. Two bindings with one name are the same when the parts of
the name are cut at the same places, and `planId_identifies_iff` says that
this is all there is to it: the colons of the implementation ids and of the
node ids decide.
-/

namespace Blob

namespace Resolver

open BindingVerifier Text

/-- What a plan is named after. -/
def bindingLabel (graph : RequirementGraphId) (implementation : ImplementationId)
    (node : NodeId) : String :=
  graph.value ++ ":" ++ implementation.value ++ ":" ++ node.value

/-- The number of colons in an id. -/
def colons (id : String) : Nat := id.toList.count ':'

/-- The parts of a label, when the places of the cuts are known. -/
theorem bindingLabel_eq_iff {graph graph' : RequirementGraphId}
    {implementation implementation' : ImplementationId} {node node' : NodeId}
    (h : bindingLabel graph implementation node
      = bindingLabel graph' implementation' node') :
    graph = graph' ∧ implementation = implementation' ∧ node = node'
      ↔ colons implementation.value = colons implementation'.value
        ∧ colons node.value = colons node'.value := by
  constructor
  · rintro ⟨-, rfl, rfl⟩
    exact ⟨rfl, rfl⟩
  · rintro ⟨himplementation, hnode⟩
    have hlist := congrArg String.toList h
    have hcolon : ":".toList = [':'] := rfl
    simp only [bindingLabel, String.toList_append, hcolon, List.append_assoc,
      List.cons_append, List.nil_append] at hlist
    -- what stands behind a cut holds equally many colons, so the cuts are at one place
    obtain ⟨hgraph, hrest⟩ := append_cons_inj_of_count hlist (by
      rw [List.count_append, List.count_append, List.count_cons_self, List.count_cons_self]
      show colons _ + (colons _ + 1) = colons _ + (colons _ + 1)
      rw [himplementation, hnode])
    obtain ⟨himpl, hnode⟩ := append_cons_inj_of_count hrest hnode
    obtain ⟨⟩ := graph
    obtain ⟨⟩ := implementation
    obtain ⟨⟩ := node
    rw [String.toList_inj] at hgraph himpl hnode
    exact ⟨congrArg _ hgraph, congrArg _ himpl, congrArg _ hnode⟩

theorem planId_eq_iff {graph graph' : RequirementGraph}
    {implementation implementation' : CapabilityImplementation} {node node' : NodeFacts} :
    planId graph implementation node = planId graph' implementation' node'
      ↔ bindingLabel graph.id implementation.id node.id
        = bindingLabel graph'.id implementation'.id node'.id := by
  simp only [planId, bindingLabel, BindingPlanId.mk.injEq, String.append_assoc,
    String.append_right_inj]

/-- A best pair for the one role of a graph. -/
def BestFor (registry : Registry) (graph : RequirementGraph)
    (implementation : CapabilityImplementation) (node : NodeFacts) : Prop :=
  ∃ role capability, capabilityRoles graph = [(role, capability)]
    ∧ Best registry capability implementation node

/-- Two plans bind one graph to the same implementations on the same nodes. -/
structure SameBinding (plan plan' : BindingPlan) : Prop where
  graph : plan.graph = plan'.graph
  implementation : plan.resolvedCapabilities.map (·.implementation)
    = plan'.resolvedCapabilities.map (·.implementation)
  node : plan.resolvedCapabilities.map (·.node) = plan'.resolvedCapabilities.map (·.node)

/-- What a plan and a lease of the resolver are made from. -/
structure Names (registry : Registry) (graph : RequirementGraph) (plan : BindingPlan)
    (lease : BindingLease) (implementation : CapabilityImplementation) (node : NodeFacts) :
    Prop where
  best : BestFor registry graph implementation node
  id : plan.id = planId graph implementation node
  graph : plan.graph = graph.id
  implementation : plan.resolvedCapabilities.map (·.implementation) = [implementation.id]
  node : plan.resolvedCapabilities.map (·.node) = [node.id]
  lease : lease.id = ⟨"lease:" ++ plan.id.value⟩

section

variable {registry registry' : Registry} {graph graph' : RequirementGraph}
  {plan plan' : BindingPlan} {lease lease' : BindingLease}

theorem names_of_resolved (h : resolveSingleCapability registry graph = .ok (plan, lease)) :
    ∃ implementation node, Names registry graph plan lease implementation node := by
  obtain ⟨role, capability, implementation, node, -, hroles, hhead, -, rfl, rfl⟩ :=
    resolve_eq_ok h
  exact ⟨implementation, node, ⟨⟨role, capability, hroles, best_of_head hhead⟩, rfl, rfl, rfl,
    rfl, rfl⟩⟩

/-- The best pairs for a graph have one implementation id and one node id. -/
theorem BestFor.ids_eq {implementation implementation' : CapabilityImplementation}
    {node node' : NodeFacts} (h : BestFor registry graph implementation node)
    (h' : BestFor registry graph implementation' node') :
    implementation.id = implementation'.id ∧ node.id = node'.id := by
  obtain ⟨_, _, hroles, hbest⟩ := h
  obtain ⟨_, _, hroles', hbest'⟩ := h'
  obtain ⟨-, rfl⟩ := Prod.mk.inj (List.singleton_inj.mp (hroles.symm.trans hroles'))
  exact hbest.ids_eq hbest'

/-- One label, cut at the same places. -/
def CutAlike (registry registry' : Registry) (graph graph' : RequirementGraph) : Prop :=
  ∀ implementation node implementation' node',
    BestFor registry graph implementation node →
    BestFor registry' graph' implementation' node' →
    bindingLabel graph.id implementation.id node.id
      = bindingLabel graph'.id implementation'.id node'.id →
    colons implementation.id.value = colons implementation'.id.value
      ∧ colons node.id.value = colons node'.id.value

theorem sameBinding_iff {implementation implementation' : CapabilityImplementation}
    {node node' : NodeFacts} (h : Names registry graph plan lease implementation node)
    (h' : Names registry' graph' plan' lease' implementation' node') :
    SameBinding plan plan' ↔ graph.id = graph'.id ∧ implementation.id = implementation'.id
      ∧ node.id = node'.id := by
  constructor
  · rintro ⟨hgraph, himplementation, hnode⟩
    rw [h.graph, h'.graph] at hgraph
    rw [h.implementation, h'.implementation, List.singleton_inj] at himplementation
    rw [h.node, h'.node, List.singleton_inj] at hnode
    exact ⟨hgraph, himplementation, hnode⟩
  · rintro ⟨hgraph, himplementation, hnode⟩
    exact {
      graph := by rw [h.graph, h'.graph, hgraph]
      implementation := by rw [h.implementation, h'.implementation, himplementation]
      node := by rw [h.node, h'.node, hnode] }

/-- Two resolutions give their plans one id exactly when they give their leases one; and
one id means one binding exactly when the labels, if they are equal, are cut alike. -/
theorem planId_identifies_iff
    (h : resolveSingleCapability registry graph = .ok (plan, lease))
    (h' : resolveSingleCapability registry' graph' = .ok (plan', lease')) :
    (plan.id = plan'.id ↔ lease.id = lease'.id)
      ∧ ((plan.id = plan'.id → SameBinding plan plan')
        ↔ CutAlike registry registry' graph graph') := by
  obtain ⟨implementation, node, hnames⟩ := names_of_resolved h
  obtain ⟨implementation', node', hnames'⟩ := names_of_resolved h'
  have hid : plan.id = plan'.id ↔ bindingLabel graph.id implementation.id node.id
      = bindingLabel graph'.id implementation'.id node'.id := by
    rw [hnames.id, hnames'.id, planId_eq_iff]
  refine ⟨?_, ?_, ?_⟩
  · rw [hnames.lease, hnames'.lease, BindingLeaseId.mk.injEq, String.append_right_inj]
    generalize plan.id = id
    generalize plan'.id = id'
    obtain ⟨⟩ := id
    obtain ⟨⟩ := id'
    rw [BindingPlanId.mk.injEq]
  · intro hsame other otherNode other' otherNode' hbest hbest' hlabel
    obtain ⟨himpl, hnode⟩ := hbest.ids_eq hnames.best
    obtain ⟨himpl', hnode'⟩ := hbest'.ids_eq hnames'.best
    rw [himpl, hnode, himpl', hnode'] at hlabel ⊢
    exact (bindingLabel_eq_iff hlabel).mp
      ((sameBinding_iff hnames hnames').mp (hsame (hid.mpr hlabel)))
  · intro hcut heq
    have hlabel := hid.mp heq
    exact (sameBinding_iff hnames hnames').mpr ((bindingLabel_eq_iff hlabel).mpr
      (hcut _ _ _ _ hnames.best hnames'.best hlabel))

end

/-! Two bindings whose ids hold a colon each, once in the graph id and once in the
implementation id. -/

def labelledGraph (id : String) : RequirementGraph := { oneRoleGraph with id := ⟨id⟩ }

def labelledRegistry (id : String) : Registry :=
  ⟨[{ testImplementation with id := ⟨id⟩ }], [testNode]⟩

/-- The plan of such a resolution. -/
def labelledPlan (graph implementation : String) : BindingPlan :=
  verified (labelledRegistry implementation) (labelledGraph graph) ⟨"role:runner"⟩
    ⟨"capability:test.run"⟩ { testImplementation with id := ⟨implementation⟩ } testNode

theorem resolves_labelled (graph implementation : String)
    (hown : ownErrors (labelledRegistry implementation) (labelledGraph graph) ⟨"role:runner"⟩
      ⟨"capability:test.run"⟩ { testImplementation with id := ⟨implementation⟩ } testNode = []) :
    resolveSingleCapability (labelledRegistry implementation) (labelledGraph graph)
      = .ok (labelledPlan graph implementation, lease (labelledPlan graph implementation)) := by
  have hvalid : valid (labelledRegistry implementation) ⟨"capability:test.run"⟩
      = [({ testImplementation with id := ⟨implementation⟩ }, testNode)] :=
    List.mergeSort_singleton _
  exact resolve_of_accepted rfl rfl (by rw [hvalid]; rfl) hown

/-- Labels that differ are cut alike; those of one text are cut in two ways here. -/
theorem labelled_cuts :
    CutAlike (labelledRegistry "impl:one") (labelledRegistry "impl:two")
        (labelledGraph "graph:one") (labelledGraph "graph:two")
      ∧ ¬ CutAlike (labelledRegistry "c") (labelledRegistry "b:c")
        (labelledGraph "a:b") (labelledGraph "a") := by
  constructor
  · have hone := resolves_labelled "graph:one" "impl:one" (by decide)
    have htwo := resolves_labelled "graph:two" "impl:two" (by decide)
    exact (planId_identifies_iff hone htwo).2.mp fun heq => absurd heq (by decide)
  · have hone := resolves_labelled "a:b" "c" (by decide)
    have htwo := resolves_labelled "a" "b:c" (by decide)
    rw [← (planId_identifies_iff hone htwo).2]
    intro hsame
    exact absurd (hsame (by decide)).graph (by decide)

/-- Two resolutions of different graphs to different implementations, with one plan id
and one lease id. -/
theorem shared_planId :
    ∃ plan lease plan' lease',
      resolveSingleCapability (labelledRegistry "c") (labelledGraph "a:b") = .ok (plan, lease)
        ∧ resolveSingleCapability (labelledRegistry "b:c") (labelledGraph "a")
          = .ok (plan', lease')
        ∧ plan.id = plan'.id ∧ lease.id = lease'.id
        ∧ plan.graph ≠ plan'.graph
        ∧ plan.resolvedCapabilities.map (·.implementation)
          ≠ plan'.resolvedCapabilities.map (·.implementation) := by
  exact ⟨_, _, _, _, resolves_labelled "a:b" "c" (by decide),
    resolves_labelled "a" "b:c" (by decide), by decide, by decide, by decide, by decide⟩

end Resolver

end Blob
