import Blob.VerifierCompleteness

/-!
# The resolver and its verifier

The resolver picks registry entries by position, its plan names them by
id, and the verifier takes the first entry with that id. The two see the
same entries when ids are unique; when they are not, the verifier may
see other entries than the resolver chose and refuse the plan.

`resolve_of_admissible` is the exact statement: once there is an
admissible pair, resolution succeeds or is refused by the verifier, and
it succeeds exactly when the first entries with the chosen ids are
admissible themselves.
-/

namespace Blob

namespace Resolver

open Checks BindingVerifier

variable {registry : Registry} {graph : RequirementGraph} {role : RequirementRoleId}
  {capability : CapabilityId} {implementation : CapabilityImplementation} {node : NodeFacts}

/-! ## Candidates -/

theorem mem_valid {candidate : Candidate} :
    candidate ∈ valid registry capability
      ↔ candidate.1 ∈ registry.implementations ∧ candidate.1.implements = capability
        ∧ candidate.2 ∈ registry.nodes
        ∧ candidateRejectionReasons candidate.1 candidate.2 = [] := by
  obtain ⟨implementation, node⟩ := candidate
  simp only [valid, List.mem_mergeSort, List.mem_filter, candidates, List.mem_flatMap,
    List.mem_map, Prod.mk.injEq, decide_eq_true_eq, List.isEmpty_iff]
  constructor
  · rintro ⟨⟨_, ⟨himpl, hcap⟩, _, hnode, rfl, rfl⟩, hreasons⟩
    exact ⟨himpl, hcap, hnode, hreasons⟩
  · rintro ⟨himpl, hcap, hnode, hreasons⟩
    exact ⟨⟨_, ⟨himpl, hcap⟩, _, hnode, rfl, rfl⟩, hreasons⟩

/-- An id that occurs is found, and its first entry has it. -/
theorem exists_find {α κ : Type} [DecidableEq κ] (key : α → κ) {l : List α} {a : α}
    (h : a ∈ l) : ∃ b, l.find? (fun x => key x = key a) = some b ∧ key b = key a := by
  cases hfind : l.find? fun x => key x = key a with
  | none =>
      have hne := List.find?_eq_none.mp hfind a h
      simp at hne
  | some b => exact ⟨b, rfl, by simpa using List.find?_some hfind⟩

/-- With unique ids the first entry with an id is the only one. -/
theorem find_of_nodup {α κ : Type} [DecidableEq κ] (key : α → κ) {l : List α} {a : α}
    (hnodup : (l.map key).Nodup) (h : a ∈ l) :
    l.find? (fun x => key x = key a) = some a := by
  obtain ⟨b, hfind, hkey⟩ := exists_find key h
  have hb : b ∈ l := List.mem_of_find?_eq_some hfind
  rw [hfind, List.inj_on_of_nodup_map hnodup hb h hkey]

/-! ## The resolver's own plan -/

/-- The one Capability role of a graph is the one that is found for its id. -/
theorem requestedCapability_of_single (h : capabilityRoles graph = [(role, capability)]) :
    requestedCapability graph role = some capability := by
  cases hreq : requestedCapability graph role with
  | some capability' =>
      have hmem := mem_of_requestedCapability hreq
      rw [h, List.mem_singleton, Prod.mk.injEq] at hmem
      rw [hmem.2]
  | none =>
      have hmem : (role, capability) ∈ capabilityRoles graph := by rw [h]; simp
      obtain ⟨r, hr, hid, hkind⟩ := mem_capabilityRoles.mp hmem
      have hnone := List.findSome?_eq_none_iff.mp hreq r hr
      rw [if_pos hid, hkind] at hnone
      cases hnone

/-- The verifier accepts the resolver's plan exactly when the first entries
with the chosen ids are admissible. -/
theorem verify_plan_iff (h : capabilityRoles graph = [(role, capability)])
    (trace : ResolutionTrace) {first : CapabilityImplementation} {firstNode : NodeFacts}
    (himpl : findImplementation registry implementation.id = some first)
    (hnode : findNode registry node.id = some firstNode) :
    (verify registry graph (plan graph role capability implementation node trace)).errors = []
      ↔ first.implements = capability ∧ candidateRejectionReasons first firstNode = [] := by
  rw [errors_eq_nil]
  simp only [plan, List.mem_singleton, forall_eq, true_and]
  constructor
  · intro haccepted
    obtain ⟨first', firstNode', himpl', hcap, hnode', hreasons⟩ := haccepted.candidate
    obtain rfl := Option.some.inj (himpl.symm.trans himpl')
    obtain rfl := Option.some.inj (hnode.symm.trans hnode')
    exact ⟨hcap, hreasons⟩
  · rintro ⟨hcap, hreasons⟩
    exact ⟨requestedCapability_of_single h, first, firstNode, himpl, hcap, hnode, hreasons⟩

/-- The verifier's report on the resolver's plan for a chosen pair. -/
def ownErrors (registry : Registry) (graph : RequirementGraph) (role : RequirementRoleId)
    (capability : CapabilityId) (implementation : CapabilityImplementation)
    (node : NodeFacts) : List String :=
  (verify registry graph (plan graph role capability implementation node
    (trace registry capability implementation))).errors

/-- The plan of a resolution the verifier has accepted. -/
def verified (registry : Registry) (graph : RequirementGraph) (role : RequirementRoleId)
    (capability : CapabilityId) (implementation : CapabilityImplementation)
    (node : NodeFacts) : BindingPlan :=
  let trace := trace registry capability implementation
  { plan graph role capability implementation node trace with
    trace := { trace with
      verifierNotes := trace.verifierNotes ++ ["binding independently verified"] } }

theorem resolve_of_accepted (hconstraints : graph.constraints = [])
    (hroles : capabilityRoles graph = [(role, capability)])
    (hhead : (valid registry capability).head? = some (implementation, node))
    (hverified : ownErrors registry graph role capability implementation node = []) :
    resolveSingleCapability registry graph
      = .ok (verified registry graph role capability implementation node,
        lease (verified registry graph role capability implementation node)) := by
  unfold ownErrors at hverified
  unfold resolveSingleCapability
  rw [hconstraints, hroles]
  simp only [hhead, VerificationReport.isValid, hverified]
  rfl

theorem resolve_of_refused (hconstraints : graph.constraints = [])
    (hroles : capabilityRoles graph = [(role, capability)])
    (hhead : (valid registry capability).head? = some (implementation, node))
    (hrefused : ownErrors registry graph role capability implementation node ≠ []) :
    resolveSingleCapability registry graph = .error (.verificationFailed
      (ownErrors registry graph role capability implementation node)) := by
  have hempty : (ownErrors registry graph role capability implementation node).isEmpty
      = false := List.isEmpty_eq_false_iff.mpr hrefused
  unfold ownErrors at hempty ⊢
  unfold resolveSingleCapability
  rw [hconstraints, hroles]
  simp only [hhead, VerificationReport.isValid, hempty]
  rfl

/-- **The resolver and the verifier.** For a graph without constraints and with
one Capability role, and a registry with an admissible pair for it: the
resolver chooses an admissible pair, the verifier looks up the first entries
with its ids, and resolution succeeds exactly when these are admissible; it is
refused by the verifier otherwise. With unique ids it always succeeds. -/
theorem resolve_of_admissible (hconstraints : graph.constraints = [])
    (hroles : capabilityRoles graph = [(role, capability)])
    (hadmissible : ∃ implementation ∈ registry.implementations, ∃ node ∈ registry.nodes,
      implementation.implements = capability
        ∧ candidateRejectionReasons implementation node = []) :
    ∃ implementation ∈ registry.implementations, ∃ node ∈ registry.nodes,
      ∃ first firstNode,
        (valid registry capability).head? = some (implementation, node)
        ∧ implementation.implements = capability
        ∧ candidateRejectionReasons implementation node = []
        ∧ findImplementation registry implementation.id = some first
        ∧ findNode registry node.id = some firstNode
        ∧ ((∃ result, resolveSingleCapability registry graph = .ok result)
          ↔ first.implements = capability ∧ candidateRejectionReasons first firstNode = [])
        ∧ ((∃ errors, resolveSingleCapability registry graph
            = .error (.verificationFailed errors))
          ↔ ¬ (first.implements = capability
            ∧ candidateRejectionReasons first firstNode = []))
        ∧ ((registry.implementations.map CapabilityImplementation.id).Nodup →
          (registry.nodes.map NodeFacts.id).Nodup →
          ∃ result, resolveSingleCapability registry graph = .ok result) := by
  obtain ⟨implementation₀, himpl₀, node₀, hnode₀, hcap₀, hreasons₀⟩ := hadmissible
  have hvalid₀ : (implementation₀, node₀) ∈ valid registry capability :=
    mem_valid.mpr ⟨himpl₀, hcap₀, hnode₀, hreasons₀⟩
  obtain ⟨⟨implementation, node⟩, hhead⟩ : ∃ candidate,
      (valid registry capability).head? = some candidate := by
    cases hv : valid registry capability with
    | nil => rw [hv] at hvalid₀; cases hvalid₀
    | cons candidate rest => exact ⟨candidate, rfl⟩
  obtain ⟨himpl, hcap, hnode, hreasons⟩ := mem_valid.mp (List.mem_of_head? hhead)
  obtain ⟨first, hfirst, -⟩ := exists_find CapabilityImplementation.id himpl
  obtain ⟨firstNode, hfirstNode, -⟩ := exists_find NodeFacts.id hnode
  have hown : ownErrors registry graph role capability implementation node = []
      ↔ first.implements = capability ∧ candidateRejectionReasons first firstNode = [] :=
    verify_plan_iff hroles _ hfirst hfirstNode
  have haccepted : ownErrors registry graph role capability implementation node = [] →
      ∃ result, resolveSingleCapability registry graph = .ok result := by
    intro hverified
    exact ⟨_, resolve_of_accepted hconstraints hroles hhead hverified⟩
  refine ⟨implementation, himpl, node, hnode, first, firstNode, hhead, hcap, hreasons, hfirst,
    hfirstNode, ?_, ?_, ?_⟩
  · rw [← hown]
    refine ⟨fun ⟨result, hok⟩ => ?_, haccepted⟩
    by_contra hrefused
    rw [resolve_of_refused hconstraints hroles hhead hrefused] at hok
    cases hok
  · rw [← hown]
    refine ⟨fun ⟨errors, herror⟩ hverified => ?_, fun hrefused =>
      ⟨_, resolve_of_refused hconstraints hroles hhead hrefused⟩⟩
    obtain ⟨result, hok⟩ := haccepted hverified
    rw [hok] at herror
    cases herror
  · intro hidsImpl hidsNode
    refine haccepted (hown.mpr ?_)
    have hsame : first = implementation :=
      Option.some.inj (hfirst.symm.trans (find_of_nodup _ hidsImpl himpl))
    have hsameNode : firstNode = node :=
      Option.some.inj (hfirstNode.symm.trans (find_of_nodup _ hidsNode hnode))
    rw [hsame, hsameNode]
    exact ⟨hcap, hreasons⟩

/-! One implementation on one node, a registry with a second of each, and one
that holds an untrusted entry of the same id before the first. -/

def testImplementation : CapabilityImplementation where
  id := ⟨"impl:test"⟩
  implements := ⟨"capability:test.run"⟩
  runtime := .native
  trusted := true
  supportedPlatforms := ["linux"]
  requiredMemoryBytes := 1024
  requiredAccelerators := []
  networkRequired := false
  qualityPpm := 900000
  expectedLatencyUs := 10
  expectedEnergyUj := 20
  costMicroeur := 5

def testNode : NodeFacts where
  id := ⟨"node:lab"⟩
  platform := "linux"
  trusted := true
  online := true
  memoryBytes := 4096
  acceleratorTags := []
  runtimeTags := ["native"]
  dataResidency := "local"
  controlDepth := .hosted

def uniqueRegistry : Registry := ⟨[testImplementation], [testNode]⟩

def betterImplementation : CapabilityImplementation :=
  { testImplementation with id := ⟨"impl:better"⟩, qualityPpm := 950000, costMicroeur := 100 }

def offlineNode : NodeFacts := { testNode with id := ⟨"node:offline"⟩, online := false }

def labRegistry : Registry := ⟨[testImplementation, betterImplementation], [testNode, offlineNode]⟩

def duplicateRegistry : Registry :=
  ⟨[{ testImplementation with trusted := false }, testImplementation], [testNode]⟩

/-- Two of the four pairs are admissible, and the ids are unique. -/
theorem lab_resolves :
    (candidateRejectionReasons testImplementation testNode = []
        ∧ candidateRejectionReasons betterImplementation testNode = [])
      ∧ candidateRejectionReasons betterImplementation offlineNode ≠ []
      ∧ ∃ result, resolveSingleCapability labRegistry oneRoleGraph = .ok result := by
  obtain ⟨_, _, _, _, _, _, -, -, -, -, -, -, -, hunique⟩ :=
    @resolve_of_admissible labRegistry oneRoleGraph _ _ rfl rfl
      ⟨testImplementation, List.mem_cons_self, testNode, List.mem_cons_self, rfl, by decide⟩
  exact ⟨by decide, by decide, hunique (by decide) (by decide)⟩

/-- There is an admissible pair, and the resolver's own plan is refused. -/
theorem duplicate_id_refused :
    oneRoleGraph.constraints = []
      ∧ capabilityRoles oneRoleGraph = [(⟨"role:runner"⟩, ⟨"capability:test.run"⟩)]
      ∧ testImplementation ∈ duplicateRegistry.implementations
      ∧ testNode ∈ duplicateRegistry.nodes
      ∧ testImplementation.implements = ⟨"capability:test.run"⟩
      ∧ candidateRejectionReasons testImplementation testNode = []
      ∧ resolveSingleCapability duplicateRegistry oneRoleGraph
        = .error (.verificationFailed ["implementation is not trusted"]) := by
  refine ⟨rfl, rfl, by simp [duplicateRegistry], by simp [duplicateRegistry], rfl, by decide, ?_⟩
  have hvalid : valid duplicateRegistry ⟨"capability:test.run"⟩
      = [(testImplementation, testNode)] := List.mergeSort_singleton _
  rw [resolve_of_refused rfl rfl (by rw [hvalid]; rfl) (by decide)]
  rfl

end Resolver

end Blob
