import Mathlib.Data.Prod.Lex
import Mathlib.Data.String.Basic
import Blob.KeySort
import Blob.ResolverAgreement

/-!
# The best candidate

The resolver compares candidates key by key. Their `rank` puts the six keys
into one linear order - quality descending, cost, latency and energy
ascending, then the two ids - and the comparison is the order of the ranks
(`compareCandidates_eq`), so the candidate at the head of the sorted list has
a least rank.

`resolve_optimal` is what a resolution amounts to: `NoCandidate` exactly
without an admissible pair, a best admissible pair otherwise, and a trace that
accounts for every pair once.
-/

namespace Blob

namespace Resolver

open Checks BindingVerifier KeySort

/-! ## Ranks -/

/-- Quality descending, then cost, latency, energy, implementation id and node
id ascending. -/
abbrev Rank : Type := ℕᵒᵈ ×ₗ ℕ ×ₗ ℕ ×ₗ ℕ ×ₗ String ×ₗ String

def rank (candidate : Candidate) : Rank :=
  toLex (OrderDual.toDual candidate.1.qualityPpm.toNat,
    toLex (candidate.1.costMicroeur.toNat,
      toLex (candidate.1.expectedLatencyUs.toNat,
        toLex (candidate.1.expectedEnergyUj.toNat,
          toLex (candidate.1.id.value, candidate.2.id.value)))))

theorem compare_toLex {α β : Type} [LinearOrder α] [LinearOrder β] (a b : α) (x y : β) :
    compare (toLex (a, x)) (toLex (b, y)) = (compare a b).then (compare x y) := rfl

theorem compare_uInt64 (a b : UInt64) : compare a b = compare a.toNat b.toNat := by
  show compareOfLessAndEq a b = compareOfLessAndEq a.toNat b.toNat
  simp only [compareOfLessAndEq, UInt64.lt_iff_toNat_lt, UInt64.toNat_inj]

theorem compare_uInt32 (a b : UInt32) : compare a b = compare a.toNat b.toNat := by
  show compareOfLessAndEq a b = compareOfLessAndEq a.toNat b.toNat
  simp only [compareOfLessAndEq, UInt32.lt_iff_toNat_lt, UInt32.toNat_inj]

/-- The comparison of the resolver is the order of the ranks. -/
theorem compareCandidates_eq (a b : Candidate) :
    compareCandidates a.1 a.2 b.1 b.2 = compare (rank a) (rank b) := by
  unfold compareCandidates rank
  rw [compare_toLex, compare_toLex, compare_toLex, compare_toLex, compare_toLex,
    compare_uInt32, compare_uInt64, compare_uInt64, compare_uInt64]
  simp only [Ordering.then_assoc]
  rfl

theorem rank_le_iff (a b : Candidate) :
    (compareCandidates a.1 a.2 b.1 b.2 != .gt) = decide (rank a ≤ rank b) := by
  rw [compareCandidates_eq, Bool.eq_iff_iff]
  simp [compare_le_iff_le]

/-- The ids of a candidate are part of its rank. -/
theorem ids_of_rank_eq {a b : Candidate} (h : rank a = rank b) :
    a.1.id = b.1.id ∧ a.2.id = b.2.id := by
  have hids := congrArg (fun r : Rank => (ofLex (ofLex (ofLex (ofLex (ofLex r).2).2).2).2)) h
  obtain ⟨himpl, hnode⟩ := Prod.mk.inj (congrArg ofLex hids)
  obtain ⟨⟨⟨id⟩⟩, ⟨⟨nodeId⟩⟩⟩ := a
  obtain ⟨⟨⟨id'⟩⟩, ⟨⟨nodeId'⟩⟩⟩ := b
  exact ⟨congrArg ImplementationId.mk himpl, congrArg NodeId.mk hnode⟩

variable {registry : Registry} {graph : RequirementGraph} {role : RequirementRoleId}
  {capability : CapabilityId} {implementation : CapabilityImplementation} {node : NodeFacts}

/-- The candidates without rejection reasons, in registry order. -/
def admissible (registry : Registry) (capability : CapabilityId) : List Candidate :=
  (candidates registry capability).filter fun candidate =>
    (candidateRejectionReasons candidate.1 candidate.2).isEmpty

theorem valid_eq (registry : Registry) (capability : CapabilityId) :
    valid registry capability = byKey rank (admissible registry capability) := by
  unfold valid byKey admissible
  congr 1
  funext a b
  exact rank_le_iff a b

theorem mem_admissible {candidate : Candidate} :
    candidate ∈ admissible registry capability
      ↔ candidate.1 ∈ registry.implementations ∧ candidate.1.implements = capability
        ∧ candidate.2 ∈ registry.nodes
        ∧ candidateRejectionReasons candidate.1 candidate.2 = [] := by
  rw [← mem_valid, valid_eq, (byKey_perm rank _).mem_iff]

/-- No admissible candidate is better than the one at the head. -/
theorem head_best (hhead : (valid registry capability).head? = some (implementation, node))
    {other : Candidate} (hother : other ∈ admissible registry capability) :
    ¬ rank other < rank (implementation, node) := by
  rw [valid_eq] at hhead
  exact not_lt_of_ge (head_le hhead hother)

/-- An admissible pair that is compared after no admissible pair. -/
structure Best (registry : Registry) (capability : CapabilityId)
    (implementation : CapabilityImplementation) (node : NodeFacts) : Prop where
  member : (implementation, node) ∈ admissible registry capability
  least : ∀ other ∈ admissible registry capability,
    compareCandidates implementation node other.1 other.2 ≠ .gt

theorem best_of_head (hhead : (valid registry capability).head? = some (implementation, node)) :
    Best registry capability implementation node where
  member := mem_admissible.mpr (mem_valid.mp (List.mem_of_head? hhead))
  least := by
    intro other hother
    rw [compareCandidates_eq (implementation, node) other, compare_le_iff_le]
    exact not_lt.mp (head_best hhead hother)

/-- The best pairs have one rank. -/
theorem Best.rank_eq {implementation' : CapabilityImplementation} {node' : NodeFacts}
    (h : Best registry capability implementation node)
    (h' : Best registry capability implementation' node') :
    rank (implementation, node) = rank (implementation', node') := by
  have hle := h.least _ h'.member
  have hge := h'.least _ h.member
  rw [compareCandidates_eq (implementation, node), compare_le_iff_le] at hle
  rw [compareCandidates_eq (implementation', node'), compare_le_iff_le] at hge
  exact le_antisymm hle hge

/-- They have one implementation id and one node id. -/
theorem Best.ids_eq {implementation' : CapabilityImplementation} {node' : NodeFacts}
    (h : Best registry capability implementation node)
    (h' : Best registry capability implementation' node') :
    implementation.id = implementation'.id ∧ node.id = node'.id :=
  ids_of_rank_eq (h.rank_eq h')

/-! ## What a resolution returns -/

theorem resolve_eq_ok {bound : BindingPlan} {granted : BindingLease}
    (h : resolveSingleCapability registry graph = .ok (bound, granted)) :
    ∃ role capability implementation node, graph.constraints = []
      ∧ capabilityRoles graph = [(role, capability)]
      ∧ (valid registry capability).head? = some (implementation, node)
      ∧ ownErrors registry graph role capability implementation node = []
      ∧ bound = verified registry graph role capability implementation node
      ∧ granted = lease bound := by
  obtain ⟨hconstraints, h⟩ := reject_bind_ok h
  rw [Bool.not_eq_false, List.isEmpty_iff] at hconstraints
  split at h
  · rename_i role capability hroles
    split at h
    · cases h
    · rename_i implementation node hhead
      obtain ⟨hverified, h⟩ := reject_bind_ok h
      rw [Bool.not_eq_false, VerificationReport.isValid, List.isEmpty_iff] at hverified
      obtain ⟨rfl, rfl⟩ := Prod.mk.inj (Except.ok.inj h)
      exact ⟨role, capability, implementation, node, hconstraints, hroles, hhead, hverified,
        rfl, rfl⟩
  · cases h

theorem resolve_of_no_head (hconstraints : graph.constraints = [])
    (hroles : capabilityRoles graph = [(role, capability)])
    (hhead : (valid registry capability).head? = none) :
    resolveSingleCapability registry graph = .error .noCandidate := by
  unfold resolveSingleCapability
  rw [hconstraints, hroles]
  simp only [hhead]
  rfl

theorem resolve_eq_noCandidate (hconstraints : graph.constraints = [])
    (hroles : capabilityRoles graph = [(role, capability)]) :
    resolveSingleCapability registry graph = .error .noCandidate
      ↔ admissible registry capability = [] := by
  cases hvalid : valid registry capability with
  | nil =>
      have hperm := byKey_perm rank (admissible registry capability)
      rw [← valid_eq, hvalid] at hperm
      exact iff_of_true (resolve_of_no_head hconstraints hroles (by rw [hvalid]; rfl))
        hperm.nil_eq.symm
  | cons best rest =>
      have hmem : best ∈ admissible registry capability := by
        rw [← (byKey_perm rank _).mem_iff, ← valid_eq, hvalid]
        exact List.mem_cons_self
      refine iff_of_false (fun hnone => ?_) (List.ne_nil_of_mem hmem)
      by_cases hown : ownErrors registry graph role capability best.1 best.2 = []
      · rw [resolve_of_accepted hconstraints hroles (by rw [hvalid]; rfl) hown] at hnone
        cases hnone
      · rw [resolve_of_refused hconstraints hroles (by rw [hvalid]; rfl) hown] at hnone
        cases hnone

/-! ## The account of the candidates -/

/-- The entry of a candidate in the trace: that it is valid, or why not. -/
def account (candidate : Candidate) : String :=
  if (candidateRejectionReasons candidate.1 candidate.2).isEmpty then
    "valid: " ++ candidate.1.id.value ++ "@" ++ candidate.2.id.value
  else candidate.1.id.value ++ "@" ++ candidate.2.id.value ++ " rejected: "
    ++ String.intercalate ", " (candidateRejectionReasons candidate.1 candidate.2)

/-- Notes and rejections hold one entry for each candidate. -/
theorem account_perm (registry : Registry) (capability : CapabilityId)
    (implementation : CapabilityImplementation) :
    ((trace registry capability implementation).candidateNotes
        ++ (trace registry capability implementation).rejectedCandidates).Perm
      ((candidates registry capability).map account) := by
  have hnotes : (trace registry capability implementation).candidateNotes.Perm
      ((admissible registry capability).map account) := by
    refine List.Perm.trans (.of_eq ?_)
      ((valid_eq registry capability
        ▸ byKey_perm rank (admissible registry capability)).map account)
    refine List.map_congr_left ?_
    intro candidate hmem
    rw [account, (mem_valid.mp hmem).2.2.2]
    rfl
  have hrejected : (trace registry capability implementation).rejectedCandidates
      = ((candidates registry capability).filter fun candidate =>
        !(candidateRejectionReasons candidate.1 candidate.2).isEmpty).map account := by
    refine List.map_congr_left ?_
    intro candidate hmem
    have hreasons := (List.mem_filter.mp hmem).2
    rw [Bool.not_eq_true'] at hreasons
    rw [account, hreasons]
    rfl
  rw [hrejected]
  refine (hnotes.append_right _).trans ?_
  rw [← List.map_append]
  exact (List.filter_append_perm _ _).map account

/-- **The resolver chooses a best candidate.** For every registry and every
graph without constraints and with one Capability role: `NoCandidate` means
that there is no admissible pair; a plan binds the ids of an admissible pair
that no admissible pair ranks before, and the first registry entries with these
ids are admissible too; and its trace has one entry for every pair of an
implementation of the capability and a node. -/
theorem resolve_optimal (hconstraints : graph.constraints = [])
    (hroles : capabilityRoles graph = [(role, capability)]) :
    (resolveSingleCapability registry graph = .error .noCandidate
      ↔ ¬ ∃ implementation ∈ registry.implementations, ∃ node ∈ registry.nodes,
        implementation.implements = capability
          ∧ candidateRejectionReasons implementation node = [])
      ∧ ∀ bound granted, resolveSingleCapability registry graph = .ok (bound, granted) →
        (∃ implementation ∈ registry.implementations, ∃ node ∈ registry.nodes,
          implementation.implements = capability
            ∧ candidateRejectionReasons implementation node = []
            ∧ bound.resolvedCapabilities
              = [{ role, capability, implementation := implementation.id, node := node.id }]
            ∧ (∀ other ∈ registry.implementations, ∀ otherNode ∈ registry.nodes,
              other.implements = capability → candidateRejectionReasons other otherNode = [] →
              ¬ rank (other, otherNode) < rank (implementation, node))
            ∧ ∃ first firstNode,
              findImplementation registry implementation.id = some first
                ∧ findNode registry node.id = some firstNode
                ∧ first.implements = capability
                ∧ candidateRejectionReasons first firstNode = [])
          ∧ (bound.trace.candidateNotes ++ bound.trace.rejectedCandidates).Perm
            (((registry.implementations.filter (fun implementation =>
              implementation.implements = capability)) ×ˢ registry.nodes).map account) := by
  constructor
  · rw [resolve_eq_noCandidate hconstraints hroles, List.eq_nil_iff_forall_not_mem, not_exists]
    constructor
    · rintro hnone implementation ⟨himpl, node, hnode, hcap, hreasons⟩
      exact hnone (implementation, node) (mem_admissible.mpr ⟨himpl, hcap, hnode, hreasons⟩)
    · intro hnone candidate hmem
      obtain ⟨himpl, hcap, hnode, hreasons⟩ := mem_admissible.mp hmem
      exact hnone candidate.1 ⟨himpl, candidate.2, hnode, hcap, hreasons⟩
  · intro bound granted hok
    obtain ⟨role', capability', implementation, node, -, hroles', hhead, hown, rfl, -⟩ :=
      resolve_eq_ok hok
    rw [hroles, List.singleton_inj] at hroles'
    obtain ⟨rfl, rfl⟩ := Prod.mk.inj hroles'
    obtain ⟨himpl, hcap, hnode, hreasons⟩ := mem_valid.mp (List.mem_of_head? hhead)
    obtain ⟨first, hfirst, -⟩ := exists_find CapabilityImplementation.id himpl
    obtain ⟨firstNode, hfirstNode, -⟩ := exists_find NodeFacts.id hnode
    refine ⟨⟨implementation, himpl, node, hnode, hcap, hreasons, rfl, ?_, first, firstNode,
      hfirst, hfirstNode, (verify_plan_iff hroles _ hfirst hfirstNode).mp hown⟩,
      account_perm registry capability implementation⟩
    intro other hother otherNode hotherNode hcap' hreasons'
    exact head_best hhead (mem_admissible.mpr ⟨hother, hcap', hotherNode, hreasons'⟩)

/-- Of the two admissible pairs of the lab the better one comes first. -/
theorem lab_valid : valid labRegistry ⟨"capability:test.run"⟩
    = [(betterImplementation, testNode), (testImplementation, testNode)] := by
  have hadmissible : admissible labRegistry ⟨"capability:test.run"⟩
      = [(testImplementation, testNode), (betterImplementation, testNode)] := by decide
  have hlt : rank (betterImplementation, testNode) < rank (testImplementation, testNode) :=
    Prod.Lex.toLex_lt_toLex.mpr (Or.inl (by decide))
  rw [valid_eq, hadmissible, byKey_eq_of_perm (List.Perm.swap _ _ _), byKey_of_pairwise]
  · exact List.pairwise_pair.mpr hlt.le
  · intro a ha b hb heq
    simp only [List.mem_cons, List.not_mem_nil, or_false] at ha hb
    rcases ha with rfl | rfl <;> rcases hb with rfl | rfl
    · rfl
    · exact absurd heq hlt.ne'
    · exact absurd heq hlt.ne
    · rfl

/-- The lab binds the better of its two admissible pairs, and says why not the
others. -/
theorem lab_optimal :
    ∃ bound granted, resolveSingleCapability labRegistry oneRoleGraph = .ok (bound, granted)
      ∧ bound.resolvedCapabilities.map (fun entry => (entry.implementation, entry.node))
        = [(⟨"impl:better"⟩, ⟨"node:lab"⟩)]
      ∧ ¬ rank (testImplementation, testNode) < rank (betterImplementation, testNode)
      ∧ (bound.trace.candidateNotes ++ bound.trace.rejectedCandidates).Perm
        [ "valid: impl:test@node:lab", "impl:test@node:offline rejected: node is offline"
        , "valid: impl:better@node:lab"
        , "impl:better@node:offline rejected: node is offline" ] := by
  have hok := @resolve_of_accepted labRegistry oneRoleGraph _ _ betterImplementation testNode
    rfl rfl (by rw [lab_valid]; rfl) (by decide)
  obtain ⟨⟨implementation, himpl, node, hnode, -, -, hbindings, hbest, -⟩, haccount⟩ :=
    (@resolve_optimal labRegistry oneRoleGraph _ _ rfl rfl).2 _ _ hok
  refine ⟨_, _, hok, rfl, ?_, haccount⟩
  have hids := congrArg (List.map fun entry : ResolvedCapabilityRole =>
    (entry.implementation, entry.node)) hbindings
  obtain ⟨himplId, hnodeId⟩ := Prod.mk.inj (List.singleton_inj.mp hids)
  obtain rfl : betterImplementation = implementation :=
    List.inj_on_of_nodup_map (f := CapabilityImplementation.id) (by decide)
      (List.mem_cons_of_mem _ List.mem_cons_self) himpl himplId
  obtain rfl : testNode = node :=
    List.inj_on_of_nodup_map (f := NodeFacts.id) (by decide) List.mem_cons_self hnode hnodeId
  exact hbest testImplementation List.mem_cons_self testNode hnode rfl (by decide)

end Resolver

end Blob
