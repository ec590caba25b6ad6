import Mathlib.Algebra.Group.Int.Defs
import Blob.BindingIds

/-!
# The recorded objectives

The trace of a resolution records the metrics of the winner, the unsigned
numbers reinterpreted as signed ones. Reinterpretation tells numbers apart,
but puts those from 2^63 on below the others. So two records are ordered as
the winners are exactly when the first metric that differs has its two values
on one side of 2^63 (`objectives_rank_iff`).
-/

namespace Blob

/-! ## Comparisons -/

/-- Two comparisons that begin alike are equal exactly when they are equal after a tie. -/
theorem then_eq_then_iff {first second second' : Ordering} :
    first.then second = first.then second' ↔ (first = .eq → second = second') := by
  cases first <;> simp [Ordering.then]

theorem then_of_ne_eq {first second : Ordering} (h : first ≠ .eq) :
    first.then second = first := by
  cases first with
  | eq => exact absurd rfl h
  | lt => rfl
  | gt => rfl

/-- Two numbers that keep their order when they are reinterpreted as signed. -/
def SameSide (a b : UInt64) : Prop := a.toNat < 2 ^ 63 ↔ b.toNat < 2 ^ 63

instance (a b : UInt64) : Decidable (SameSide a b) :=
  inferInstanceAs (Decidable (_ ↔ _))

theorem toInt_toInt64 (a : UInt64) :
    a.toInt64.toInt = if a.toNat < 2 ^ 63 then (a.toNat : Int) else a.toNat - 2 ^ 64 := by
  have hbits : a.toInt64.toInt = a.toBitVec.toInt := rfl
  have hnat : a.toBitVec.toNat = a.toNat := rfl
  rw [hbits, BitVec.toInt_eq_toNat_cond, hnat]
  split <;> split <;> omega

theorem compare_int64 (x y : Int64) : compare x y = compare x.toInt y.toInt := by
  show compareOfLessAndEq x y = compareOfLessAndEq x.toInt y.toInt
  simp only [compareOfLessAndEq, Int64.lt_iff_toInt_lt, Int64.toInt_inj]

/-- It keeps their order exactly when they are on one side. -/
theorem compare_toInt64_eq_iff {a b : UInt64} :
    compare a.toInt64 b.toInt64 = compare a b ↔ SameSide a b := by
  have ha := toInt_toInt64 a
  have hb := toInt_toInt64 b
  have hlt := a.toNat_lt
  have hlt' := b.toNat_lt
  rw [Resolver.compare_uInt64, compare_int64, SameSide]
  rcases lt_trichotomy a.toNat b.toNat with h | h | h
  · rw [compare_lt_iff_lt.mpr h, compare_lt_iff_lt, ha, hb]
    split <;> split <;> omega
  · rw [compare_eq_iff_eq.mpr h, compare_eq_iff_eq, ha, hb, h]
    simp
  · rw [compare_gt_iff_gt.mpr h, compare_gt_iff_gt, ha, hb]
    split <;> split <;> omega

/-- A comparison of reinterpreted numbers and what comes after a tie: it is decided
where the numbers are told apart, which reinterpretation does not change. -/
theorem then_toInt64_eq_iff {a b : UInt64} {second second' : Ordering} :
    (compare a.toInt64 b.toInt64).then second = (compare a b).then second'
      ↔ if a = b then second = second' else SameSide a b := by
  split
  · rename_i h
    subst h
    rw [Std.compare_self, Std.compare_self]
    rfl
  · rename_i h
    have hne : compare a.toInt64 b.toInt64 ≠ .eq := by
      rw [ne_eq, Std.compare_eq_iff_eq]
      exact fun heq => h (by rw [← a.toUInt64_toInt64, heq, b.toUInt64_toInt64])
    have hne' : compare a b ≠ .eq := by
      rwa [ne_eq, Std.compare_eq_iff_eq]
    rw [then_of_ne_eq hne, then_of_ne_eq hne', compare_toInt64_eq_iff]

/-- Numbers of 32 bits are on one side. -/
theorem compare_uInt32_toInt64 (a b : UInt32) :
    compare a.toUInt64.toInt64 b.toUInt64.toInt64 = compare a b := by
  have hbelow : ∀ n : UInt32, n.toUInt64.toNat < 2 ^ 63 := by
    intro n
    rw [UInt32.toNat_toUInt64]
    have := n.toNat_lt
    omega
  have hside : SameSide a.toUInt64 b.toUInt64 := iff_of_true (hbelow a) (hbelow b)
  rw [compare_toInt64_eq_iff.mpr hside, Resolver.compare_uInt64, Resolver.compare_uInt32,
    UInt32.toNat_toUInt64, UInt32.toNat_toUInt64]

namespace Resolver

open BindingVerifier

/-! ## Recorded and compared metrics -/

/-- Two recorded vectors, compared as the note in the trace says: the quality
descending, cost, latency and energy ascending. -/
def compareObjectives : List Int64 → List Int64 → Ordering
  | [quality, cost, latency, energy], [quality', cost', latency', energy'] =>
      (compare quality' quality)
        |>.then (compare cost cost')
        |>.then (compare latency latency')
        |>.then (compare energy energy')
  | _, _ => .eq

/-- `compare_candidates` without the ids. -/
def compareMetrics (implA implB : CapabilityImplementation) : Ordering :=
  (compare implB.qualityPpm implA.qualityPpm)
    |>.then (compare implA.costMicroeur implB.costMicroeur)
    |>.then (compare implA.expectedLatencyUs implB.expectedLatencyUs)
    |>.then (compare implA.expectedEnergyUj implB.expectedEnergyUj)

/-- The metric that decides between two implementations - the first one in which they
differ - has its values on one side, unless it is the quality. -/
def DecidedOnOneSide (a b : CapabilityImplementation) : Prop :=
  a.qualityPpm = b.qualityPpm →
    if a.costMicroeur = b.costMicroeur then
      if a.expectedLatencyUs = b.expectedLatencyUs then
        SameSide a.expectedEnergyUj b.expectedEnergyUj
      else SameSide a.expectedLatencyUs b.expectedLatencyUs
    else SameSide a.costMicroeur b.costMicroeur

/-- What is recorded of a winner. -/
def objectives (implementation : CapabilityImplementation) : List Int64 :=
  [ implementation.qualityPpm.toUInt64.toInt64, implementation.costMicroeur.toInt64
  , implementation.expectedLatencyUs.toInt64, implementation.expectedEnergyUj.toInt64 ]

theorem compareObjectives_eq_iff (a b : CapabilityImplementation) :
    compareObjectives (objectives a) (objectives b) = compareMetrics a b
      ↔ DecidedOnOneSide a b := by
  simp only [compareObjectives, objectives, compareMetrics, Ordering.then_assoc,
    compare_uInt32_toInt64]
  rw [then_eq_then_iff, then_toInt64_eq_iff, then_toInt64_eq_iff, compare_toInt64_eq_iff,
    Std.compare_eq_iff_eq, DecidedOnOneSide, eq_comm]

/-! ## The records of two resolutions -/

section

variable {registry registry' : Registry} {graph graph' : RequirementGraph}
  {plan plan' : BindingPlan} {lease lease' : BindingLease}
  {winner winner' : CapabilityImplementation} {node node' : NodeFacts}

/-- The metrics of a candidate are part of its rank. -/
theorem objectives_of_rank_eq {a b : Candidate} (h : rank a = rank b) :
    objectives a.1 = objectives b.1 := by
  obtain ⟨hquality, h⟩ := Prod.mk.inj (congrArg ofLex h)
  obtain ⟨hcost, h⟩ := Prod.mk.inj (congrArg ofLex h)
  obtain ⟨hlatency, h⟩ := Prod.mk.inj (congrArg ofLex h)
  obtain ⟨henergy, -⟩ := Prod.mk.inj (congrArg ofLex h)
  have hquality : a.1.qualityPpm.toNat = b.1.qualityPpm.toNat := hquality
  rw [UInt32.toNat_inj] at hquality
  rw [UInt64.toNat_inj] at hcost hlatency henergy
  rw [objectives, objectives, hquality, hcost, hlatency, henergy]

/-- The metrics of a best pair are recorded. -/
theorem objectiveVector_of_resolved
    (h : resolveSingleCapability registry graph = .ok (plan, lease))
    (hbest : BestFor registry graph winner node) :
    plan.trace.objectiveVector = objectives winner := by
  obtain ⟨role, capability, implementation, node₀, -, hroles, hhead, -, rfl, -⟩ :=
    resolve_eq_ok h
  obtain ⟨role', capability', hroles', hbest⟩ := hbest
  obtain ⟨-, rfl⟩ := Prod.mk.inj (List.singleton_inj.mp (hroles.symm.trans hroles'))
  exact objectives_of_rank_eq ((best_of_head hhead).rank_eq hbest)

theorem implementation_of_resolved
    (h : resolveSingleCapability registry graph = .ok (plan, lease))
    (hbest : BestFor registry graph winner node) :
    plan.resolvedCapabilities.map (·.implementation) = [winner.id] := by
  obtain ⟨implementation, node₀, hnames⟩ := names_of_resolved h
  rw [hnames.implementation, (hnames.best.ids_eq hbest).1]

/-- The best pairs of two registries are the winners of the resolutions, and the records
are ordered as they are exactly when the metric that decides between them has its values on
one side of 2^63. -/
theorem objectives_rank_iff
    (h : resolveSingleCapability registry graph = .ok (plan, lease))
    (h' : resolveSingleCapability registry' graph' = .ok (plan', lease'))
    (hbest : BestFor registry graph winner node)
    (hbest' : BestFor registry' graph' winner' node') :
    plan.resolvedCapabilities.map (·.implementation) = [winner.id]
      ∧ plan'.resolvedCapabilities.map (·.implementation) = [winner'.id]
      ∧ (compareObjectives plan.trace.objectiveVector plan'.trace.objectiveVector
          = compareMetrics winner winner'
        ↔ DecidedOnOneSide winner winner') := by
  refine ⟨implementation_of_resolved h hbest, implementation_of_resolved h' hbest', ?_⟩
  rw [objectiveVector_of_resolved h hbest, objectiveVector_of_resolved h' hbest']
  exact compareObjectives_eq_iff winner winner'

end

/-! Registries whose one implementation costs more or less. -/

def pricedImplementation (cost : UInt64) : CapabilityImplementation :=
  { testImplementation with costMicroeur := cost }

def pricedRegistry (cost : UInt64) : Registry := ⟨[pricedImplementation cost], [testNode]⟩

def pricedPlan (cost : UInt64) : BindingPlan :=
  verified (pricedRegistry cost) oneRoleGraph ⟨"role:runner"⟩ ⟨"capability:test.run"⟩
    (pricedImplementation cost) testNode

theorem head_priced (cost : UInt64) :
    (valid (pricedRegistry cost) ⟨"capability:test.run"⟩).head?
      = some (pricedImplementation cost, testNode) := by
  have hvalid : valid (pricedRegistry cost) ⟨"capability:test.run"⟩
      = [(pricedImplementation cost, testNode)] := List.mergeSort_singleton _
  rw [hvalid]
  rfl

theorem resolves_priced (cost : UInt64) :
    resolveSingleCapability (pricedRegistry cost) oneRoleGraph
      = .ok (pricedPlan cost, lease (pricedPlan cost)) :=
  resolve_of_accepted rfl rfl (head_priced cost) rfl

theorem best_priced (cost : UInt64) :
    BestFor (pricedRegistry cost) oneRoleGraph (pricedImplementation cost) testNode :=
  ⟨⟨"role:runner"⟩, ⟨"capability:test.run"⟩, rfl, best_of_head (head_priced cost)⟩

theorem priced_ranked :
    compareObjectives (pricedPlan 5).trace.objectiveVector (pricedPlan 7).trace.objectiveVector
      = compareMetrics (pricedImplementation 5) (pricedImplementation 7) := by
  obtain ⟨-, -, hiff⟩ := objectives_rank_iff (resolves_priced 5) (resolves_priced 7)
    (best_priced 5) (best_priced 7)
  refine hiff.mpr fun _ => ?_
  decide

/-- The largest cost is recorded as one below nothing. -/
theorem largest_cost_ranked_first :
    ∃ plan lease plan' lease',
      resolveSingleCapability (pricedRegistry 0) oneRoleGraph = .ok (plan, lease)
        ∧ resolveSingleCapability (pricedRegistry (-1)) oneRoleGraph = .ok (plan', lease')
        ∧ BestFor (pricedRegistry 0) oneRoleGraph (pricedImplementation 0) testNode
        ∧ BestFor (pricedRegistry (-1)) oneRoleGraph (pricedImplementation (-1)) testNode
        ∧ plan'.trace.objectiveVector = [900000, -1, 10, 20]
        ∧ compareMetrics (pricedImplementation 0) (pricedImplementation (-1)) = .lt
        ∧ compareObjectives plan.trace.objectiveVector plan'.trace.objectiveVector = .gt :=
  ⟨_, _, _, _, resolves_priced 0, resolves_priced (-1), best_priced 0, best_priced (-1),
    by decide, by decide, by decide⟩

end Resolver

end Blob
