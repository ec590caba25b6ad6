import Blob.Ids
import Mathlib.Data.List.Nodup
import Mathlib.Logic.Function.Basic
import Mathlib.Logic.Relation

/-!
# The causal log

An append-only list of causal records with an index from record ids to
positions. `append` refuses a record whose id is known or one of whose
parents is not, and leaves the log alone when it does.

`Causal` is the invariant that ties the index to the list: an id is known
with a position exactly when the record there carries it, and parents
come before their children. Everything else about the log - distinct
ids, lookups, acyclicity - is read off it.
-/

namespace Blob

inductive CausalKind where
  | eventObserved
  | situationDerived
  | taskTransition
  | bindingResolved
  | executionCompleted
  | improvementProposed
  | systemChange
  | custom (name : String)
deriving Repr, DecidableEq

structure CausalRecord where
  id : CausalRecordId
  kind : CausalKind
  occurredAtUnixMs : Nat
  parents : List CausalRecordId
  actor : String
  summary : String
  why : String
  event : Option EventId
  situation : Option SituationId
  task : Option TaskId
  requirementGraph : Option RequirementGraphId
  bindingPlan : Option BindingPlanId
  bindingLease : Option BindingLeaseId
  improvementProposal : Option ImprovementProposalId
  evidence : List String
  expectedEffects : List String
  actualEffects : List String
  authorization : Option String
  rollbackReference : Option String
deriving Repr, DecidableEq

inductive HistoryError where
  | duplicateId (id : CausalRecordId)
  | unknownParent (id : CausalRecordId)
deriving Repr, DecidableEq

/-- The records in the order they were accepted, and the position of each id. -/
structure InMemoryCausalLog where
  records : List CausalRecord := []
  index : CausalRecordId → Option Nat := fun _ => none

namespace InMemoryCausalLog

def containsKey (self : InMemoryCausalLog) (id : CausalRecordId) : Bool :=
  (self.index id).isSome

/-- The outcome of the call and the log after it. -/
def append (self : InMemoryCausalLog) (record : CausalRecord) :
    Except HistoryError Unit × InMemoryCausalLog :=
  if self.containsKey record.id then (.error (.duplicateId record.id), self)
  else match record.parents.find? fun parent => !self.containsKey parent with
    | some parent => (.error (.unknownParent parent), self)
    | none =>
        let position := self.records.length
        (.ok (), { records := self.records ++ [record]
                   index := Function.update self.index record.id (some position) })

def get (self : InMemoryCausalLog) (id : CausalRecordId) : Option CausalRecord :=
  (self.index id).bind fun position => self.records[position]?

/-! ## Sequences of calls -/

/-- The log after a sequence of calls, failing ones included. -/
def appendAll (self : InMemoryCausalLog) : List CausalRecord → InMemoryCausalLog
  | [] => self
  | record :: rest => (self.append record).2.appendAll rest

/-- The outcomes of a sequence of calls. -/
def outcomes (self : InMemoryCausalLog) :
    List CausalRecord → List (Except HistoryError Unit)
  | [] => []
  | record :: rest => (self.append record).1 :: (self.append record).2.outcomes rest

/-- The records of a sequence of calls that were accepted. -/
def accepted (self : InMemoryCausalLog) : List CausalRecord → List CausalRecord
  | [] => []
  | record :: rest =>
      match (self.append record).1 with
      | .ok _ => record :: (self.append record).2.accepted rest
      | .error _ => (self.append record).2.accepted rest

/-! ## The invariant -/

/-- Every parent of a record is the id of a record before it. -/
def ParentsEarlier (records : List CausalRecord) : Prop :=
  ∀ before record after, records = before ++ record :: after →
    ∀ parent ∈ record.parents, ∃ r ∈ before, r.id = parent

structure Causal (log : InMemoryCausalLog) : Prop where
  indexed : ∀ id n, log.index id = some n ↔ ∃ r, log.records[n]? = some r ∧ r.id = id
  parentsEarlier : ParentsEarlier log.records

/-- `a` is a parent of `b` in the log. -/
def IsParent (log : InMemoryCausalLog) (a b : CausalRecordId) : Prop :=
  ∃ r ∈ log.records, r.id = b ∧ a ∈ r.parents

theorem parentsEarlier_snoc {records : List CausalRecord} {record : CausalRecord} :
    ParentsEarlier (records ++ [record])
      ↔ ParentsEarlier records ∧ ∀ parent ∈ record.parents, ∃ r ∈ records, r.id = parent := by
  constructor
  · intro h
    refine ⟨fun before r after hsplit => ?_, h records record [] rfl⟩
    exact h before r (after ++ [record]) (by rw [hsplit]; simp)
  · rintro ⟨hold, hnew⟩ before r after hsplit
    rcases List.eq_nil_or_concat after with rfl | ⟨after', last, rfl⟩
    · obtain ⟨rfl, hlast⟩ := List.append_inj' hsplit rfl
      obtain rfl := List.singleton_inj.mp hlast
      exact hnew
    · rw [List.concat_eq_append, ← List.cons_append, ← List.append_assoc] at hsplit
      obtain ⟨rfl, -⟩ := List.append_inj' hsplit rfl
      exact hold before r after' rfl

theorem causal_empty : Causal {} where
  indexed := by simp
  parentsEarlier := by simp [ParentsEarlier]

variable {log : InMemoryCausalLog}

/-- A known id is the id of a record. -/
theorem containsKey_iff (h : Causal log) (id : CausalRecordId) :
    log.containsKey id = true ↔ ∃ r ∈ log.records, r.id = id := by
  rw [containsKey, Option.isSome_iff_exists]
  constructor
  · rintro ⟨n, hn⟩
    obtain ⟨r, hr, hid⟩ := (h.indexed id n).mp hn
    exact ⟨r, List.mem_of_getElem? hr, hid⟩
  · rintro ⟨r, hr, hid⟩
    obtain ⟨n, hn⟩ := List.mem_iff_getElem?.mp hr
    exact ⟨n, (h.indexed id n).mpr ⟨r, hn, hid⟩⟩

/-- What a call does: it is refused and changes nothing, or the record is new,
its parents are known, and it is put at the end. -/
theorem append_cases (h : Causal log) (record : CausalRecord) :
    (∃ e, log.append record = (.error e, log)
        ∧ ((∃ r ∈ log.records, r.id = record.id)
          ∨ ∃ parent ∈ record.parents, ∀ r ∈ log.records, r.id ≠ parent))
      ∨ ((∀ r ∈ log.records, r.id ≠ record.id)
        ∧ (∀ parent ∈ record.parents, ∃ r ∈ log.records, r.id = parent)
        ∧ log.append record = (.ok (),
          { records := log.records ++ [record]
            index := Function.update log.index record.id (some log.records.length) })) := by
  unfold append
  split
  · rename_i hdup
    exact Or.inl ⟨_, rfl, Or.inl ((containsKey_iff h _).mp hdup)⟩
  · rename_i hnew
    rw [containsKey_iff h] at hnew
    split
    · rename_i parent hfind
      refine Or.inl ⟨_, rfl, Or.inr ⟨parent, List.mem_of_find?_eq_some hfind, ?_⟩⟩
      have hunknown := List.find?_some hfind
      rw [Bool.not_eq_eq_eq_not, Bool.not_true, ← Bool.not_eq_true, containsKey_iff h] at hunknown
      exact fun r hr hid => hunknown ⟨r, hr, hid⟩
    · rename_i hfind
      refine Or.inr ⟨fun r hr hid => hnew ⟨r, hr, hid⟩, fun parent hparent => ?_, rfl⟩
      have hknown := List.find?_eq_none.mp hfind parent hparent
      rw [Bool.not_eq_eq_eq_not, Bool.not_true, Bool.not_eq_false] at hknown
      exact (containsKey_iff h parent).mp hknown

/-- The invariant holds after a call, whatever its outcome. -/
theorem causal_append (h : Causal log) (record : CausalRecord) :
    Causal (log.append record).2 := by
  rcases append_cases h record with ⟨e, heq, -⟩ | ⟨hnew, hparents, heq⟩
  · rw [heq]
    exact h
  · rw [heq]
    refine ⟨fun id n => ?_, parentsEarlier_snoc.mpr ⟨h.parentsEarlier, hparents⟩⟩
    by_cases hid : id = record.id
    · subst hid
      simp only [Function.update_self, Option.some.injEq]
      constructor
      · rintro rfl
        exact ⟨record, by simp, rfl⟩
      · rintro ⟨r, hr, hrid⟩
        by_contra hne
        have hlt : n < log.records.length := by
          have := (List.getElem?_eq_some_iff.mp hr).1
          rw [List.length_append, List.length_singleton] at this
          omega
        rw [List.getElem?_append_left hlt] at hr
        exact hnew r (List.mem_of_getElem? hr) hrid
    · simp only [Function.update_of_ne hid, h.indexed]
      constructor
      · rintro ⟨r, hr, hrid⟩
        have hlt := (List.getElem?_eq_some_iff.mp hr).1
        exact ⟨r, by rw [List.getElem?_append_left hlt, hr], hrid⟩
      · rintro ⟨r, hr, hrid⟩
        by_cases hlt : n < log.records.length
        · rw [List.getElem?_append_left hlt] at hr
          exact ⟨r, hr, hrid⟩
        · have hmem : r ∈ [record] := by
            rw [List.getElem?_append_right (Nat.le_of_not_lt hlt)] at hr
            exact List.mem_of_getElem? hr
          obtain rfl := List.mem_singleton.mp hmem
          exact absurd hrid.symm hid

theorem causal_appendAll (h : Causal log) (rs : List CausalRecord) :
    Causal (log.appendAll rs) := by
  induction rs generalizing log with
  | nil => exact h
  | cons r rs ih => exact ih (causal_append h r)

/-- A record that is new and whose parents are there is accepted. -/
theorem append_of_new (h : Causal log) {record : CausalRecord}
    (hnew : ∀ r ∈ log.records, r.id ≠ record.id)
    (hparents : ∀ parent ∈ record.parents, ∃ r ∈ log.records, r.id = parent) :
    ∃ next, log.append record = (.ok (), next) ∧ Causal next
      ∧ next.records = log.records ++ [record] := by
  have hcausal := causal_append h record
  rcases append_cases h record with ⟨e, -, hwhy⟩ | ⟨-, -, heq⟩
  · rcases hwhy with ⟨r, hr, hid⟩ | ⟨parent, hparent, hunknown⟩
    · exact absurd hid (hnew r hr)
    · obtain ⟨r, hr, hid⟩ := hparents parent hparent
      exact absurd hid (hunknown r hr)
  · rw [heq] at hcausal ⊢
    exact ⟨_, rfl, hcausal, rfl⟩

/-! ## What the invariant says -/

theorem ids_nodup (h : Causal log) : (log.records.map CausalRecord.id).Nodup := by
  rw [List.nodup_iff_injective_getElem]
  rintro ⟨m, hm⟩ ⟨n, hn⟩ heq
  simp only [List.getElem_map] at heq
  rw [List.length_map] at hm hn
  have hindexm := (h.indexed _ m).mpr ⟨_, List.getElem?_eq_getElem hm, rfl⟩
  have hindexn := (h.indexed _ n).mpr ⟨_, List.getElem?_eq_getElem hn, rfl⟩
  rw [heq, hindexn] at hindexm
  exact Fin.ext (Option.some.inj hindexm).symm

theorem get_eq_some_iff (h : Causal log) (id : CausalRecordId) (r : CausalRecord) :
    log.get id = some r ↔ r ∈ log.records ∧ r.id = id := by
  rw [get, Option.bind_eq_some_iff]
  constructor
  · rintro ⟨n, hn, hr⟩
    obtain ⟨r', hr', hid⟩ := (h.indexed id n).mp hn
    obtain rfl := Option.some.inj (hr'.symm.trans hr)
    exact ⟨List.mem_of_getElem? hr, hid⟩
  · rintro ⟨hr, hid⟩
    obtain ⟨n, hn⟩ := List.mem_iff_getElem?.mp hr
    exact ⟨n, (h.indexed id n).mpr ⟨r, hn, hid⟩, hn⟩

/-- A parent is known at an earlier position than its child. -/
theorem index_lt_of_isParent (h : Causal log) {a b : CausalRecordId}
    (hab : log.IsParent a b) :
    ∃ m n, log.index a = some m ∧ log.index b = some n ∧ m < n := by
  obtain ⟨r, hr, hid, hparent⟩ := hab
  obtain ⟨before, after, hsplit⟩ := List.append_of_mem hr
  obtain ⟨r', hr', hid'⟩ := h.parentsEarlier before r after hsplit a hparent
  obtain ⟨m, hm⟩ := List.mem_iff_getElem?.mp hr'
  have hlt := (List.getElem?_eq_some_iff.mp hm).1
  refine ⟨m, before.length, (h.indexed a m).mpr ⟨r', ?_, hid'⟩,
    (h.indexed b _).mpr ⟨r, ?_, hid⟩, hlt⟩
  · rw [hsplit, List.getElem?_append_left hlt, hm]
  · rw [hsplit, List.getElem?_append_right (Nat.le_refl _), Nat.sub_self]
    rfl

/-- Ancestors are known at earlier positions. -/
theorem index_lt_of_ancestor (h : Causal log) {a b : CausalRecordId}
    (hab : Relation.TransGen log.IsParent a b) :
    ∃ m n, log.index a = some m ∧ log.index b = some n ∧ m < n := by
  induction hab with
  | single hparent => exact index_lt_of_isParent h hparent
  | tail _ hparent ih =>
      obtain ⟨m, n, hm, hn, hlt⟩ := ih
      obtain ⟨n', k, hn', hk, hlt'⟩ := index_lt_of_isParent h hparent
      obtain rfl := Option.some.inj (hn.symm.trans hn')
      exact ⟨m, k, hm, hk, Nat.lt_trans hlt hlt'⟩

/-- No record is its own ancestor. -/
theorem not_ancestor_self (h : Causal log) (id : CausalRecordId) :
    ¬ Relation.TransGen log.IsParent id id := by
  intro hcycle
  obtain ⟨m, n, hm, hn, hlt⟩ := index_lt_of_ancestor h hcycle
  obtain rfl := Option.some.inj (hm.symm.trans hn)
  exact Nat.lt_irrefl m hlt

/-! ## What sequences of calls do -/

theorem records_append (h : Causal log) (record : CausalRecord) :
    (log.append record).2.records = log.records
      ++ (match (log.append record).1 with | .ok _ => [record] | .error _ => []) := by
  rcases append_cases h record with ⟨e, heq, -⟩ | ⟨-, -, heq⟩
  · rw [heq, List.append_nil]
  · rw [heq]

/-- The log holds what it held, and after it what was accepted. -/
theorem records_appendAll (h : Causal log) (rs : List CausalRecord) :
    (log.appendAll rs).records = log.records ++ log.accepted rs := by
  induction rs generalizing log with
  | nil => exact (List.append_nil _).symm
  | cons r rs ih =>
      rw [appendAll, ih (causal_append h r), records_append h, accepted]
      cases (log.append r).1 with
      | error e => rw [List.append_nil]
      | ok u => rw [List.append_assoc, List.singleton_append]

theorem appendAll_append (rs rs' : List CausalRecord) :
    log.appendAll (rs ++ rs') = (log.appendAll rs).appendAll rs' := by
  induction rs generalizing log with
  | nil => rfl
  | cons r rs ih => exact ih

/-- A sequence is accepted as a whole exactly when it continues the log with
new ids and known parents. -/
theorem outcomes_ok_iff (h : Causal log) (rs : List CausalRecord) :
    (∀ outcome ∈ log.outcomes rs, outcome = .ok ())
      ↔ ((log.records ++ rs).map CausalRecord.id).Nodup
        ∧ ParentsEarlier (log.records ++ rs) := by
  induction rs generalizing log with
  | nil =>
      rw [List.append_nil]
      exact ⟨fun _ => ⟨ids_nodup h, h.parentsEarlier⟩, fun _ => by simp [outcomes]⟩
  | cons r rs ih =>
      have hnext := ih (causal_append h r)
      rw [outcomes, List.forall_mem_cons, hnext]
      rcases append_cases h r with ⟨e, heq, hbad⟩ | ⟨-, -, heq⟩
      · rw [heq]
        refine ⟨fun hok => absurd hok.1 nofun, fun ⟨hnodup, hearlier⟩ => ?_⟩
        rcases hbad with ⟨r', hr', hid⟩ | ⟨parent, hparent, hunknown⟩
        · rw [List.map_append, List.map_cons] at hnodup
          have hdisjoint := List.disjoint_of_nodup_append hnodup
          exact absurd (List.mem_map.mpr ⟨r', hr', hid⟩)
            fun hmem => hdisjoint hmem (List.mem_cons_self ..)
        · obtain ⟨r', hr', hid⟩ := hearlier log.records r rs rfl parent hparent
          exact absurd hid (hunknown r' hr')
      · rw [heq]
        simp only [true_and, List.append_assoc, List.singleton_append]

/-- **The causal log invariant.** After every sequence of calls the ids are
distinct, parents come before children, no record is its own ancestor, `get`
finds exactly the accepted records, later calls keep every record in its
place, and a refused call changes nothing. A sequence is accepted as a whole
exactly when its ids are distinct and its parents come earlier in it. -/
theorem causal_log_invariant (rs : List CausalRecord) :
    let log := appendAll {} rs
    log.records = accepted {} rs
      ∧ (log.records.map CausalRecord.id).Nodup
      ∧ ParentsEarlier log.records
      ∧ (∀ id, ¬ Relation.TransGen log.IsParent id id)
      ∧ (∀ id r, log.get id = some r ↔ r ∈ accepted {} rs ∧ r.id = id)
      ∧ (∀ id, log.get id = none ↔ ∀ r ∈ accepted {} rs, r.id ≠ id)
      ∧ (∀ (later : List CausalRecord) (n : Nat) (r : CausalRecord),
        log.records[n]? = some r →
        (appendAll {} (rs ++ later)).records[n]? = some r)
      ∧ (∀ r e, (log.append r).1 = .error e → (log.append r).2 = log)
      ∧ ((∀ outcome ∈ outcomes {} rs, outcome = .ok ())
        ↔ (rs.map CausalRecord.id).Nodup ∧ ParentsEarlier rs) := by
  have h : Causal (appendAll {} rs) := causal_appendAll causal_empty rs
  have hrecords : (appendAll {} rs).records = accepted {} rs :=
    records_appendAll causal_empty rs
  refine ⟨hrecords, ids_nodup h, h.parentsEarlier, not_ancestor_self h, ?_, ?_, ?_, ?_,
    outcomes_ok_iff causal_empty rs⟩
  · intro id r
    rw [← hrecords]
    exact get_eq_some_iff h id r
  · intro id
    rw [← hrecords, Option.eq_none_iff_forall_ne_some]
    constructor
    · intro hnone r hr hid
      exact hnone r ((get_eq_some_iff h id r).mpr ⟨hr, hid⟩)
    · intro hfresh r hsome
      obtain ⟨hr, hid⟩ := (get_eq_some_iff h id r).mp hsome
      exact hfresh r hr hid
  · intro later n r hr
    have hlt := (List.getElem?_eq_some_iff.mp hr).1
    rw [appendAll_append, records_appendAll h, List.getElem?_append_left hlt, hr]
  · intro r e he
    rcases append_cases h r with ⟨e', heq, -⟩ | ⟨-, -, heq⟩
    · rw [heq]
    · rw [heq] at he
      cases he

end InMemoryCausalLog

end Blob
