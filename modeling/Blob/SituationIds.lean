import Mathlib.Data.List.Pairwise
import Blob.Alfred
import Blob.Text

/-!
# Situation ids

A situation is named after the version of its rule and its event, and after
nothing else: neither the workspace of the rule nor its place among the rules
is part of the id. `situationIds_nodup_iff` says when the ids of a run are
distinct all the same.
-/

namespace Blob

/-- A rule of one of the two shipped kinds. -/
inductive ShippedRule where
  | sourceChange (rule : SourceChangeRequiresTestRule)
  | testFailed (rule : TestFailedRule)
deriving Repr, DecidableEq

namespace ShippedRule

def ruleVersion : ShippedRule → String
  | .sourceChange rule => rule.ruleVersion
  | .testFailed rule => rule.ruleVersion

def correlate : ShippedRule → CorrelationRule
  | .sourceChange rule => rule.correlate
  | .testFailed rule => rule.correlate

/-- The tests a rule puts an event to. -/
def appliesTo (event : Core.Event) : ShippedRule → Bool
  | .sourceChange rule =>
      event.kind == "source.modified" && rule.belongsToActiveWorkspace event
  | .testFailed _ =>
      event.kind == "capability.failed" && TestFailedRule.hasTaskSubject event
        && TestFailedRule.isTestRun event

/-- A rule that applies derives one situation, named after its version and the
event. -/
theorem id_of_correlate (rule : ShippedRule) (event : Core.Event) :
    (rule.correlate event).map (·.id)
      = if rule.appliesTo event then some (situationId rule.ruleVersion event.id) else none := by
  cases rule with
  | sourceChange rule =>
      simp only [correlate, SourceChangeRequiresTestRule.correlate, appliesTo]
      split
      · simp_all
      · split <;> simp_all [ruleSituation, ruleVersion]
  | testFailed rule =>
      simp only [correlate, TestFailedRule.correlate, appliesTo]
      split
      · simp_all
      · split
        · rename_i hno
          rcases hno with hno | hno <;> simp [hno]
        · simp_all [ruleSituation, ruleVersion]

/-- The rule is as its constructor makes it. -/
def IsV1 : ShippedRule → Prop
  | .sourceChange rule => rule = .v1 rule.activeWorkspace
  | .testFailed rule => rule = .v1

/-- A source change and a failed test are never one event. -/
theorem not_appliesTo_both {event : Core.Event} {rule : SourceChangeRequiresTestRule}
    {rule' : TestFailedRule} (h : (sourceChange rule).appliesTo event = true) :
    (testFailed rule').appliesTo event = false := by
  simp only [appliesTo, Bool.and_eq_true, beq_iff_eq] at h
  simp [appliesTo, h.1]

end ShippedRule

namespace Alfred

open ShippedRule

/-- The situations of a run by shipped rules. -/
def emittedBy (rules : List ShippedRule) (events : List Core.Event) : List Situation :=
  emitted (rules.map ShippedRule.correlate) events

/-- The ids of a run: one for each first occurrence and each rule that applies. -/
theorem ids_emittedBy (rules : List ShippedRule) (events : List Core.Event) :
    (emittedBy rules events).map (·.id)
      = (firsts Core.Event.id events).flatMap fun event =>
          (rules.filter (·.appliesTo event)).map fun rule =>
            situationId rule.ruleVersion event.id := by
  rw [emittedBy, emitted_eq, List.map_flatMap]
  congr 1
  funext event
  rw [List.filterMap_map, List.map_filterMap]
  induction rules with
  | nil => rfl
  | cons rule rules ih =>
      rw [List.filterMap_cons, ih, Function.comp_apply, id_of_correlate]
      cases happlies : rule.appliesTo event <;> simp [happlies]

theorem situationId_eq_iff {v v' : String} {e e' : EventId} :
    situationId v e = situationId v' e' ↔ (v = v' ∧ e = e')
      ∨ (∃ w, v = v' ++ ":" ++ w ∧ e'.value = w ++ ":" ++ e.value)
      ∨ ∃ w, v' = v ++ ":" ++ w ∧ e.value = w ++ ":" ++ e'.value := by
  obtain ⟨i⟩ := e
  obtain ⟨i'⟩ := e'
  rw [situationId, situationId, SituationId.mk.injEq, EventId.mk.injEq, ← Text.colon_eq_iff]
  simp only [String.append_assoc, String.append_right_inj]

/-- What keeps the ids of a run apart: the rules that apply to one event have
different versions, and of two rules that apply to events neither has a version
that goes on, after a colon, as the other's event id begins. -/
structure Separated (rules : List ShippedRule) (events : List Core.Event) : Prop where
  versions : ∀ event ∈ events, ((rules.filter (·.appliesTo event)).map ruleVersion).Nodup
  colons : ∀ rule ∈ rules, ∀ rule' ∈ rules, ∀ event ∈ events, ∀ event' ∈ events,
    rule.appliesTo event = true → rule'.appliesTo event' = true →
    ∀ w, rule.ruleVersion = rule'.ruleVersion ++ ":" ++ w →
      event'.id.value ≠ w ++ ":" ++ event.id.value

/-- The ids of one event are those of the versions that apply to it. -/
theorem nodup_ids_at_iff {rules : List ShippedRule} {event : EventId} :
    (rules.map fun rule => situationId rule.ruleVersion event).Nodup
      ↔ (rules.map ruleVersion).Nodup := by
  have hinj : Function.Injective fun version => situationId version event := by
    intro v v' h
    simpa [situationId] using h
  rw [← List.nodup_map_iff hinj, List.map_map]
  rfl

/-- A text is not its own end behind something else. -/
theorem ne_append_self {w s : String} : s ≠ w ++ ":" ++ s := by
  intro h
  have hlength := congrArg String.length h
  simp only [String.length_append] at hlength
  have hcolon : ":".length = 1 := rfl
  omega

/-- The situation ids of a run are distinct exactly when versions and event ids
keep them apart. -/
theorem situationIds_nodup_iff (rules : List ShippedRule) (events : List Core.Event) :
    ((emittedBy rules events).map (·.id)).Nodup
      ↔ Separated rules (firsts Core.Event.id events) := by
  rw [ids_emittedBy, List.nodup_flatMap]
  constructor
  · rintro ⟨hversions, hdisjoint⟩
    refine ⟨fun event hevent => nodup_ids_at_iff.mp (hversions event hevent), ?_⟩
    intro rule hrule rule' hrule' event hevent event' hevent' happlies happlies' w hversion hid
    have hne : event ≠ event' := by
      rintro rfl
      exact ne_append_self hid
    have hmem : ∀ {r : ShippedRule} {e : Core.Event}, r ∈ rules → r.appliesTo e = true →
        situationId r.ruleVersion e.id ∈ (rules.filter (·.appliesTo e)).map fun rule =>
          situationId rule.ruleVersion e.id := by
      intro r e hr he
      exact List.mem_map_of_mem (List.mem_filter.mpr ⟨hr, he⟩)
    have : Std.Symm (Function.onFun List.Disjoint fun event : Core.Event =>
        (rules.filter (·.appliesTo event)).map fun rule =>
          situationId rule.ruleVersion event.id) := ⟨fun _ _ h => h.symm⟩
    refine hdisjoint.forall hevent hevent' hne (hmem hrule happlies) ?_
    rw [situationId_eq_iff.mpr (Or.inr (Or.inl ⟨w, hversion, hid⟩))]
    exact hmem hrule' happlies'
  · rintro ⟨hversions, hcolons⟩
    refine ⟨fun event hevent => nodup_ids_at_iff.mpr (hversions event hevent), ?_⟩
    refine (nodup_firsts events).pairwise_of_forall_ne ?_
    intro event hevent event' hevent' hne id hid hid'
    obtain ⟨rule, hrule, rfl⟩ := List.mem_map.mp hid
    obtain ⟨rule', hrule', heq⟩ := List.mem_map.mp hid'
    obtain ⟨hrule, happlies⟩ := List.mem_filter.mp hrule
    obtain ⟨hrule', happlies'⟩ := List.mem_filter.mp hrule'
    rcases situationId_eq_iff.mp heq.symm with ⟨-, hid⟩ | ⟨w, hversion, hid⟩ | ⟨w, hversion, hid⟩
    · exact hne (eq_of_mem_firsts hevent hevent' hid)
    · exact hcolons rule hrule rule' hrule' event hevent event' hevent' happlies happlies' w
        hversion hid
    · exact hcolons rule' hrule' rule hrule event' hevent' event hevent happlies' happlies w
        hversion hid

/-! ## Rules of the first version -/

/-- Versions without a colon cannot go on after one. -/
theorem colons_of_notMem {rules : List ShippedRule} {events : List Core.Event}
    (hcolon : ∀ rule ∈ rules, ':' ∉ rule.ruleVersion.toList)
    (hversions : ∀ event ∈ events, ((rules.filter (·.appliesTo event)).map ruleVersion).Nodup) :
    Separated rules events := by
  refine ⟨hversions, ?_⟩
  intro rule hrule rule' _ event _ event' _ _ _ w hversion
  refine absurd ?_ (hcolon rule hrule)
  rw [hversion]
  simp

/-- Rules of the first version that apply to one event have one version. -/
theorem ruleVersion_eq_of_appliesTo {event : Core.Event} {rule rule' : ShippedRule}
    (hv1 : rule.IsV1) (hv1' : rule'.IsV1) (h : rule.appliesTo event = true)
    (h' : rule'.appliesTo event = true) : rule'.ruleVersion = rule.ruleVersion := by
  cases rule with
  | sourceChange r =>
      cases rule' with
      | sourceChange r' =>
          rw [ruleVersion, ruleVersion, show r = .v1 _ from hv1, show r' = .v1 _ from hv1']
          rfl
      | testFailed r' => cases (not_appliesTo_both h).symm.trans h'
  | testFailed r =>
      cases rule' with
      | sourceChange r' => cases (not_appliesTo_both h').symm.trans h
      | testFailed r' =>
          rw [ruleVersion, ruleVersion, show r = .v1 from hv1, show r' = .v1 from hv1']

/-- Rules of the first version are kept apart exactly when no event is claimed by
two of them. -/
theorem separated_iff_of_v1 {rules : List ShippedRule} (events : List Core.Event)
    (hv1 : ∀ rule ∈ rules, rule.IsV1) :
    Separated rules (firsts Core.Event.id events)
      ↔ ∀ event ∈ firsts Core.Event.id events, (rules.filter (·.appliesTo event)).length ≤ 1 := by
  have hone : ∀ event, ((rules.filter (·.appliesTo event)).map ruleVersion).Nodup
      ↔ (rules.filter (·.appliesTo event)).length ≤ 1 := by
    intro event
    cases happly : rules.filter (·.appliesTo event) with
    | nil => simp
    | cons rule rest =>
        have hmem : ∀ r ∈ rule :: rest, r.IsV1 ∧ r.appliesTo event = true := by
          intro r hr
          rw [← happly] at hr
          obtain ⟨hr, happlies⟩ := List.mem_filter.mp hr
          exact ⟨hv1 r hr, happlies⟩
        obtain ⟨hrule, happlies⟩ := hmem rule List.mem_cons_self
        have hsame : (rule :: rest).map ruleVersion
            = List.replicate (rule :: rest).length rule.ruleVersion := by
          refine List.eq_replicate_iff.mpr ⟨List.length_map .., ?_⟩
          intro version hversion
          obtain ⟨r, hr, rfl⟩ := List.mem_map.mp hversion
          exact ruleVersion_eq_of_appliesTo hrule (hmem r hr).1 happlies (hmem r hr).2
        rw [hsame, List.nodup_replicate]
  constructor
  · intro h event hevent
    exact (hone event).mp (h.versions event hevent)
  · intro h
    refine colons_of_notMem ?_ fun event hevent => (hone event).mpr (h event hevent)
    intro rule hrule
    cases rule with
    | sourceChange r =>
        rw [ruleVersion, show r = .v1 _ from hv1 _ hrule]
        show ':' ∉ "development.source-change-requires-test@v1".toList
        decide
    | testFailed r =>
        rw [ruleVersion, show r = .v1 from hv1 _ hrule]
        decide

/-- Two workspaces, each with its rule, and a source change in both: one id for the
two situations. -/
theorem shared_situationId :
    ∃ (rules : List ShippedRule) (events : List Core.Event),
      (∀ rule ∈ rules, rule.IsV1) ∧ rules.Nodup
        ∧ ¬ ((emittedBy rules events).map (·.id)).Nodup := by
  refine ⟨[ .sourceChange (.v1 ⟨"ws:one"⟩), .sourceChange (.v1 ⟨"ws:two"⟩) ],
    [ { Pilot.sourceModified ⟨"event:one"⟩ with
        subjects := [.workspace ⟨"ws:one"⟩, .workspace ⟨"ws:two"⟩] } ], ?_, by decide, ?_⟩
  · simp [ShippedRule.IsV1, SourceChangeRequiresTestRule.v1]
  · rw [ids_emittedBy]
    decide

end Alfred

end Blob
