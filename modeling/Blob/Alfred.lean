import Mathlib.Data.Finset.Card
import Blob.Events
import Blob.FirstOccurrence

/-!
# Alfred

The event processor: it remembers the ids of the events it has seen, and
what is new it shows to its correlation rules. Delivery may repeat and
reorder events. `outcome_at` says what one delivery answers,
`emitted_eq` what a whole stream yields: the situations of the first
occurrences.
-/

namespace Blob

structure IngestOutcome where
  duplicate : Bool
  situations : List Situation
deriving Repr, DecidableEq

/-- What a `CorrelationRule` makes of an event. -/
abbrev CorrelationRule : Type := Core.Event → Option Situation

structure Alfred where
  seenEventIds : Finset EventId
  rules : List CorrelationRule

namespace Alfred

def new (rules : List CorrelationRule) : Alfred where
  seenEventIds := ∅
  rules := rules

/-- The outcome of the call and the processor after it. -/
def ingest (self : Alfred) (event : Core.Event) : IngestOutcome × Alfred :=
  if event.id ∈ self.seenEventIds then ({ duplicate := true, situations := [] }, self)
  else
    ( { duplicate := false
        situations := self.rules.filterMap fun rule => rule event }
    , { self with seenEventIds := insert event.id self.seenEventIds } )

def seenEventCount (self : Alfred) : Nat := self.seenEventIds.card

/-- The outcomes of a stream of events and the processor after it. -/
def ingestAll (self : Alfred) : List Core.Event → List IngestOutcome × Alfred
  | [] => ([], self)
  | event :: rest =>
      let (outcome, next) := self.ingest event
      let (outcomes, final) := next.ingestAll rest
      (outcome :: outcomes, final)

/-- The situations of a stream, in the order they were derived. -/
def situations (outcomes : List IngestOutcome) : List Situation :=
  outcomes.flatMap (·.situations)

/-- The situations of a stream that was ingested from the start. -/
def emitted (rules : List CorrelationRule) (events : List Core.Event) : List Situation :=
  situations ((new rules).ingestAll events).1

variable {self : Alfred} {event : Core.Event}

theorem ingest_seen (h : event.id ∈ self.seenEventIds) :
    self.ingest event = ({ duplicate := true, situations := [] }, self) :=
  if_pos h

theorem ingest_new (h : event.id ∉ self.seenEventIds) :
    self.ingest event = ( { duplicate := false
                            situations := self.rules.filterMap fun rule => rule event }
                        , { self with seenEventIds := insert event.id self.seenEventIds } ) :=
  if_neg h

@[simp] theorem ingest_rules : (self.ingest event).2.rules = self.rules := by
  unfold ingest
  split <;> rfl

@[simp] theorem ingest_seenEventIds :
    (self.ingest event).2.seenEventIds = insert event.id self.seenEventIds := by
  unfold ingest
  split
  · rw [Finset.insert_eq_of_mem]
    assumption
  · rfl

/-! ## Streams -/

@[simp] theorem ingestAll_nil : self.ingestAll [] = ([], self) := rfl

@[simp] theorem ingestAll_cons (rest : List Core.Event) :
    self.ingestAll (event :: rest)
      = ( (self.ingest event).1 :: ((self.ingest event).2.ingestAll rest).1
        , ((self.ingest event).2.ingestAll rest).2 ) := rfl

theorem ingestAll_append (events rest : List Core.Event) :
    (self.ingestAll (events ++ rest)).1
      = (self.ingestAll events).1 ++ ((self.ingestAll events).2.ingestAll rest).1 := by
  induction events generalizing self with
  | nil => rfl
  | cons event events ih => simp [ih]

@[simp] theorem length_ingestAll (events : List Core.Event) :
    (self.ingestAll events).1.length = events.length := by
  induction events generalizing self with
  | nil => rfl
  | cons event events ih => simp [ih]

@[simp] theorem ingestAll_rules (events : List Core.Event) :
    (self.ingestAll events).2.rules = self.rules := by
  induction events generalizing self with
  | nil => rfl
  | cons event events ih => simp [ih]

/-- The processor remembers the ids of the stream, and nothing else is new to it. -/
theorem mem_ingestAll_seenEventIds {id : EventId} (events : List Core.Event) :
    id ∈ (self.ingestAll events).2.seenEventIds
      ↔ id ∈ self.seenEventIds ∨ id ∈ events.map (·.id) := by
  induction events generalizing self with
  | nil => simp
  | cons event events ih =>
      simp only [ingestAll_cons, ih, ingest_seenEventIds, Finset.mem_insert, List.map_cons,
        List.mem_cons]
      tauto

/-- What the delivery of an event is answered, after any others. -/
theorem outcome_at (self : Alfred) (before : List Core.Event) (event : Core.Event)
    (after : List Core.Event) :
    (self.ingestAll (before ++ event :: after)).1[before.length]?
      = some ((self.ingestAll before).2.ingest event).1 := by
  rw [ingestAll_append, List.getElem?_append_right (by simp)]
  simp

/-- A stream yields the situations of the first occurrences that are new to the
processor. -/
theorem situations_ingestAll (self : Alfred) (events : List Core.Event) :
    situations (self.ingestAll events).1
      = ((firsts Core.Event.id events).filter fun event =>
          event.id ∉ self.seenEventIds).flatMap fun event =>
            self.rules.filterMap fun rule => rule event := by
  induction events generalizing self with
  | nil => rfl
  | cons event events ih =>
      rw [firsts_filter_notMem]
      by_cases hseen : event.id ∈ self.seenEventIds
      · rw [if_pos hseen, ingestAll_cons, ingest_seen hseen]
        exact ih self
      · rw [if_neg hseen, ingestAll_cons, ingest_new hseen, List.flatMap_cons]
        exact congrArg _ (ih _)

theorem emitted_eq (rules : List CorrelationRule) (events : List Core.Event) :
    emitted rules events = (firsts Core.Event.id events).flatMap fun event =>
      rules.filterMap fun rule => rule event := by
  rw [emitted, situations_ingestAll]
  simp [new]

theorem seenEventCount_ingestAll (rules : List CorrelationRule) (events : List Core.Event) :
    ((new rules).ingestAll events).2.seenEventCount = (events.map (·.id)).toFinset.card := by
  rw [seenEventCount]
  congr 1
  ext id
  rw [mem_ingestAll_seenEventIds, List.mem_toFinset]
  simp [new]

/-- Event processing is idempotent and does not depend on the order of delivery. A
stream yields what its first occurrences yield, which is what the rules make of
each; a first occurrence is reported as new with these situations, a repeated
event as a duplicate without situations, and the count is that of the distinct
ids. Two streams with the same events yield the same situations up to order, if
an id names one event. -/
theorem delivery_insensitive (rules : List CorrelationRule) :
    (∀ events, emitted rules events = emitted rules (firsts Core.Event.id events))
      ∧ (∀ events, emitted rules events = (firsts Core.Event.id events).flatMap fun event =>
        rules.filterMap fun rule => rule event)
      ∧ (∀ before event after, event.id ∉ before.map (·.id) →
        ((new rules).ingestAll (before ++ event :: after)).1[before.length]?
          = some { duplicate := false, situations := rules.filterMap fun rule => rule event })
      ∧ (∀ before event after, event.id ∈ before.map (·.id) →
        ((new rules).ingestAll (before ++ event :: after)).1[before.length]?
          = some { duplicate := true, situations := [] })
      ∧ (∀ events, ((new rules).ingestAll events).2.seenEventCount
        = (events.map (·.id)).toFinset.card)
      ∧ ∀ events events', (∀ event, event ∈ events ↔ event ∈ events') →
        (∀ a ∈ events, ∀ b ∈ events, a.id = b.id → a = b) →
        (emitted rules events).Perm (emitted rules events') := by
  refine ⟨?_, emitted_eq rules, ?_, ?_, seenEventCount_ingestAll rules, ?_⟩
  · intro events
    rw [emitted_eq, emitted_eq, firsts_firsts]
  · intro before event after hfirst
    have hunseen : event.id ∉ ((new rules).ingestAll before).2.seenEventIds := by
      rw [mem_ingestAll_seenEventIds]
      rintro (hstart | hbefore)
      · exact Finset.notMem_empty _ hstart
      · exact hfirst hbefore
    rw [outcome_at, ingest_new hunseen, ingestAll_rules]
    rfl
  · intro before event after hrepeated
    rw [outcome_at, ingest_seen]
    exact (mem_ingestAll_seenEventIds before).mpr (Or.inr hrepeated)
  · intro events events' hsame hinj
    rw [emitted_eq, emitted_eq]
    exact (firsts_perm hsame hinj).flatMap_right _

end Alfred

/-! ## The shipped rules -/

def situationId (ruleVersion : String) (event : EventId) : SituationId :=
  ⟨"situation:" ++ ruleVersion ++ ":" ++ event.value⟩

/-- The situation a rule derives from one event. -/
def ruleSituation (ruleVersion kind summary : String) (derivedFacts : List (String × String))
    (event : Core.Event) : Situation where
  id := situationId ruleVersion event.id
  kind := kind
  summary := summary
  evidenceEventIds := [event.id]
  derivedFacts := derivedFacts
  subjects := event.subjects
  window := { startUnixMs := event.observedAtUnixMs, endUnixMs := event.observedAtUnixMs }
  confidencePpm := none
  deterministicRuleProvenance := [ruleVersion]
  semanticProvenance := []
  expiresAtUnixMs := none

structure SourceChangeRequiresTestRule where
  activeWorkspace : WorkspaceId
  ruleVersion : String
deriving Repr, DecidableEq

namespace SourceChangeRequiresTestRule

def v1 (activeWorkspace : WorkspaceId) : SourceChangeRequiresTestRule where
  activeWorkspace := activeWorkspace
  ruleVersion := "development.source-change-requires-test@v1"

/-- The event names the active workspace. -/
def belongsToActiveWorkspace (self : SourceChangeRequiresTestRule) (event : Core.Event) : Bool :=
  event.subjects.any fun
    | .workspace id => id == self.activeWorkspace
    | _ => false

def correlate (self : SourceChangeRequiresTestRule) : CorrelationRule := fun event =>
  if event.kind ≠ "source.modified" then none
  else if self.belongsToActiveWorkspace event = false then none
  else some (ruleSituation self.ruleVersion "development.source-change-requires-test"
    "Relevant source changed; the active Development Workspace should reconsider tests."
    [("test_required", "true")] event)

end SourceChangeRequiresTestRule

structure TestFailedRule where
  ruleVersion : String
deriving Repr, DecidableEq

namespace TestFailedRule

def v1 : TestFailedRule where
  ruleVersion := "development.test-failed@v1"

def hasTaskSubject (event : Core.Event) : Bool :=
  event.subjects.any fun
    | .task _ => true
    | _ => false

def isTestRun (event : Core.Event) : Bool :=
  event.attributes.any fun (key, value) => key == "capability" && value == "test.run"

/-- The attributes of a failure that the situation repeats. -/
def derivedFacts (event : Core.Event) : List (String × String) :=
  ("test_failed", "true") :: event.attributes.filter fun (key, _) =>
    key == "exit_code" || key == "implementation" || key == "node"

def correlate (self : TestFailedRule) : CorrelationRule := fun event =>
  if event.kind ≠ "capability.failed" then none
  else if hasTaskSubject event = false ∨ isTestRun event = false then none
  else some (ruleSituation self.ruleVersion "development.test-failed"
    "A test.run capability failed; the Development Workspace has diagnostic evidence available."
    (derivedFacts event) event)

end TestFailedRule

/-! A stream of two source changes, delivered once and delivered again in another
order. -/

namespace Pilot

def workspace : WorkspaceId := ⟨"ws:development"⟩

def sourceModified (id : EventId) : Core.Event where
  id := id
  schemaVersion := 1
  source := .fileSystem
  sourceNode := none
  kind := "source.modified"
  subjects := [.workspace workspace]
  observedAtUnixMs := 1000
  receivedAtUnixMs := 1001
  sourceSequence := some 42
  correlationKeys := ["repo:demo"]
  attributes := [("path", "src/lib.rs")]
  trust := .trustedLocalService
  provenance := ["fixture:file-watcher"]
  causalParentIds := []

theorem redelivered :
    let rules := [(SourceChangeRequiresTestRule.v1 workspace).correlate]
    let one := sourceModified ⟨"event:one"⟩
    let two := sourceModified ⟨"event:two"⟩
    (Alfred.emitted rules [one, two]).Perm (Alfred.emitted rules [two, one, two])
      ∧ (((Alfred.new rules).ingestAll [two, one, two]).1[1]?.map fun outcome =>
        (outcome.duplicate, outcome.situations.map (·.id.value)))
          = some (false, ["situation:development.source-change-requires-test@v1:event:one"])
      ∧ ((Alfred.new rules).ingestAll [two, one, two]).1[2]?
        = some { duplicate := true, situations := [] } := by
  intro rules one two
  obtain ⟨-, -, hfirst, hrepeated, -, hsame⟩ := Alfred.delivery_insensitive rules
  refine ⟨hsame [one, two] [two, one, two] ?_ ?_, ?_, hrepeated [two, one] two [] (by decide)⟩
  · intro event
    simp only [List.mem_cons, List.not_mem_nil]
    tauto
  · decide
  · have hone := hfirst [two] one [two] (by decide)
    exact (congrArg (Option.map _) hone).trans (by decide)

end Pilot

end Blob
