import Mathlib.Data.Set.Finite.Basic
import Blob.Alfred
import Blob.CausalLog
import Blob.Checks
import Blob.Execution
import Blob.Text

/-!
# The system technician

`diagnoseFailedTest` turns a situation, a failed task and the task's binding
plan into a report for a human. The three come from different producers.
Plan and task are linked by the requirement graph, which is checked; the
situation and the task would be linked by the situation's subjects, which
are not looked at: `diagnosed_task_iff` says when the report, which is told
to be about the failure of this task, is.
-/

namespace Blob

open Checks

/-! ## Proposals -/

inductive TechnicianAutonomy where
  | observe
  | suggest
  | prepare
  | applyWithinPolicy
  | forbidden
deriving Repr, DecidableEq

structure ExternalEvidence where
  sourceKind : String
  title : String
  canonicalReference : String
  officialOrPrimary : Bool
deriving Repr, DecidableEq

structure ImprovementProposal where
  id : ImprovementProposalId
  title : String
  triggeringSituations : List SituationId
  localEvidence : List String
  externalEvidence : List ExternalEvidence
  applicabilityReasoning : String
  proposedChanges : List String
  expectedBenefits : List String
  risks : List String
  testPlan : List String
  rollbackReference : Option String
  requiredAutonomy : TechnicianAutonomy
  expiresAtUnixMs : Option Nat
deriving Repr, DecidableEq

structure DiagnosticReport where
  title : String
  summary : String
  localEvidence : List String
  bindingExplanation : List String
  uncertainty : List String
  suggestedNextSteps : List String
  proposal : ImprovementProposal
deriving Repr, DecidableEq

inductive TechnicianError where
  | unsupportedSituation (kind : String)
  | unsupportedCausalKind (kind : CausalKind)
  | taskIsNotFailed
  | bindingDoesNotBelongToTaskRequirement
deriving Repr, DecidableEq

namespace ReadOnlySystemTechnician

/-! ## The report -/

/-- The evidence events of a situation, and then its derived facts. -/
def localEvidence (situation : Situation) : List String :=
  (situation.evidenceEventIds.map fun event => "evidence event: " ++ event.value)
    ++ situation.derivedFacts.map fun (key, value) => key ++ "=" ++ value

def bindingExplanation (plan : BindingPlan) : List String :=
  if plan.resolvedCapabilities.isEmpty then
    ["No resolved capability is present in the BindingPlan."]
  else
    (plan.resolvedCapabilities.map fun resolved =>
      resolved.capability.value ++ " used implementation " ++ resolved.implementation.value
        ++ " on node " ++ resolved.node.value)
      ++ plan.trace.verifierNotes

/-- The proposal of a diagnosis. -/
def diagnosisProposal (situation : Situation) (task : Task) : ImprovementProposal where
  id := ⟨"proposal:diagnose:" ++ task.id.value⟩
  title := "Diagnose failed tests for " ++ task.title
  triggeringSituations := [situation.id]
  localEvidence := localEvidence situation
  externalEvidence := []
  applicabilityReasoning :=
    "The deterministic Situation identifies a failed test.run for this failed Task, and the supplied BindingPlan belongs to one of the Task RequirementGraphs."
  proposedChanges :=
    [ "Inspect the structured failure output and identify the smallest failing test scope."
    , "After a source-level correction, rerun test.run under a newly verified BindingLease." ]
  expectedBenefits :=
    ["Reduce diagnostic ambiguity before changing toolchain, runtime or system state."]
  risks :=
    ["The current evidence does not establish that the failure is caused by the selected implementation, node, toolchain or operating system."]
  testPlan :=
    ["Reproduce the failing test deterministically before proposing system-level changes."]
  rollbackReference := none
  requiredAutonomy := .suggest
  expiresAtUnixMs := none

/-- The report of a diagnosis. -/
def diagnosisReport (situation : Situation) (task : Task) (plan : BindingPlan) :
    DiagnosticReport :=
  let proposal := diagnosisProposal situation task
  { title := proposal.title
    summary :=
      "Tests failed. The evidence is sufficient to recommend focused diagnosis, but not sufficient to justify a system mutation."
    localEvidence := localEvidence situation
    bindingExplanation := bindingExplanation plan
    uncertainty := proposal.risks
    suggestedNextSteps := proposal.proposedChanges
    proposal }

def diagnoseFailedTest (situation : Situation) (task : Task) (plan : BindingPlan) :
    Except TechnicianError DiagnosticReport := do
  reject (situation.kind ≠ "development.test-failed") (.unsupportedSituation situation.kind)
  reject (task.state ≠ .failed) .taskIsNotFailed
  reject (¬ task.requirementGraphs.any (· == plan.graph)) .bindingDoesNotBelongToTaskRequirement
  return diagnosisReport situation task plan

/-! ## What is diagnosed -/

/-- What is checked before a report is made. -/
structure Diagnosable (situation : Situation) (task : Task) (plan : BindingPlan) : Prop where
  kind : situation.kind = "development.test-failed"
  failed : task.state = .failed
  graph : plan.graph ∈ task.requirementGraphs

/-- The report is about a failure of the task: the situation names it. -/
def Concerns (subjects : List SubjectRef) (task : Task) : Prop :=
  SubjectRef.task task.id ∈ subjects

variable {situation : Situation} {task : Task} {plan : BindingPlan}

theorem diagnose_eq_ok {report : DiagnosticReport} :
    diagnoseFailedTest situation task plan = .ok report
      ↔ Diagnosable situation task plan ∧ report = diagnosisReport situation task plan := by
  simp only [diagnoseFailedTest, bind_eq_ok, reject_eq_ok, exists_const, pure_eq_ok, ne_eq,
    not_not, List.any_eq_true, beq_iff_eq, exists_eq_right]
  constructor
  · rintro ⟨hkind, hfailed, hgraph, hreport⟩
    exact ⟨⟨hkind, hfailed, hgraph⟩, hreport.symm⟩
  · rintro ⟨⟨hkind, hfailed, hgraph⟩, hreport⟩
    exact ⟨hkind, hfailed, hgraph, hreport.symm⟩

/-- Diagnoses of one triple concern its task when the triple is refused, or the missing
check would have passed. -/
theorem concerns_iff {subjects : List SubjectRef} :
    (∀ report, diagnoseFailedTest situation task plan = .ok report → Concerns subjects task)
      ↔ situation.kind ≠ "development.test-failed" ∨ task.state ≠ .failed
        ∨ plan.graph ∉ task.requirementGraphs ∨ SubjectRef.task task.id ∈ subjects := by
  constructor
  · intro h
    by_contra hnone
    simp only [not_or, not_not] at hnone
    obtain ⟨hkind, hfailed, hgraph, hsubject⟩ := hnone
    exact hsubject (h _ (diagnose_eq_ok.mpr ⟨⟨hkind, hfailed, hgraph⟩, rfl⟩))
  · intro h report hreport
    obtain ⟨⟨hkind, hfailed, hgraph⟩, -⟩ := diagnose_eq_ok.mp hreport
    rcases h with h | h | h | h
    · exact absurd hkind h
    · exact absurd hfailed h
    · exact absurd hgraph h
    · exact h

/-- A finite list of subjects leaves out some task. -/
theorem exists_unnamed (subjects : List SubjectRef) :
    ∃ id : TaskId, SubjectRef.task id ∉ subjects := by
  have hinjective : Function.Injective fun n : Nat => SubjectRef.task ⟨toString n⟩ := by
    intro m n h
    exact Text.natText_injective (TaskId.mk.inj (SubjectRef.task.inj h))
  obtain ⟨_, ⟨n, rfl⟩, hn⟩ :=
    (Set.infinite_range_of_injective hinjective).exists_notMem_finset subjects.toFinset
  exact ⟨_, fun hmem => hn (List.mem_toFinset.mpr hmem)⟩

/-- A failed task of some name, for a graph. -/
def failedTask (id : TaskId) (graph : RequirementGraphId) : Task where
  id := id
  title := "Run project tests"
  state := .failed
  inputObjects := []
  requirementGraphs := [graph]
  outputObjects := []
  requestedEffects := ⟨[]⟩

/-- A situation of the kind that is diagnosed can be diagnosed for a task that it does
not name. -/
theorem exists_misdiagnosed (hkind : situation.kind = "development.test-failed")
    (plan : BindingPlan) : ∃ task report,
      diagnoseFailedTest situation task plan = .ok report
        ∧ ¬ Concerns situation.subjects task := by
  obtain ⟨id, hid⟩ := exists_unnamed situation.subjects
  refine ⟨failedTask id plan.graph, _, diagnose_eq_ok.mpr ⟨⟨hkind, rfl, ?_⟩, rfl⟩, hid⟩
  exact List.mem_singleton_self _

/-- A failure that the rule has correlated. -/
theorem correlated {rule : TestFailedRule} {event : Core.Event}
    (h : rule.correlate event = some situation) :
    situation.kind = "development.test-failed" ∧ situation.subjects = event.subjects := by
  unfold TestFailedRule.correlate at h
  split at h
  · cases h
  · split at h
    · cases h
    · obtain rfl := Option.some.inj h
      exact ⟨rfl, rfl⟩

/-- Which diagnoses concern their task: those of situations that name it. No situation of
the diagnosed kind names every task it can be diagnosed for; the subjects of a
correlated failure are those of its event. -/
theorem diagnosed_task_iff (situation : Situation) (plan : BindingPlan) :
    (∀ task, (∀ report, diagnoseFailedTest situation task plan = .ok report →
        Concerns situation.subjects task)
      ↔ situation.kind ≠ "development.test-failed" ∨ task.state ≠ .failed
        ∨ plan.graph ∉ task.requirementGraphs ∨ SubjectRef.task task.id ∈ situation.subjects)
    ∧ ((∀ task report, diagnoseFailedTest situation task plan = .ok report →
        Concerns situation.subjects task)
      ↔ situation.kind ≠ "development.test-failed")
    ∧ ∀ (rule : TestFailedRule) (event : Core.Event), rule.correlate event = some situation →
      ∀ task, (∀ report, diagnoseFailedTest situation task plan = .ok report →
          Concerns event.subjects task)
        ↔ task.state ≠ .failed ∨ plan.graph ∉ task.requirementGraphs
          ∨ SubjectRef.task task.id ∈ event.subjects := by
  refine ⟨fun task => concerns_iff, ⟨?_, ?_⟩, ?_⟩
  · intro h hkind
    obtain ⟨task, report, hreport, hunnamed⟩ := exists_misdiagnosed hkind plan
    exact hunnamed (h task report hreport)
  · intro hkind task
    exact concerns_iff.mpr (Or.inl hkind)
  · intro rule event hcorrelated task
    obtain ⟨hkind, -⟩ := correlated hcorrelated
    rw [concerns_iff]
    simp only [hkind, ne_eq, not_true_eq_false, false_or]

end ReadOnlySystemTechnician

/-! A failure of one task, and a diagnosis of another. -/

namespace Pilot

open ReadOnlySystemTechnician

def testFailed : Core.Event :=
  { sourceModified ⟨"event:test-failed"⟩ with
    kind := "capability.failed"
    subjects := [.task ⟨"task:failed-test"⟩]
    attributes := [("capability", "test.run"), ("exit_code", "7")] }

def bindingPlan : BindingPlan where
  id := ⟨"plan:failed-test"⟩
  graph := ⟨"rg:failed-test"⟩
  resolvedCapabilities := []
  grants := []
  dataRoutes := []
  expectedEffects := ⟨[]⟩
  trace := ⟨[], [], none, ["binding independently verified"], [], none⟩

def failedSituation : Situation :=
  ruleSituation "development.test-failed@v1" "development.test-failed"
    "A test.run capability failed; the Development Workspace has diagnostic evidence available."
    [("test_failed", "true"), ("exit_code", "7")] testFailed

theorem correlate_testFailed : TestFailedRule.v1.correlate testFailed = some failedSituation :=
  rfl

/-- The task that failed is diagnosed, and named. -/
theorem failed_task_diagnosed :
    (∃ report, diagnoseFailedTest failedSituation
        (failedTask ⟨"task:failed-test"⟩ ⟨"rg:failed-test"⟩) bindingPlan = .ok report)
      ∧ ∀ report, diagnoseFailedTest failedSituation
          (failedTask ⟨"task:failed-test"⟩ ⟨"rg:failed-test"⟩) bindingPlan = .ok report →
        Concerns testFailed.subjects (failedTask ⟨"task:failed-test"⟩ ⟨"rg:failed-test"⟩) := by
  obtain ⟨-, -, hcorrelated⟩ := diagnosed_task_iff failedSituation bindingPlan
  refine ⟨⟨_, rfl⟩, (hcorrelated _ testFailed correlate_testFailed _).mpr ?_⟩
  exact Or.inr (Or.inr (List.mem_singleton_self _))

/-- So is a task that the failure does not name. -/
theorem other_task_diagnosed :
    ∃ report, TestFailedRule.v1.correlate testFailed = some failedSituation
      ∧ diagnoseFailedTest failedSituation (failedTask ⟨"task:other"⟩ ⟨"rg:failed-test"⟩)
        bindingPlan = .ok report
      ∧ ¬ Concerns failedSituation.subjects (failedTask ⟨"task:other"⟩ ⟨"rg:failed-test"⟩)
      ∧ ¬ Concerns testFailed.subjects (failedTask ⟨"task:other"⟩ ⟨"rg:failed-test"⟩) := by
  have hunnamed : SubjectRef.task ⟨"task:other"⟩ ∉ testFailed.subjects := by decide
  exact ⟨_, correlate_testFailed, rfl, hunnamed, hunnamed⟩

end Pilot

end Blob
