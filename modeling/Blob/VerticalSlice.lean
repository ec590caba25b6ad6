import Blob.Alfred
import Blob.CausalLog
import Blob.Executor
import Blob.Ranking

/-!
# The vertical slice

One event from its arrival to the verified run of a test: Alfred derives a
situation, a task is made for it with a requirement graph of one role, the
resolver binds the role, the bound capsule is run, and every stage appends one
record to a causal log of its own. `run_all` is what a run returns, record by
record; that its records are a chain is read off it.
-/

namespace Blob

inductive MvpError where
  | noSituation
  | resolve (error : ResolveError)
  | missingCapsule (implementation : ImplementationId)
  | execute (error : ExecutionError)
  | history (error : HistoryError)
deriving Repr, DecidableEq

structure VerticalSliceOutcome where
  situation : Situation
  task : Task
  graph : RequirementGraph
  plan : BindingPlan
  lease : BindingLease
  execution : ExecutionResult
  causalRecords : List CausalRecord

namespace VerticalSlice

/-! ## The records -/

def eventCause (event : EventId) : CausalRecordId := ⟨"cause:event:" ++ event.value⟩

def situationCause (situation : SituationId) : CausalRecordId :=
  ⟨"cause:situation:" ++ situation.value⟩

def taskCause (task : TaskId) : CausalRecordId := ⟨"cause:task:" ++ task.value⟩

def bindingCause (plan : BindingPlanId) : CausalRecordId := ⟨"cause:binding:" ++ plan.value⟩

def executionCause (task : TaskId) : CausalRecordId := ⟨"cause:execution:" ++ task.value⟩

def eventRecord (event : Core.Event) : CausalRecord where
  id := eventCause event.id
  kind := .eventObserved
  occurredAtUnixMs := event.observedAtUnixMs
  parents := []
  actor := "alfred"
  summary := "Observed " ++ event.kind
  why := "normalized event entered Alfred"
  event := some event.id
  situation := none
  task := none
  requirementGraph := none
  bindingPlan := none
  bindingLease := none
  improvementProposal := none
  evidence := event.provenance
  expectedEffects := []
  actualEffects := []
  authorization := none
  rollbackReference := none

def situationRecord (event : Core.Event) (situation : Situation) : CausalRecord where
  id := situationCause situation.id
  kind := .situationDerived
  occurredAtUnixMs := situation.window.endUnixMs
  parents := [eventCause event.id]
  actor := "alfred"
  summary := situation.summary
  why := "deterministic correlation rule matched source change"
  event := none
  situation := some situation.id
  task := none
  requirementGraph := none
  bindingPlan := none
  bindingLease := none
  improvementProposal := none
  evidence := situation.evidenceEventIds.map (·.value)
  expectedEffects := []
  actualEffects := []
  authorization := none
  rollbackReference := none

def taskRecord (event : Core.Event) (situation : Situation) (task : Task)
    (graph : RequirementGraph) : CausalRecord where
  id := taskCause task.id
  kind := .taskTransition
  occurredAtUnixMs := event.receivedAtUnixMs
  parents := [situationCause situation.id]
  actor := "development-workspace"
  summary := "Created test Task and RequirementGraph"
  why := "source-change Situation requires tests to be reconsidered"
  event := none
  situation := some situation.id
  task := some task.id
  requirementGraph := some graph.id
  bindingPlan := none
  bindingLease := none
  improvementProposal := none
  evidence := []
  expectedEffects := ["execute test.run"]
  actualEffects := []
  authorization := some "workspace deterministic test policy"
  rollbackReference := none

def bindingRecord (event : Core.Event) (situation : Situation) (task : Task)
    (graph : RequirementGraph) (plan : BindingPlan) (lease : BindingLease) : CausalRecord where
  id := bindingCause plan.id
  kind := .bindingResolved
  occurredAtUnixMs := event.receivedAtUnixMs
  parents := [taskCause task.id]
  actor := "blob-resolver"
  summary := "Resolved and independently verified test.run binding"
  why := plan.trace.tieBreakNote.getD "deterministic candidate resolution"
  event := none
  situation := some situation.id
  task := some task.id
  requirementGraph := some graph.id
  bindingPlan := some plan.id
  bindingLease := some lease.id
  improvementProposal := none
  evidence := plan.trace.candidateNotes
  expectedEffects := ["execute selected test implementation"]
  actualEffects := []
  authorization := some "BindingVerifier accepted plan"
  rollbackReference := none

/-- `{:?}` of an exit code. -/
def exitCodeDebug : Option Int → String
  | some code => "Some(" ++ toString code ++ ")"
  | none => "None"

def executionRecord (event : Core.Event) (situation : Situation) (task : Task)
    (graph : RequirementGraph) (plan : BindingPlan) (lease : BindingLease)
    (execution : ExecutionResult) : CausalRecord where
  id := executionCause task.id
  kind := .executionCompleted
  occurredAtUnixMs := event.receivedAtUnixMs
  parents := [bindingCause plan.id]
  actor := "blob-executor"
  summary := "test.run finished with " ++ execution.status.debug
  why := "verified BindingLease authorized the selected implementation"
  event := none
  situation := some situation.id
  task := some task.id
  requirementGraph := some graph.id
  bindingPlan := some plan.id
  bindingLease := some lease.id
  improvementProposal := none
  evidence := ["exit_code=" ++ exitCodeDebug execution.exitCode]
  expectedEffects := ["run tests"]
  actualEffects := ["task_state=" ++ task.state.debug]
  authorization := some "scoped BindingLease"
  rollbackReference := none

/-! ## The run -/

/-- The test task of an event, before it has a graph. -/
def newTask (event : Core.Event) : Task where
  id := ⟨"task:test:" ++ event.id.value⟩
  title := "Run tests after relevant source change"
  state := .ready
  inputObjects := []
  requirementGraphs := []
  outputObjects := []
  requestedEffects :=
    { effects := [{ kind := .execute, targetType := none, reversible := true }] }

def testGraph (task : Task) : RequirementGraph where
  id := ⟨"rg:" ++ task.id.value⟩
  roles := [{ id := ⟨"role:test-runner:" ++ task.id.value⟩, kind := .capability ⟨"test.run"⟩ }]
  relations := []
  constraints := []
  requestedEffects := task.requestedEffects

/-- `history.append(record)?`. -/
def append (history : InMemoryCausalLog) (record : CausalRecord) :
    Prog ProcessSig MvpError InMemoryCausalLog :=
  match history.append record with
  | (.ok _, next) => .pure next
  | (.error e, _) => .throw (.history e)

/-- `option.ok_or(e)?`. -/
def okOr {α : Type} (value : Option α) (e : MvpError) : Prog ProcessSig MvpError α :=
  match value with
  | some a => .pure a
  | none => .throw e

/-- `plan.resolved_capabilities.first().expect(..)`. -/
def selected (plan : BindingPlan) : Prog ProcessSig MvpError ResolvedCapabilityRole :=
  match plan.resolvedCapabilities with
  | first :: _ => .pure first
  | [] => .panic "MVP resolver always returns one resolved capability"

def finalState : ExecutionStatus → TaskState
  | .succeeded => .completed
  | .failed => .failed

/-- The part of a run after the resolver: the binding is recorded and its capsule
is run. -/
def runBinding (event : Core.Event) (situation : Situation) (task : Task)
    (graph : RequirementGraph) (plan : BindingPlan) (lease : BindingLease)
    (processCapsules : ImplementationId → Option LocalProcessCapsule)
    (workingDirectory : PathBuf) (history : InMemoryCausalLog) :
    Prog ProcessSig MvpError VerticalSliceOutcome := do
  let history ← append history (bindingRecord event situation task graph plan lease)
  let role ← selected plan
  let capsule ← okOr (processCapsules role.implementation) (.missingCapsule role.implementation)
  -- the task is running while its process is
  let execution ← (LocalProcessExecutor.execute
    { task := task.id, lease := lease.id, workingDirectory, capsule }).mapErr .execute
  let task := { task with state := finalState execution.status }
  let history ← append history
    (executionRecord event situation task graph plan lease execution)
  return {
    situation
    task
    graph
    plan
    lease
    execution
    causalRecords := history.records }

/-- The part of a run after Alfred: a task with a graph of one role. -/
def runTask (event : Core.Event) (situation : Situation) (registry : Registry)
    (processCapsules : ImplementationId → Option LocalProcessCapsule)
    (workingDirectory : PathBuf) (history : InMemoryCausalLog) :
    Prog ProcessSig MvpError VerticalSliceOutcome := do
  let graph := testGraph (newTask event)
  let task := { newTask event with requirementGraphs := [graph.id] }
  let history ← append history (taskRecord event situation task graph)
  let bound ← (Prog.ofExcept (Resolver.resolveSingleCapability registry graph)).mapErr .resolve
  runBinding event situation task graph bound.1 bound.2 processCapsules workingDirectory history

def runSourceChangeTest (event : Core.Event) (activeWorkspace : WorkspaceId)
    (registry : Registry) (processCapsules : ImplementationId → Option LocalProcessCapsule)
    (workingDirectory : PathBuf) : Prog ProcessSig MvpError VerticalSliceOutcome := do
  let history ← append {} (eventRecord event)
  let situation ← okOr ((Alfred.new
    [(SourceChangeRequiresTestRule.v1 activeWorkspace).correlate]).ingest
      event).1.situations.head? .noSituation
  let history ← append history (situationRecord event situation)
  runTask event situation registry processCapsules workingDirectory history

/-! ## What a run does -/

/-- The two characters of a cause that tell its kind. -/
def causeKind (id : CausalRecordId) : List Char := (id.value.toList.drop 6).take 2

theorem causeKind_mk (label : String) (text : String) (hlabel : 8 ≤ label.length) :
    causeKind ⟨label ++ text⟩ = (label.toList.drop 6).take 2 := by
  rw [← String.length_toList] at hlabel
  rw [causeKind, String.toList_append, List.drop_append_of_le_length (by omega),
    List.take_append_of_le_length (by rw [List.length_drop]; omega)]

/-- The causes of a run are distinct, whatever the ids they are made from. -/
theorem causes_nodup (event : EventId) (situation : SituationId) (task : TaskId)
    (plan : BindingPlanId) :
    [ eventCause event, situationCause situation, taskCause task, bindingCause plan
    , executionCause task ].Nodup := by
  have hevent : causeKind (eventCause event) = ['e', 'v'] :=
    causeKind_mk "cause:event:" event.value (by decide)
  have hsituation : causeKind (situationCause situation) = ['s', 'i'] :=
    causeKind_mk "cause:situation:" situation.value (by decide)
  have htask : causeKind (taskCause task) = ['t', 'a'] :=
    causeKind_mk "cause:task:" task.value (by decide)
  have hbinding : causeKind (bindingCause plan) = ['b', 'i'] :=
    causeKind_mk "cause:binding:" plan.value (by decide)
  have hexecution : causeKind (executionCause task) = ['e', 'x'] :=
    causeKind_mk "cause:execution:" task.value (by decide)
  refine .of_map causeKind ?_
  rw [List.map_cons, List.map_cons, List.map_cons, List.map_cons, List.map_singleton, hevent,
    hsituation, htask, hbinding, hexecution]
  decide

/-- A record with a new cause, after the records whose causes are `ids`. -/
theorem append_of_new (record : CausalRecord) (ids : List CausalRecordId)
    {history : InMemoryCausalLog} (h : history.Causal) {records : List CausalRecord}
    (hrecords : history.records = records) (hids : records.map (·.id) = ids)
    (hnew : record.id ∉ ids) (hparents : ∀ parent ∈ record.parents, parent ∈ ids) :
    ∃ next, append history record = .pure next ∧ next.Causal
      ∧ next.records = records ++ [record] := by
  subst hrecords hids
  have hfresh : ∀ r ∈ history.records, r.id ≠ record.id := by
    intro r hr hid
    exact hnew (hid ▸ List.mem_map_of_mem hr)
  have hknown : ∀ parent ∈ record.parents, ∃ r ∈ history.records, r.id = parent := by
    intro parent hparent
    exact List.mem_map.mp (hparents parent hparent)
  obtain ⟨next, heq, hcausal, hnext⟩ := InMemoryCausalLog.append_of_new h hfresh hknown
  refine ⟨next, ?_, hcausal, hnext⟩
  rw [append, heq]

/-- The situation of an event that was ingested first is the one of the one rule. -/
theorem ingest_head (rule : CorrelationRule) (event : Core.Event) :
    ((Alfred.new [rule]).ingest event).1.situations.head? = rule event := by
  rw [Alfred.ingest_new (Finset.notMem_empty _)]
  cases h : rule event <;> simp [Alfred.new, h]

/-! ## The run without its log -/

/-- The task of a run while its process is running, and before. -/
def boundTask (event : Core.Event) : Task :=
  { newTask event with requirementGraphs := [(testGraph (newTask event)).id] }

/-- The task of a run at its end. -/
def finishedTask (event : Core.Event) (execution : ExecutionResult) : Task :=
  { newTask event with
    requirementGraphs := [(testGraph (newTask event)).id]
    state := finalState execution.status }

/-- What a run returns once its process has ended, with the five records. -/
def sliceOutcome (event : Core.Event) (situation : Situation) (plan : BindingPlan)
    (lease : BindingLease) (execution : ExecutionResult) : VerticalSliceOutcome :=
  let task := finishedTask event execution
  let graph := testGraph (newTask event)
  { situation
    task
    graph
    plan
    lease
    execution
    causalRecords :=
      [ eventRecord event
      , situationRecord event situation
      , taskRecord event situation task graph
      , bindingRecord event situation task graph plan lease
      , executionRecord event situation task graph plan lease execution ] }

section

variable {event : Core.Event} {situation : Situation} {registry : Registry}
  {processCapsules : ImplementationId → Option LocalProcessCapsule} {workingDirectory : PathBuf}

theorem runBinding_eq {plan : BindingPlan} {lease : BindingLease} {history : InMemoryCausalLog}
    (hcausal : history.Causal)
    (hrecords : history.records =
      [ eventRecord event
      , situationRecord event situation
      , taskRecord event situation (boundTask event) (testGraph (newTask event)) ]) :
    runBinding event situation (boundTask event) (testGraph (newTask event)) plan lease
        processCapsules workingDirectory history
      = selected plan >>= fun role =>
          okOr (processCapsules role.implementation) (.missingCapsule role.implementation)
            >>= fun capsule => (LocalProcessExecutor.execute
              { task := (newTask event).id, lease := lease.id, workingDirectory, capsule }).mapErr
                .execute
                >>= fun execution => .pure (sliceOutcome event situation plan lease execution) := by
  have hdistinct := causes_nodup event.id situation.id (newTask event).id plan.id
  simp only [List.nodup_cons, List.mem_cons, List.not_mem_nil, not_or, or_false] at hdistinct
  obtain ⟨⟨-, -, h₁₄, h₁₅⟩, ⟨-, h₂₄, h₂₅⟩, ⟨h₃₄, h₃₅⟩, h₄₅, -⟩ := hdistinct
  obtain ⟨bindingHistory, hbinding, hcausal, hrecords⟩ := append_of_new
    (bindingRecord event situation (boundTask event) (testGraph (newTask event)) plan lease)
    [eventCause event.id, situationCause situation.id, taskCause (newTask event).id] hcausal
    hrecords rfl
    (by
      show bindingCause plan.id ∉ _
      simp [Ne.symm h₁₄, Ne.symm h₂₄, Ne.symm h₃₄])
    (by
      show ∀ parent ∈ [taskCause (newTask event).id], _
      simp)
  unfold runBinding
  rw [hbinding, Prog.bind_pure]
  congr 1
  funext role
  congr 1
  funext capsule
  congr 1
  funext execution
  obtain ⟨history, hrecorded, -, hrecords⟩ := append_of_new
    (executionRecord event situation (finishedTask event execution) (testGraph (newTask event))
      plan lease execution)
    [ eventCause event.id, situationCause situation.id, taskCause (newTask event).id
    , bindingCause plan.id ] hcausal hrecords rfl
    (by
      show executionCause (newTask event).id ∉ _
      simp [Ne.symm h₁₅, Ne.symm h₂₅, Ne.symm h₃₅, Ne.symm h₄₅])
    (by
      show ∀ parent ∈ [bindingCause plan.id], _
      simp)
  show append bindingHistory (executionRecord event situation (finishedTask event execution) _
    plan lease execution) >>= _ = _
  rw [hrecorded, Prog.bind_pure, hrecords]
  rfl

/-- A run is what its stages make of it: the log refuses none of the records. -/
theorem run_eq (event : Core.Event) (activeWorkspace : WorkspaceId) (registry : Registry)
    (processCapsules : ImplementationId → Option LocalProcessCapsule)
    (workingDirectory : PathBuf) :
    runSourceChangeTest event activeWorkspace registry processCapsules workingDirectory
      = okOr ((SourceChangeRequiresTestRule.v1 activeWorkspace).correlate event) .noSituation
        >>= fun situation => (Prog.ofExcept (Resolver.resolveSingleCapability registry
          (testGraph (newTask event)))).mapErr .resolve
        >>= fun bound => selected bound.1
        >>= fun role =>
          okOr (processCapsules role.implementation) (.missingCapsule role.implementation)
        >>= fun capsule => (LocalProcessExecutor.execute
          { task := (newTask event).id, lease := bound.2.id, workingDirectory, capsule }).mapErr
            .execute
        >>= fun execution =>
          .pure (sliceOutcome event situation bound.1 bound.2 execution) := by
  obtain ⟨eventHistory, hevent, hcausal, hrecords⟩ := append_of_new (eventRecord event) []
    InMemoryCausalLog.causal_empty rfl rfl List.not_mem_nil nofun
  unfold runSourceChangeTest
  rw [hevent, Prog.bind_pure, ingest_head]
  congr 1
  funext situation
  have hdistinct := causes_nodup event.id situation.id (newTask event).id ⟨""⟩
  simp only [List.nodup_cons, List.mem_cons, List.not_mem_nil, not_or, or_false] at hdistinct
  obtain ⟨⟨h₁₂, h₁₃, -, -⟩, ⟨h₂₃, -, -⟩, -⟩ := hdistinct
  obtain ⟨situationHistory, hsituation, hcausal, hrecords⟩ := append_of_new
    (situationRecord event situation) [eventCause event.id] hcausal hrecords rfl
    (by
      show situationCause situation.id ∉ _
      simp [Ne.symm h₁₂])
    (by
      show ∀ parent ∈ [eventCause event.id], _
      simp)
  obtain ⟨taskHistory, htask, hcausal, hrecords⟩ := append_of_new
    (taskRecord event situation (boundTask event) (testGraph (newTask event)))
    [eventCause event.id, situationCause situation.id] hcausal hrecords rfl
    (by
      show taskCause (newTask event).id ∉ _
      simp [Ne.symm h₁₃, Ne.symm h₂₃])
    (by
      show ∀ parent ∈ [situationCause situation.id], _
      simp)
  unfold runTask
  simp only [hsituation, Prog.bind_pure]
  show append situationHistory (taskRecord event situation (boundTask event) _) >>= _ = _
  rw [htask, Prog.bind_pure]
  congr 1
  funext bound
  exact runBinding_eq hcausal hrecords

/-! ## What a run returns -/

/-- What a run that has returned has done: `outcome` is made from a derived
situation, a resolved binding and the process of the capsule that is bound. -/
structure Returned (event : Core.Event) (activeWorkspace : WorkspaceId) (registry : Registry)
    (processCapsules : ImplementationId → Option LocalProcessCapsule)
    (workingDirectory : PathBuf) (tr : List (Event ProcessSig))
    (outcome : VerticalSliceOutcome) : Prop where
  derived : (SourceChangeRequiresTestRule.v1 activeWorkspace).correlate event
    = some outcome.situation
  bound : Resolver.resolveSingleCapability registry outcome.graph
    = .ok (outcome.plan, outcome.lease)
  executed : ∃ role capsule output micros,
    outcome.plan.resolvedCapabilities = [role]
      ∧ processCapsules role.implementation = some capsule
      ∧ tr = Process.finished capsule.program capsule.args workingDirectory output micros
      ∧ outcome.execution = executionResult
        { task := outcome.task.id, lease := outcome.lease.id, workingDirectory, capsule }
        output (min micros (2 ^ 64 - 1))
  outcome_eq : outcome
    = sliceOutcome event outcome.situation outcome.plan outcome.lease outcome.execution

theorem selected_of_resolved {graph : RequirementGraph} {plan : BindingPlan}
    {lease : BindingLease} (h : Resolver.resolveSingleCapability registry graph
      = .ok (plan, lease)) :
    ∃ role, plan.resolvedCapabilities = [role] ∧ selected plan = .pure role := by
  obtain ⟨role, capability, implementation, node, -, -, -, -, rfl, -⟩ :=
    Resolver.resolve_eq_ok h
  exact ⟨_, rfl, rfl⟩

/-- The outcome of every run: no record is refused, nothing panics, and what is
returned is what was done. -/
theorem run_all (event : Core.Event) (activeWorkspace : WorkspaceId) (registry : Registry)
    (processCapsules : ImplementationId → Option LocalProcessCapsule)
    (workingDirectory : PathBuf) :
    (runSourceChangeTest event activeWorkspace registry processCapsules workingDirectory).All
      fun tr st => (∀ e, st ≠ .failed (.history e)) ∧ (∀ msg, st ≠ .panicked msg)
        ∧ ∀ outcome, st = .returned outcome →
          Returned event activeWorkspace registry processCapsules workingDirectory tr
            outcome := by
  rw [run_eq]
  cases hderived : (SourceChangeRequiresTestRule.v1 activeWorkspace).correlate event with
  | none =>
      rw [okOr, Prog.bind_throw, Prog.all_throw]
      simp
  | some situation =>
  rw [okOr, Prog.bind_pure]
  cases hbound : Resolver.resolveSingleCapability registry (testGraph (newTask event)) with
  | error e =>
      rw [Prog.ofExcept_error, Prog.mapErr_throw, Prog.bind_throw, Prog.all_throw]
      simp
  | ok bound =>
  obtain ⟨plan, lease⟩ := bound
  obtain ⟨role, hrole, hselected⟩ := selected_of_resolved hbound
  rw [Prog.ofExcept_ok, Prog.mapErr_pure, Prog.bind_pure, hselected, Prog.bind_pure]
  cases hcapsule : processCapsules role.implementation with
  | none =>
      rw [okOr, Prog.bind_throw, Prog.all_throw]
      simp
  | some capsule =>
  rw [okOr, Prog.bind_pure, Prog.all_bind, Prog.all_mapErr]
  refine (LocalProcessExecutor.execute_all _).imp ?_
  rintro tr (_ | execution | e | msg) ⟨hpanic, hreturned⟩
  · simp [Prog.Status.mapErr]
  · obtain ⟨output, micros, rfl, hexecution⟩ := hreturned execution rfl
    refine ⟨by simp, by simp, ?_⟩
    intro outcome houtcome
    cases houtcome
    exact {
      derived := hderived
      bound := hbound
      executed := ⟨role, capsule, output, micros, hrole, hcapsule, List.append_nil _, hexecution⟩
      outcome_eq := rfl }
  · simp [Prog.Status.mapErr]
  · exact absurd rfl (hpanic msg)

/-- Each record has exactly the one before it as parent, the first has `previous`. -/
def ParentChain (previous : List CausalRecordId) : List CausalRecord → Prop
  | [] => True
  | record :: rest => record.parents = previous ∧ ParentChain [record.id] rest

/-- The causal records of an outcome tell its story. -/
structure FaithfulRecords (outcome : VerticalSliceOutcome) : Prop where
  five : outcome.causalRecords.length = 5
  distinct : (outcome.causalRecords.map (·.id)).Nodup
  chain : ParentChain [] outcome.causalRecords
  situation : ∀ record ∈ outcome.causalRecords, ∀ id,
    record.situation = some id → id = outcome.situation.id
  task : ∀ record ∈ outcome.causalRecords, ∀ id, record.task = some id → id = outcome.task.id
  graph : ∀ record ∈ outcome.causalRecords, ∀ id,
    record.requirementGraph = some id → id = outcome.graph.id
  plan : ∀ record ∈ outcome.causalRecords, ∀ id,
    record.bindingPlan = some id → id = outcome.plan.id
  lease : ∀ record ∈ outcome.causalRecords, ∀ id,
    record.bindingLease = some id → id = outcome.lease.id
  leasePlan : outcome.lease.plan = outcome.plan.id
  planGraph : outcome.plan.graph = outcome.graph.id
  taskGraph : outcome.task.requirementGraphs = [outcome.graph.id]
  completed : outcome.task.state = .completed ↔ outcome.execution.status = .succeeded
  failed : outcome.task.state = .failed ↔ outcome.execution.status = .failed

/-- References that are absent or right. -/
theorem reference_eq {ι : Type} {reference : CausalRecord → Option ι} {own : ι}
    {records : List CausalRecord} (references : List (Option ι))
    (hreferences : records.map reference = references)
    (h : ∀ r ∈ references, r = none ∨ r = some own) :
    ∀ record ∈ records, ∀ id, reference record = some id → id = own := by
  subst hreferences
  intro record hrecord id hid
  rcases h _ (List.mem_map_of_mem hrecord) with hnone | hown
  · cases hnone.symm.trans hid
  · exact Option.some.inj (hid.symm.trans hown)

theorem finalState_completed {status : ExecutionStatus} :
    finalState status = .completed ↔ status = .succeeded := by
  cases status <;> decide

theorem finalState_failed {status : ExecutionStatus} :
    finalState status = .failed ↔ status = .failed := by
  cases status <;> decide

theorem faithful_sliceOutcome {plan : BindingPlan} {lease : BindingLease}
    (hbound : Resolver.resolveSingleCapability registry (testGraph (newTask event))
      = .ok (plan, lease)) (execution : ExecutionResult) :
    FaithfulRecords (sliceOutcome event situation plan lease execution) := by
  obtain ⟨role, capability, implementation, node, -, -, -, -, hplan, hlease⟩ :=
    Resolver.resolve_eq_ok hbound
  exact {
    five := rfl
    distinct := causes_nodup event.id situation.id (newTask event).id plan.id
    chain := ⟨rfl, rfl, rfl, rfl, rfl, trivial⟩
    situation := reference_eq [none, some situation.id, some situation.id, some situation.id,
      some situation.id] rfl (by simp [sliceOutcome])
    task := reference_eq [none, none, some (newTask event).id, some (newTask event).id,
      some (newTask event).id] rfl (by simp [sliceOutcome, finishedTask])
    graph := reference_eq [none, none, some (testGraph (newTask event)).id,
      some (testGraph (newTask event)).id, some (testGraph (newTask event)).id] rfl
      (by simp [sliceOutcome])
    plan := reference_eq [none, none, none, some plan.id, some plan.id] rfl
      (by simp [sliceOutcome])
    lease := reference_eq [none, none, none, some lease.id, some lease.id] rfl
      (by simp [sliceOutcome])
    leasePlan := congrArg BindingLease.plan hlease
    planGraph := congrArg BindingPlan.graph hplan
    taskGraph := rfl
    completed := finalState_completed
    failed := finalState_failed }

/-- Whatever the event, the registry, the capsules and the process: a run never
fails on its log and never panics, and the records of one that returns are a
chain that tells what it did. -/
theorem causal_records_faithful {event : Core.Event} {activeWorkspace : WorkspaceId}
    {registry : Registry} {processCapsules : ImplementationId → Option LocalProcessCapsule}
    {workingDirectory : PathBuf} {tr : List (Event ProcessSig)}
    {q : Prog ProcessSig MvpError VerticalSliceOutcome}
    (hs : (runSourceChangeTest event activeWorkspace registry processCapsules
      workingDirectory).Steps tr q) :
    (∀ e, q ≠ .throw (.history e)) ∧ (∀ msg, q ≠ .panic msg)
      ∧ ∀ outcome, q = .pure outcome → FaithfulRecords outcome := by
  obtain ⟨hhistory, hpanic, hreturned⟩ := (run_all event activeWorkspace registry
    processCapsules workingDirectory).of_steps hs
  refine ⟨?_, ?_, ?_⟩
  · rintro e rfl
    exact hhistory e rfl
  · rintro msg rfl
    exact hpanic msg rfl
  · rintro outcome rfl
    have h := hreturned outcome rfl
    have hbound := h.bound
    rw [h.outcome_eq] at hbound ⊢
    exact faithful_sliceOutcome hbound outcome.execution

/-- A run whose stages all have an answer returns when its process has ended. -/
theorem steps_run {activeWorkspace : WorkspaceId} {plan : BindingPlan} {lease : BindingLease}
    {role : ResolvedCapabilityRole} {capsule : LocalProcessCapsule}
    (hderived : (SourceChangeRequiresTestRule.v1 activeWorkspace).correlate event
      = some situation)
    (hbound : Resolver.resolveSingleCapability registry (testGraph (newTask event))
      = .ok (plan, lease))
    (hrole : plan.resolvedCapabilities = [role])
    (hcapsule : processCapsules role.implementation = some capsule)
    (hprogram : (Text.trim capsule.program).isEmpty = false) (output : ProcessOutput)
    (micros : Nat) :
    (runSourceChangeTest event activeWorkspace registry processCapsules workingDirectory).Steps
      (Process.finished capsule.program capsule.args workingDirectory output micros)
      (.pure (sliceOutcome event situation plan lease (executionResult
        { task := (newTask event).id, lease := lease.id, workingDirectory, capsule } output
        (min micros (2 ^ 64 - 1))))) := by
  rw [run_eq, hderived, okOr, Prog.bind_pure, hbound, Prog.ofExcept_ok, Prog.mapErr_pure,
    Prog.bind_pure, selected, hrole, Prog.bind_pure, hcapsule, okOr, Prog.bind_pure]
  have hexec := @LocalProcessExecutor.steps_execute
    { task := (newTask event).id, lease := lease.id, workingDirectory, capsule } hprogram output
    micros
  rw [← List.append_nil (Process.finished ..)]
  exact (hexec.mapErr MvpError.execute).bind (.refl _)

end

/-! A source change on a node that can run its tests. -/

namespace Pilot

open Resolver

def implementation : CapabilityImplementation :=
  { testImplementation with implements := ⟨"test.run"⟩ }

def registry : Registry := ⟨[implementation], [testNode]⟩

def capsule : LocalProcessCapsule where
  implementation := ⟨"impl:test"⟩
  program := "sh"
  args := ["-c", "printf tests-ok"]

def processCapsules (id : ImplementationId) : Option LocalProcessCapsule :=
  if id = ⟨"impl:test"⟩ then some capsule else none

def event : Core.Event := Blob.Pilot.sourceModified ⟨"event:source-change"⟩

def testOutput : ProcessOutput where
  status := .exited 0
  stdout := Text.utf8Bytes "tests-ok"
  stderr := []

theorem valid_registry :
    Resolver.valid registry ⟨"test.run"⟩ = [(implementation, Resolver.testNode)] :=
  List.mergeSort_singleton _

end Pilot

theorem pilot_records_faithful : ∃ outcome tr,
    (runSourceChangeTest Pilot.event Blob.Pilot.workspace Pilot.registry Pilot.processCapsules
      (.ofString ".")).Steps tr (.pure outcome)
      ∧ FaithfulRecords outcome := by
  have hbound := @Resolver.resolve_of_accepted Pilot.registry (testGraph (newTask Pilot.event))
    _ _ _ _ rfl rfl (by rw [Pilot.valid_registry]; rfl) (by decide)
  have hcapsule : Pilot.processCapsules ⟨"impl:test"⟩ = some Pilot.capsule := if_pos rfl
  have hprogram : (Text.trim Pilot.capsule.program).isEmpty = false := by decide
  have hsteps : (runSourceChangeTest Pilot.event Blob.Pilot.workspace Pilot.registry
      Pilot.processCapsules (.ofString ".")).Steps _ _ :=
    steps_run rfl hbound rfl hcapsule hprogram Pilot.testOutput 42
  exact ⟨_, _, hsteps, (causal_records_faithful hsteps).2.2 _ rfl⟩

end VerticalSlice

end Blob
