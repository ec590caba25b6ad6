import Blob.SystemExecutor
import Blob.Technician

/-!
# Explaining a system change

The executor turns the result of an operation into a causal record, and the
technician turns a causal record into a report. The two share no definition:
whether the operation only materialized a candidate goes from one to the
other as a line of evidence, among lines with ids and paths in them. Every
line is a field whose key is the executor's own, so no id and no path makes
such a line (`mem_evidenceLines`), and the report says of the operation what
its effect class is (`explanation_agrees`).
-/

namespace Blob

open Text Checks

/-! ## The executor's record -/

def SystemOperationStatus.debug : SystemOperationStatus → String
  | .succeeded => "Succeeded"
  | .failed => "Failed"

namespace SystemOperationResult

def evidenceLines (self : SystemOperationResult) : List String :=
  [ "system-operation:" ++ self.operationId.value
  , "candidate:" ++ self.candidate.value
  , "system-spec:" ++ self.systemSpec.value
  , "action:" ++ self.action.debug
  , "effect-class:" ++ self.effectClass.debug
  , "status:" ++ self.status.debug
  , "duration-us:" ++ toString self.durationUs ]
  ++ (self.exitCode.toList.map fun exitCode => "exit-code:" ++ toString exitCode)
  ++ self.storePaths.map fun path => "nix-store-path:" ++ path

def statusText : SystemOperationStatus → String
  | .succeeded => "succeeded"
  | .failed => "failed"

def expectedEffects : SystemCandidateAction → List String
  | .materialize =>
      ["materialize an immutable NixOS candidate without activating the live system"]
  | .buildIsolatedVm =>
      ["materialize an isolated NixOS VM candidate without activating the live system"]
  | .previewActivation | .testActivation =>
      ["operation is outside the non-privileged executor boundary"]

def causalRecord (self : SystemOperationResult) (id : CausalRecordId) (occurredAtUnixMs : Nat)
    (parents : List CausalRecordId) (actor why : String) : CausalRecord where
  id := id
  kind := .systemChange
  occurredAtUnixMs := occurredAtUnixMs
  parents := parents
  actor := actor
  summary := self.action.debug ++ " for " ++ self.candidate.value ++ " " ++ statusText self.status
  why := why
  event := none
  situation := none
  task := none
  requirementGraph := none
  bindingPlan := none
  bindingLease := none
  improvementProposal := none
  evidence := self.evidenceLines
  expectedEffects := expectedEffects self.action
  actualEffects := ("system candidate operation " ++ statusText self.status)
    :: self.storePaths.map fun path => "materialized:" ++ path
  authorization := some "user/non-privileged materialization"
  rollbackReference := none

end SystemOperationResult

/-! ## The technician's report -/

structure SystemChangeReport where
  title : String
  summary : String
  why : String
  evidence : List String
  expectedEffects : List String
  actualEffects : List String
  authorization : Option String
  rollbackReference : Option String
  safetyNotes : List String
deriving Repr, DecidableEq

namespace ReadOnlySystemTechnician

def readOnlyNote : String :=
  "This report is read-only and cannot activate, roll back or otherwise mutate the system."

def materializedNote : String :=
  "The recorded operation only materialized a candidate; it did not change the live system."

def rollbackWarning : String :=
  "No rollback reference is attached to this system-change record; activation should not be inferred safe from this report."

/-- The line by which a record says that an operation only materialized a candidate. -/
def marker : String := "effect-class:MaterializationOnly"

def safetyNotes (record : CausalRecord) : List String :=
  let materializationOnly := record.evidence.any (· == marker)
  readOnlyNote
    :: (if materializationOnly then [materializedNote] else [])
    ++ (if record.rollbackReference.isNone && !materializationOnly then [rollbackWarning] else [])

def systemChangeReport (record : CausalRecord) : SystemChangeReport where
  title := "System candidate operation"
  summary := record.summary
  why := record.why
  evidence := record.evidence
  expectedEffects := record.expectedEffects
  actualEffects := record.actualEffects
  authorization := record.authorization
  rollbackReference := record.rollbackReference
  safetyNotes := safetyNotes record

def explainSystemChange (record : CausalRecord) : Except TechnicianError SystemChangeReport := do
  reject (record.kind ≠ .systemChange) (.unsupportedCausalKind record.kind)
  return systemChangeReport record

end ReadOnlySystemTechnician

/-! ## The lines of evidence -/

namespace SystemOperationResult

variable (self : SystemOperationResult)

/-- The evidence as keys with values. -/
def evidenceFields : List (String × String) :=
  [ ("system-operation", self.operationId.value)
  , ("candidate", self.candidate.value)
  , ("system-spec", self.systemSpec.value)
  , ("action", self.action.debug)
  , ("effect-class", self.effectClass.debug)
  , ("status", self.status.debug)
  , ("duration-us", toString self.durationUs) ]
  ++ (self.exitCode.toList.map fun exitCode => ("exit-code", toString exitCode))
  ++ self.storePaths.map fun path => ("nix-store-path", path)

theorem evidenceLines_eq :
    self.evidenceLines = self.evidenceFields.map fun (key, value) => key ++ ":" ++ value := by
  simp [evidenceLines, evidenceFields, Function.comp_def]

theorem colon_notMem_key : ∀ field ∈ self.evidenceFields, ':' ∉ field.1.toList := by
  intro field hfield
  simp only [evidenceFields, List.mem_append, List.mem_cons, List.not_mem_nil, or_false,
    List.mem_map] at hfield
  rcases hfield with ((rfl | rfl | rfl | rfl | rfl | rfl | rfl) | ⟨_, -, rfl⟩) | ⟨_, -, rfl⟩ <;>
    simp

/-- A line of the evidence is a field of it. -/
theorem mem_evidenceLines {key value : String} (hkey : ':' ∉ key.toList) :
    key ++ ":" ++ value ∈ self.evidenceLines ↔ (key, value) ∈ self.evidenceFields := by
  rw [evidenceLines_eq, List.mem_map]
  constructor
  · rintro ⟨⟨key', value'⟩, hfield, hline⟩
    obtain ⟨rfl, rfl⟩ := field_inj (self.colon_notMem_key _ hfield) hkey hline
    exact hfield
  · intro hfield
    exact ⟨_, hfield, rfl⟩

/-- One line says the effect class, and no id, path or number makes another like it. -/
theorem marker_mem_evidenceLines :
    ReadOnlySystemTechnician.marker ∈ self.evidenceLines
      ↔ self.effectClass = .materializationOnly := by
  have hmarker : ReadOnlySystemTechnician.marker
      = "effect-class" ++ ":" ++ "MaterializationOnly" := by decide
  have hdebug : "MaterializationOnly" = self.effectClass.debug
      ↔ self.effectClass = .materializationOnly := by
    cases self.effectClass <;> decide
  rw [hmarker, mem_evidenceLines self (by decide), ← hdebug]
  simp [evidenceFields]

end SystemOperationResult

/-! ## What is reported of an operation -/

namespace ReadOnlySystemTechnician

theorem explain_eq_ok {record : CausalRecord} {report : SystemChangeReport} :
    explainSystemChange record = .ok report
      ↔ record.kind = .systemChange ∧ report = systemChangeReport record := by
  simp only [explainSystemChange, bind_eq_ok, reject_eq_ok, exists_const, pure_eq_ok, ne_eq,
    not_not]
  exact and_congr_right fun _ => eq_comm

/-- What the notes say of a record. -/
theorem mem_safetyNotes {record : CausalRecord} :
    (materializedNote ∈ safetyNotes record ↔ marker ∈ record.evidence)
      ∧ (rollbackWarning ∈ safetyNotes record
        ↔ record.rollbackReference = none ∧ marker ∉ record.evidence) := by
  have hany : record.evidence.any (· == marker) = true ↔ marker ∈ record.evidence := by
    simp
  have hnotes : materializedNote ≠ readOnlyNote ∧ rollbackWarning ≠ readOnlyNote
      ∧ materializedNote ≠ rollbackWarning := by
    simp [materializedNote, readOnlyNote, rollbackWarning]
  obtain ⟨hmaterialized, hwarning, hdistinct⟩ := hnotes
  rw [← hany, safetyNotes]
  cases record.evidence.any (· == marker) <;>
    simp [hmaterialized, hwarning, hdistinct, hdistinct.symm]

/-- The report on an operation carries the executor's evidence, says that the operation only
materialized a candidate if that is its effect class, and warns of the missing
rollback reference if it is not. -/
theorem explanation_agrees (result : SystemOperationResult) (id : CausalRecordId)
    (occurredAtUnixMs : Nat) (parents : List CausalRecordId) (actor why : String) :
    ∃ report, explainSystemChange (result.causalRecord id occurredAtUnixMs parents actor why)
        = .ok report
      ∧ report.evidence = result.evidenceLines
      ∧ (materializedNote ∈ report.safetyNotes ↔ result.effectClass = .materializationOnly)
      ∧ (rollbackWarning ∈ report.safetyNotes
        ↔ result.effectClass ≠ .materializationOnly) := by
  obtain ⟨hmaterialized, hwarning⟩ := @mem_safetyNotes
    (result.causalRecord id occurredAtUnixMs parents actor why)
  refine ⟨_, explain_eq_ok.mpr ⟨rfl, rfl⟩, rfl, ?_, ?_⟩
  · exact hmaterialized.trans result.marker_mem_evidenceLines
  · refine hwarning.trans ?_
    rw [ne_eq, ← result.marker_mem_evidenceLines]
    exact and_iff_right rfl

end ReadOnlySystemTechnician

end Blob
