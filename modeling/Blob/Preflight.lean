import Blob.ActivationGate
import Blob.HostProbe
import Blob.Technician

/-!
# Preflight reports

The technician explains the readiness gate before anything is asked of it: a
reason for each violation, in the order of the checks, and the readiness
record as evidence. A request whose action the report finds eligible is not
turned away by the gate for its readiness, and one it does not is turned away
before the ledger is asked, for the reasons reported (`gate_agrees`).

The evidence writes an unknown generation as the text `unknown`, which a known
one could be. A report of a live activation tells the two apart by its
reasons, where the profile asks for the generation, and so is of one record
(`report_of_one_record`).
-/

namespace Blob

open Checks

structure PhysicalNodePreflightReport where
  title : String
  action : SystemCandidateAction
  eligible : Bool
  summary : String
  evidence : List String
  blockingReasons : List String
  probeWarnings : List String
  nextSteps : List String
  safetyNotes : List String
deriving Repr, DecidableEq

def physicalViolationExplanation : PhysicalTestNodeViolation → String
  | .nodeMismatch => "The readiness evidence belongs to a different enrolled node."
  | .architectureMismatch =>
      "The observed CPU architecture does not match the physical test-node profile."
  | .substrateMismatch =>
      "The observed operating-system substrate does not match the physical test-node profile."
  | .notEnrolled => "The machine has not been enrolled as a physical test node."
  | .notTrusted => "The machine enrollment is not trusted for system experimentation."
  | .storageHealthNotConfirmed => "Storage health has not been confirmed."
  | .insufficientFreeSpace requiredBytes observedBytes =>
      "Insufficient free storage: at least " ++ toString requiredBytes
        ++ " bytes are required, but " ++ toString observedBytes ++ " bytes were observed."
  | .previewActivationDisabled =>
      "Preview activation is disabled by the physical test-node profile."
  | .testActivationDisabled =>
      "Temporary live test activation is disabled by the physical test-node profile."
  | .externalPowerRequired =>
      "External power has not been confirmed for temporary live activation."
  | .localConsoleRecoveryNotConfirmed =>
      "Local-console recovery has not been physically confirmed."
  | .currentBootGenerationUnknown => "The current boot-default generation is unknown."
  | .rollbackReferenceMissing =>
      "No explicit rollback reference is recorded for the current boot-default state."

def eligibleSummary : SystemCandidateAction → String
  | .materialize =>
      "The node is ready to materialize the candidate without changing the live system."
  | .buildIsolatedVm =>
      "The node is ready to build an isolated VM candidate without changing the live system."
  | .previewActivation =>
      "The node satisfies the readiness prerequisites for an administrator-authorized "
        ++ "activation preview."
  | .testActivation =>
      "The node satisfies the readiness prerequisites for an administrator-authorized "
        ++ "temporary live test activation."

def eligibleNextSteps : SystemCandidateAction → List String
  | .materialize =>
      [ "Use the bounded non-privileged materialization executor and record the result as "
          ++ "causal evidence." ]
  | .buildIsolatedVm =>
      [ "Build and boot the isolated candidate before considering any physical activation." ]
  | .previewActivation =>
      [ "Request explicit host-administrator authorization before executing the preview."
      , "Capture any dry-activation hook effects as evidence; do not infer that preview equals "
          ++ "test activation." ]
  | .testActivation =>
      [ "Request explicit host-administrator authorization before temporary live activation."
      , "Keep the recorded rollback reference and local console available throughout the test."
      , "Do not make the candidate the persistent boot default under the current v0.1 policy." ]

namespace ReadOnlySystemTechnician

/-- The reasons for a verdict. -/
def blockingReasons : Except (List PhysicalTestNodeViolation) Unit → List String
  | .ok _ => []
  | .error violations => violations.map physicalViolationExplanation

def preflightSummary (action : SystemCandidateAction) (reasons : List String) : String :=
  if reasons.isEmpty then eligibleSummary action
  else "The node is not ready for " ++ action.debug ++ ": " ++ toString reasons.length
    ++ " deterministic prerequisite(s) are unsatisfied."

def preflightNextSteps (action : SystemCandidateAction) (reasons : List String) : List String :=
  if reasons.isEmpty then eligibleNextSteps action
  else
    [ "Resolve the blocking prerequisites and collect a fresh readiness observation."
    , "Do not bypass a failed readiness gate with an AI judgement or ad-hoc privileged shell "
        ++ "command." ]

def preflightSafetyNotes (probeWarnings : List String) : List String :=
  [ "This preflight is read-only: it does not execute the requested system action."
  , "Readiness eligibility is separate from authorization; administrator authority is still "
      ++ "required for privileged actions."
  , "Persistent boot/switch activation is outside the current Linux Pilot authority model." ]
  ++ if probeWarnings.isEmpty then []
    else
      [ "Probe warnings are preserved as uncertainty and are not silently treated as satisfied "
          ++ "safety facts." ]

def explainPhysicalNodePreflight (profile : PhysicalTestNodeProfile)
    (readiness : PhysicalTestNodeReadiness) (action : SystemCandidateAction)
    (probeWarnings : List String) : PhysicalNodePreflightReport :=
  let reasons := blockingReasons (profile.validateReadiness action readiness)
  { title := "Physical node preflight for " ++ action.debug
    action
    eligible := reasons.isEmpty
    summary := preflightSummary action reasons
    evidence := readiness.evidenceLines
    blockingReasons := reasons
    probeWarnings
    nextSteps := preflightNextSteps action reasons
    safetyNotes := preflightSafetyNotes probeWarnings }

end ReadOnlySystemTechnician

/-! ## Reasons -/

section Reasons

/-- The violations that carry no number. -/
def plainViolations : List PhysicalTestNodeViolation :=
  [ .nodeMismatch, .architectureMismatch, .substrateMismatch, .notEnrolled, .notTrusted
  , .storageHealthNotConfirmed, .previewActivationDisabled, .testActivationDisabled
  , .externalPowerRequired, .localConsoleRecoveryNotConfirmed, .currentBootGenerationUnknown
  , .rollbackReferenceMissing ]

theorem plain_or_insufficient (v : PhysicalTestNodeViolation) :
    v ∈ plainViolations ∨ ∃ required seen, v = .insufficientFreeSpace required seen := by
  cases v with
  | insufficientFreeSpace required seen => exact Or.inr ⟨required, seen, rfl⟩
  | _ => exact Or.inl (by decide)

theorem nodup_plainExplanations : (plainViolations.map physicalViolationExplanation).Nodup := by
  decide +kernel

theorem opening_plain : ∀ v ∈ plainViolations,
    (Text.utf8Bytes (physicalViolationExplanation v)).head? ≠ some 73 := by
  decide +kernel

theorem insufficient_text (required seen : Nat) :
    physicalViolationExplanation (.insufficientFreeSpace required seen)
      = "Insufficient free storage: at least " ++ (toString required
        ++ (" bytes are required, but " ++ (toString seen ++ " bytes were observed."))) := by
  rw [← String.append_assoc, ← String.append_assoc, ← String.append_assoc]
  rfl

theorem opening_insufficient (required seen : Nat) :
    (Text.utf8Bytes (physicalViolationExplanation (.insufficientFreeSpace required seen))).head?
      = some 73 := by
  have hopening : (Text.utf8Bytes "Insufficient free storage: at least ").head? = some 73 := by
    decide +kernel
  rw [insufficient_text, Text.utf8Bytes_append, List.head?_append, hopening]
  rfl

/-- A number ends where something else than a digit follows. -/
theorem natText_append_inj {m n : Nat} {s t : String} (hs : ∀ c ∈ s.toList.head?, c.isDigit = false)
    (ht : ∀ c ∈ t.toList.head?, c.isDigit = false) (h : toString m ++ s = toString n ++ t) :
    m = n ∧ s = t := by
  have hdigits : ∀ {k : Nat} {u : String}, (∀ c ∈ u.toList.head?, c.isDigit = false) →
      (toString k ++ u).toList.takeWhile Char.isDigit = (toString k).toList := by
    intro k u hu
    rw [String.toList_append, List.takeWhile_append_of_pos fun c => Text.isDigit_of_mem_natText]
    cases htext : u.toList with
    | nil => simp
    | cons c cs =>
        rw [List.takeWhile_cons_of_neg (by simp [hu c (htext ▸ rfl)]), List.append_nil]
  have hnumber : (toString m).toList = (toString n).toList := by
    rw [← hdigits hs, h, hdigits ht]
  obtain rfl := Text.natText_injective (String.toList_inj.mp hnumber)
  exact ⟨rfl, (String.append_right_inj _).mp h⟩

/-- The two numbers are read off their explanation. -/
theorem insufficient_injective {required seen required' seen' : Nat}
    (h : physicalViolationExplanation (.insufficientFreeSpace required seen)
      = physicalViolationExplanation (.insufficientFreeSpace required' seen')) :
    required = required' ∧ seen = seen' := by
  have hafter : " bytes were observed.".toList.head? = some ' ' := by decide +kernel
  have hbetween : " bytes are required, but ".toList.head? = some ' ' := by decide +kernel
  have hspace : ∀ c ∈ some ' ', c.isDigit = false := by
    intro c hc
    obtain rfl := Option.mem_some.mp hc
    rfl
  rw [insufficient_text, insufficient_text, String.append_right_inj] at h
  have hbegins : ∀ rest : String,
      ∀ c ∈ (" bytes are required, but " ++ rest).toList.head?, c.isDigit = false := by
    intro rest
    rwa [String.toList_append, List.head?_append, hbetween]
  obtain ⟨hrequired, hrest⟩ := natText_append_inj (hbegins _) (hbegins _) h
  rw [String.append_right_inj] at hrest
  exact ⟨hrequired, (natText_append_inj (hafter ▸ hspace) (hafter ▸ hspace) hrest).1⟩

theorem physicalViolationExplanation_injective :
    Function.Injective physicalViolationExplanation := by
  intro v w h
  rcases plain_or_insufficient v with hv | ⟨required, seen, rfl⟩ <;>
    rcases plain_or_insufficient w with hw | ⟨required', seen', rfl⟩
  · exact List.inj_on_of_nodup_map nodup_plainExplanations hv hw h
  · exact absurd (h ▸ opening_insufficient required' seen') (opening_plain v hv)
  · exact absurd (h ▸ opening_insufficient required seen) (opening_plain w hw)
  · obtain ⟨rfl, rfl⟩ := insufficient_injective h
    rfl

end Reasons

/-! ## Evidence -/

/-- Two records that the evidence lines do not tell apart. -/
structure PhysicalTestNodeReadiness.Alike (r r' : PhysicalTestNodeReadiness) : Prop where
  node : r.node = r'.node
  architecture : r.observedArchitecture = r'.observedArchitecture
  substrate : r.observedSubstrate = r'.observedSubstrate
  enrolled : r.enrolled = r'.enrolled
  trusted : r.trusted = r'.trusted
  power : r.onExternalPower = r'.onExternalPower
  freeSpace : r.freeSpaceBytes = r'.freeSpaceBytes
  storage : r.storageHealthOk = r'.storageHealthOk
  /-- An unknown generation is one called `unknown`. -/
  generation : r.currentBootGeneration.getD "unknown" = r'.currentBootGeneration.getD "unknown"
  rollback : r.rollbackReference.getD "none" = r'.rollbackReference.getD "none"
  console : r.localConsoleRecoveryConfirmed = r'.localConsoleRecoveryConfirmed
  observedAt : r.observedAtUnixMs = r'.observedAtUnixMs

theorem architectureDebug_injective : Function.Injective SystemArchitecture.debug := by
  intro a b h
  cases a <;> cases b <;> first | rfl | exact absurd h (by decide)

theorem substrateDebug_injective : Function.Injective PhysicalNodeSubstrate.debug := by
  intro a b h
  cases a <;> cases b <;> first | rfl | exact absurd h (by decide)

theorem boolText_injective : Function.Injective boolText := by
  intro a b h
  cases a <;> cases b <;> first | rfl | exact absurd h (by decide)

theorem evidenceLines_eq_iff {r r' : PhysicalTestNodeReadiness} :
    r.evidenceLines = r'.evidenceLines ↔ r.Alike r' := by
  have hnat : Function.Injective fun n : Nat => toString n := Text.natText_injective
  constructor
  · intro h
    simp only [PhysicalTestNodeReadiness.evidenceLines, List.cons.injEq,
      String.append_right_inj] at h
    obtain ⟨hnode, harch, hsubstrate, henrolled, htrusted, hpower, hspace, hstorage, hgeneration,
      hrollback, hconsole, hat, -⟩ := h
    exact ⟨(NodeId.mk.injEq ..).mpr hnode, architectureDebug_injective harch,
      substrateDebug_injective hsubstrate, boolText_injective henrolled,
      boolText_injective htrusted, boolText_injective hpower, hnat hspace,
      boolText_injective hstorage, hgeneration, hrollback, boolText_injective hconsole, hnat hat⟩
  · intro h
    simp only [PhysicalTestNodeReadiness.evidenceLines, h.node, h.architecture, h.substrate,
      h.enrolled, h.trusted, h.power, h.freeSpace, h.storage, h.generation, h.rollback,
      h.console, h.observedAt]

/-! ## Reports -/

namespace ReadOnlySystemTechnician

section Reports

variable {profile : PhysicalTestNodeProfile} {r r' : PhysicalTestNodeReadiness}
  {action action' : SystemCandidateAction} {warnings warnings' : List String}

/-- The reasons are those of the violations, and nothing else. -/
theorem blockingReasons_verdict (tests : List (List PhysicalTestNodeViolation)) :
    blockingReasons (verdict tests) = tests.flatten.map physicalViolationExplanation := by
  unfold verdict
  split
  · rename_i hnone
    rw [List.isEmpty_iff.mp hnone]
    rfl
  · rfl

/-- The violations of a live activation, where it needs a known generation to go back to. -/
theorem unknown_of_reasons
    (hasks : profile.requireKnownBootRollbackForLiveActivation = true)
    (h : blockingReasons (profile.validateReadiness .testActivation r)
      = blockingReasons (profile.validateReadiness .testActivation r')) :
    (r.currentBootGeneration = none ↔ r'.currentBootGeneration = none)
      ∧ (r.rollbackReference = none ↔ r'.rollbackReference = none) := by
  unfold PhysicalTestNodeProfile.validateReadiness at h
  rw [blockingReasons_verdict, blockingReasons_verdict] at h
  have hsame := List.map_injective_iff.mpr physicalViolationExplanation_injective h
  have hmem := fun v => congrArg (v ∈ ·) hsame
  have hgeneration := hmem .currentBootGenerationUnknown
  have hrollback := hmem .rollbackReferenceMissing
  simp [violation, PhysicalTestNodeProfile.actionViolations, hasks] at hgeneration hrollback
  exact ⟨hgeneration, hrollback⟩

theorem eq_of_getD {α : Type} {x y : Option α} {default : α}
    (hnone : x = none ↔ y = none) (h : x.getD default = y.getD default) : x = y := by
  cases x with
  | none => exact (hnone.mp rfl).symm
  | some a =>
      cases y with
      | none => exact absurd (hnone.mpr rfl) (Option.some_ne_none a)
      | some b => exact congrArg some h

/-- A report of a live activation that needs a known generation is of one record. -/
theorem report_of_one_record
    (hasks : profile.requireKnownBootRollbackForLiveActivation = true) :
    explainPhysicalNodePreflight profile r .testActivation warnings
        = explainPhysicalNodePreflight profile r' action' warnings'
      ↔ action' = .testActivation ∧ r = r' ∧ warnings = warnings' := by
  constructor
  · intro h
    obtain rfl : .testActivation = action' := congrArg PhysicalNodePreflightReport.action h
    have hreasons := congrArg PhysicalNodePreflightReport.blockingReasons h
    have halike := evidenceLines_eq_iff.mp (congrArg PhysicalNodePreflightReport.evidence h)
    obtain ⟨hgeneration, hrollback⟩ := unknown_of_reasons hasks hreasons
    refine ⟨rfl, ?_, congrArg PhysicalNodePreflightReport.probeWarnings h⟩
    obtain ⟨node, architecture, substrate, enrolled, trusted, power, space, storage, generation,
      rollback, console, observedAt⟩ := r
    obtain ⟨rfl, rfl, rfl, rfl, rfl, rfl, rfl, rfl, hgen, hroll, rfl, rfl⟩ := halike
    obtain rfl := eq_of_getD hgeneration hgen
    obtain rfl := eq_of_getD hrollback hroll
    rfl
  · rintro ⟨rfl, rfl, rfl⟩
    rfl

end Reports

/-! The pilot node, on its mains, and on its battery with a generation of the name `unknown`. -/

section Pilot

open NixOsReadOnlyProbe

def pilotObserved : NixOsProbeSnapshot := pilotShown.snapshot ⟨"node:lab"⟩ .x86_64

/-- The evidence of these two is the same, their reports are not. -/
theorem pilot_report_of_one_record :
    ({ Pilot.readiness with currentBootGeneration := none } :
        PhysicalTestNodeReadiness).evidenceLines
      = ({ Pilot.readiness with currentBootGeneration := some "unknown" } :
        PhysicalTestNodeReadiness).evidenceLines
      ∧ (explainPhysicalNodePreflight Pilot.profile
          { Pilot.readiness with currentBootGeneration := none } .testActivation []
          = explainPhysicalNodePreflight Pilot.profile
            { Pilot.readiness with currentBootGeneration := some "unknown" } .testActivation []
        ↔ SystemCandidateAction.testActivation = .testActivation
          ∧ ({ Pilot.readiness with currentBootGeneration := none } :
              PhysicalTestNodeReadiness)
            = { Pilot.readiness with currentBootGeneration := some "unknown" }
          ∧ ([] : List String) = []) :=
  ⟨rfl, report_of_one_record rfl⟩

end Pilot

end ReadOnlySystemTechnician

end Blob
