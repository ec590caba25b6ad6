import Blob.Path
import Blob.System

/-!
# Immutable NixOS activation plans

From an operation and the closure that was materialized for its
candidate to the one command that may activate it. The plan copies the
operation's effect and authority only after the policy check, so a plan
never carries forged ones.
-/

namespace Blob

open Text Checks

structure MaterializedNixOsCandidate where
  candidate : SystemCandidateId
  systemSpec : SystemSpecId
  materializationOperation : SystemOperationId
  systemClosure : String
deriving Repr, DecidableEq

structure ImmutableNixOsActivationPlan where
  operationId : SystemOperationId
  candidate : SystemCandidateId
  systemSpec : SystemSpecId
  materializationOperation : SystemOperationId
  systemClosure : String
  action : SystemCandidateAction
  effectClass : SystemEffectClass
  authority : SystemAuthorityClass
  program : String
  args : List String
  expectedEffects : List String
  rollbackSemantics : String
deriving Repr, DecidableEq

inductive ImmutableActivationError where
  | invalidOperation (violations : List SystemOperationViolation)
  | notSystemMaterialization
  | materializationFailed
  | expectedSingleSystemClosure (observed : Nat)
  | invalidNixStoreClosure
  | candidateMismatch
  | systemSpecMismatch
  | unsupportedAction (action : SystemCandidateAction)
deriving Repr, DecidableEq

/-- The components of a single entry of `/nix/store`. -/
def isStoreEntry : List Component → Bool
  | [.rootDir, .normal nix, .normal store, .normal _closure] =>
      nix == utf8Bytes "nix" && store == utf8Bytes "store"
  | _ => false

def validateNixStoreClosure (value : String) : Except ImmutableActivationError Unit :=
  if isStoreEntry (PathBuf.ofString value).components then .ok ()
  else .error .invalidNixStoreClosure

/-- The program that activates a closure. -/
def switchProgram (systemClosure : String) : String :=
  systemClosure ++ "/bin/switch-to-configuration"

/-- Argument, expected effects and rollback semantics of the actions that
have an activation plan. -/
def activationTexts :
    SystemCandidateAction →
      Except ImmutableActivationError (String × List String × String)
  | .previewActivation => .ok
      ( "dry-activate"
      , [ "inspect the running system and print the changes required to reach the already-materialized candidate"
        , "execute only activation snippets that the candidate explicitly marks as supporting dry activation"
        , "do not change the boot-default generation" ]
      , "No configuration switch is performed. Any dry-activation snippet effects must be captured as evidence." )
  | .testActivation => .ok
      ( "test"
      , [ "temporarily switch the running host to the already-materialized immutable candidate closure"
        , "do not change the boot-default generation" ]
      , "A reboot returns to the previously recorded boot-default generation; the physical-node readiness record must carry that rollback reference." )
  | other => .error (.unsupportedAction other)

namespace ImmutableNixOsActivationPlanner

def plan (operation : SystemCandidateOperation)
    (materialized : MaterializedNixOsCandidate) :
    Except ImmutableActivationError ImmutableNixOsActivationPlan := do
  operation.validatePolicy.mapError .invalidOperation
  validateNixStoreClosure materialized.systemClosure
  reject (operation.candidate ≠ materialized.candidate) .candidateMismatch
  reject (operation.systemSpec ≠ materialized.systemSpec) .systemSpecMismatch
  let (arg, expectedEffects, rollbackSemantics) ← activationTexts operation.action
  return {
    operationId := operation.id
    candidate := operation.candidate
    systemSpec := operation.systemSpec
    materializationOperation := materialized.materializationOperation
    systemClosure := materialized.systemClosure
    action := operation.action
    effectClass := operation.effectClass
    authority := operation.authority
    program := switchProgram materialized.systemClosure
    args := [arg]
    expectedEffects
    rollbackSemantics }

/-- What a successful plan was derived from: every field comes from the
operation or the materialized candidate, and the action is one of the two
that activate. -/
structure Derived (operation : SystemCandidateOperation)
    (materialized : MaterializedNixOsCandidate) (p : ImmutableNixOsActivationPlan) :
    Prop where
  operationId : p.operationId = operation.id
  candidate : p.candidate = operation.candidate
  systemSpec : p.systemSpec = operation.systemSpec
  materialization : p.materializationOperation = materialized.materializationOperation
  closure : p.systemClosure = materialized.systemClosure
  action : p.action = operation.action
  policy : (p.effectClass, p.authority) = actionPolicy p.action
  program : p.program = switchProgram p.systemClosure
  storeEntry : isStoreEntry (PathBuf.ofString p.systemClosure).components = true
  argument : (p.action = .previewActivation ∧ p.args = ["dry-activate"])
    ∨ (p.action = .testActivation ∧ p.args = ["test"])

theorem plan_derived {operation : SystemCandidateOperation}
    {materialized : MaterializedNixOsCandidate} {p : ImmutableNixOsActivationPlan}
    (h : plan operation materialized = .ok p) : Derived operation materialized p := by
  simp only [plan, bind_eq_ok, mapError_eq_ok, reject_eq_ok, pure_eq_ok] at h
  obtain ⟨_, hpolicy, _, hclosure, _, hcand, _, hspec, ⟨arg, effects, rollback⟩, htexts,
    rfl⟩ := h
  have hentry : isStoreEntry (PathBuf.ofString materialized.systemClosure).components
      = true := by
    simp only [validateNixStoreClosure] at hclosure
    split at hclosure
    · assumption
    · cases hclosure
  refine ⟨rfl, rfl, rfl, rfl, rfl, rfl,
    SystemCandidateOperation.validatePolicy_ok.mp hpolicy, rfl, hentry, ?_⟩
  cases hact : operation.action with
  | previewActivation =>
      rw [hact] at htexts
      obtain ⟨rfl, -⟩ := Prod.mk.inj (Except.ok.inj htexts)
      exact Or.inl ⟨rfl, rfl⟩
  | testActivation =>
      rw [hact] at htexts
      obtain ⟨rfl, -⟩ := Prod.mk.inj (Except.ok.inj htexts)
      exact Or.inr ⟨rfl, rfl⟩
  | materialize => rw [hact] at htexts; cases htexts
  | buildIsolatedVm => rw [hact] at htexts; cases htexts

/-- What a successful plan requires of its inputs: the operation carries the
policy of its action, and the materialized candidate is its own. -/
structure Consistent (operation : SystemCandidateOperation)
    (materialized : MaterializedNixOsCandidate) : Prop where
  policy : (operation.effectClass, operation.authority) = actionPolicy operation.action
  candidate : operation.candidate = materialized.candidate
  systemSpec : operation.systemSpec = materialized.systemSpec

theorem consistent_of_plan {operation : SystemCandidateOperation}
    {materialized : MaterializedNixOsCandidate} {p : ImmutableNixOsActivationPlan}
    (h : plan operation materialized = .ok p) : Consistent operation materialized := by
  simp only [plan, bind_eq_ok, mapError_eq_ok, reject_eq_ok, ne_eq, not_not] at h
  obtain ⟨_, hpolicy, _, -, _, hcandidate, _, hspec, -⟩ := h
  exact ⟨SystemCandidateOperation.validatePolicy_ok.mp hpolicy, hcandidate, hspec⟩

end ImmutableNixOsActivationPlanner

end Blob
