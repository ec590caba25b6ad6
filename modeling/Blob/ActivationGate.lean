import Blob.Activation
import Blob.Authorization
import Blob.Prog

/-!
# The privileged activation gate

`prepare` composes the four checks a privileged activation needs -
readiness, authorization, plan, and the single-use ledger - and yields
the prepared activation that is handed to the privileged side. The
ledger is the one operation of a `prepare` program, so what holds of all
its executions holds for every implementation of the ledger.
-/

namespace Blob

structure PreparedPrivilegedActivation where
  node : NodeId
  readinessObservedAtUnixMs : Nat
  authorization : SystemAuthorizationId
  authorizationExpiresAtUnixMs : Nat
  preparedAtUnixMs : Nat
  plan : ImmutableNixOsActivationPlan
  readinessEvidence : List String
  authorizationEvidence : List String
deriving Repr, DecidableEq

inductive ActivationGateError where
  | readinessRejected (violations : List PhysicalTestNodeViolation)
  | authorizationRejected (violations : List SystemAuthorizationViolation)
  | activationPlanRejected (error : ImmutableActivationError)
  | authorizationAlreadyConsumed (id : SystemAuthorizationId)
  | authorizationLedgerPoisoned
deriving Repr, DecidableEq

/-- The calls of the `AuthorizationConsumptionLedger` trait. -/
inductive GateOp where
  | consumeOnce (id : SystemAuthorizationId)
deriving Repr, DecidableEq

def GateSig : Sig where
  Op := GateOp
  Ans
    | .consumeOnce _ => Except ActivationGateError Unit

namespace PrivilegedActivationGate

def consumeOnce (id : SystemAuthorizationId) : Prog GateSig ActivationGateError Unit :=
  .call (.consumeOnce id) .ofExcept

def prepare (operation : SystemCandidateOperation)
    (materialized : MaterializedNixOsCandidate) (profile : PhysicalTestNodeProfile)
    (readiness : PhysicalTestNodeReadiness)
    (authorization : SystemOperationAuthorization) (nowUnixMs : Nat) :
    Prog GateSig ActivationGateError PreparedPrivilegedActivation := do
  (Prog.ofExcept (profile.validateReadiness operation.action readiness)).mapErr
    .readinessRejected
  (Prog.ofExcept (authorization.validateFor operation readiness nowUnixMs)).mapErr
    .authorizationRejected
  let plan ← (Prog.ofExcept (ImmutableNixOsActivationPlanner.plan operation
    materialized)).mapErr .activationPlanRejected
  -- consumption comes after every check: a rejected request keeps its receipt
  consumeOnce authorization.id
  return {
    node := readiness.node
    readinessObservedAtUnixMs := readiness.observedAtUnixMs
    authorization := authorization.id
    authorizationExpiresAtUnixMs := authorization.expiresAtUnixMs
    preparedAtUnixMs := nowUnixMs
    plan
    readinessEvidence := readiness.evidenceLines
    authorizationEvidence := authorization.evidenceLines }

/-- What a prepared activation was composed from. -/
structure Prepared (operation : SystemCandidateOperation)
    (materialized : MaterializedNixOsCandidate) (profile : PhysicalTestNodeProfile)
    (readiness : PhysicalTestNodeReadiness)
    (authorization : SystemOperationAuthorization) (nowUnixMs : Nat)
    (p : PreparedPrivilegedActivation) : Prop where
  ready : profile.validateReadiness operation.action readiness = .ok ()
  covers : authorization.Covers operation readiness nowUnixMs
  planned : ImmutableNixOsActivationPlanner.plan operation materialized = .ok p.plan
  node : p.node = readiness.node
  observed : p.readinessObservedAtUnixMs = readiness.observedAtUnixMs
  id : p.authorization = authorization.id
  expires : p.authorizationExpiresAtUnixMs = authorization.expiresAtUnixMs
  preparedAt : p.preparedAtUnixMs = nowUnixMs
  readinessEvidence : p.readinessEvidence = readiness.evidenceLines
  authorizationEvidence : p.authorizationEvidence = authorization.evidenceLines

variable {operation : SystemCandidateOperation}
  {materialized : MaterializedNixOsCandidate} {profile : PhysicalTestNodeProfile}
  {readiness : PhysicalTestNodeReadiness}
  {authorization : SystemOperationAuthorization} {now : Nat}

/-- Whatever the ledger answers, `prepare` only returns what passed all
four checks. -/
theorem prepare_all :
    (prepare operation materialized profile readiness authorization now).All
      fun _ st => ∀ p, st = .returned p →
        Prepared operation materialized profile readiness authorization now p := by
  unfold prepare
  cases hr : profile.validateReadiness operation.action readiness with
  | error _ => intro p hp; cases hp
  | ok _ =>
      cases ha : authorization.validateFor operation readiness now with
      | error _ => intro p hp; cases hp
      | ok _ =>
          cases hp : ImmutableNixOsActivationPlanner.plan operation materialized with
          | error _ => intro p hp; cases hp
          | ok plan =>
              refine ⟨fun _ => nofun, ?_⟩
              intro ans
              cases ans with
              | error _ => intro p hp; cases hp
              | ok _ =>
                  intro p heq
                  cases heq
                  exact ⟨hr, SystemOperationAuthorization.validateFor_ok.mp ha, hp,
                    rfl, rfl, rfl, rfl, rfl, rfl, rfl⟩

theorem prepared_of_steps {tr : List (Event GateSig)} {p : PreparedPrivilegedActivation}
    (h : (prepare operation materialized profile readiness authorization now).Steps
      tr (.pure p)) :
    Prepared operation materialized profile readiness authorization now p :=
  prepare_all.of_steps h p rfl

end PrivilegedActivationGate

/-! ## The pilot node

One complete request, from the operation to the prepared activation, on
which the conditional results below are instantiated. -/

namespace Pilot

def operation : SystemCandidateOperation :=
  .new ⟨"op:activate"⟩ ⟨"candidate:one"⟩ ⟨"system:one"⟩ .testActivation

def materialized : MaterializedNixOsCandidate where
  candidate := ⟨"candidate:one"⟩
  systemSpec := ⟨"system:one"⟩
  materializationOperation := ⟨"op:materialize"⟩
  systemClosure := "/nix/store/abc123-nixos-system-blob-pilot"

def profile : PhysicalTestNodeProfile := .nixosPilot ⟨"node:lab"⟩ .x86_64

def readiness : PhysicalTestNodeReadiness where
  node := ⟨"node:lab"⟩
  observedArchitecture := .x86_64
  observedSubstrate := .nixOs
  enrolled := true
  trusted := true
  onExternalPower := true
  freeSpaceBytes := 16 * 1024 * 1024 * 1024
  storageHealthOk := true
  currentBootGeneration := some "nixos-generation:42"
  rollbackReference := some "nixos-generation:42"
  localConsoleRecoveryConfirmed := true
  observedAtUnixMs := 1000

def authorization (id : SystemAuthorizationId) : SystemOperationAuthorization where
  id := id
  operation := ⟨"op:activate"⟩
  candidate := ⟨"candidate:one"⟩
  systemSpec := ⟨"system:one"⟩
  node := ⟨"node:lab"⟩
  action := .testActivation
  authority := .hostAdministrator
  readinessObservedAtUnixMs := 1000
  usePolicy := .singleUse
  grantedBy := "user:owner"
  reason := "Approve reviewed physical-node experiment."
  grantedAtUnixMs := 1100
  expiresAtUnixMs := 61100

def plan : ImmutableNixOsActivationPlan where
  operationId := ⟨"op:activate"⟩
  candidate := ⟨"candidate:one"⟩
  systemSpec := ⟨"system:one"⟩
  materializationOperation := ⟨"op:materialize"⟩
  systemClosure := "/nix/store/abc123-nixos-system-blob-pilot"
  action := .testActivation
  effectClass := .temporaryLiveActivation
  authority := .hostAdministrator
  program := "/nix/store/abc123-nixos-system-blob-pilot/bin/switch-to-configuration"
  args := ["test"]
  expectedEffects :=
    [ "temporarily switch the running host to the already-materialized immutable candidate closure"
    , "do not change the boot-default generation" ]
  rollbackSemantics :=
    "A reboot returns to the previously recorded boot-default generation; the physical-node readiness record must carry that rollback reference."

def prepared (id : SystemAuthorizationId) : PreparedPrivilegedActivation where
  node := ⟨"node:lab"⟩
  readinessObservedAtUnixMs := 1000
  authorization := id
  authorizationExpiresAtUnixMs := 61100
  preparedAtUnixMs := 2000
  plan := plan
  readinessEvidence := readiness.evidenceLines
  authorizationEvidence := (authorization id).evidenceLines

/-- The receipt covers the pilot operation, whatever its id is. -/
theorem authorization_covers (id : SystemAuthorizationId) :
    (authorization id).Covers operation readiness 2000 where
  operation_eq := rfl
  candidate_eq := rfl
  systemSpec_eq := rfl
  node_eq := rfl
  snapshot_eq := rfl
  action_eq := rfl
  authority_eq := rfl
  administrator := rfl
  grantor := by
    show (Text.trim "user:owner").isEmpty = false
    decide
  reason := by
    show (Text.trim "Approve reviewed physical-node experiment.").isEmpty = false
    decide
  granted_after := by simp [readiness, authorization]
  window := by simp [authorization]
  started := by simp [authorization]
  not_expired := by simp [authorization]

/-- The gate prepares the pilot request when its ledger allows it. -/
theorem steps_prepare (id : SystemAuthorizationId) :
    (PrivilegedActivationGate.prepare operation materialized profile readiness
      (authorization id) 2000).Steps [⟨.consumeOnce id, .ok ()⟩] (.pure (prepared id)) := by
  have hready : profile.validateReadiness operation.action readiness = .ok () := rfl
  have hcovers : (authorization id).validateFor operation readiness 2000 = .ok () :=
    SystemOperationAuthorization.validateFor_ok.mpr (authorization_covers id)
  have hplan : ImmutableNixOsActivationPlanner.plan operation materialized = .ok plan := rfl
  simp only [PrivilegedActivationGate.prepare, hready, hcovers, hplan]
  exact .call (.refl _)

end Pilot

end Blob
