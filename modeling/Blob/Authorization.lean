import Blob.PhysicalNode
import Blob.Text

/-!
# Scoped authorization of system operations

A receipt that authorizes one operation on one candidate of one node,
reviewed against one readiness snapshot, inside one time window.
-/

namespace Blob

open Checks

inductive SystemAuthorizationUsePolicy where
  | singleUse
deriving Repr, DecidableEq

def SystemAuthorizationUsePolicy.debug : SystemAuthorizationUsePolicy → String
  | .singleUse => "SingleUse"

structure SystemOperationAuthorization where
  id : SystemAuthorizationId
  operation : SystemOperationId
  candidate : SystemCandidateId
  systemSpec : SystemSpecId
  node : NodeId
  action : SystemCandidateAction
  authority : SystemAuthorityClass
  /-- Binds the receipt to the readiness snapshot reviewed before approval. -/
  readinessObservedAtUnixMs : Nat
  usePolicy : SystemAuthorizationUsePolicy
  grantedBy : String
  reason : String
  grantedAtUnixMs : Nat
  expiresAtUnixMs : Nat
deriving Repr, DecidableEq

inductive SystemAuthorizationViolation where
  | operationMismatch
  | candidateMismatch
  | systemSpecMismatch
  | nodeMismatch
  | readinessSnapshotMismatch
  | actionMismatch
  | authorityMismatch (required granted : SystemAuthorityClass)
  | operationDoesNotRequireHostAdministrator
  | missingGrantor
  | missingReason
  | grantedBeforeReadiness
  | invalidExpiryWindow
  | notYetValid
  | expired
deriving Repr, DecidableEq

namespace SystemOperationAuthorization

def validateFor (self : SystemOperationAuthorization)
    (operation : SystemCandidateOperation) (readiness : PhysicalTestNodeReadiness)
    (nowUnixMs : Nat) : Except (List SystemAuthorizationViolation) Unit :=
  verdict
    [ violation (self.operation ≠ operation.id) .operationMismatch
    , violation (self.candidate ≠ operation.candidate) .candidateMismatch
    , violation (self.systemSpec ≠ operation.systemSpec) .systemSpecMismatch
    , violation (self.node ≠ readiness.node) .nodeMismatch
    , violation (self.readinessObservedAtUnixMs ≠ readiness.observedAtUnixMs)
        .readinessSnapshotMismatch
    , violation (self.action ≠ operation.action) .actionMismatch
    , violation (self.authority ≠ operation.authority)
        (.authorityMismatch operation.authority self.authority)
    , violation (operation.authority ≠ .hostAdministrator)
        .operationDoesNotRequireHostAdministrator
    , violation ((Text.trim self.grantedBy).isEmpty = true) .missingGrantor
    , violation ((Text.trim self.reason).isEmpty = true) .missingReason
    , violation (self.grantedAtUnixMs < self.readinessObservedAtUnixMs)
        .grantedBeforeReadiness
    , violation (self.expiresAtUnixMs ≤ self.grantedAtUnixMs) .invalidExpiryWindow
    , violation (nowUnixMs < self.grantedAtUnixMs) .notYetValid
    , violation (nowUnixMs ≥ self.expiresAtUnixMs) .expired ]

def evidenceLines (self : SystemOperationAuthorization) : List String :=
  [ "authorization:" ++ self.id.value
  , "operation:" ++ self.operation.value
  , "candidate:" ++ self.candidate.value
  , "system-spec:" ++ self.systemSpec.value
  , "node:" ++ self.node.value
  , "action:" ++ self.action.debug
  , "authority:" ++ self.authority.debug
  , "readiness-observed-at-unix-ms:" ++ toString self.readinessObservedAtUnixMs
  , "use-policy:" ++ self.usePolicy.debug
  , "granted-by:" ++ self.grantedBy
  , "reason:" ++ self.reason
  , "granted-at-unix-ms:" ++ toString self.grantedAtUnixMs
  , "expires-at-unix-ms:" ++ toString self.expiresAtUnixMs ]

/-- What an accepted receipt says about the operation, the snapshot and the
time it was accepted for. -/
structure Covers (auth : SystemOperationAuthorization)
    (operation : SystemCandidateOperation) (readiness : PhysicalTestNodeReadiness)
    (nowUnixMs : Nat) : Prop where
  operation_eq : auth.operation = operation.id
  candidate_eq : auth.candidate = operation.candidate
  systemSpec_eq : auth.systemSpec = operation.systemSpec
  node_eq : auth.node = readiness.node
  snapshot_eq : auth.readinessObservedAtUnixMs = readiness.observedAtUnixMs
  action_eq : auth.action = operation.action
  authority_eq : auth.authority = operation.authority
  administrator : operation.authority = .hostAdministrator
  grantor : (Text.trim auth.grantedBy).isEmpty = false
  reason : (Text.trim auth.reason).isEmpty = false
  granted_after : readiness.observedAtUnixMs ≤ auth.grantedAtUnixMs
  window : auth.grantedAtUnixMs < auth.expiresAtUnixMs
  started : auth.grantedAtUnixMs ≤ nowUnixMs
  not_expired : nowUnixMs < auth.expiresAtUnixMs

theorem validateFor_ok {auth : SystemOperationAuthorization}
    {operation : SystemCandidateOperation} {readiness : PhysicalTestNodeReadiness}
    {now : Nat} :
    auth.validateFor operation readiness now = .ok ()
      ↔ Covers auth operation readiness now := by
  simp only [validateFor, verdict_eq_ok, List.forall_mem_cons, List.not_mem_nil,
    false_implies, implies_true, and_true, violation_eq_nil, ne_eq, not_not,
    Nat.not_lt, Nat.not_le, ge_iff_le, Bool.not_eq_true]
  constructor
  · rintro ⟨h1, h2, h3, h4, h5, h6, h7, h8, h9, h10, h11, h12, h13, h14⟩
    exact ⟨h1, h2, h3, h4, h5, h6, h7, h8, h9, h10, h5 ▸ h11, h12, h13, h14⟩
  · rintro ⟨h1, h2, h3, h4, h5, h6, h7, h8, h9, h10, h11, h12, h13, h14⟩
    exact ⟨h1, h2, h3, h4, h5, h6, h7, h8, h9, h10, h5 ▸ h11, h12, h13, h14⟩

end SystemOperationAuthorization

end Blob
