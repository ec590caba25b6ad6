import Blob.Ids
import Blob.Checks

/-!
# System candidate operations

The four actions on a system candidate, the effect class and authority
class each one has (`actionPolicy`), and the check that an operation's
own fields agree with that policy (`validatePolicy`). Effect and
authority are ordinary fields of an operation: a caller may forge them,
so every boundary recomputes them from the action.
-/

namespace Blob

open Checks

inductive SystemArchitecture where
  | x86_64
  | aarch64
deriving Repr, DecidableEq

inductive SystemCandidateAction where
  | materialize
  | previewActivation
  | testActivation
  | buildIsolatedVm
deriving Repr, DecidableEq

inductive SystemEffectClass where
  | materializationOnly
  | previewHooks
  | temporaryLiveActivation
deriving Repr, DecidableEq

inductive SystemAuthorityClass where
  | user
  | hostAdministrator
deriving Repr, DecidableEq

/-! ## Debug text (`{:?}`) -/

def SystemArchitecture.debug : SystemArchitecture → String
  | .x86_64 => "X86_64"
  | .aarch64 => "Aarch64"

def SystemCandidateAction.debug : SystemCandidateAction → String
  | .materialize => "Materialize"
  | .previewActivation => "PreviewActivation"
  | .testActivation => "TestActivation"
  | .buildIsolatedVm => "BuildIsolatedVm"

def SystemEffectClass.debug : SystemEffectClass → String
  | .materializationOnly => "MaterializationOnly"
  | .previewHooks => "PreviewHooks"
  | .temporaryLiveActivation => "TemporaryLiveActivation"

def SystemAuthorityClass.debug : SystemAuthorityClass → String
  | .user => "User"
  | .hostAdministrator => "HostAdministrator"

/-! ## Operations -/

structure SystemCandidateOperation where
  id : SystemOperationId
  candidate : SystemCandidateId
  systemSpec : SystemSpecId
  action : SystemCandidateAction
  effectClass : SystemEffectClass
  authority : SystemAuthorityClass
deriving Repr, DecidableEq

inductive SystemOperationViolation where
  | effectClassMismatch (expected actual : SystemEffectClass)
  | authorityMismatch (expected actual : SystemAuthorityClass)
deriving Repr, DecidableEq

/-- The canonical effect and authority of an action. -/
def actionPolicy : SystemCandidateAction → SystemEffectClass × SystemAuthorityClass
  | .materialize | .buildIsolatedVm => (.materializationOnly, .user)
  | .previewActivation => (.previewHooks, .hostAdministrator)
  | .testActivation => (.temporaryLiveActivation, .hostAdministrator)

namespace SystemCandidateOperation

def new (id : SystemOperationId) (candidate : SystemCandidateId)
    (systemSpec : SystemSpecId) (action : SystemCandidateAction) :
    SystemCandidateOperation :=
  let (effectClass, authority) := actionPolicy action
  { id, candidate, systemSpec, action, effectClass, authority }

def validatePolicy (self : SystemCandidateOperation) :
    Except (List SystemOperationViolation) Unit :=
  let (expectedEffect, expectedAuthority) := actionPolicy self.action
  verdict
    [ violation (self.effectClass ≠ expectedEffect)
        (.effectClassMismatch expectedEffect self.effectClass)
    , violation (self.authority ≠ expectedAuthority)
        (.authorityMismatch expectedAuthority self.authority) ]

theorem validatePolicy_ok {op : SystemCandidateOperation} :
    op.validatePolicy = .ok () ↔ (op.effectClass, op.authority) = actionPolicy op.action := by
  simp [validatePolicy, Prod.ext_iff]

/-- An operation built from its action satisfies its own policy check. -/
theorem validatePolicy_new (id : SystemOperationId) (candidate : SystemCandidateId)
    (systemSpec : SystemSpecId) (action : SystemCandidateAction) :
    (new id candidate systemSpec action).validatePolicy = .ok () :=
  validatePolicy_ok.mpr rfl

end SystemCandidateOperation

end Blob
