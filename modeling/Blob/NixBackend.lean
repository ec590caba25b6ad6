import Blob.Path
import Blob.System

/-!
# Nix command plans

The one command by which the Nix backend carries out an operation on a
candidate target. A plan copies the operation's fields after the policy
check, so its effect and authority are those of its action.
-/

namespace Blob

open Text Checks

structure NixOsCandidateTarget where
  flakePath : PathBuf
  configuration : String
deriving Repr, DecidableEq

inductive NixOperationPlanError where
  | invalidOperation (violations : List SystemOperationViolation)
  | emptyFlakePath
  | invalidConfigurationName
deriving Repr, DecidableEq

structure NixCommandPlan where
  operationId : SystemOperationId
  candidate : SystemCandidateId
  systemSpec : SystemSpecId
  action : SystemCandidateAction
  effectClass : SystemEffectClass
  authority : SystemAuthorityClass
  program : String
  args : List String
  expectedEffects : List String
  rollbackSemantics : String
deriving Repr, DecidableEq

/-- A lower-case letter, a digit or `-`. -/
def configurationByte (byte : UInt8) : Bool :=
  (97 ≤ byte && byte ≤ 122) || (48 ≤ byte && byte ≤ 57) || byte == 45

def validConfigurationName (name : String) : Bool :=
  let bytes := utf8Bytes name
  if bytes.isEmpty || 63 < bytes.length then false
  else if bytes.head? == some 45 || bytes.getLast? == some 45 then false
  else bytes.all configurationByte

def validateTarget (target : NixOsCandidateTarget) : Except NixOperationPlanError Unit := do
  reject (target.flakePath.bytes.isEmpty = true) .emptyFlakePath
  reject (validConfigurationName target.configuration = false) .invalidConfigurationName

namespace NixOsBackend

/-- Program, arguments, expected effects and rollback semantics of an action. -/
def commandTexts (rebuildSelector nixConfigurationSelector : String) :
    SystemCandidateAction → String × List String × List String × String
  | .materialize =>
      ( "nix"
      , [ "build", "--no-link", "--print-out-paths"
        , nixConfigurationSelector ++ ".config.system.build.toplevel" ]
      , [ "materialize immutable candidate closure in the Nix store"
        , "do not activate the candidate on the running host" ]
      , "No live-system rollback is needed because the candidate is not activated." )
  | .buildIsolatedVm =>
      ( "nix"
      , [ "build", "--no-link", "--print-out-paths"
        , nixConfigurationSelector ++ ".config.system.build.vm" ]
      , [ "materialize an isolated QEMU VM candidate in the Nix store"
        , "do not activate the candidate on the running host" ]
      , "Discard the VM artifact/cache reference; the running host is unchanged." )
  | .previewActivation =>
      ( "nixos-rebuild"
      , ["dry-activate", "--flake", rebuildSelector]
      , [ "build the candidate and calculate live activation changes"
        , "backend dry-activation hooks explicitly marked as supported may execute" ]
      , "No configuration switch is performed; dry-activation hooks must be captured as evidence." )
  | .testActivation =>
      ( "nixos-rebuild"
      , ["test", "--flake", rebuildSelector]
      , [ "build and temporarily activate the candidate on the running host"
        , "do not make the candidate the boot-default generation" ]
      , "Reboot returns to the previous boot-default configuration; an explicit rollback path should also be recorded before execution." )

def planOperation (operation : SystemCandidateOperation) (target : NixOsCandidateTarget) :
    Except NixOperationPlanError NixCommandPlan := do
  operation.validatePolicy.mapError .invalidOperation
  validateTarget target
  let flakePath := target.flakePath.display
  let rebuildSelector := flakePath ++ "#" ++ target.configuration
  let nixConfigurationSelector :=
    flakePath ++ "#nixosConfigurations." ++ target.configuration
  let (program, args, expectedEffects, rollbackSemantics) :=
    commandTexts rebuildSelector nixConfigurationSelector operation.action
  return {
    operationId := operation.id
    candidate := operation.candidate
    systemSpec := operation.systemSpec
    action := operation.action
    effectClass := operation.effectClass
    authority := operation.authority
    program
    args
    expectedEffects
    rollbackSemantics }

/-- What a command plan takes over from its operation. -/
structure Planned (operation : SystemCandidateOperation) (plan : NixCommandPlan) : Prop where
  operationId : plan.operationId = operation.id
  candidate : plan.candidate = operation.candidate
  systemSpec : plan.systemSpec = operation.systemSpec
  action : plan.action = operation.action
  policy : (plan.effectClass, plan.authority) = actionPolicy plan.action

theorem planned_of_planOperation {operation : SystemCandidateOperation}
    {target : NixOsCandidateTarget} {plan : NixCommandPlan}
    (h : planOperation operation target = .ok plan) : Planned operation plan := by
  simp only [planOperation, bind_eq_ok, mapError_eq_ok, pure_eq_ok] at h
  obtain ⟨_, hpolicy, _, -, rfl⟩ := h
  exact ⟨rfl, rfl, rfl, rfl, SystemCandidateOperation.validatePolicy_ok.mp hpolicy⟩

end NixOsBackend

end Blob
