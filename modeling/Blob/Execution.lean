import Blob.Ids

/-!
# Requirements, capabilities and bindings

The domain types of capability resolution: what implementations offer,
what nodes are, what a requirement graph asks for, and the binding plans
and leases that answer it.
-/

namespace Blob

structure SemanticType where
  value : String
deriving Repr, DecidableEq

inductive EffectKind where
  | read
  | write
  | create
  | delete
  | network
  | execute
  | notify
  | send
  | purchase
  | systemChange
  | custom (name : String)
deriving Repr, DecidableEq

structure EffectSpec where
  kind : EffectKind
  targetType : Option SemanticType
  reversible : Bool
deriving Repr, DecidableEq

structure EffectEnvelope where
  effects : List EffectSpec
deriving Repr, DecidableEq

/-! ## Implementations and nodes -/

inductive RuntimeKind where
  | wasm
  | oci
  | microVm
  | native
  | localModel
  | remoteService
  | hardware
deriving Repr, DecidableEq

def RuntimeKind.tag : RuntimeKind → String
  | .wasm => "wasm"
  | .oci => "oci"
  | .microVm => "microvm"
  | .native => "native"
  | .localModel => "local-model"
  | .remoteService => "remote-service"
  | .hardware => "hardware"

structure CapabilityImplementation where
  id : ImplementationId
  implements : CapabilityId
  runtime : RuntimeKind
  trusted : Bool
  supportedPlatforms : List String
  requiredMemoryBytes : UInt64
  requiredAccelerators : List String
  networkRequired : Bool
  qualityPpm : UInt32
  expectedLatencyUs : UInt64
  expectedEnergyUj : UInt64
  costMicroeur : UInt64
deriving Repr, DecidableEq

inductive ControlDepth where
  | hosted
  | userlandMutable
  | systemMutable
  | kernelMutable
deriving Repr, DecidableEq

structure NodeFacts where
  id : NodeId
  platform : String
  trusted : Bool
  online : Bool
  memoryBytes : UInt64
  acceleratorTags : List String
  runtimeTags : List String
  dataResidency : String
  controlDepth : ControlDepth
deriving Repr, DecidableEq

/-! ## Requirement graphs -/

inductive RequirementRoleKind where
  | capability (id : CapabilityId)
  | existingObject (id : KnowledgeObjectId)
  | desiredOutput (type : SemanticType)
  | computeNode
  | resource (name : String)
deriving Repr, DecidableEq

structure RequirementRole where
  id : RequirementRoleId
  kind : RequirementRoleKind
deriving Repr, DecidableEq

inductive RelationKind where
  | consumes
  | produces
  | uses
  | executesOn
  | convertsTo
  | dependsOn
  | custom (name : String)
deriving Repr, DecidableEq

structure RequirementRelation where
  source : RequirementRoleId
  kind : RelationKind
  target : RequirementRoleId
deriving Repr, DecidableEq

inductive ConstraintClass where
  | policy
  | hard
  | preference
  | objective
deriving Repr, DecidableEq

inductive ConstraintValue where
  | bool (value : Bool)
  | int (value : Int)
  | text (value : String)
  | stableId (value : String)
deriving Repr, DecidableEq

inductive ConstraintExpr where
  | eq (symbol : String) (value : ConstraintValue)
  | ne (symbol : String) (value : ConstraintValue)
  | lt (symbol : String) (value : Int)
  | le (symbol : String) (value : Int)
  | gt (symbol : String) (value : Int)
  | ge (symbol : String) (value : Int)
  | mem (symbol : String) (values : List ConstraintValue)
  | and (exprs : List ConstraintExpr)
  | or (exprs : List ConstraintExpr)
  | not (expr : ConstraintExpr)
  | implies (premise conclusion : ConstraintExpr)
  | exactlyOne (symbols : List String)
  | atMost (count : Nat) (symbols : List String)
  | atLeast (count : Nat) (symbols : List String)

structure Constraint where
  class_ : ConstraintClass
  expression : ConstraintExpr
  explanation : String

structure RequirementGraph where
  id : RequirementGraphId
  roles : List RequirementRole
  relations : List RequirementRelation
  constraints : List Constraint
  requestedEffects : EffectEnvelope

/-! ## Tasks -/

inductive TaskState where
  | planned
  | ready
  | running
  | waitingForApproval
  | blocked
  | completed
  | failed
  | cancelled
deriving Repr, DecidableEq

def TaskState.debug : TaskState → String
  | .planned => "Planned"
  | .ready => "Ready"
  | .running => "Running"
  | .waitingForApproval => "WaitingForApproval"
  | .blocked => "Blocked"
  | .completed => "Completed"
  | .failed => "Failed"
  | .cancelled => "Cancelled"

structure Task where
  id : TaskId
  title : String
  state : TaskState
  inputObjects : List KnowledgeObjectId
  requirementGraphs : List RequirementGraphId
  outputObjects : List KnowledgeObjectId
  requestedEffects : EffectEnvelope
deriving Repr, DecidableEq

/-! ## Bindings -/

structure ResolvedCapabilityRole where
  role : RequirementRoleId
  capability : CapabilityId
  implementation : ImplementationId
  node : NodeId
deriving Repr, DecidableEq

structure DelegatedGrant where
  capability : String
  scope : String
  expiresAtUnixMs : Option Nat
deriving Repr, DecidableEq

structure DataRoute where
  sourceRole : RequirementRoleId
  destinationRole : RequirementRoleId
  projection : Option String
deriving Repr, DecidableEq

structure ResolutionTrace where
  candidateNotes : List String
  rejectedCandidates : List String
  solverBackend : Option String
  verifierNotes : List String
  objectiveVector : List Int64
  tieBreakNote : Option String
deriving DecidableEq

structure BindingPlan where
  id : BindingPlanId
  graph : RequirementGraphId
  resolvedCapabilities : List ResolvedCapabilityRole
  grants : List DelegatedGrant
  dataRoutes : List DataRoute
  expectedEffects : EffectEnvelope
  trace : ResolutionTrace
deriving DecidableEq

inductive RebindBoundary where
  | never
  | beforeExecution
  | atTaskCheckpoint
  | betweenPureSteps
deriving Repr, DecidableEq

structure BindingLease where
  id : BindingLeaseId
  plan : BindingPlanId
  validUntilUnixMs : Option Nat
  rebindBoundary : RebindBoundary
  grants : List DelegatedGrant
deriving Repr, DecidableEq

end Blob
