import Blob.Checks
import Blob.Execution

/-!
# Capability resolution

The resolver picks the best admissible pair of an implementation and a
node for the one Capability role of a graph; the verifier checks a plan,
from the resolver or from anybody else, against registry and graph. The
resolver's plan names registry entries by id, and the verifier looks the
first entry with that id up again.
-/

namespace Blob

open Checks

structure Registry where
  implementations : List CapabilityImplementation
  nodes : List NodeFacts
deriving Repr, DecidableEq

inductive ResolveError where
  | unsupportedGraph (reason : String)
  | noCandidate
  | verificationFailed (errors : List String)
deriving Repr, DecidableEq

structure VerificationReport where
  errors : List String
deriving Repr, DecidableEq

def VerificationReport.isValid (self : VerificationReport) : Bool := self.errors.isEmpty

/-! ## Candidates -/

/-- Why an implementation cannot run on a node: one reason for each check that
fails. -/
def candidateRejectionReasons (implementation : CapabilityImplementation)
    (node : NodeFacts) : List String :=
  [ violation (implementation.trusted = false) "implementation is not trusted"
  , violation (node.trusted = false) "node is not trusted"
  , violation (node.online = false) "node is offline"
  , violation (¬ ∃ platform ∈ implementation.supportedPlatforms,
      platform = "*" ∨ platform = node.platform) "platform mismatch"
  , violation (node.memoryBytes < implementation.requiredMemoryBytes) "insufficient memory"
  , violation (¬ ∀ required ∈ implementation.requiredAccelerators,
      ∃ available ∈ node.acceleratorTags, available = required) "missing accelerator"
  , violation (¬ ∃ runtime ∈ node.runtimeTags, runtime = implementation.runtime.tag)
      "runtime unavailable" ].flatten

/-- Quality descending, cost, latency and energy ascending, then the ids. -/
def compareCandidates (implA : CapabilityImplementation) (nodeA : NodeFacts)
    (implB : CapabilityImplementation) (nodeB : NodeFacts) : Ordering :=
  (compare implB.qualityPpm implA.qualityPpm)
    |>.then (compare implA.costMicroeur implB.costMicroeur)
    |>.then (compare implA.expectedLatencyUs implB.expectedLatencyUs)
    |>.then (compare implA.expectedEnergyUj implB.expectedEnergyUj)
    |>.then (compare implA.id.value implB.id.value)
    |>.then (compare nodeA.id.value nodeB.id.value)

/-! ## The verifier -/

namespace BindingVerifier

/-- The capability the first Capability role with this id requests. -/
def requestedCapability (graph : RequirementGraph) (role : RequirementRoleId) :
    Option CapabilityId :=
  graph.roles.findSome? fun candidate =>
    if candidate.id = role then
      match candidate.kind with
      | .capability capability => some capability
      | _ => none
    else none

def findImplementation (registry : Registry) (id : ImplementationId) :
    Option CapabilityImplementation :=
  registry.implementations.find? fun candidate => candidate.id = id

def findNode (registry : Registry) (id : NodeId) : Option NodeFacts :=
  registry.nodes.find? fun candidate => candidate.id = id

def roleErrors (graph : RequirementGraph) (resolved : ResolvedCapabilityRole) :
    List String :=
  match requestedCapability graph resolved.role with
  | some capability => violation (capability ≠ resolved.capability)
      ("role " ++ resolved.role.value ++ " resolved to wrong capability")
  | none => ["role " ++ resolved.role.value ++ " is not a requested Capability role"]

def candidateErrors (registry : Registry) (resolved : ResolvedCapabilityRole) :
    List String :=
  match findImplementation registry resolved.implementation with
  | none => ["implementation " ++ resolved.implementation.value ++ " not found"]
  | some implementation =>
      violation (implementation.implements ≠ resolved.capability)
        ("implementation " ++ implementation.id.value ++ " does not implement "
          ++ resolved.capability.value)
      ++ match findNode registry resolved.node with
        | none => ["node " ++ resolved.node.value ++ " not found"]
        | some node => candidateRejectionReasons implementation node

/-- The errors of one pass of the loop over the plan's entries. -/
def entryErrors (registry : Registry) (graph : RequirementGraph)
    (resolved : ResolvedCapabilityRole) : List String :=
  roleErrors graph resolved ++ candidateErrors registry resolved

def verify (registry : Registry) (graph : RequirementGraph) (plan : BindingPlan) :
    VerificationReport where
  errors :=
    violation (plan.graph ≠ graph.id) "plan references a different RequirementGraph"
      ++ plan.resolvedCapabilities.flatMap (entryErrors registry graph)

end BindingVerifier

/-! ## The resolver -/

namespace Resolver

abbrev Candidate : Type := CapabilityImplementation × NodeFacts

def capabilityRoles (graph : RequirementGraph) :
    List (RequirementRoleId × CapabilityId) :=
  graph.roles.filterMap fun role =>
    match role.kind with
    | .capability capability => some (role.id, capability)
    | _ => none

/-- Every implementation of the capability on every node, in registry order. -/
def candidates (registry : Registry) (capability : CapabilityId) : List Candidate :=
  (registry.implementations.filter fun implementation =>
    implementation.implements = capability).flatMap fun implementation =>
      registry.nodes.map fun node => (implementation, node)

def valid (registry : Registry) (capability : CapabilityId) : List Candidate :=
  ((candidates registry capability).filter fun (implementation, node) =>
    (candidateRejectionReasons implementation node).isEmpty).mergeSort
      fun (implA, nodeA) (implB, nodeB) => compareCandidates implA nodeA implB nodeB != .gt

def rejected (registry : Registry) (capability : CapabilityId) : List String :=
  ((candidates registry capability).filter fun (implementation, node) =>
    !(candidateRejectionReasons implementation node).isEmpty).map
      fun (implementation, node) =>
        implementation.id.value ++ "@" ++ node.id.value ++ " rejected: "
          ++ String.intercalate ", " (candidateRejectionReasons implementation node)

/-- The trace of a resolution, before the verifier has spoken. -/
def trace (registry : Registry) (capability : CapabilityId)
    (implementation : CapabilityImplementation) : ResolutionTrace where
  candidateNotes := (valid registry capability).map fun (implementation, node) =>
    "valid: " ++ implementation.id.value ++ "@" ++ node.id.value
  rejectedCandidates := rejected registry capability
  solverBackend := some "rust-mvp-deterministic@v1"
  verifierNotes := []
  -- `as i64`: the unsigned metrics are reinterpreted, not range-checked
  objectiveVector :=
    [ implementation.qualityPpm.toUInt64.toInt64
    , implementation.costMicroeur.toInt64
    , implementation.expectedLatencyUs.toInt64
    , implementation.expectedEnergyUj.toInt64 ]
  tieBreakNote := some "quality desc, cost/latency/energy asc, stable IDs"

def planId (graph : RequirementGraph) (implementation : CapabilityImplementation)
    (node : NodeFacts) : BindingPlanId :=
  ⟨"plan:" ++ graph.id.value ++ ":" ++ implementation.id.value ++ ":" ++ node.id.value⟩

/-- The plan that binds the role to a pair of registry entries, by their ids. -/
def plan (graph : RequirementGraph) (role : RequirementRoleId)
    (capability : CapabilityId) (implementation : CapabilityImplementation)
    (node : NodeFacts) (trace : ResolutionTrace) : BindingPlan where
  id := planId graph implementation node
  graph := graph.id
  resolvedCapabilities :=
    [{ role, capability, implementation := implementation.id, node := node.id }]
  grants := []
  dataRoutes := []
  expectedEffects := graph.requestedEffects
  trace := trace

def lease (plan : BindingPlan) : BindingLease where
  id := ⟨"lease:" ++ plan.id.value⟩
  plan := plan.id
  validUntilUnixMs := none
  rebindBoundary := .beforeExecution
  grants := plan.grants

def resolveSingleCapability (registry : Registry) (graph : RequirementGraph) :
    Except ResolveError (BindingPlan × BindingLease) := do
  reject (graph.constraints.isEmpty = false)
    (.unsupportedGraph "MVP resolver does not evaluate Constraint IR yet")
  match capabilityRoles graph with
  | [(role, capability)] =>
      match (valid registry capability).head? with
      | none => .error .noCandidate
      | some (implementation, node) => do
          let trace := trace registry capability implementation
          let proposal := plan graph role capability implementation node trace
          let verification := BindingVerifier.verify registry graph proposal
          reject (verification.isValid = false) (.verificationFailed verification.errors)
          let notes := trace.verifierNotes ++ ["binding independently verified"]
          let final := { proposal with trace := { trace with verifierNotes := notes } }
          return (final, lease final)
  | _ => .error (.unsupportedGraph "MVP resolver requires exactly one Capability role")

end Resolver

end Blob
