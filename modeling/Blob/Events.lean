import Blob.Ids

/-!
# Events and situations

The normalized events that adapters report, and the situations that
correlation derives from them.
-/

namespace Blob

inductive EventSource where
  | kernel
  | fileSystem
  | device
  | network
  | service
  | capability
  | user
  | externalSource
  | custom (name : String)
deriving Repr, DecidableEq

inductive EventTrustClass where
  | localKernel
  | trustedLocalService
  | trustedFabricNode
  | signedUpstreamMetadata
  | untrustedExternal
  | userDeclared
  | aiInferred
deriving Repr, DecidableEq

inductive SubjectRef where
  | workspace (id : WorkspaceId)
  | task (id : TaskId)
  | knowledgeObject (id : KnowledgeObjectId)
  | node (id : NodeId)
  | capability (id : CapabilityId)
  | platformSubject (name : String)
deriving Repr, DecidableEq

/-- An event of the domain (`blob_core::Event`). -/
structure Core.Event where
  id : EventId
  schemaVersion : Nat
  source : EventSource
  sourceNode : Option NodeId
  kind : String
  subjects : List SubjectRef
  observedAtUnixMs : Nat
  receivedAtUnixMs : Nat
  sourceSequence : Option Nat
  correlationKeys : List String
  attributes : List (String × String)
  trust : EventTrustClass
  provenance : List String
  causalParentIds : List EventId
deriving Repr, DecidableEq

structure SituationWindow where
  startUnixMs : Nat
  endUnixMs : Nat
deriving Repr, DecidableEq

structure Situation where
  id : SituationId
  kind : String
  summary : String
  evidenceEventIds : List EventId
  derivedFacts : List (String × String)
  subjects : List SubjectRef
  window : SituationWindow
  confidencePpm : Option Nat
  deterministicRuleProvenance : List String
  semanticProvenance : List String
  expiresAtUnixMs : Option Nat
deriving Repr, DecidableEq

end Blob
