/-!
# Identifiers

The identifier newtypes of the domain model. An identifier is an
arbitrary string; nothing about its content is validated.
-/

namespace Blob

structure TaskId where
  value : String
deriving Repr, DecidableEq

structure RequirementGraphId where
  value : String
deriving Repr, DecidableEq

structure RequirementRoleId where
  value : String
deriving Repr, DecidableEq

structure CapabilityId where
  value : String
deriving Repr, DecidableEq

structure ImplementationId where
  value : String
deriving Repr, DecidableEq

structure NodeId where
  value : String
deriving Repr, DecidableEq

structure BindingPlanId where
  value : String
deriving Repr, DecidableEq

structure BindingLeaseId where
  value : String
deriving Repr, DecidableEq

structure KnowledgeObjectId where
  value : String
deriving Repr, DecidableEq

structure WorkspaceId where
  value : String
deriving Repr, DecidableEq

structure EventId where
  value : String
deriving Repr, DecidableEq

structure SituationId where
  value : String
deriving Repr, DecidableEq

structure ImprovementProposalId where
  value : String
deriving Repr, DecidableEq

structure CausalRecordId where
  value : String
deriving Repr, DecidableEq

structure SystemSpecId where
  value : String
deriving Repr, DecidableEq

structure SystemFeatureId where
  value : String
deriving Repr, DecidableEq

structure SystemProfileId where
  value : String
deriving Repr, DecidableEq

structure ExperienceProfileId where
  value : String
deriving Repr, DecidableEq

structure SystemCandidateId where
  value : String
deriving Repr, DecidableEq

structure SystemOperationId where
  value : String
deriving Repr, DecidableEq

structure SystemAuthorizationId where
  value : String
deriving Repr, DecidableEq

end Blob
