import Blob.Text
import Blob.Prog
import Blob.Path
import Blob.Process
import Blob.Authorization
import Blob.ActivationGate
import Blob.PrivilegedHelper
import Blob.GateHelper
import Blob.ClosureProvenance
import Blob.PermitText
import Blob.DurableLedger
import Blob.LedgerRuns
import Blob.Stacking
import Blob.ExactApproval
import Blob.SingleUse
import Blob.CausalLog
import Blob.SituationIds
import Blob.ResolverAgreement
import Blob.RegistryOrder
import Blob.VerifierSoundness
import Blob.PermitHandover
import Blob.SpentAuthority
import Blob.PolkitConsent
import Blob.PermitScope
import Blob.PermitCounting
import Blob.GateLedger
import Blob.ReceiptScope
import Blob.VerticalSlice
import Blob.NodeProbe
import Blob.TruthfulOutcome
import Blob.FailedIssuance
import Blob.FlakeSelector
import Blob.PlanLanguage
import Blob.ClosureSpelling
import Blob.Technician
import Blob.BoundExecution
import Blob.BindingIds
import Blob.PowerProbe
import Blob.FreeSpace
import Blob.Translation
import Blob.ModuleReader
import Blob.ObjectiveVector
import Blob.SystemChange
import Blob.Numerals
import Blob.GenerationLink
import Blob.Implemented
import Blob.Confined
import Blob.ProductionRuns
import Blob.ProductionSafety
import Blob.Substitution
import Blob.MemoryStores
import Blob.StoreRefinement
import Blob.Linearization
import Blob.LedgerLinearization
import Blob.OsRelease
import Blob.HostProbe
import Blob.Preflight
import Blob.ComponentRuntime
import Blob.Availability
import Blob.Recoverability
import Blob.LaunchOrigin
