import Blob.ActivationGate
import Blob.FileSystem

/-!
# The privileged activation helper

The narrow runtime that may activate a prepared closure: validation of
the request (`validatePrepared`), the observations of the host that must
precede a command (`observe`), the single-use ledger, the candidate
command, and the postconditions and rollback after it (`settle`).

The helper is generic in its host, command runner and ledger. Their
calls are the operations `HelperOp`; the durable ledger of the crate is
`FilePrivilegedExecutionLedger`, a program over file operations.

Times are Unix milliseconds; the code only compares them and subtracts
them saturating at zero, so they are natural numbers.
-/

namespace Blob

open Text

structure PrivilegedActivationRuntimePolicy where
  maxPreparedAgeMs : Nat := 30000
  maxReadinessAgeMs : Nat := 120000
deriving Repr, DecidableEq

inductive PrivilegedActivationCommandStatus where
  | succeeded
  | failed
deriving Repr, DecidableEq

structure PrivilegedCommandOutcome where
  status : PrivilegedActivationCommandStatus
  exitCode : Option Int
  stdout : String
  stderr : String
  durationUs : Nat
deriving Repr, DecidableEq

def PrivilegedCommandOutcome.succeeded (self : PrivilegedCommandOutcome) : Bool :=
  self.status == .succeeded

structure PrivilegedActivationExecution where
  node : NodeId
  authorization : SystemAuthorizationId
  action : SystemCandidateAction
  beforeSystemClosure : String
  afterSystemClosure : String
  command : PrivilegedCommandOutcome
  rollbackAttempted : Bool
  rollbackSucceeded : Bool
deriving Repr, DecidableEq

inductive PrivilegedExecutionLedgerError where
  | alreadyConsumed (id : SystemAuthorizationId)
  | io (text : String)
  | invalidLedgerRoot
deriving Repr, DecidableEq

inductive PrivilegedActivationError where
  | nodeMismatch (expected prepared : NodeId)
  | timestampOrderInvalid
  | preparedActivationStale
  | readinessStale
  | authorizationExpired
  | unsupportedAction (action : SystemCandidateAction)
  | authorityMismatch
  | effectClassMismatch
  | invalidSystemClosure
  | nonCanonicalSystemClosure
  | programMismatch
  | argumentsMismatch
  | evidenceMismatch
  | hostObservation (text : String)
  | candidateExecutableMissing
  | rollbackExecutableMissing
  | currentSystemNotBootDefault
  | executionLedger (error : PrivilegedExecutionLedgerError)
  | spawn (text : String)
  | unexpectedLiveSystemChange
  | testActivationPostconditionFailed
  | rollbackFailed
deriving Repr, DecidableEq

/-! ## The calls a helper makes -/

/-- The calls of the traits `NixOsActivationHost`, `PrivilegedCommandRunner`
and `PrivilegedExecutionLedger`. -/
inductive HelperOp where
  | canonicalizePath (path : PathBuf)
  | currentSystemClosure
  | bootDefaultClosure
  | executableExists (path : PathBuf)
  | run (program : PathBuf) (argument : String)
  | consumeOnce (authorization : SystemAuthorizationId) (preparedAtUnixMs : Nat)
deriving Repr, DecidableEq

abbrev HelperOp.Ans : HelperOp → Type
  | .canonicalizePath _ => Except String PathBuf
  | .currentSystemClosure => Except String PathBuf
  | .bootDefaultClosure => Except String PathBuf
  | .executableExists _ => Except String Bool
  | .run _ _ => Except String PrivilegedCommandOutcome
  | .consumeOnce _ _ => Except PrivilegedExecutionLedgerError Unit

abbrev HelperSig : Sig where
  Op := HelperOp
  Ans := HelperOp.Ans

namespace Host

def canonicalizePath (path : PathBuf) : Prog HelperSig String PathBuf :=
  .call (.canonicalizePath path) .ofExcept

def currentSystemClosure : Prog HelperSig String PathBuf :=
  .call .currentSystemClosure .ofExcept

def bootDefaultClosure : Prog HelperSig String PathBuf :=
  .call .bootDefaultClosure .ofExcept

def executableExists (path : PathBuf) : Prog HelperSig String Bool :=
  .call (.executableExists path) .ofExcept

end Host

namespace Runner

def run (program : PathBuf) (argument : String) :
    Prog HelperSig String PrivilegedCommandOutcome :=
  .call (.run program argument) .ofExcept

end Runner

namespace Ledger

def consumeOnce (authorization : SystemAuthorizationId) (preparedAtUnixMs : Nat) :
    Prog HelperSig PrivilegedExecutionLedgerError Unit :=
  .call (.consumeOnce authorization preparedAtUnixMs) .ofExcept

end Ledger

/-! ## Validation -/

/-- A single, non-empty entry of `/nix/store`. -/
def validStoreClosure (path : PathBuf) : Bool :=
  match path.components with
  | [.rootDir, .normal nix, .normal store, .normal closure] =>
      nix == utf8Bytes "nix" && store == utf8Bytes "store" && !closure.isEmpty
  | _ => false

def pathText (path : PathBuf) : String := fromUtf8Lossy path.bytes

structure PrivilegedNixOsActivationHelper where
  localNode : NodeId
  policy : PrivilegedActivationRuntimePolicy := {}
deriving Repr, DecidableEq

namespace PrivilegedNixOsActivationHelper

open Checks

/-- The effect class and argument of the two supported actions. -/
def expectedEffectAndArgument :
    SystemCandidateAction →
      Except PrivilegedActivationError (SystemEffectClass × String)
  | .previewActivation => .ok (.previewHooks, "dry-activate")
  | .testActivation => .ok (.temporaryLiveActivation, "test")
  | other => .error (.unsupportedAction other)

def validatePrepared (self : PrivilegedNixOsActivationHelper)
    (prepared : PreparedPrivilegedActivation) (nowUnixMs : Nat) :
    Except PrivilegedActivationError Unit := do
  reject (prepared.node ≠ self.localNode)
    (.nodeMismatch self.localNode prepared.node)
  reject (prepared.readinessObservedAtUnixMs > prepared.preparedAtUnixMs
      ∨ prepared.preparedAtUnixMs > nowUnixMs
      ∨ prepared.authorizationExpiresAtUnixMs ≤ prepared.preparedAtUnixMs)
    .timestampOrderInvalid
  reject (nowUnixMs - prepared.preparedAtUnixMs > self.policy.maxPreparedAgeMs)
    .preparedActivationStale
  reject (nowUnixMs - prepared.readinessObservedAtUnixMs
      > self.policy.maxReadinessAgeMs) .readinessStale
  reject (nowUnixMs ≥ prepared.authorizationExpiresAtUnixMs) .authorizationExpired
  let (expectedEffect, expectedArgument) ←
    expectedEffectAndArgument prepared.plan.action
  reject (prepared.plan.authority ≠ .hostAdministrator) .authorityMismatch
  reject (prepared.plan.effectClass ≠ expectedEffect) .effectClassMismatch
  reject (validStoreClosure (.ofString prepared.plan.systemClosure) = false)
    .invalidSystemClosure
  reject (prepared.plan.program
      ≠ prepared.plan.systemClosure ++ "/bin/switch-to-configuration")
    .programMismatch
  reject (prepared.plan.args ≠ [expectedArgument]) .argumentsMismatch
  let authorizationEvidence := "authorization:" ++ prepared.authorization.value
  let expiryEvidence :=
    "expires-at-unix-ms:" ++ toString prepared.authorizationExpiresAtUnixMs
  let nodeEvidence := "node:" ++ prepared.node.value
  let readinessEvidence :=
    "observed-at-unix-ms:" ++ toString prepared.readinessObservedAtUnixMs
  reject (¬ (authorizationEvidence ∈ prepared.authorizationEvidence)
      ∨ ¬ (expiryEvidence ∈ prepared.authorizationEvidence)
      ∨ ¬ (nodeEvidence ∈ prepared.readinessEvidence)
      ∨ ¬ (readinessEvidence ∈ prepared.readinessEvidence))
    .evidenceMismatch

/-- What validation establishes of a request alone: its own timestamps are
in order, and its effect, authority, closure, program, argument and
evidence are the ones its action determines. -/
structure WellFormed (p : PreparedPrivilegedActivation) : Prop where
  observed_le : p.readinessObservedAtUnixMs ≤ p.preparedAtUnixMs
  expires_gt : p.preparedAtUnixMs < p.authorizationExpiresAtUnixMs
  supported : ∃ argument,
    expectedEffectAndArgument p.plan.action = .ok (p.plan.effectClass, argument)
      ∧ p.plan.args = [argument]
  administrator : p.plan.authority = .hostAdministrator
  closure : validStoreClosure (.ofString p.plan.systemClosure) = true
  program : p.plan.program = p.plan.systemClosure ++ "/bin/switch-to-configuration"
  authorizationEvidence :
    "authorization:" ++ p.authorization.value ∈ p.authorizationEvidence
  expiryEvidence : "expires-at-unix-ms:" ++ toString p.authorizationExpiresAtUnixMs
    ∈ p.authorizationEvidence
  nodeEvidence : "node:" ++ p.node.value ∈ p.readinessEvidence
  snapshotEvidence : "observed-at-unix-ms:" ++ toString p.readinessObservedAtUnixMs
    ∈ p.readinessEvidence

/-- What validation establishes of a request at a helper and a time. -/
structure Fresh (helper : PrivilegedNixOsActivationHelper)
    (p : PreparedPrivilegedActivation) (now : Nat) : Prop where
  node : p.node = helper.localNode
  prepared_le : p.preparedAtUnixMs ≤ now
  prepared_age : now - p.preparedAtUnixMs ≤ helper.policy.maxPreparedAgeMs
  readiness_age : now - p.readinessObservedAtUnixMs ≤ helper.policy.maxReadinessAgeMs
  not_expired : now < p.authorizationExpiresAtUnixMs

variable {self : PrivilegedNixOsActivationHelper} {p : PreparedPrivilegedActivation}
  {now : Nat}

theorem validatePrepared_ok :
    self.validatePrepared p now = .ok () ↔ WellFormed p ∧ Fresh self p now := by
  simp only [validatePrepared, bind_eq_ok, reject_eq_ok, exists_const, gt_iff_lt,
    ge_iff_le, ne_eq, not_not, not_or, Nat.not_lt, Nat.not_le, Bool.not_eq_false,
    Prod.exists]
  constructor
  · rintro ⟨h1, ⟨h2, h3, h4⟩, h5, h6, h7, effect, argument, h8, h9, rfl, h11, h12, h13,
      h14, h15, h16, h17⟩
    exact ⟨⟨h2, h4, ⟨argument, h8, h13⟩, h9, h11, h12, h14, h15, h16, h17⟩,
      ⟨h1, h3, h5, h6, h7⟩⟩
  · rintro ⟨⟨h2, h4, ⟨argument, h8, h13⟩, h9, h11, h12, h14, h15, h16, h17⟩,
      ⟨h1, h3, h5, h6, h7⟩⟩
    exact ⟨h1, ⟨h2, h3, h4⟩, h5, h6, h7, _, argument, h8, h9, rfl, h11, h12, h13,
      h14, h15, h16, h17⟩

/-! ## Execution -/

/-- The paths `execute` works with once every check before the ledger has
passed. -/
structure Observed where
  candidate : PathBuf
  candidateProgram : PathBuf
  before : PathBuf
  rollbackProgram : PathBuf

/-- The part of `execute` before the ledger: canonical candidate, both
executables present, live closure equal to the boot default. -/
def observe (prepared : PreparedPrivilegedActivation) :
    Prog HelperSig PrivilegedActivationError Observed := do
  let candidate := PathBuf.ofString prepared.plan.systemClosure
  let canonicalCandidate ← (Host.canonicalizePath candidate).mapErr .hostObservation
  Prog.reject ((canonicalCandidate == candidate) = false) .nonCanonicalSystemClosure
  let candidateProgram := PathBuf.ofString prepared.plan.program
  let candidateExists ← (Host.executableExists candidateProgram).mapErr .hostObservation
  Prog.reject (candidateExists = false) .candidateExecutableMissing
  let before ← Host.currentSystemClosure.mapErr .hostObservation
  let bootDefault ← Host.bootDefaultClosure.mapErr .hostObservation
  Prog.reject (validStoreClosure before = false ∨ validStoreClosure bootDefault = false)
    .invalidSystemClosure
  Prog.reject ((before == bootDefault) = false) .currentSystemNotBootDefault
  let rollbackProgram := before.join "bin/switch-to-configuration"
  let rollbackExists ← (Host.executableExists rollbackProgram).mapErr .hostObservation
  Prog.reject (rollbackExists = false) .rollbackExecutableMissing
  return { candidate, candidateProgram, before, rollbackProgram }

def restoreBaseline (baseline rollbackProgram : PathBuf) :
    Prog HelperSig PrivilegedActivationError Unit := do
  let rollback ← (Runner.run rollbackProgram "test").mapErr .spawn
  Prog.reject (rollback.succeeded = false) .rollbackFailed
  let restored ← Host.currentSystemClosure.mapErr .hostObservation
  Prog.reject ((restored == baseline) = false) .rollbackFailed

/-- The report of an execution. -/
def report (prepared : PreparedPrivilegedActivation) (before after : PathBuf)
    (command : PrivilegedCommandOutcome) (rolledBack : Bool) :
    PrivilegedActivationExecution where
  node := prepared.node
  authorization := prepared.authorization
  action := prepared.plan.action
  beforeSystemClosure := pathText before
  afterSystemClosure := pathText after
  command := command
  rollbackAttempted := rolledBack
  rollbackSucceeded := rolledBack

/-- The part of `execute` after the candidate command: the live closure is
read again and, where it is not what the action promises, the baseline is
activated again. -/
def settle (prepared : PreparedPrivilegedActivation) (obs : Observed)
    (command : PrivilegedCommandOutcome) :
    Prog HelperSig PrivilegedActivationError PrivilegedActivationExecution := do
  let after ← Host.currentSystemClosure.mapErr .hostObservation
  Prog.reject (validStoreClosure after = false) .invalidSystemClosure
  match prepared.plan.action with
  | .previewActivation =>
      if after == obs.before then
        return report prepared obs.before after command false
      else
        restoreBaseline obs.before obs.rollbackProgram
        throw .unexpectedLiveSystemChange
  | .testActivation =>
      if command.succeeded then
        if after == obs.candidate then
          return report prepared obs.before after command false
        else
          restoreBaseline obs.before obs.rollbackProgram
          throw .testActivationPostconditionFailed
      else
        -- a failed activation may have stopped services: the baseline is
        -- activated again even if the live closure still points at it
        restoreBaseline obs.before obs.rollbackProgram
        let after ← Host.currentSystemClosure.mapErr .hostObservation
        return report prepared obs.before after command true
  | _ => .panic "validate_prepared restricts the privileged action set"

/-- `args[0]`. -/
def firstArgument (args : List String) : Prog HelperSig PrivilegedActivationError String :=
  match args with
  | argument :: _ => .pure argument
  | [] => .panic "index out of bounds: the len is 0 but the index is 0"

def execute (self : PrivilegedNixOsActivationHelper)
    (prepared : PreparedPrivilegedActivation) (nowUnixMs : Nat) :
    Prog HelperSig PrivilegedActivationError PrivilegedActivationExecution := do
  Prog.ofExcept (self.validatePrepared prepared nowUnixMs)
  let obs ← observe prepared
  -- the durable replay barrier of the privileged process
  (Ledger.consumeOnce prepared.authorization prepared.preparedAtUnixMs).mapErr
    .executionLedger
  let argument ← firstArgument prepared.plan.args
  let command ← (Runner.run obs.candidateProgram argument).mapErr .spawn
  settle prepared obs command

end PrivilegedNixOsActivationHelper

/-! ## The durable ledger -/

structure FilePrivilegedExecutionLedger where
  root : PathBuf
deriving Repr, DecidableEq

namespace FilePrivilegedExecutionLedger

/-- Lower-case hexadecimal text of the identifier's bytes. -/
def encoded (authorization : SystemAuthorizationId) : String :=
  hexText authorization.value

def receiptPath (self : FilePrivilegedExecutionLedger)
    (authorization : SystemAuthorizationId) : PathBuf :=
  self.root.join ("authorization-" ++ encoded authorization ++ ".used")

def validateRoot (self : FilePrivilegedExecutionLedger) :
    Prog FsSig PrivilegedExecutionLedgerError Unit := do
  let metadata ← (File.symlinkMetadata self.root).mapErr fun error => .io error.text
  Prog.reject (metadata.isSymlink = true ∨ metadata.isDir = false) .invalidLedgerRoot
  -- group or other access would let an unprivileged process interfere
  Prog.reject (metadata.mode &&& 0o077 ≠ 0) .invalidLedgerRoot

/-- Consume an authorization by creating its receipt exclusively. -/
def consumeOnce (self : FilePrivilegedExecutionLedger)
    (authorization : SystemAuthorizationId) (preparedAtUnixMs : Nat) :
    Prog FsSig PrivilegedExecutionLedgerError Unit := do
  self.validateRoot
  let path := self.receiptPath authorization
  let file ← (File.createNew path 0o600).mapErr fun error =>
    match error.kind with
    | .alreadyExists => .alreadyConsumed authorization
    | _ => .io error.text
  let contents : Prog FsSig IoError Unit := do
    File.writeAll file ("authorization=" ++ authorization.value ++ "\n")
    File.writeAll file ("prepared-at-unix-ms=" ++ toString preparedAtUnixMs ++ "\n")
    File.syncAll file
  contents.mapErr fun error => .io error.text
  (File.syncDirectory self.root).mapErr fun error => .io error.text

end FilePrivilegedExecutionLedger

end Blob
