import Blob.RootBoundary

/-!
# The OS authority

A polkit check of an exact permit, and the root-owned issuer that turns
a successful check into a permit file. A grant carries the canonical
text of the permit that was shown to the authority; the issuer writes
that text and no other, to a file it creates itself.

`issue` is `approve`, which touches no file, followed by `createPermit`.
-/

namespace Blob

open Text

/-! ## Requests -/

inductive PolkitActivationAction where
  | previewActivation
  | testActivation
deriving Repr, DecidableEq

structure PkcheckCommandOutcome where
  exitCode : Option Int
  stdout : String
  stderr : String
deriving Repr, DecidableEq

inductive PolkitAuthorizationError where
  | invalidSystemBusName
  | invalidPkcheckProgram
  | unsupportedAction (action : SystemCandidateAction)
  | denied (stderr : String)
  | noAuthenticationAgent (stderr : String)
  | dismissed (stderr : String)
  | checkFailed (exitCode : Option Int) (stderr : String)
  | spawn (text : String)
deriving Repr, DecidableEq

namespace PolkitActivationAction

def actionId : PolkitActivationAction → String
  | .previewActivation => "org.theblob.nixos.preview-activation"
  | .testActivation => "org.theblob.nixos.test-activation"

def fromPrepared (prepared : PreparedPrivilegedActivation) :
    Except PolkitAuthorizationError PolkitActivationAction :=
  match prepared.plan.action with
  | .previewActivation => .ok .previewActivation
  | .testActivation => .ok .testActivation
  | other => .error (.unsupportedAction other)

end PolkitActivationAction

/-- A letter, a digit, `_` or `-`. -/
def busNameByte (byte : UInt8) : Bool :=
  (48 ≤ byte && byte ≤ 57) || (65 ≤ byte && byte ≤ 90) || (97 ≤ byte && byte ≤ 122)
    || byte == 95 || byte == 45

/-- A unique D-Bus name: `:` and at least two parts between dots. -/
def validUniqueSystemBusName (name : String) : Bool :=
  let bytes := utf8Bytes name
  if bytes.length < 4 || 255 < bytes.length || bytes.head? != some 58 then false
  else
    let parts := (bytes.drop 1).splitOn 46
    2 ≤ parts.length && parts.all fun part => !part.isEmpty && part.all busNameByte

structure PolkitAuthorizationRequest where
  systemBusName : String
  action : PolkitActivationAction
  approvedPermit : TrustedActivationPermit
deriving Repr, DecidableEq

def PolkitAuthorizationRequest.forPrepared (systemBusName : String)
    (prepared : PreparedPrivilegedActivation) :
    Except PolkitAuthorizationError PolkitAuthorizationRequest := do
  Checks.reject (validUniqueSystemBusName systemBusName = false) .invalidSystemBusName
  let action ← PolkitActivationAction.fromPrepared prepared
  return { systemBusName, action, approvedPermit := .fromPrepared prepared }

/-! ## The check -/

structure PolkitCheckPlan where
  program : PathBuf
  args : List String
deriving Repr, DecidableEq

/-- An absolute path to a file named `pkcheck`. -/
def isPkcheckProgram (program : PathBuf) : Bool :=
  program.isAbsolute
    && program.components.getLast? == some (.normal (utf8Bytes "pkcheck"))

def PolkitCheckPlan.new (pkcheckProgram : PathBuf) (request : PolkitAuthorizationRequest) :
    Except PolkitAuthorizationError PolkitCheckPlan := do
  Checks.reject (isPkcheckProgram pkcheckProgram = false) .invalidPkcheckProgram
  let permit := request.approvedPermit
  return {
    program := pkcheckProgram
    args :=
      [ "--action-id", request.action.actionId
      , "--system-bus-name", request.systemBusName
      , "--allow-user-interaction"
      , "--detail", "theblob_node", permit.node.value
      , "--detail", "theblob_candidate", permit.candidate.value
      , "--detail", "theblob_system_spec", permit.systemSpec.value
      , "--detail", "theblob_action", request.action.actionId
      , "--detail", "theblob_system_closure", permit.systemClosure ] }

/-- The call of the `PkcheckCommandRunner` trait. -/
inductive PkcheckOp where
  | run (plan : PolkitCheckPlan)
deriving Repr, DecidableEq

abbrev PkcheckSig : Sig where
  Op := PkcheckOp
  Ans
    | .run _ => Except String PkcheckCommandOutcome

/-- A successful OS authorization. -/
structure OsAuthorizationGrant where
  systemBusName : String
  action : PolkitActivationAction
  approvedPermitCanonical : String
  checkedAtUnixMs : Nat
deriving Repr, DecidableEq

structure PkcheckAuthorizationChecker where
  program : PathBuf
deriving Repr, DecidableEq

def PkcheckAuthorizationChecker.checkUserInitiated (self : PkcheckAuthorizationChecker)
    (request : PolkitAuthorizationRequest) (nowUnixMs : Nat) :
    Prog PkcheckSig PolkitAuthorizationError OsAuthorizationGrant := do
  let plan ← Prog.ofExcept (PolkitCheckPlan.new self.program request)
  let outcome ← (Prog.call (.run plan) .ofExcept : Prog PkcheckSig String _).mapErr .spawn
  match outcome.exitCode with
  | some 0 => return {
      systemBusName := request.systemBusName
      action := request.action
      approvedPermitCanonical := request.approvedPermit.canonicalText
      checkedAtUnixMs := nowUnixMs }
  | some 1 => throw (.denied outcome.stderr)
  | some 2 => throw (.noAuthenticationAgent outcome.stderr)
  | some 3 => throw (.dismissed outcome.stderr)
  | exitCode => throw (.checkFailed exitCode outcome.stderr)

/-! ## The issuer -/

structure IssuedActivationPermit where
  authorization : SystemAuthorizationId
  authorizedSystemBusName : String
  actionId : String
  permitPath : PathBuf
  issuedAtUnixMs : Nat
deriving Repr, DecidableEq

inductive PermitIssueError where
  | preparedRejected (error : PrivilegedActivationError)
  | unsupportedAction (action : SystemCandidateAction)
  | grantTimestampInvalid
  | grantStale
  | grantActionMismatch
  | grantExactBindingMismatch
  | invalidPermitRoot
  | alreadyIssued (authorization : SystemAuthorizationId)
  | invalidCreatedPermit
  | io (text : String)
deriving Repr, DecidableEq

structure RootOwnedActivationPermitIssuer where
  root : PathBuf
  expectedOwnerUid : Nat
  maxGrantAgeMs : Nat := 60000
  validator : PrivilegedNixOsActivationHelper
deriving Repr, DecidableEq

namespace RootOwnedActivationPermitIssuer

variable {S : Sig}

/-- The action of the request, when it is one that can be authorized. -/
def expectedAction (prepared : PreparedPrivilegedActivation) :
    Prog S PermitIssueError PolkitActivationAction :=
  match PolkitActivationAction.fromPrepared prepared with
  | .ok action => .pure action
  | .error (.unsupportedAction action) => .throw (.unsupportedAction action)
  | .error _ => .panic "internal error: entered unreachable code"

/-- The checks of `issue` that come before any file operation. -/
def approve (self : RootOwnedActivationPermitIssuer)
    (prepared : PreparedPrivilegedActivation) (grant : OsAuthorizationGrant)
    (nowUnixMs : Nat) : Prog S PermitIssueError PolkitActivationAction := do
  (Prog.ofExcept (self.validator.validatePrepared prepared nowUnixMs)).mapErr
    .preparedRejected
  Prog.reject (grant.checkedAtUnixMs < prepared.preparedAtUnixMs
    ∨ grant.checkedAtUnixMs > nowUnixMs) .grantTimestampInvalid
  Prog.reject (nowUnixMs - grant.checkedAtUnixMs > self.maxGrantAgeMs) .grantStale
  let action ← expectedAction prepared
  Prog.reject (grant.action ≠ action) .grantActionMismatch
  Prog.reject (grant.approvedPermitCanonical
    ≠ (TrustedActivationPermit.fromPrepared prepared).canonicalText)
    .grantExactBindingMismatch
  return action

def validateRoot (self : RootOwnedActivationPermitIssuer) :
    Prog FsSig PermitIssueError Unit := do
  let metadata ← (File.symlinkMetadata self.root).mapErr fun error => .io error.text
  Prog.reject (metadata.isSymlink = true ∨ metadata.isDir = false
    ∨ metadata.uid ≠ self.expectedOwnerUid ∨ metadata.mode &&& 0o077 ≠ 0)
    .invalidPermitRoot

/-- Written out here a second time, as the crate does. -/
def permitPath (self : RootOwnedActivationPermitIssuer)
    (authorization : SystemAuthorizationId) : PathBuf :=
  self.root.join ("authorization-" ++ hexText authorization.value ++ ".permit")

/-- `file.write_all(..).and_then(|_| file.sync_all())`. -/
def writePermit (file : Handle) (canonical : String) : Prog FsSig IoError Unit := do
  File.writeAll file canonical
  File.syncAll file

/-- The file operations of `issue`: create exclusively, write, sync and check,
removing the file again where writing or checking fails. -/
def createPermit (self : RootOwnedActivationPermitIssuer) (path : PathBuf)
    (authorization : SystemAuthorizationId) (canonical : String) :
    Prog FsSig PermitIssueError Unit := do
  self.validateRoot
  let file ← (File.createNew path 0o600).mapErr fun error =>
    match error.kind with
    | .alreadyExists => .alreadyIssued authorization
    | _ => .io error.text
  match ← (writePermit file canonical).attempt with
  | .error error =>
      let _ ← (File.removeFile path).attempt
      throw (.io error.text)
  | .ok _ =>
      let metadata ← (File.symlinkMetadata path).mapErr fun error => .io error.text
      if metadata.isSymlink = true ∨ metadata.isFile = false
          ∨ metadata.uid ≠ self.expectedOwnerUid ∨ metadata.mode &&& 0o777 ≠ 0o600 then
        let _ ← (File.removeFile path).attempt
        throw .invalidCreatedPermit
      else
        (File.syncDirectory self.root).mapErr fun error => .io error.text

def issue (self : RootOwnedActivationPermitIssuer)
    (prepared : PreparedPrivilegedActivation) (grant : OsAuthorizationGrant)
    (nowUnixMs : Nat) : Prog FsSig PermitIssueError IssuedActivationPermit := do
  let action ← self.approve prepared grant nowUnixMs
  let canonical := (TrustedActivationPermit.fromPrepared prepared).canonicalText
  let path := self.permitPath prepared.authorization
  self.createPermit path prepared.authorization canonical
  return {
    authorization := prepared.authorization
    authorizedSystemBusName := grant.systemBusName
    actionId := action.actionId
    permitPath := path
    issuedAtUnixMs := nowUnixMs }

/-- What the checks before any file operation establish. -/
structure Approved (issuer : RootOwnedActivationPermitIssuer)
    (prepared : PreparedPrivilegedActivation) (grant : OsAuthorizationGrant)
    (now : Nat) : Prop where
  validated : issuer.validator.validatePrepared prepared now = .ok ()
  prepared_le : prepared.preparedAtUnixMs ≤ grant.checkedAtUnixMs
  checked_le : grant.checkedAtUnixMs ≤ now
  age : now - grant.checkedAtUnixMs ≤ issuer.maxGrantAgeMs
  action : PolkitActivationAction.fromPrepared prepared = .ok grant.action
  exact_binding : grant.approvedPermitCanonical
    = (TrustedActivationPermit.fromPrepared prepared).canonicalText

end RootOwnedActivationPermitIssuer

end Blob
