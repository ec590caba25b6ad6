import Blob.HelperTrace

/-!
# The root-owned activation boundary

The trusted permit of a prepared activation - its fifteen
execution-sensitive fields and the canonical text they are stored as -,
the file store that matches and destroys permits, and the boundary that
runs the privileged helper only after a permit was destroyed.

The boundary is generic in its permit store: a store is the program
`consumeMatching` over operations of its own.
-/

namespace Blob

open Text

structure TrustedActivationPermit where
  authorization : SystemAuthorizationId
  node : NodeId
  operation : SystemOperationId
  candidate : SystemCandidateId
  systemSpec : SystemSpecId
  materializationOperation : SystemOperationId
  action : SystemCandidateAction
  effectClass : SystemEffectClass
  authority : SystemAuthorityClass
  systemClosure : String
  program : String
  args : List String
  readinessObservedAtUnixMs : Nat
  preparedAtUnixMs : Nat
  authorizationExpiresAtUnixMs : Nat
deriving Repr, DecidableEq

def actionToken : SystemCandidateAction → String
  | .materialize => "materialize"
  | .previewActivation => "preview-activation"
  | .testActivation => "test-activation"
  | .buildIsolatedVm => "build-isolated-vm"

def effectToken : SystemEffectClass → String
  | .materializationOnly => "materialization-only"
  | .previewHooks => "preview-hooks"
  | .temporaryLiveActivation => "temporary-live-activation"

def authorityToken : SystemAuthorityClass → String
  | .user => "user"
  | .hostAdministrator => "host-administrator"

namespace TrustedActivationPermit

def fromPrepared (prepared : PreparedPrivilegedActivation) : TrustedActivationPermit where
  authorization := prepared.authorization
  node := prepared.node
  operation := prepared.plan.operationId
  candidate := prepared.plan.candidate
  systemSpec := prepared.plan.systemSpec
  materializationOperation := prepared.plan.materializationOperation
  action := prepared.plan.action
  effectClass := prepared.plan.effectClass
  authority := prepared.plan.authority
  systemClosure := prepared.plan.systemClosure
  program := prepared.plan.program
  args := prepared.plan.args
  readinessObservedAtUnixMs := prepared.readinessObservedAtUnixMs
  preparedAtUnixMs := prepared.preparedAtUnixMs
  authorizationExpiresAtUnixMs := prepared.authorizationExpiresAtUnixMs

/-- The line of one argument. -/
def argLine (arg : String) (index : Nat) : String :=
  "arg-" ++ toString index ++ "=" ++ hexText arg

def argLines (args : List String) : List String :=
  args.zipIdx.map fun (arg, index) => argLine arg index

/-- The lines of the canonical text, less the empty one that ends it. -/
def canonicalLines (self : TrustedActivationPermit) : List String :=
  [ "theblob-activation-permit-v1"
  , "authorization=" ++ hexText self.authorization.value
  , "node=" ++ hexText self.node.value
  , "operation=" ++ hexText self.operation.value
  , "candidate=" ++ hexText self.candidate.value
  , "system-spec=" ++ hexText self.systemSpec.value
  , "materialization-operation=" ++ hexText self.materializationOperation.value
  , "action=" ++ actionToken self.action
  , "effect-class=" ++ effectToken self.effectClass
  , "authority=" ++ authorityToken self.authority
  , "system-closure=" ++ hexText self.systemClosure
  , "program=" ++ hexText self.program
  , "args-count=" ++ toString self.args.length ]
  ++ argLines self.args
  ++ [ "readiness-observed-at-unix-ms=" ++ toString self.readinessObservedAtUnixMs
     , "prepared-at-unix-ms=" ++ toString self.preparedAtUnixMs
     , "authorization-expires-at-unix-ms="
        ++ toString self.authorizationExpiresAtUnixMs ]

/-- The representation stored by the privileged issuer. -/
def canonicalText (self : TrustedActivationPermit) : String :=
  joinLines (self.canonicalLines ++ [""])

end TrustedActivationPermit

/-! ## Permit stores -/

inductive TrustedActivationPermitError where
  | missingOrAlreadyConsumed (authorization : SystemAuthorizationId)
  | permitMismatch
  | invalidPermitRoot
  | invalidPermitFile
  | io (text : String)
deriving Repr, DecidableEq

/-- A permit store over operations `S`. -/
structure TrustedActivationPermitStore (S : Sig) where
  consumeMatching : PreparedPrivilegedActivation →
    Prog S TrustedActivationPermitError Unit

/-- The one call of the `TrustedActivationPermitStore` trait. -/
inductive PermitOp where
  | consumeMatching (prepared : PreparedPrivilegedActivation)
deriving Repr, DecidableEq

abbrev PermitSig : Sig where
  Op := PermitOp
  Ans
    | .consumeMatching _ => Except TrustedActivationPermitError Unit

/-- A store that may answer anything. -/
def TrustedActivationPermitStore.any : TrustedActivationPermitStore PermitSig where
  consumeMatching prepared := .call (.consumeMatching prepared) .ofExcept

/-- The one operation on the set of texts behind a mutex: to remove one, which answers
whether it was there, or nothing when the mutex is poisoned. -/
inductive PermitSetOp where
  | remove (text : String)
deriving Repr, DecidableEq

abbrev PermitSetSig : Sig where
  Op := PermitSetOp
  Ans
    | .remove _ => Option Bool

/-- The store of the crate's tests. -/
def InMemoryTrustedActivationPermitStore.toStore :
    TrustedActivationPermitStore PermitSetSig where
  consumeMatching prepared :=
    let expected := (TrustedActivationPermit.fromPrepared prepared).canonicalText
    .call (.remove expected) fun
      | none => .throw (.io "permit store poisoned")
      | some true => .pure ()
      | some false => .throw (.missingOrAlreadyConsumed prepared.authorization)

/-- The file of an authorization's permit. -/
def permitFileName (authorization : SystemAuthorizationId) : String :=
  "authorization-" ++ hexText authorization.value ++ ".permit"

structure FileTrustedActivationPermitStore where
  root : PathBuf
  expectedOwnerUid : Nat
deriving Repr, DecidableEq

namespace FileTrustedActivationPermitStore

def validateRoot (self : FileTrustedActivationPermitStore) :
    Prog FsSig TrustedActivationPermitError Unit := do
  let metadata ← (File.symlinkMetadata self.root).mapErr fun error => .io error.text
  Prog.reject (metadata.isSymlink = true ∨ metadata.isDir = false
    ∨ metadata.uid ≠ self.expectedOwnerUid ∨ metadata.mode &&& 0o077 ≠ 0)
    .invalidPermitRoot

def permitPath (self : FileTrustedActivationPermitStore)
    (authorization : SystemAuthorizationId) : PathBuf :=
  self.root.join (permitFileName authorization)

/-- A vanished file means the permit is missing or was already consumed. -/
def vanished (authorization : SystemAuthorizationId) (error : IoError) :
    TrustedActivationPermitError :=
  match error.kind with
  | .notFound => .missingOrAlreadyConsumed authorization
  | _ => .io error.text

def validateFile (self : FileTrustedActivationPermitStore) (path : PathBuf)
    (authorization : SystemAuthorizationId) :
    Prog FsSig TrustedActivationPermitError Unit := do
  let metadata ← (File.symlinkMetadata path).mapErr (vanished authorization)
  Prog.reject (metadata.isSymlink = true ∨ metadata.isFile = false
    ∨ metadata.uid ≠ self.expectedOwnerUid ∨ metadata.mode &&& 0o777 ≠ 0o600)
    .invalidPermitFile

/-- `File::open(path).and_then(|mut file| file.read_to_string(..))`. -/
def readPermit (path : PathBuf) : Prog FsSig IoError String := do
  let file ← File.openFile path
  File.readToString file

def consumeMatching (self : FileTrustedActivationPermitStore)
    (prepared : PreparedPrivilegedActivation) :
    Prog FsSig TrustedActivationPermitError Unit := do
  self.validateRoot
  let path := self.permitPath prepared.authorization
  self.validateFile path prepared.authorization
  let observed ← (readPermit path).mapErr fun error => .io error.text
  let expected := (TrustedActivationPermit.fromPrepared prepared).canonicalText
  Prog.reject (observed ≠ expected) .permitMismatch
  -- concurrent helpers may both have read the file; one removal succeeds
  (File.removeFile path).mapErr (vanished prepared.authorization)
  (File.syncDirectory self.root).mapErr fun error => .io error.text

def toStore (self : FileTrustedActivationPermitStore) :
    TrustedActivationPermitStore FsSig where
  consumeMatching := self.consumeMatching

end FileTrustedActivationPermitStore

/-! ## The boundary -/

inductive RootActivationBoundaryError where
  | preparedRejected (error : PrivilegedActivationError)
  | trustedPermitRejected (error : TrustedActivationPermitError)
  | runtimeRejected (error : PrivilegedActivationError)
deriving Repr, DecidableEq

structure RootOwnedNixOsActivationBoundary where
  runtime : PrivilegedNixOsActivationHelper
deriving Repr, DecidableEq

namespace RootOwnedNixOsActivationBoundary

open PrivilegedNixOsActivationHelper

variable {S : Sig}

def execute (self : RootOwnedNixOsActivationBoundary)
    (prepared : PreparedPrivilegedActivation) (nowUnixMs : Nat)
    (permits : TrustedActivationPermitStore S) :
    Prog (S.sum HelperSig) RootActivationBoundaryError PrivilegedActivationExecution := do
  -- malformed or stale requests are rejected before the permit is spent
  (Prog.ofExcept (self.runtime.validatePrepared prepared nowUnixMs)).mapErr
    .preparedRejected
  (permits.consumeMatching prepared).inl.mapErr .trustedPermitRejected
  (self.runtime.execute prepared nowUnixMs).inr.mapErr .runtimeRejected

/-- An execution of the boundary: first one of the permit store, and once
that has succeeded one of the helper, on a validated request. -/
theorem steps_execute {self : RootOwnedNixOsActivationBoundary}
    {p : PreparedPrivilegedActivation} {now : Nat} {permits : TrustedActivationPermitStore S}
    {tr : List (Event (S.sum HelperSig))}
    {r : Prog (S.sum HelperSig) RootActivationBoundaryError PrivilegedActivationExecution}
    (h : (self.execute p now permits).Steps tr r) :
    tr = [] ∨ (self.runtime.validatePrepared p now = .ok ()
      ∧ ((∃ trp q, tr = trp.map .inl ∧ (permits.consumeMatching p).Steps trp q)
        ∨ ∃ trp trh q, tr = trp.map .inl ++ trh.map .inr
          ∧ (permits.consumeMatching p).Steps trp (.pure ())
          ∧ (self.runtime.execute p now).Steps trh q)) := by
  unfold execute at h
  cases hvalid : self.runtime.validatePrepared p now with
  | error e =>
      rw [hvalid] at h
      cases h
      exact Or.inl rfl
  | ok _ =>
      rw [hvalid, Prog.ofExcept_ok, Prog.mapErr_pure, Prog.bind_pure] at h
      refine Or.inr ⟨rfl, ?_⟩
      rcases Prog.steps_bind h with ⟨q, hq, -, -⟩ | ⟨_, tr₁, tr₂, rfl, hp, hh⟩
      · obtain ⟨q', hq', -⟩ := Prog.steps_mapErr hq
        obtain ⟨trp, q'', rfl, hq'', -⟩ := Prog.steps_inl hq'
        exact Or.inl ⟨trp, q'', rfl, hq''⟩
      · obtain ⟨q', hq', heq⟩ := Prog.steps_mapErr hp
        obtain rfl := Prog.mapErr_eq_pure heq.symm
        obtain ⟨trp, q'', rfl, hq'', heq'⟩ := Prog.steps_inl hq'
        obtain rfl := Prog.inl_eq_pure heq'.symm
        obtain ⟨q₂, hq₂, -⟩ := Prog.steps_mapErr hh
        obtain ⟨trh, q₂', rfl, hq₂', -⟩ := Prog.steps_inr hq₂
        exact Or.inr ⟨trp, trh, q₂', rfl, hq'', hq₂'⟩

/-- And conversely: a consumption that succeeds, and then the helper. -/
theorem execute_of_steps {self : RootOwnedNixOsActivationBoundary}
    {p : PreparedPrivilegedActivation} {now : Nat} (permits : TrustedActivationPermitStore S)
    (hvalid : self.runtime.validatePrepared p now = .ok ()) {trp : List (Event S)}
    {trh : List (Event HelperSig)}
    {q : Prog HelperSig PrivilegedActivationError PrivilegedActivationExecution}
    (hp : (permits.consumeMatching p).Steps trp (.pure ()))
    (hh : (self.runtime.execute p now).Steps trh q) :
    (self.execute p now permits).Steps (trp.map .inl ++ trh.map .inr)
      (q.inr.mapErr .runtimeRejected) := by
  unfold execute
  rw [hvalid, Prog.ofExcept_ok, Prog.mapErr_pure, Prog.bind_pure]
  exact (hp.inl.mapErr _).bind (hh.inr.mapErr _)

end RootOwnedNixOsActivationBoundary

end Blob
