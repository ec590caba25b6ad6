import Mathlib.Data.Finset.Erase
import Mathlib.Data.Finset.Insert
import Blob.PermitHandover
import Blob.SpentAuthority
import Blob.Substitution

/-!
# The stores of the tests

Permit store and replay ledger have an in-memory implementation, which the
tests of the boundary run on, and one of files, which a node runs on. The
files hold what the sets hold (`Mirrors`): a text is granted just when the
permit's file holds it, and an authorization is consumed just when its
receipt is there. Each operation of a boundary call keeps it so and answers
alike, but for one word: files can tell a permit with another text from
none, and the set cannot.
-/

namespace Blob

open Prog

variable {N : Type} (host : N → (o : HelperSig.Op) → HelperSig.Ans o × N)

/-- The consumed ids, behind a mutex. -/
structure InMemoryPrivilegedExecutionLedger where
  consumed : Finset SystemAuthorizationId := ∅
  poisoned : Bool := false

namespace InMemoryPrivilegedExecutionLedger

def wasConsumed (self : InMemoryPrivilegedExecutionLedger) (id : SystemAuthorizationId) : Bool :=
  !self.poisoned && decide (id ∈ self.consumed)

def consumeOnce (self : InMemoryPrivilegedExecutionLedger)
    (authorization : SystemAuthorizationId) (_preparedAtUnixMs : Nat) :
    Except PrivilegedExecutionLedgerError Unit × InMemoryPrivilegedExecutionLedger :=
  if self.poisoned then (.error (.io "execution ledger poisoned"), self)
  else if authorization ∈ self.consumed then (.error (.alreadyConsumed authorization), self)
  else (.ok (), { self with consumed := insert authorization self.consumed })

section

variable {self : InMemoryPrivilegedExecutionLedger} {authorization : SystemAuthorizationId}

theorem wasConsumed_iff (hsound : self.poisoned = false) :
    self.wasConsumed authorization = true ↔ authorization ∈ self.consumed := by
  simp [wasConsumed, hsound]

theorem wasConsumed_insert (hsound : self.poisoned = false) (other : SystemAuthorizationId) :
    ({ self with consumed := insert authorization self.consumed } :
      InMemoryPrivilegedExecutionLedger).wasConsumed other = true
      ↔ other = authorization ∨ self.wasConsumed other = true := by
  simp [wasConsumed, hsound]

theorem consumeOnce_new (hsound : self.poisoned = false) (hnew : authorization ∉ self.consumed)
    (preparedAtUnixMs : Nat) : self.consumeOnce authorization preparedAtUnixMs
      = (.ok (), { self with consumed := insert authorization self.consumed }) := by
  rw [consumeOnce, if_neg (Bool.not_eq_true _ ▸ hsound), if_neg hnew]

theorem consumeOnce_again (hsound : self.poisoned = false) (hold : authorization ∈ self.consumed)
    (preparedAtUnixMs : Nat) : self.consumeOnce authorization preparedAtUnixMs
      = (.error (.alreadyConsumed authorization), self) := by
  rw [consumeOnce, if_neg (Bool.not_eq_true _ ▸ hsound), if_pos hold]

end

/-- The calls of a helper, answered by this ledger and a host. -/
def serve : InMemoryPrivilegedExecutionLedger × N → (o : HelperSig.Op) →
    HelperSig.Ans o × (InMemoryPrivilegedExecutionLedger × N)
  | (self, n), .consumeOnce authorization preparedAtUnixMs =>
      ((self.consumeOnce authorization preparedAtUnixMs).1,
        ((self.consumeOnce authorization preparedAtUnixMs).2, n))
  | (self, n), o => ((host n o).1, (self, (host n o).2))

end InMemoryPrivilegedExecutionLedger

/-- The texts of the permits, behind a mutex. -/
structure InMemoryTrustedActivationPermitStore where
  permits : Finset String := ∅
  poisoned : Bool := false

namespace InMemoryTrustedActivationPermitStore

/-- The store and one text more. -/
def withText (self : InMemoryTrustedActivationPermitStore) (text : String) :
    InMemoryTrustedActivationPermitStore :=
  { self with permits := insert text self.permits }

/-- Panics on a poisoned mutex: no store is left. -/
def grant (self : InMemoryTrustedActivationPermitStore) (permit : TrustedActivationPermit) :
    Option InMemoryTrustedActivationPermitStore :=
  if self.poisoned then none
  else some (self.withText permit.canonicalText)

def grantFor (self : InMemoryTrustedActivationPermitStore)
    (prepared : PreparedPrivilegedActivation) : Option InMemoryTrustedActivationPermitStore :=
  self.grant (.fromPrepared prepared)

/-- The store less a text. -/
def without (self : InMemoryTrustedActivationPermitStore) (text : String) :
    InMemoryTrustedActivationPermitStore :=
  { self with permits := self.permits.erase text }

def serve (self : InMemoryTrustedActivationPermitStore) :
    (o : PermitSetSig.Op) → PermitSetSig.Ans o × InMemoryTrustedActivationPermitStore
  | .remove text =>
      if self.poisoned then (none, self)
      else (some (decide (text ∈ self.permits)), self.without text)

section

variable {self : InMemoryTrustedActivationPermitStore} {prepared : PreparedPrivilegedActivation}

end

end InMemoryTrustedActivationPermitStore

/-! ## The directories -/

namespace MemoryStores

variable {permits : FileTrustedActivationPermitStore} {ledger : FilePrivilegedExecutionLedger}
  {fs : Fs} {granted : InMemoryTrustedActivationPermitStore}
  {memory : InMemoryPrivilegedExecutionLedger} {created : Nat → Metadata}
  {prepared : PreparedPrivilegedActivation}

/-- The names of permits and receipts end differently. -/
theorem getLast?_permitPath (permits : FileTrustedActivationPermitStore)
    (authorization : SystemAuthorizationId) :
    (permits.permitPath authorization).bytes.getLast? = some 116 := by
  have hending : ∀ s : String, (Text.utf8Bytes (s ++ ".permit")).getLast? = some 116 := fun s =>
    SpentAuthority.getLast?_utf8Bytes_append s (by decide)
  rw [FileTrustedActivationPermitStore.permitPath, permitFileName, PathBuf.getLast?_join, hending]
  intro hnil
  have hlast := hending ("authorization-" ++ Text.hexText authorization.value)
  rw [hnil] at hlast
  cases hlast

theorem getLast?_receiptPath (ledger : FilePrivilegedExecutionLedger)
    (authorization : SystemAuthorizationId) :
    (ledger.receiptPath authorization).bytes.getLast? = some 100 := by
  have hending : ∀ s : String, (Text.utf8Bytes (s ++ ".used")).getLast? = some 100 := fun s =>
    SpentAuthority.getLast?_utf8Bytes_append s (by decide)
  rw [FilePrivilegedExecutionLedger.receiptPath, PathBuf.getLast?_join, hending]
  intro hnil
  have hlast := hending ("authorization-" ++ FilePrivilegedExecutionLedger.encoded authorization)
  rw [hnil] at hlast
  cases hlast

/-- Both directories are there and as the code wants them, and only files come under the
names of permits and receipts. -/
structure Directories (permits : FileTrustedActivationPermitStore)
    (ledger : FilePrivilegedExecutionLedger) (fs : Fs) : Prop where
  permitRoot : ∃ metadata, fs.dirs permits.root = some metadata
    ∧ metadata.SafeRoot permits.expectedOwnerUid
  ledgerRoot : ∃ metadata, fs.dirs ledger.root = some metadata
    ∧ FilePrivilegedExecutionLedger.SafeRoot metadata
  noFile : fs.names permits.root = none ∧ fs.names ledger.root = none
  noDirectory : ∀ authorization, fs.dirs (permits.permitPath authorization) = none
    ∧ fs.dirs (ledger.receiptPath authorization) = none
  fresh : fs.Fresh

/-- The sets hold what the files hold. -/
structure Mirrors (permits : FileTrustedActivationPermitStore)
    (ledger : FilePrivilegedExecutionLedger) (fs : Fs)
    (granted : InMemoryTrustedActivationPermitStore)
    (memory : InMemoryPrivilegedExecutionLedger) : Prop
    extends Directories permits ledger fs where
  sound : granted.poisoned = false ∧ memory.poisoned = false
  permit : ∀ authorization i, fs.names (permits.permitPath authorization) = some i →
    (fs.inodes i).metadata.SafeFile permits.expectedOwnerUid
      ∧ ∃ permit : TrustedActivationPermit, permit.authorization = authorization
        ∧ fs.content i = permit.canonicalText
  held : ∀ permit : TrustedActivationPermit, permit.canonicalText ∈ granted.permits
    ↔ fs.text (permits.permitPath permit.authorization) = some permit.canonicalText
  consumed : ∀ authorization, memory.wasConsumed authorization = true
    ↔ fs.names (ledger.receiptPath authorization) ≠ none

theorem Directories.stat_permitRoot (h : Directories permits ledger fs) :
    ∃ metadata, fs.stat permits.root = some metadata
      ∧ metadata.SafeRoot permits.expectedOwnerUid := by
  obtain ⟨metadata, hdir, hsafe⟩ := h.permitRoot
  exact ⟨metadata, by rw [Fs.stat, h.noFile.1, hdir], hsafe⟩

theorem Directories.stat_ledgerRoot (h : Directories permits ledger fs) :
    ∃ metadata, fs.stat ledger.root = some metadata
      ∧ FilePrivilegedExecutionLedger.SafeRoot metadata := by
  obtain ⟨metadata, hdir, hsafe⟩ := h.ledgerRoot
  exact ⟨metadata, by rw [Fs.stat, h.noFile.2, hdir], hsafe⟩

/-- A path that is not one of the two directories. -/
theorem Directories.ne_roots (h : Directories permits ledger fs) {path : PathBuf}
    (hpath : fs.dirs path = none) : path ≠ permits.root ∧ path ≠ ledger.root := by
  obtain ⟨metadata, hpermits, -⟩ := h.permitRoot
  obtain ⟨metadata', hledger, -⟩ := h.ledgerRoot
  constructor
  · rintro rfl
    rw [hpath] at hpermits
    cases hpermits
  · rintro rfl
    rw [hpath] at hledger
    cases hledger

/-- Giving and removing other names does not touch them. -/
theorem Directories.of_names (h : Directories permits ledger fs) {fs' : Fs} {path : PathBuf}
    (hpath : fs.dirs path = none) (hdirs : fs'.dirs = fs.dirs)
    (hnames : ∀ path', path' ≠ path → fs'.names path' = fs.names path') (hfresh : fs'.Fresh) :
    Directories permits ledger fs' := by
  obtain ⟨hpermits, hledger⟩ := h.ne_roots hpath
  refine ⟨hdirs ▸ h.permitRoot, hdirs ▸ h.ledgerRoot, ?_, hdirs ▸ h.noDirectory, hfresh⟩
  rw [hnames _ hpermits.symm, hnames _ hledger.symm]
  exact h.noFile

/-! ## What the files do -/

/-- A new file under a name, with a text in it. -/
def withFile (fs : Fs) (path : PathBuf) (metadata : Metadata) (text : String) : Fs :=
  (fs.create path metadata).append fs.next text

section WithFile

variable {path : PathBuf} {metadata : Metadata} {text : String}

theorem withFile_names_ne {path' : PathBuf} (hne : path' ≠ path) :
    (withFile fs path metadata text).names path' = fs.names path' := by
  rw [withFile, Fs.append_names, Fs.create_names_ne hne]

theorem withFile_names_self : (withFile fs path metadata text).names path = some fs.next := by
  rw [withFile, Fs.append_names, Fs.create_names_self]

theorem withFile_inodes_ne {i : Nat} (hi : i ≠ fs.next) :
    (withFile fs path metadata text).inodes i = fs.inodes i := by
  simp only [withFile, Fs.append, Fs.create, if_neg hi]

theorem withFile_inodes_self :
    (withFile fs path metadata text).inodes fs.next = ⟨text, metadata⟩ := by
  simp [withFile, Fs.append, Fs.create]

theorem withFile_text_ne (hfresh : fs.Fresh) {path' : PathBuf} (hne : path' ≠ path) :
    (withFile fs path metadata text).text path' = fs.text path' := by
  unfold Fs.text Fs.content
  rw [withFile_names_ne hne]
  cases hname : fs.names path' with
  | none => rfl
  | some i => rw [Option.map_some, Option.map_some,
      withFile_inodes_ne (Nat.ne_of_lt (hfresh path' i hname))]

theorem withFile_fresh (hfresh : fs.Fresh) : (withFile fs path metadata text).Fresh :=
  hfresh.create path metadata

/-- What one call has written in parts. -/
theorem withFile_append (more : String) :
    (withFile fs path metadata text).append fs.next more
      = withFile fs path metadata (text ++ more) := by
  unfold withFile Fs.append
  congr 1
  funext i
  by_cases hi : i = fs.next
  · simp [hi, String.append_assoc]
  · simp only [if_neg hi]

/-- A directory can still be opened. -/
theorem withFile_openFile {root : PathBuf} {directory : Metadata} (hfile : fs.names root = none)
    (hdir : fs.dirs root = some directory) (hne : root ≠ path) :
    (withFile fs path metadata text).serve created (.openFile root)
      = (.ok .dir, withFile fs path metadata text) := by
  have hname : (withFile fs path metadata text).names root = none := by
    rw [withFile_names_ne hne, hfile]
  have hdir' : (withFile fs path metadata text).dirs root = some directory := hdir
  simp only [Fs.serve, hname, hdir']

end WithFile

/-! ## The ledger -/

/-- What a receipt says. -/
def receiptText (authorization : SystemAuthorizationId) (preparedAtUnixMs : Nat) : String :=
  ("authorization=" ++ authorization.value ++ "\n")
    ++ ("prepared-at-unix-ms=" ++ toString preparedAtUnixMs ++ "\n")

/-- A call whose receipt is not there yet leaves it. -/
theorem run_consumeOnce_free (created : Nat → Metadata) (h : Directories permits ledger fs)
    {authorization : SystemAuthorizationId}
    (hfree : fs.names (ledger.receiptPath authorization) = none) (preparedAtUnixMs : Nat) :
    (ledger.consumeOnce authorization preparedAtUnixMs).run (Fs.serve created) fs
      = (.returned (), withFile fs (ledger.receiptPath authorization) (created 0o600)
        (receiptText authorization preparedAtUnixMs)) := by
  obtain ⟨metadata, hstat, hsafe⟩ := h.stat_ledgerRoot
  obtain ⟨root, hdir, -⟩ := h.ledgerRoot
  have hnone := (h.noDirectory authorization).2
  have hroot : ledger.root ≠ ledger.receiptPath authorization := (h.ne_roots hnone).2.symm
  have hlook : fs.serve created (.symlinkMetadata ledger.root) = (.ok metadata, fs) := by
    simp only [Fs.serve, hstat]
  have hcreate : fs.serve created (.createNew (ledger.receiptPath authorization) 0o600)
      = (.ok (.file fs.next), fs.create (ledger.receiptPath authorization) (created 0o600)) := by
    simp only [Fs.serve, if_pos (show fs.Free _ from ⟨hfree, hnone⟩)]
  have hwrite : (withFile fs (ledger.receiptPath authorization) (created 0o600)
        ("authorization=" ++ authorization.value ++ "\n")).serve created
      (.writeAll (.file fs.next) ("prepared-at-unix-ms=" ++ toString preparedAtUnixMs ++ "\n"))
      = (.ok (), withFile fs (ledger.receiptPath authorization) (created 0o600)
        (receiptText authorization preparedAtUnixMs)) :=
    congrArg (Prod.mk _) (withFile_append _)
  exact run_of_steps (FilePrivilegedExecutionLedger.steps_consumeEvents hsafe authorization
    preparedAtUnixMs (.file fs.next) .dir) (.cons hlook <| .cons hcreate <| .cons rfl <|
      .cons hwrite <| .cons rfl <| .cons (withFile_openFile h.noFile.2 hdir hroot) <|
        .cons rfl .nil)

theorem run_consumeOnce_taken (created : Nat → Metadata) (h : Directories permits ledger fs)
    {authorization : SystemAuthorizationId}
    (htaken : fs.names (ledger.receiptPath authorization) ≠ none) (preparedAtUnixMs : Nat) :
    (ledger.consumeOnce authorization preparedAtUnixMs).run (Fs.serve created) fs
      = (.failed (.alreadyConsumed authorization), fs) := by
  obtain ⟨metadata, hstat, hsafe⟩ := h.stat_ledgerRoot
  have hlook : fs.serve created (.symlinkMetadata ledger.root) = (.ok metadata, fs) := by
    simp only [Fs.serve, hstat]
  have hrefuse : fs.serve created (.createNew (ledger.receiptPath authorization) 0o600)
      = (.error Fs.fileExists, fs) := by
    simp only [Fs.serve, if_neg (show ¬ fs.Free _ from fun hfree => htaken hfree.1)]
  exact run_of_steps (FilePrivilegedExecutionLedger.steps_refuseEvents hsafe authorization
    preparedAtUnixMs) (.cons hlook <| .cons hrefuse .nil)

/-- A receipt is no permit, and consumes one authorization. -/
theorem Mirrors.consume (h : Mirrors permits ledger fs granted memory)
    {authorization : SystemAuthorizationId}
    (hfree : fs.names (ledger.receiptPath authorization) = none) (metadata : Metadata)
    (text : String) :
    Mirrors permits ledger (withFile fs (ledger.receiptPath authorization) metadata text) granted
      { memory with consumed := insert authorization memory.consumed } := by
  have hne : ∀ other, permits.permitPath other ≠ ledger.receiptPath authorization := fun other =>
    SpentAuthority.permitPath_ne_receiptPath permits ledger other authorization
  refine {
    toDirectories := h.of_names (h.noDirectory authorization).2 rfl
      (fun _ => withFile_names_ne) (withFile_fresh h.fresh)
    sound := h.sound
    permit := ?_, held := ?_, consumed := ?_ }
  · intro other i hname
    rw [withFile_names_ne (hne other)] at hname
    have hi : i ≠ fs.next := Nat.ne_of_lt (h.fresh _ i hname)
    rw [Fs.content, withFile_inodes_ne hi]
    exact h.permit other i hname
  · intro permit
    rw [h.held, withFile_text_ne h.fresh (hne _)]
  · intro other
    rw [InMemoryPrivilegedExecutionLedger.wasConsumed_insert h.sound.2, h.consumed]
    by_cases hother : other = authorization
    · subst hother
      simp [withFile_names_self]
    · rw [withFile_names_ne fun hpath => hother (ledger.receiptPath_injective hpath),
        or_iff_right hother]

/-- On files and in memory, a call for the same authorization is answered alike. -/
theorem Mirrors.consumeOnce (h : Mirrors permits ledger fs granted memory)
    (created : Nat → Metadata) (authorization : SystemAuthorizationId) (preparedAtUnixMs : Nat) :
    ((ledger.consumeOnce authorization preparedAtUnixMs).attempt.run (Fs.serve created) fs).1
        = (.returned (memory.consumeOnce authorization preparedAtUnixMs).1 :
          Status Empty (Except PrivilegedExecutionLedgerError Unit))
      ∧ Mirrors permits ledger
        ((ledger.consumeOnce authorization preparedAtUnixMs).attempt.run (Fs.serve created) fs :
          Status Empty (Except PrivilegedExecutionLedgerError Unit) × Fs).2 granted
        (memory.consumeOnce authorization preparedAtUnixMs).2 := by
  by_cases hfree : fs.names (ledger.receiptPath authorization) = none
  · have hnew : authorization ∉ memory.consumed := fun hmem => (h.consumed authorization).mp
      ((InMemoryPrivilegedExecutionLedger.wasConsumed_iff h.sound.2).mpr hmem) hfree
    have hrun := run_consumeOnce_free created h.toDirectories hfree preparedAtUnixMs
    rw [run_attempt_returned hrun,
      InMemoryPrivilegedExecutionLedger.consumeOnce_new h.sound.2 hnew]
    exact ⟨rfl, h.consume hfree _ _⟩
  · have hold : authorization ∈ memory.consumed :=
      (InMemoryPrivilegedExecutionLedger.wasConsumed_iff h.sound.2).mp
        ((h.consumed authorization).mpr hfree)
    have hrun := run_consumeOnce_taken created h.toDirectories hfree preparedAtUnixMs
    rw [run_attempt_failed hrun,
      InMemoryPrivilegedExecutionLedger.consumeOnce_again h.sound.2 hold]
    exact ⟨rfl, h⟩

/-! ## The permits -/

theorem permitPath_injective (permits : FileTrustedActivationPermitStore) :
    Function.Injective permits.permitPath := fun a b h =>
  @PermitRuns.permitPath_injective permits.root a b h

theorem receiptPath_ne_permitPath (permits : FileTrustedActivationPermitStore)
    (ledger : FilePrivilegedExecutionLedger) (a b : SystemAuthorizationId) :
    ledger.receiptPath a ≠ permits.permitPath b :=
  (SpentAuthority.permitPath_ne_receiptPath permits ledger b a).symm

/-- A new permit, under a name that was free. -/
theorem Mirrors.grant (h : Mirrors permits ledger fs granted memory)
    (permit : TrustedActivationPermit)
    (hfree : fs.names (permits.permitPath permit.authorization) = none) {metadata : Metadata}
    (hsafe : metadata.SafeFile permits.expectedOwnerUid) :
    Mirrors permits ledger
      (withFile fs (permits.permitPath permit.authorization) metadata permit.canonicalText)
      (granted.withText permit.canonicalText) memory := by
  refine {
    toDirectories := h.of_names (h.noDirectory permit.authorization).1 rfl
      (fun _ => withFile_names_ne) (withFile_fresh h.fresh)
    sound := h.sound
    permit := ?_, held := ?_, consumed := ?_ }
  · intro authorization i hname
    by_cases hpath : permits.permitPath authorization = permits.permitPath permit.authorization
    · rw [hpath, withFile_names_self, Option.some.injEq] at hname
      subst hname
      rw [Fs.content, withFile_inodes_self]
      dsimp only
      exact ⟨hsafe, permit, (permitPath_injective permits hpath).symm, rfl⟩
    · rw [withFile_names_ne hpath] at hname
      rw [Fs.content, withFile_inodes_ne (Nat.ne_of_lt (h.fresh _ i hname))]
      exact h.permit authorization i hname
  · intro other
    rw [InMemoryTrustedActivationPermitStore.withText, Finset.mem_insert, h.held]
    by_cases hsame : other.authorization = permit.authorization
    · have hnone : fs.text (permits.permitPath permit.authorization) = none := by
        rw [Fs.text, hfree]
        rfl
      rw [hsame, hnone, withFile, Fs.text_append_create, Option.some.injEq]
      refine ⟨fun hor => ?_, fun heq => Or.inl heq.symm⟩
      rcases hor with heq | hnone
      · exact heq.symm
      · cases hnone
    · have hne : permits.permitPath other.authorization
          ≠ permits.permitPath permit.authorization := fun hpath =>
        hsame (permitPath_injective permits hpath)
      have htext : other.canonicalText ≠ permit.canonicalText := fun heq =>
        hsame (congrArg TrustedActivationPermit.authorization
          (TrustedActivationPermit.eq_of_canonicalText_eq heq))
      rw [withFile_text_ne h.fresh hne, or_iff_right htext]
  · intro authorization
    rw [h.consumed, withFile_names_ne (receiptPath_ne_permitPath permits ledger _ _)]

/-- A permit is not spent by a request it is not the permit of. -/
theorem Directories.run_mismatch (h : Directories permits ledger fs) {i : Nat}
    (hname : fs.names (permits.permitPath prepared.authorization) = some i)
    (hfile : (fs.inodes i).metadata.SafeFile permits.expectedOwnerUid)
    (hother : fs.content i ≠ (TrustedActivationPermit.fromPrepared prepared).canonicalText)
    (created : Nat → Metadata) :
    (permits.consumeMatching prepared).run (Fs.serve created) fs
      = (.failed .permitMismatch, fs) := by
  obtain ⟨root, hroot, hsafe⟩ := h.stat_permitRoot
  have hlook : fs.serve created (.symlinkMetadata permits.root) = (.ok root, fs) := by
    simp only [Fs.serve, hroot]
  have hshown : fs.serve created (.symlinkMetadata (permits.permitPath prepared.authorization))
      = (.ok (fs.inodes i).metadata, fs) := by
    simp only [Fs.serve, Fs.stat, hname]
  have hopen : fs.serve created (.openFile (permits.permitPath prepared.authorization))
      = (.ok (.file i), fs) := by
    simp only [Fs.serve, hname]
  exact run_of_steps (FileTrustedActivationPermitStore.consumeMatching_of_mismatch prepared hsafe
    hfile (.file i) hother) (.cons hlook <| .cons hshown <| .cons hopen <| .cons rfl .nil)

/-- What an issue call returned, it had approved. -/
theorem approved_of_issued {issuer : RootOwnedActivationPermitIssuer}
    {grant : OsAuthorizationGrant} {nowUnixMs : Nat} {issued : IssuedActivationPermit}
    (h : ((issuer.issue prepared grant nowUnixMs).run (Fs.serve created) fs).1
      = .returned issued) : issuer.Approved prepared grant nowUnixMs := by
  obtain ⟨tr, q, hs, hstatus, -⟩ :=
    run_exec (Fs.serve_step created) (issuer.issue prepared grant nowUnixMs) fs
  rw [h] at hstatus
  cases q with
  | pure _ => exact (RootOwnedActivationPermitIssuer.issued_of_steps hs).1
  | _ => cases hstatus

section Issue

variable {issuer : RootOwnedActivationPermitIssuer}

/-- An approved issue call leaves the permit of its request. -/
theorem Directories.issue_approved (h : Directories permits ledger fs)
    (hroot : issuer.root = permits.root)
    (howner : issuer.expectedOwnerUid = permits.expectedOwnerUid)
    (hcreated : (created 0o600).SafeFile permits.expectedOwnerUid)
    {grant : OsAuthorizationGrant} {nowUnixMs : Nat}
    (happroved : issuer.Approved prepared grant nowUnixMs)
    (hfree : fs.names (permits.permitPath prepared.authorization) = none) :
    ∃ issued, (issuer.issue prepared grant nowUnixMs).run (Fs.serve created) fs
      = (.returned issued, withFile fs (permits.permitPath prepared.authorization)
        (created 0o600) (TrustedActivationPermit.fromPrepared prepared).canonicalText) := by
  have hpath : issuer.permitPath prepared.authorization
      = permits.permitPath prepared.authorization :=
    RootOwnedActivationPermitIssuer.permitPath_eq hroot _
  obtain ⟨root, hstat, hsafe⟩ := h.stat_permitRoot
  obtain ⟨directory, hdir, -⟩ := h.permitRoot
  have hnone := (h.noDirectory prepared.authorization).1
  rw [← howner] at hsafe hcreated
  have hlook : fs.serve created (.symlinkMetadata issuer.root) = (.ok root, fs) := by
    simp only [Fs.serve, hroot, hstat]
  have hcreate : fs.serve created (.createNew (issuer.permitPath prepared.authorization) 0o600)
      = (.ok (.file fs.next),
        fs.create (permits.permitPath prepared.authorization) (created 0o600)) := by
    simp only [Fs.serve, hpath, if_pos (show fs.Free _ from ⟨hfree, hnone⟩)]
  have hshown : (withFile fs (permits.permitPath prepared.authorization) (created 0o600)
        (TrustedActivationPermit.fromPrepared prepared).canonicalText).serve created
      (.symlinkMetadata (issuer.permitPath prepared.authorization))
      = (.ok (created 0o600), withFile fs (permits.permitPath prepared.authorization)
        (created 0o600) (TrustedActivationPermit.fromPrepared prepared).canonicalText) := by
    rw [hpath]
    simp only [Fs.serve, Fs.stat, withFile_names_self, withFile_inodes_self]
  have hopen : (withFile fs (permits.permitPath prepared.authorization) (created 0o600)
        (TrustedActivationPermit.fromPrepared prepared).canonicalText).serve created
      (.openFile issuer.root)
      = (.ok .dir, withFile fs (permits.permitPath prepared.authorization)
        (created 0o600) (TrustedActivationPermit.fromPrepared prepared).canonicalText) := by
    rw [hroot]
    exact withFile_openFile h.noFile.1 hdir (h.ne_roots hnone).1.symm
  exact ⟨_, run_of_steps (RootOwnedActivationPermitIssuer.issue_of_approved happroved hsafe
    hcreated (.file fs.next) .dir) (.cons hlook <| .cons hcreate <| .cons rfl <| .cons rfl <|
      .cons hshown <| .cons hopen <| .cons rfl .nil)⟩

/-- An issue call leaves the permit of its request, or it fails and leaves the files as they
are. -/
theorem Directories.run_issue (h : Directories permits ledger fs)
    (hroot : issuer.root = permits.root)
    (howner : issuer.expectedOwnerUid = permits.expectedOwnerUid)
    (hcreated : (created 0o600).SafeFile permits.expectedOwnerUid)
    (prepared : PreparedPrivilegedActivation) (grant : OsAuthorizationGrant) (nowUnixMs : Nat) :
    (fs.names (permits.permitPath prepared.authorization) = none
        ∧ ∃ issued, (issuer.issue prepared grant nowUnixMs).run (Fs.serve created) fs
          = (.returned issued, withFile fs (permits.permitPath prepared.authorization)
            (created 0o600) (TrustedActivationPermit.fromPrepared prepared).canonicalText))
      ∨ ∃ st, (issuer.issue prepared grant nowUnixMs).run (Fs.serve created) fs = (st, fs)
        ∧ ∀ issued, st ≠ .returned issued := by
  by_cases happroved : issuer.Approved prepared grant nowUnixMs
  · by_cases hfree : fs.names (permits.permitPath prepared.authorization) = none
    · exact Or.inl ⟨hfree, h.issue_approved hroot howner hcreated happroved hfree⟩
    · obtain ⟨root, hstat, hsafe⟩ := h.stat_permitRoot
      rw [← howner] at hsafe
      have hlook : fs.serve created (.symlinkMetadata issuer.root) = (.ok root, fs) := by
        simp only [Fs.serve, hroot, hstat]
      have hrefuse : fs.serve created
          (.createNew (issuer.permitPath prepared.authorization) 0o600)
          = (.error Fs.fileExists, fs) := by
        simp only [Fs.serve, RootOwnedActivationPermitIssuer.permitPath_eq hroot,
          if_neg (show ¬ fs.Free _ from fun hfree' => hfree hfree'.1)]
      exact Or.inr ⟨_, run_of_steps (RootOwnedActivationPermitIssuer.issue_of_taken happroved
        hsafe rfl) (.cons hlook <| .cons hrefuse .nil), fun issued hreturned => by cases hreturned⟩
  · -- nothing is touched before the request is approved
    refine Or.inr ⟨_, Prod.ext rfl ?_, fun issued hreturned =>
      happroved (approved_of_issued hreturned)⟩
    obtain ⟨tr, q, hs, -, hx⟩ :=
      run_exec (Fs.serve_step created) (issuer.issue prepared grant nowUnixMs) fs
    rcases steps_bind hs with ⟨q', hq', -, -⟩ | ⟨_, _, _, -, happrove, -⟩
    · obtain ⟨rfl, -⟩ := RootOwnedActivationPermitIssuer.steps_approve hq'
      exact exec_nil.mp hx
    · exact absurd ((RootOwnedActivationPermitIssuer.steps_approve happrove).2 _ rfl) happroved

end Issue

/-! ## Where nothing was issued or consumed -/

/-- One directory can be both. -/
theorem directories_emptyDirectory (howner : permits.expectedOwnerUid = 0)
    (hsame : ledger.root = permits.root)
    (hlast : permits.root.bytes.getLast? ≠ some 116 ∧ permits.root.bytes.getLast? ≠ some 100) :
    Directories permits ledger (.emptyDirectory permits.root) := by
  have hself : (Fs.emptyDirectory permits.root).dirs permits.root
      = some ⟨false, true, false, 0, 0o700⟩ := if_pos rfl
  refine ⟨⟨_, hself, ?_⟩, ⟨_, by rw [hsame, hself], by decide⟩, ⟨rfl, rfl⟩,
    fun authorization => ?_, Fs.fresh_emptyDirectory _⟩
  · rw [howner]
    decide
  · refine ⟨if_neg fun h => hlast.1 ?_, if_neg fun h => hlast.2 ?_⟩
    · rw [← h, getLast?_permitPath]
    · rw [← h, getLast?_receiptPath]

end MemoryStores

end Blob
