import Blob.Authority
import Blob.PermitText

/-!
# What a call does to the permit directory

The executions of the three programs that a permit passes through, one
lemma each. A check that grants has run `pkcheck` once, with exit code
zero (`steps_checkUserInitiated`). An issue call that got past its own
checks creates at most one file and writes at most once, to that file
(`issue_writes`); `Creation` lists the ways its file operations can end.
A consumer changes nothing but by removing the file
whose name it has read the exact permit from (`steps_consumeMatching`).
-/

namespace Blob

open Text

/-! ## The check -/

namespace PkcheckAuthorizationChecker

/-- The event of running `pkcheck`. -/
def pkcheckRun (plan : PolkitCheckPlan) (outcome : PkcheckCommandOutcome) :
    Event PkcheckSig :=
  ⟨.run plan, .ok outcome⟩

/-- The grant of a successful check. -/
def grantFor (request : PolkitAuthorizationRequest) (nowUnixMs : Nat) :
    OsAuthorizationGrant where
  systemBusName := request.systemBusName
  action := request.action
  approvedPermitCanonical := request.approvedPermit.canonicalText
  checkedAtUnixMs := nowUnixMs

/-- A granting check ran `pkcheck` once, and the grant carries the canonical
text of the request's permit. -/
theorem steps_checkUserInitiated {self : PkcheckAuthorizationChecker}
    {request : PolkitAuthorizationRequest} {nowUnixMs : Nat}
    {tr : List (Event PkcheckSig)} {grant : OsAuthorizationGrant}
    (h : (self.checkUserInitiated request nowUnixMs).Steps tr (.pure grant)) :
    ∃ plan outcome, tr = [pkcheckRun plan outcome] ∧ outcome.exitCode = some 0
      ∧ grant = grantFor request nowUnixMs := by
  have hall : (self.checkUserInitiated request nowUnixMs).All fun tr st =>
      ∀ grant, st = .returned grant → ∃ plan outcome,
        tr = [pkcheckRun plan outcome] ∧ outcome.exitCode = some 0
          ∧ grant = grantFor request nowUnixMs := by
    unfold checkUserInitiated
    cases PolkitCheckPlan.new self.program request with
    | error e => exact nofun
    | ok plan =>
        refine Prog.all_ask.mpr ⟨nofun, ?_⟩
        intro answer
        rcases answer with e | outcome
        · exact nofun
        · show Prog.All _ _
          split
          · rename_i hcode
            intro grant hgrant
            exact ⟨plan, outcome, rfl, hcode, (Prog.Status.returned.inj hgrant).symm⟩
          all_goals exact nofun
  exact hall.of_steps h grant rfl

end PkcheckAuthorizationChecker

/-! ## The issuer -/

/-- A permit directory that issuer and consumer accept. -/
def Metadata.SafeRoot (uid : Nat) (metadata : Metadata) : Prop :=
  ¬ (metadata.isSymlink = true ∨ metadata.isDir = false
    ∨ metadata.uid ≠ uid ∨ metadata.mode &&& 0o077 ≠ 0)

/-- A permit file that issuer and consumer accept. -/
def Metadata.SafeFile (uid : Nat) (metadata : Metadata) : Prop :=
  ¬ (metadata.isSymlink = true ∨ metadata.isFile = false
    ∨ metadata.uid ≠ uid ∨ metadata.mode &&& 0o777 ≠ 0o600)

/-- An operation that can create or write to a file. -/
def FsOp.isWrite : FsOp → Bool
  | .createNew _ _ => true
  | .writeAll _ _ => true
  | _ => false

/-- A file is created, or may have been written to, in this event. -/
def isWrite : Event FsSig → Bool
  | ⟨.createNew _ _, .ok _⟩ => true
  | ⟨.writeAll _ _, _⟩ => true
  | _ => false

/-- A program without such operations. -/
theorem writes_eq_nil {ε α : Type} {p q : Prog FsSig ε α} {tr : List (Event FsSig)}
    (huses : p.Uses fun o : FsOp => o.isWrite = false) (h : p.Steps tr q) :
    tr.filter isWrite = [] := by
  refine Prog.filter_eq_nil ?_ huses h
  rintro ⟨op, ans⟩ hop
  cases op with
  | createNew path mode => cases hop
  | writeAll file text => cases hop
  | _ => rfl

instance (uid : Nat) (metadata : Metadata) : Decidable (metadata.SafeRoot uid) :=
  inferInstanceAs (Decidable (¬ _))

instance (uid : Nat) (metadata : Metadata) : Decidable (metadata.SafeFile uid) :=
  inferInstanceAs (Decidable (¬ _))

namespace RootOwnedActivationPermitIssuer

/-- Both crates name a permit's file alike. -/
theorem permitPath_eq {self : RootOwnedActivationPermitIssuer}
    {store : FileTrustedActivationPermitStore} (hroot : self.root = store.root)
    (authorization : SystemAuthorizationId) :
    self.permitPath authorization = store.permitPath authorization := by
  unfold permitPath FileTrustedActivationPermitStore.permitPath permitFileName
  rw [hroot]

/-- A call that has performed an operation has passed its own checks. -/
theorem steps_approve {S : Sig} {self : RootOwnedActivationPermitIssuer}
    {prepared : PreparedPrivilegedActivation} {grant : OsAuthorizationGrant}
    {nowUnixMs : Nat} {tr : List (Event S)}
    {r : Prog S PermitIssueError PolkitActivationAction}
    (h : (self.approve prepared grant nowUnixMs).Steps tr r) :
    tr = [] ∧ ∀ action, r = .pure action → Approved self prepared grant nowUnixMs := by
  have hall : (self.approve prepared grant nowUnixMs : Prog S _ _).All fun tr st =>
      tr = [] ∧ ∀ action, st = .returned action →
        Approved self prepared grant nowUnixMs := by
    unfold approve
    cases hvalid : self.validator.validatePrepared prepared nowUnixMs with
    | error e => exact ⟨rfl, nofun⟩
    | ok _ =>
        refine Prog.all_reject.mpr ⟨fun _ => ⟨rfl, nofun⟩, ?_⟩
        intro htime
        refine Prog.all_reject.mpr ⟨fun _ => ⟨rfl, nofun⟩, ?_⟩
        intro hage
        unfold expectedAction
        cases haction : PolkitActivationAction.fromPrepared prepared with
        | error e => cases e <;> exact ⟨rfl, nofun⟩
        | ok action =>
            refine Prog.all_reject.mpr ⟨fun _ => ⟨rfl, nofun⟩, ?_⟩
            intro hsame
            refine Prog.all_reject.mpr ⟨fun _ => ⟨rfl, nofun⟩, ?_⟩
            intro hexact
            refine ⟨rfl, fun _ _ => ?_⟩
            exact {
              validated := hvalid
              prepared_le := by omega
              checked_le := by omega
              age := by omega
              action := by rw [haction, not_not.mp hsame]
              exact_binding := not_not.mp hexact }
  refine ⟨(hall.of_steps h).1, ?_⟩
  rintro action rfl
  exact (hall.of_steps h).2 action rfl

theorem approve_eq {S : Sig} {self : RootOwnedActivationPermitIssuer}
    {prepared : PreparedPrivilegedActivation} {grant : OsAuthorizationGrant}
    {nowUnixMs : Nat} (h : self.Approved prepared grant nowUnixMs) :
    (self.approve prepared grant nowUnixMs : Prog S _ _) = .pure grant.action := by
  have htime : ¬ (grant.checkedAtUnixMs < prepared.preparedAtUnixMs
      ∨ grant.checkedAtUnixMs > nowUnixMs) := by
    have := h.prepared_le
    have := h.checked_le
    omega
  have hage : ¬ nowUnixMs - grant.checkedAtUnixMs > self.maxGrantAgeMs := by
    have := h.age
    omega
  simp only [approve, h.validated, Prog.ofExcept_ok, Prog.mapErr_pure, Prog.bind_pure,
    Prog.reject_neg htime, Prog.reject_neg hage, expectedAction, h.action]
  rw [Prog.reject_neg (not_not.mpr rfl), Prog.bind_pure,
    Prog.reject_neg (not_not.mpr h.exact_binding)]
  rfl

instance (o : FsSig.Op) : Nonempty (FsSig.Ans o) := by
  cases o <;> exact ⟨.error ⟨.other, ""⟩⟩

/-- Events of one call that create at most one file, and write at most once,
this text to it. -/
def WritesOnce (path : PathBuf) (text : String) (tr : List (Event FsSig)) : Prop :=
  ∃ file answer, tr.filter isWrite
    <+: [⟨.createNew path 0o600, .ok file⟩, ⟨.writeAll file text, answer⟩]

/-- The events up to the synced permit file. -/
def writtenEvents (self : RootOwnedActivationPermitIssuer) (path : PathBuf) (canonical : String)
    (root : Metadata) (file : Handle) : List (Event FsSig) :=
  [ ⟨.symlinkMetadata self.root, .ok root⟩
  , ⟨.createNew path 0o600, .ok file⟩
  , ⟨.writeAll file canonical, .ok ()⟩
  , ⟨.syncAll file, .ok ()⟩ ]

/-- The complete executions of `createPermit`, by what got in the way. -/
inductive Creation (self : RootOwnedActivationPermitIssuer) (path : PathBuf)
    (canonical : String) : List (Event FsSig) → Prog.Status PermitIssueError Unit → Prop
  | rootUnread (error : IoError) (e : PermitIssueError) :
      Creation self path canonical [⟨.symlinkMetadata self.root, .error error⟩] (.failed e)
  | rootUnsafe (root : Metadata) (e : PermitIssueError) :
      Creation self path canonical [⟨.symlinkMetadata self.root, .ok root⟩] (.failed e)
  | uncreated (root : Metadata) (error : IoError) (e : PermitIssueError) :
      Creation self path canonical [⟨.symlinkMetadata self.root, .ok root⟩,
        ⟨.createNew path 0o600, .error error⟩] (.failed e)
  | unwritten (root : Metadata) (file : Handle) (error : IoError)
      (removed : Except IoError Unit) (e : PermitIssueError) :
      Creation self path canonical [⟨.symlinkMetadata self.root, .ok root⟩,
        ⟨.createNew path 0o600, .ok file⟩, ⟨.writeAll file canonical, .error error⟩,
        ⟨.removeFile path, removed⟩] (.failed e)
  | unsynced (root : Metadata) (file : Handle) (error : IoError)
      (removed : Except IoError Unit) (e : PermitIssueError) :
      Creation self path canonical [⟨.symlinkMetadata self.root, .ok root⟩,
        ⟨.createNew path 0o600, .ok file⟩, ⟨.writeAll file canonical, .ok ()⟩,
        ⟨.syncAll file, .error error⟩, ⟨.removeFile path, removed⟩] (.failed e)
  | fileUnread (root : Metadata) (file : Handle) (error : IoError) (e : PermitIssueError) :
      Creation self path canonical (self.writtenEvents path canonical root file
        ++ [⟨.symlinkMetadata path, .error error⟩]) (.failed e)
  | fileUnsafe (root metadata : Metadata) (file : Handle) (removed : Except IoError Unit)
      (e : PermitIssueError) :
      Creation self path canonical (self.writtenEvents path canonical root file
        ++ [⟨.symlinkMetadata path, .ok metadata⟩,
        ⟨.removeFile path, removed⟩]) (.failed e)
  | rootUnopened (root metadata : Metadata) (file : Handle) (error : IoError)
      (e : PermitIssueError) :
      Creation self path canonical (self.writtenEvents path canonical root file
        ++ [⟨.symlinkMetadata path, .ok metadata⟩,
        ⟨.openFile self.root, .error error⟩]) (.failed e)
  | rootUnsynced (root metadata : Metadata) (file directory : Handle) (error : IoError)
      (e : PermitIssueError) :
      Creation self path canonical (self.writtenEvents path canonical root file
        ++ [⟨.symlinkMetadata path, .ok metadata⟩,
        ⟨.openFile self.root, .ok directory⟩, ⟨.syncAll directory, .error error⟩]) (.failed e)
  | done {root metadata : Metadata} (file directory : Handle)
      (safeRoot : root.SafeRoot self.expectedOwnerUid)
      (safeFile : metadata.SafeFile self.expectedOwnerUid) :
      Creation self path canonical (self.writtenEvents path canonical root file
        ++ [⟨.symlinkMetadata path, .ok metadata⟩,
        ⟨.openFile self.root, .ok directory⟩, ⟨.syncAll directory, .ok ()⟩]) (.returned ())

theorem createPermit_complete (self : RootOwnedActivationPermitIssuer) (path : PathBuf)
    (authorization : SystemAuthorizationId) (canonical : String) :
    (self.createPermit path authorization canonical).All fun tr st =>
      st ≠ .running → Creation self path canonical tr st := by
  refine Prog.all_bind.mpr (Prog.all_ask.mpr ⟨by simp, ?_⟩)
  intro root
  rcases root with error | root
  · exact fun _ => .rootUnread error _
  refine Prog.all_reject_last.mpr ⟨fun _ _ => .rootUnsafe root _, ?_⟩
  intro hroot
  refine Prog.all_ask.mpr ⟨by simp, ?_⟩
  intro created
  rcases created with error | file
  · exact fun _ => .uncreated root error _
  refine Prog.all_call.mpr ⟨by simp, ?_⟩
  intro written
  rcases written with error | _
  · refine Prog.all_call.mpr ⟨by simp, ?_⟩
    intro removed
    cases removed <;> exact fun _ => .unwritten root file error _ _
  refine Prog.all_call.mpr ⟨by simp, ?_⟩
  intro synced
  rcases synced with error | _
  · refine Prog.all_call.mpr ⟨by simp, ?_⟩
    intro removed
    cases removed <;> exact fun _ => .unsynced root file error _ _
  refine Prog.all_ask.mpr ⟨by simp, ?_⟩
  intro metadata
  rcases metadata with error | metadata
  · exact fun _ => .fileUnread root file error _
  show Prog.All _ (if _ then _ else _)
  split
  · refine Prog.all_call.mpr ⟨by simp, ?_⟩
    intro removed
    cases removed <;> exact fun _ => .fileUnsafe root metadata file _ _
  · rename_i hfile
    refine Prog.all_call.mpr ⟨by simp, ?_⟩
    intro opened
    rcases opened with error | directory
    · exact fun _ => .rootUnopened root metadata file error _
    refine Prog.all_call.mpr ⟨by simp, ?_⟩
    intro closed
    rcases closed with error | _
    · exact fun _ => .rootUnsynced root metadata file directory error _
    · exact fun _ => .done file directory hroot hfile

theorem Creation.writes {self : RootOwnedActivationPermitIssuer} {path : PathBuf}
    {canonical : String} {tr : List (Event FsSig)} {st : Prog.Status PermitIssueError Unit}
    (h : Creation self path canonical tr st) : WritesOnce path canonical tr := by
  cases h with
  | rootUnread error e => exact ⟨.dir, .ok (), List.nil_prefix⟩
  | rootUnsafe root e => exact ⟨.dir, .ok (), List.nil_prefix⟩
  | uncreated root error e => exact ⟨.dir, .ok (), List.nil_prefix⟩
  | unwritten root file error removed e => exact ⟨file, .error error, List.prefix_rfl⟩
  | unsynced root file error removed e => exact ⟨file, .ok (), List.prefix_rfl⟩
  | fileUnread root file error e => exact ⟨file, .ok (), List.prefix_rfl⟩
  | fileUnsafe root metadata file removed e => exact ⟨file, .ok (), List.prefix_rfl⟩
  | rootUnopened root metadata file error e => exact ⟨file, .ok (), List.prefix_rfl⟩
  | rootUnsynced root metadata file directory error e => exact ⟨file, .ok (), List.prefix_rfl⟩
  | done file directory _ _ => exact ⟨file, .ok (), List.prefix_rfl⟩

theorem createPermit_writes (self : RootOwnedActivationPermitIssuer) (path : PathBuf)
    (authorization : SystemAuthorizationId) (canonical : String) :
    (self.createPermit path authorization canonical).All fun tr _ =>
      WritesOnce path canonical tr := by
  refine Prog.all_of_complete (createPermit_complete self path authorization canonical) ?_ ?_
  · intro tr st h
    exact h.writes
  · intro tr tr' st h
    obtain ⟨file, answer, hwrites⟩ := h.writes
    rw [List.filter_append] at hwrites
    exact ⟨file, answer, (List.prefix_append _ _).trans hwrites⟩

/-- An issue call that has done anything has passed its own checks; it writes
the text of the permit its grant carries, once, to a file it has created. -/
theorem issue_writes {self : RootOwnedActivationPermitIssuer}
    {prepared : PreparedPrivilegedActivation} {grant : OsAuthorizationGrant}
    {nowUnixMs : Nat} {tr : List (Event FsSig)}
    {r : Prog FsSig PermitIssueError IssuedActivationPermit}
    (h : (self.issue prepared grant nowUnixMs).Steps tr r) :
    tr = [] ∨ (Approved self prepared grant nowUnixMs
      ∧ WritesOnce (self.permitPath prepared.authorization)
        (TrustedActivationPermit.fromPrepared prepared).canonicalText tr) := by
  rcases Prog.steps_bind h with ⟨q, hq, -, -⟩ | ⟨action, tr₁, tr₂, rfl, happrove, hs⟩
  · exact Or.inl (steps_approve hq).1
  · obtain ⟨rfl, hall⟩ := steps_approve happrove
    refine Or.inr ⟨hall action rfl, ?_⟩
    rw [List.nil_append]
    rcases Prog.steps_bind hs with ⟨q, hq, -, -⟩ | ⟨_, tr₁, tr₃, rfl, hcreate, hret⟩
    · exact (createPermit_writes ..).of_steps hq
    · cases hret
      rw [List.append_nil]
      exact (createPermit_writes ..).of_steps hcreate

/-- What an issue call reports. -/
def issuedFor (self : RootOwnedActivationPermitIssuer) (prepared : PreparedPrivilegedActivation)
    (grant : OsAuthorizationGrant) (nowUnixMs : Nat) : IssuedActivationPermit where
  authorization := prepared.authorization
  authorizedSystemBusName := grant.systemBusName
  actionId := grant.action.actionId
  permitPath := self.permitPath prepared.authorization
  issuedAtUnixMs := nowUnixMs

/-- An issue call that returned has passed its own checks and created its permit. -/
theorem issued_of_steps {self : RootOwnedActivationPermitIssuer}
    {prepared : PreparedPrivilegedActivation} {grant : OsAuthorizationGrant}
    {nowUnixMs : Nat} {tr : List (Event FsSig)} {issued : IssuedActivationPermit}
    (h : (self.issue prepared grant nowUnixMs).Steps tr (.pure issued)) :
    self.Approved prepared grant nowUnixMs
      ∧ issued = self.issuedFor prepared grant nowUnixMs
      ∧ (self.createPermit (self.permitPath prepared.authorization) prepared.authorization
        (TrustedActivationPermit.fromPrepared prepared).canonicalText).Steps tr (.pure ()) := by
  obtain ⟨action, tr₁, tr₂, rfl, happrove, hs⟩ := Prog.steps_bind_pure h
  obtain ⟨rfl, hall⟩ := steps_approve happrove
  have happroved := hall action rfl
  rw [approve_eq happroved] at happrove
  cases happrove
  obtain ⟨_, tr₁, tr₃, rfl, hcreate, hret⟩ := Prog.steps_bind_pure hs
  cases hret
  rw [List.nil_append, List.append_nil]
  exact ⟨happroved, rfl, hcreate⟩

/-- The events of an issue call that nothing gets in the way of. -/
def issueEvents (self : RootOwnedActivationPermitIssuer)
    (prepared : PreparedPrivilegedActivation) (rootMetadata metadata : Metadata)
    (file directory : Handle) : List (Event FsSig) :=
  let path := self.permitPath prepared.authorization
  [ ⟨.symlinkMetadata self.root, .ok rootMetadata⟩
  , ⟨.createNew path 0o600, .ok file⟩
  , ⟨.writeAll file (TrustedActivationPermit.fromPrepared prepared).canonicalText, .ok ()⟩
  , ⟨.syncAll file, .ok ()⟩
  , ⟨.symlinkMetadata path, .ok metadata⟩
  , ⟨.openFile self.root, .ok directory⟩
  , ⟨.syncAll directory, .ok ()⟩ ]

theorem steps_validateRoot {self : RootOwnedActivationPermitIssuer} {root : Metadata}
    (hroot : root.SafeRoot self.expectedOwnerUid) :
    self.validateRoot.Steps [⟨.symlinkMetadata self.root, .ok root⟩] (.pure ()) :=
  .call (Prog.steps_reject hroot _)

/-- An approved issue call goes on to create its permit, whatever its grant has
been used for before. -/
theorem issue_of_approved {self : RootOwnedActivationPermitIssuer}
    {prepared : PreparedPrivilegedActivation} {grant : OsAuthorizationGrant}
    {nowUnixMs : Nat} (happroved : self.Approved prepared grant nowUnixMs)
    {rootMetadata metadata : Metadata} (hroot : rootMetadata.SafeRoot self.expectedOwnerUid)
    (hfile : metadata.SafeFile self.expectedOwnerUid) (file directory : Handle) :
    (self.issue prepared grant nowUnixMs).Steps
      (self.issueEvents prepared rootMetadata metadata file directory)
      (.pure (self.issuedFor prepared grant nowUnixMs)) := by
  have hcreate : (self.createPermit (self.permitPath prepared.authorization)
      prepared.authorization
      (TrustedActivationPermit.fromPrepared prepared).canonicalText).Steps
      (self.issueEvents prepared rootMetadata metadata file directory) (.pure ()) := by
    refine (steps_validateRoot hroot).bind (.call (.call (.call (.call ?_))))
    show Prog.Steps (if _ then _ else _) _ _
    rw [if_neg hfile]
    exact .call (.call (.refl _))
  unfold issue
  rw [approve_eq happroved, Prog.bind_pure, ← List.append_nil (issueEvents ..)]
  exact hcreate.bind (.refl _)

/-- One that finds a file under its permit's name says so. -/
theorem issue_of_taken {self : RootOwnedActivationPermitIssuer}
    {prepared : PreparedPrivilegedActivation} {grant : OsAuthorizationGrant}
    {nowUnixMs : Nat} (happroved : self.Approved prepared grant nowUnixMs)
    {rootMetadata : Metadata} (hroot : rootMetadata.SafeRoot self.expectedOwnerUid)
    {error : IoError} (herror : error.kind = .alreadyExists) :
    (self.issue prepared grant nowUnixMs).Steps
      [ ⟨.symlinkMetadata self.root, .ok rootMetadata⟩
      , ⟨.createNew (self.permitPath prepared.authorization) 0o600, .error error⟩ ]
      (.throw (.alreadyIssued prepared.authorization)) := by
  have hcreate : (self.createPermit (self.permitPath prepared.authorization)
      prepared.authorization
      (TrustedActivationPermit.fromPrepared prepared).canonicalText).Steps
      [ ⟨.symlinkMetadata self.root, .ok rootMetadata⟩
      , ⟨.createNew (self.permitPath prepared.authorization) 0o600, .error error⟩ ]
      (.throw (.alreadyIssued prepared.authorization)) := by
    obtain ⟨kind, text⟩ := error
    obtain rfl : kind = .alreadyExists := herror
    exact (steps_validateRoot hroot).bind (.call (.refl _))
  unfold issue
  rw [approve_eq happroved, Prog.bind_pure]
  exact hcreate.bind_throw

/-- A call that has created its permit did nothing else. -/
theorem createPermit_returned {self : RootOwnedActivationPermitIssuer}
    {prepared : PreparedPrivilegedActivation} {tr : List (Event FsSig)}
    (h : (self.createPermit (self.permitPath prepared.authorization) prepared.authorization
      (TrustedActivationPermit.fromPrepared prepared).canonicalText).Steps tr (.pure ())) :
    ∃ rootMetadata metadata file directory,
      tr = self.issueEvents prepared rootMetadata metadata file directory
        ∧ rootMetadata.SafeRoot self.expectedOwnerUid
        ∧ metadata.SafeFile self.expectedOwnerUid := by
  cases (createPermit_complete ..).of_steps h nofun with
  | @done root metadata file directory hroot hfile =>
      exact ⟨root, metadata, file, directory, rfl, hroot, hfile⟩

end RootOwnedActivationPermitIssuer

/-! ## The consumer -/

namespace FileTrustedActivationPermitStore

/-- A consumer creates no file and writes to none. -/
theorem consumeMatching_uses (self : FileTrustedActivationPermitStore)
    (prepared : PreparedPrivilegedActivation) :
    (self.consumeMatching prepared).Uses fun o : FsOp => o.isWrite = false := by
  refine Prog.uses_bind ?_ fun _ => Prog.uses_bind ?_ fun _ => Prog.uses_bind ?_ fun text =>
    Prog.uses_bind Prog.uses_reject fun _ => Prog.uses_bind ?_ fun _ => ?_
  · exact Prog.uses_bind (Prog.uses_mapErr (Prog.uses_call (by rfl))) fun _ => Prog.uses_reject
  · exact Prog.uses_bind (Prog.uses_mapErr (Prog.uses_call (by rfl))) fun _ => Prog.uses_reject
  · exact Prog.uses_mapErr
      (Prog.uses_bind (Prog.uses_call (by rfl)) fun _ => Prog.uses_call (by rfl))
  · exact Prog.uses_mapErr (Prog.uses_call (by rfl))
  · exact Prog.uses_mapErr
      (Prog.uses_bind (Prog.uses_call (by rfl)) fun _ => Prog.uses_call (by rfl))

/-- A name is removed in this event. -/
def isRemoval : Event FsSig → Bool
  | ⟨.removeFile _, .ok _⟩ => true
  | _ => false

/-- A file is read in this event. -/
def isRead : Event FsSig → Bool
  | ⟨.readToString _, .ok _⟩ => true
  | _ => false

/-- The permit's name was removed after this text had been read from the file it
was opened as; nothing else was read or removed. -/
def Consumed (self : FileTrustedActivationPermitStore) (path : PathBuf) (text : String)
    (file : Handle) (tr : List (Event FsSig)) : Prop :=
  ∃ rootMetadata metadata post,
    tr = [⟨.symlinkMetadata self.root, .ok rootMetadata⟩, ⟨.symlinkMetadata path, .ok metadata⟩]
      ++ ⟨.openFile path, .ok file⟩ :: ⟨.readToString file, .ok text⟩
        :: ⟨.removeFile path, .ok ()⟩ :: post
      ∧ ∀ e ∈ post, isRemoval e = false ∧ isRead e = false

/-- Such a trace reads once. -/
theorem Consumed.read_unique {self : FileTrustedActivationPermitStore} {path : PathBuf}
    {text : String} {file : Handle} {tr : List (Event FsSig)}
    (h : self.Consumed path text file tr) {file' : Handle} {text' : String}
    (hmem : ⟨.readToString file', .ok text'⟩ ∈ tr) : file' = file ∧ text' = text := by
  obtain ⟨rootMetadata, metadata, post, rfl, hpost⟩ := h
  have hafter : ⟨.readToString file', .ok text'⟩ ∉ post := fun hin => by
    cases (hpost _ hin).2
  simp only [List.cons_append, List.nil_append, List.mem_cons, Event.mk.injEq, reduceCtorEq,
    false_and, false_or, hafter, or_false, FsOp.readToString.injEq] at hmem
  obtain ⟨rfl, heq⟩ := hmem
  exact ⟨rfl, Except.ok.inj (eq_of_heq heq)⟩

/-- The removal in such a trace, after the file was read. -/
theorem Consumed.removal {self : FileTrustedActivationPermitStore} {path : PathBuf}
    {text : String} {file : Handle} {tr : List (Event FsSig)}
    (h : self.Consumed path text file tr) :
    ∃ pre post, tr = pre ++ ⟨.removeFile path, .ok ()⟩ :: post
      ∧ ⟨.readToString file, .ok text⟩ ∈ pre := by
  obtain ⟨rootMetadata, metadata, post, rfl, -⟩ := h
  exact ⟨[⟨.symlinkMetadata self.root, .ok rootMetadata⟩,
    ⟨.symlinkMetadata path, .ok metadata⟩, ⟨.openFile path, .ok file⟩,
    ⟨.readToString file, .ok text⟩], post, rfl, by simp⟩

/-- A consumer removes its permit only after it has read exactly its text there. It
succeeds only if it did, and fails after it only with an I/O error. -/
theorem consumeMatching_all (self : FileTrustedActivationPermitStore)
    (prepared : PreparedPrivilegedActivation) :
    (self.consumeMatching prepared).All fun tr st =>
      (tr.filter isRemoval = [] ∧ st ≠ .returned ())
        ∨ (∃ file, self.Consumed (self.permitPath prepared.authorization)
            (TrustedActivationPermit.fromPrepared prepared).canonicalText file tr)
          ∧ ∀ e, st = .failed e → ∃ text, e = .io text := by
  refine Prog.all_bind.mpr (Prog.all_ask.mpr ⟨Or.inl ⟨rfl, nofun⟩, ?_⟩)
  intro rootMetadata
  rcases rootMetadata with e | rootMetadata
  · exact Or.inl ⟨rfl, nofun⟩
  refine Prog.all_reject_last.mpr ⟨fun _ => Or.inl ⟨rfl, nofun⟩, fun _ => ?_⟩
  refine Prog.all_bind.mpr (Prog.all_ask.mpr ⟨Or.inl ⟨rfl, nofun⟩, ?_⟩)
  intro metadata
  rcases metadata with e | metadata
  · exact Or.inl ⟨rfl, nofun⟩
  refine Prog.all_reject_last.mpr ⟨fun _ => Or.inl ⟨rfl, nofun⟩, fun _ => ?_⟩
  refine Prog.all_call.mpr ⟨Or.inl ⟨rfl, nofun⟩, ?_⟩
  intro opened
  rcases opened with e | file
  · exact Or.inl ⟨rfl, nofun⟩
  refine Prog.all_call.mpr ⟨Or.inl ⟨rfl, nofun⟩, ?_⟩
  intro observed
  rcases observed with e | observed
  · exact Or.inl ⟨rfl, nofun⟩
  refine Prog.all_reject.mpr ⟨fun _ => Or.inl ⟨rfl, nofun⟩, ?_⟩
  intro hmatch
  obtain rfl := not_not.mp hmatch
  refine Prog.all_ask.mpr ⟨Or.inl ⟨rfl, nofun⟩, ?_⟩
  intro removed
  rcases removed with e | _
  · exact Or.inl ⟨rfl, nofun⟩
  refine Prog.all_of_forall ?_
  intro tr q hs
  refine Or.inr ⟨⟨file, rootMetadata, metadata, tr, rfl, ?_⟩, fun e he => ?_⟩
  · have huses : ((File.syncDirectory self.root).mapErr fun error =>
        TrustedActivationPermitError.io error.text).Uses
        fun o : FsOp => (∃ path, o = .openFile path) ∨ ∃ file, o = .syncAll file :=
      Prog.uses_mapErr (Prog.uses_bind (Prog.uses_call (Or.inl ⟨_, rfl⟩)) fun file =>
        Prog.uses_call (Or.inr ⟨file, rfl⟩))
    intro e he
    obtain ⟨op, ans⟩ := e
    rcases huses.of_steps hs _ he with ⟨path, rfl⟩ | ⟨file, rfl⟩ <;> exact ⟨rfl, rfl⟩
  · obtain ⟨q', -, rfl⟩ := Prog.steps_mapErr hs
    obtain ⟨error, rfl⟩ := Prog.status_mapErr_failed he
    exact ⟨error.text, rfl⟩

/-- A consumer that reports anything but an I/O error has removed nothing. -/
theorem rejected_of_steps {self : FileTrustedActivationPermitStore}
    {prepared : PreparedPrivilegedActivation} {tr : List (Event FsSig)}
    {e : TrustedActivationPermitError}
    (h : (self.consumeMatching prepared).Steps tr (.throw e)) (he : ∀ text, e ≠ .io text) :
    tr.filter isRemoval = [] := by
  rcases (self.consumeMatching_all prepared).of_steps h with ⟨hquiet, -⟩ | ⟨-, hio⟩
  · exact hquiet
  · obtain ⟨text, rfl⟩ := hio e rfl
    exact absurd rfl (he text)

theorem steps_consumeMatching {self : FileTrustedActivationPermitStore}
    {prepared : PreparedPrivilegedActivation} {tr : List (Event FsSig)}
    (h : (self.consumeMatching prepared).Steps tr (.pure ())) :
    ∃ file, self.Consumed (self.permitPath prepared.authorization)
      (TrustedActivationPermit.fromPrepared prepared).canonicalText file tr := by
  rcases (self.consumeMatching_all prepared).of_steps h with ⟨-, hne⟩ | ⟨hconsumed, -⟩
  · exact absurd rfl hne
  · exact hconsumed

/-- Events that neither write nor remove leave the files as they are. -/
theorem exec_quiet {fs fs' : Fs} {tr : List (Event FsSig)} (hx : Prog.Exec Fs.Step fs tr fs')
    (hwrites : tr.filter isWrite = []) (hremovals : tr.filter isRemoval = []) : fs' = fs := by
  induction hx with
  | nil => rfl
  | cons hstep _ ih =>
      rcases Fs.step_cases hstep with ⟨rfl, -⟩ | ⟨path, mode, metadata, rfl, -, -⟩
          | ⟨i, text, answer, chunk, rfl, -, -⟩ | ⟨path, rfl, -⟩
      · rw [List.filter_eq_nil_iff] at hwrites hremovals
        refine ih (List.filter_eq_nil_iff.mpr ?_) (List.filter_eq_nil_iff.mpr ?_)
        · intro e he
          exact hwrites e (List.mem_cons_of_mem _ he)
        · intro e he
          exact hremovals e (List.mem_cons_of_mem _ he)
      · cases hwrites
      · cases hwrites
      · cases hremovals

/-- On files, such a trace starts where the name denotes a file with this text and ends
with the name gone. -/
theorem Consumed.files {self : FileTrustedActivationPermitStore} {path : PathBuf}
    {text : String} {file : Handle} {tr : List (Event FsSig)} (h : self.Consumed path text file tr)
    (hwrites : tr.filter isWrite = []) {fs fs' : Fs} (hx : Prog.Exec Fs.Step fs tr fs') :
    ∃ i, fs.names path = some i ∧ fs.content i = text ∧ fs' = fs.remove path := by
  obtain ⟨rootMetadata, metadata, post, rfl, hpost⟩ := h
  cases hx with | cons hroot hx =>
  obtain ⟨-, rfl⟩ := hroot
  cases hx with | cons hfile hx =>
  obtain ⟨-, rfl⟩ := hfile
  cases hx with | cons hopen hx =>
  cases hx with | cons hread hx =>
  cases hx with | cons hremove hx =>
  cases file with
  | dir => exact absurd hread id
  | file i =>
      obtain ⟨hname, rfl⟩ := hopen
      obtain ⟨htext, rfl⟩ := hread
      obtain ⟨-, rfl⟩ := hremove
      have hremovals : post.filter isRemoval = [] := by
        rw [List.filter_eq_nil_iff]
        intro e he
        rw [(hpost e he).1]
        exact Bool.false_ne_true
      exact ⟨i, hname, htext.symm, exec_quiet hx hwrites hremovals⟩

/-- What a consumer does to the files: nothing, without success, or it removes a permit
with exactly its text, and then fails with an I/O error if at all. -/
theorem consumeMatching_files {self : FileTrustedActivationPermitStore}
    {prepared : PreparedPrivilegedActivation} {tr : List (Event FsSig)}
    {q : Prog FsSig TrustedActivationPermitError Unit}
    (hs : (self.consumeMatching prepared).Steps tr q) {fs fs' : Fs}
    (hx : Prog.Exec Fs.Step fs tr fs') :
    (fs' = fs ∧ q.status ≠ .returned ())
      ∨ ∃ i, fs.names (self.permitPath prepared.authorization) = some i
        ∧ fs.content i = (TrustedActivationPermit.fromPrepared prepared).canonicalText
        ∧ fs' = fs.remove (self.permitPath prepared.authorization)
        ∧ ∀ e, q.status = .failed e → ∃ text, e = .io text := by
  have hwrites := writes_eq_nil (self.consumeMatching_uses prepared) hs
  rcases (self.consumeMatching_all prepared).of_steps hs with
    ⟨hremovals, hne⟩ | ⟨⟨file, hconsumed⟩, hio⟩
  · exact Or.inl ⟨exec_quiet hx hwrites hremovals, hne⟩
  · obtain ⟨i, hname, htext, hfs⟩ := hconsumed.files hwrites hx
    exact Or.inr ⟨i, hname, htext, hfs, hio⟩

/-- The events of a consumer that finds its permit. -/
def consumeEvents (self : FileTrustedActivationPermitStore)
    (prepared : PreparedPrivilegedActivation) (rootMetadata metadata : Metadata)
    (file directory : Handle) : List (Event FsSig) :=
  let path := self.permitPath prepared.authorization
  [ ⟨.symlinkMetadata self.root, .ok rootMetadata⟩
  , ⟨.symlinkMetadata path, .ok metadata⟩
  , ⟨.openFile path, .ok file⟩
  , ⟨.readToString file, .ok (TrustedActivationPermit.fromPrepared prepared).canonicalText⟩
  , ⟨.removeFile path, .ok ()⟩
  , ⟨.openFile self.root, .ok directory⟩
  , ⟨.syncAll directory, .ok ()⟩ ]

/-- A safe directory and a safe file pass the checks, and the consumer goes on to read. -/
theorem steps_checks {self : FileTrustedActivationPermitStore}
    (prepared : PreparedPrivilegedActivation) {rootMetadata metadata : Metadata}
    (hroot : rootMetadata.SafeRoot self.expectedOwnerUid)
    (hfile : metadata.SafeFile self.expectedOwnerUid)
    {rest : Prog FsSig TrustedActivationPermitError Unit} {tr : List (Event FsSig)}
    {q : Prog FsSig TrustedActivationPermitError Unit} (h : rest.Steps tr q) :
    (self.validateRoot >>= fun _ => self.validateFile
        (self.permitPath prepared.authorization) prepared.authorization >>= fun _ => rest).Steps
      (⟨.symlinkMetadata self.root, .ok rootMetadata⟩
        :: ⟨.symlinkMetadata (self.permitPath prepared.authorization), .ok metadata⟩ :: tr) q := by
  have hvalidate : self.validateRoot.Steps [⟨.symlinkMetadata self.root, .ok rootMetadata⟩]
      (.pure ()) :=
    .call (Prog.steps_reject hroot _)
  have hpermit : (self.validateFile (self.permitPath prepared.authorization)
      prepared.authorization).Steps
      [⟨.symlinkMetadata (self.permitPath prepared.authorization), .ok metadata⟩] (.pure ()) :=
    .call (Prog.steps_reject hfile _)
  exact hvalidate.bind (hpermit.bind h)

/-- A consumer that reads exactly its permit's text removes it and succeeds. -/
theorem consumeMatching_of_match {self : FileTrustedActivationPermitStore}
    (prepared : PreparedPrivilegedActivation) {rootMetadata metadata : Metadata}
    (hroot : rootMetadata.SafeRoot self.expectedOwnerUid)
    (hfile : metadata.SafeFile self.expectedOwnerUid) (file directory : Handle) :
    (self.consumeMatching prepared).Steps
      (self.consumeEvents prepared rootMetadata metadata file directory) (.pure ()) := by
  refine steps_checks prepared hroot hfile (.call (.call ?_))
  show Prog.Steps (Prog.reject _ _ >>= _) _ _
  rw [Prog.reject_neg (not_not.mpr rfl)]
  exact .call (.call (.call (.refl _)))

/-- One that reads another text rejects the request. -/
theorem consumeMatching_of_mismatch {self : FileTrustedActivationPermitStore}
    (prepared : PreparedPrivilegedActivation) {rootMetadata metadata : Metadata}
    (hroot : rootMetadata.SafeRoot self.expectedOwnerUid)
    (hfile : metadata.SafeFile self.expectedOwnerUid) (file : Handle) {text : String}
    (hne : text ≠ (TrustedActivationPermit.fromPrepared prepared).canonicalText) :
    (self.consumeMatching prepared).Steps
      [ ⟨.symlinkMetadata self.root, .ok rootMetadata⟩
      , ⟨.symlinkMetadata (self.permitPath prepared.authorization), .ok metadata⟩
      , ⟨.openFile (self.permitPath prepared.authorization), .ok file⟩
      , ⟨.readToString file, .ok text⟩ ] (.throw .permitMismatch) := by
  refine steps_checks prepared hroot hfile (.call (.call ?_))
  show Prog.Steps (Prog.reject _ _ >>= _) _ _
  rw [Prog.reject, if_pos hne, Prog.bind_throw]
  exact .refl _

end FileTrustedActivationPermitStore

end Blob
