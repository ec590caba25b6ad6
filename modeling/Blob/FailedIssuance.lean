import Blob.PermitRuns

/-!
# Failed issuance

What an issue call that fails leaves in the permit directory, when any of
its file operations may fail. Where the write or the sync of the permit
fails, or the file that was created is not the one that was meant, the
call removes it again. Where the metadata of the new file cannot be read,
or the directory cannot be opened or synced, it reports the error and
leaves the file, by then a complete permit (`Creation.files`). These
faults are the exact exception (`failed_issue_keeps_iff`).
-/

namespace Blob

namespace RootOwnedActivationPermitIssuer

/-- What the permit directory holds under each name. -/
def directory (self : RootOwnedActivationPermitIssuer) (fs : Fs) (name : String) :
    Option String :=
  fs.text (self.root.join name)

/-- The permit file was created, and then its metadata could not be read, or the
directory could not be opened or synced. -/
def Stranding (self : RootOwnedActivationPermitIssuer) (path : PathBuf)
    (tr : List (Event FsSig)) : Prop :=
  (∃ file, ⟨.createNew path 0o600, .ok file⟩ ∈ tr)
    ∧ ((∃ error, ⟨.symlinkMetadata path, .error error⟩ ∈ tr)
      ∨ (∃ error, ⟨.openFile self.root, .error error⟩ ∈ tr)
      ∨ ∃ directory error, ⟨.openFile self.root, .ok directory⟩ ∈ tr
        ∧ ⟨.syncAll directory, .error error⟩ ∈ tr)

/-! ## The files -/

variable {self : RootOwnedActivationPermitIssuer} {path : PathBuf} {canonical : String}
  {root : Metadata} {file : Handle} {tr : List (Event FsSig)} {fs fs' : Fs}

theorem exec_created (hx : Prog.Exec Fs.Step fs (⟨.symlinkMetadata self.root, .ok root⟩
      :: ⟨.createNew path 0o600, .ok file⟩ :: tr) fs') :
    fs.names path = none ∧ file = .file fs.next
      ∧ ∃ metadata, Prog.Exec Fs.Step (fs.create path metadata) tr fs' := by
  obtain ⟨_, ⟨-, rfl⟩, hx₁⟩ := Prog.exec_cons.mp hx
  obtain ⟨_, ⟨hfree, rfl, metadata, rfl⟩, hx₂⟩ := Prog.exec_cons.mp hx₁
  exact ⟨hfree.1, rfl, metadata, hx₂⟩

theorem exec_written
    (hx : Prog.Exec Fs.Step fs (self.writtenEvents path canonical root file ++ tr) fs') :
    fs.names path = none ∧ ∃ metadata,
      Prog.Exec Fs.Step ((fs.create path metadata).append fs.next canonical) tr fs' := by
  obtain ⟨hfree, rfl, metadata, hx⟩ := exec_created hx
  obtain ⟨fs₁, rfl, hx⟩ := Prog.exec_cons.mp hx
  obtain ⟨fs₂, rfl, hx⟩ := Prog.exec_cons.mp hx
  exact ⟨hfree, metadata, hx⟩

/-- Removing the new file, where removals succeed, is all it takes to leave the files
as they were. -/
theorem exec_removed (hfresh : fs.Fresh) (hfree : fs.names path = none) {metadata : Metadata}
    {text : String} {removed : Except IoError Unit}
    (hdelete : ∀ error, ⟨.removeFile path, .error error⟩ ∉ tr)
    (hlast : tr.getLast? = some ⟨.removeFile path, removed⟩)
    (hx : Prog.Exec Fs.Step ((fs.create path metadata).append fs.next text)
      [⟨.removeFile path, removed⟩] fs') : fs'.text = fs.text := by
  obtain ⟨fs₁, hstep, hx⟩ := Prog.exec_cons.mp hx
  obtain rfl := Prog.exec_nil.mp hx
  rcases removed with error | _
  · exact absurd (List.mem_of_getLast? hlast) (hdelete error)
  · obtain ⟨-, rfl⟩ := hstep
    exact Fs.text_remove_append_create hfresh hfree metadata text

/-- A file that is left behind: its name was free, and what it holds is the whole permit. -/
theorem text_left (hfree : fs.names path = none) (metadata : Metadata) :
    fs.text path = none
      ∧ ((fs.create path metadata).append fs.next canonical).text path = some canonical :=
  ⟨by rw [Fs.text, hfree]; rfl, Fs.text_append_create ..⟩

/-- A failed creation has left the files as they were, or it was one of the faults
that leave the complete permit. -/
theorem Creation.files {e : PermitIssueError}
    (h : Creation self path canonical tr (.failed e)) (hx : Prog.Exec Fs.Step fs tr fs')
    (hfresh : fs.Fresh) (hdelete : ∀ error, ⟨.removeFile path, .error error⟩ ∉ tr) :
    (¬ self.Stranding path tr ∧ fs'.text = fs.text)
      ∨ (self.Stranding path tr ∧ fs.text path = none ∧ fs'.text path = some canonical) := by
  cases h with
  | rootUnread error e =>
      obtain ⟨_, ⟨-, rfl⟩, hx₁⟩ := Prog.exec_cons.mp hx
      obtain rfl := Prog.exec_nil.mp hx₁
      exact Or.inl ⟨by simp [Stranding], rfl⟩
  | rootUnsafe root e =>
      obtain ⟨_, ⟨-, rfl⟩, hx₁⟩ := Prog.exec_cons.mp hx
      obtain rfl := Prog.exec_nil.mp hx₁
      exact Or.inl ⟨by simp [Stranding], rfl⟩
  | uncreated root error e =>
      obtain ⟨_, ⟨-, rfl⟩, hx₁⟩ := Prog.exec_cons.mp hx
      obtain ⟨_, ⟨-, rfl⟩, hx₂⟩ := Prog.exec_cons.mp hx₁
      obtain rfl := Prog.exec_nil.mp hx₂
      exact Or.inl ⟨by simp [Stranding], rfl⟩
  | unwritten root file error removed e =>
      obtain ⟨hfree, rfl, metadata, hx⟩ := exec_created hx
      obtain ⟨_, ⟨chunk, -, rfl⟩, hx⟩ := Prog.exec_cons.mp hx
      exact Or.inl ⟨by simp [Stranding], exec_removed hfresh hfree hdelete rfl hx⟩
  | unsynced root file error removed e =>
      obtain ⟨hfree, rfl, metadata, hx⟩ := exec_created hx
      obtain ⟨_, rfl, hx⟩ := Prog.exec_cons.mp hx
      obtain ⟨_, rfl, hx⟩ := Prog.exec_cons.mp hx
      exact Or.inl ⟨by simp [Stranding], exec_removed hfresh hfree hdelete rfl hx⟩
  | fileUnread root file error e =>
      obtain ⟨hfree, metadata, hx⟩ := exec_written hx
      obtain ⟨_, ⟨-, rfl⟩, hx₁⟩ := Prog.exec_cons.mp hx
      obtain rfl := Prog.exec_nil.mp hx₁
      exact Or.inr ⟨by simp [Stranding, writtenEvents], text_left hfree metadata⟩
  | fileUnsafe root shown file removed e =>
      obtain ⟨hfree, metadata, hx⟩ := exec_written hx
      obtain ⟨_, ⟨-, rfl⟩, hx₁⟩ := Prog.exec_cons.mp hx
      exact Or.inl ⟨by simp [Stranding, writtenEvents],
        exec_removed hfresh hfree hdelete rfl hx₁⟩
  | rootUnopened root shown file error e =>
      obtain ⟨hfree, metadata, hx⟩ := exec_written hx
      obtain ⟨_, ⟨-, rfl⟩, hx₁⟩ := Prog.exec_cons.mp hx
      obtain ⟨_, ⟨-, rfl⟩, hx₂⟩ := Prog.exec_cons.mp hx₁
      obtain rfl := Prog.exec_nil.mp hx₂
      exact Or.inr ⟨by simp [Stranding, writtenEvents], text_left hfree metadata⟩
  | rootUnsynced root shown file directory error e =>
      obtain ⟨hfree, metadata, hx⟩ := exec_written hx
      obtain ⟨_, ⟨-, rfl⟩, hx₁⟩ := Prog.exec_cons.mp hx
      obtain ⟨fs₂, hopened, hx₂⟩ := Prog.exec_cons.mp hx₁
      obtain ⟨fs₃, hsynced, hx₃⟩ := Prog.exec_cons.mp hx₂
      have hsame : fs' = (fs.create path metadata).append fs.next canonical := by
        rw [Prog.exec_nil.mp hx₃, show fs₃ = fs₂ from hsynced]
        rcases directory with i | _ <;> exact hopened.2
      rw [hsame]
      exact Or.inr ⟨by simp [Stranding, writtenEvents], text_left hfree metadata⟩

/-- A failed call did nothing, or its creation failed. -/
theorem failed_of_steps {prepared : PreparedPrivilegedActivation} {grant : OsAuthorizationGrant}
    {nowUnixMs : Nat} {e : PermitIssueError}
    (hs : (self.issue prepared grant nowUnixMs).Steps tr (.throw e)) :
    tr = [] ∨ Creation self (self.permitPath prepared.authorization)
      (TrustedActivationPermit.fromPrepared prepared).canonicalText tr (.failed e) := by
  rcases Prog.steps_bind hs with ⟨q, hq, -, -⟩ | ⟨action, tr₁, tr₂, rfl, happrove, hcreate⟩
  · exact Or.inl (steps_approve hq).1
  · obtain ⟨rfl, -⟩ := steps_approve happrove
    refine Or.inr ?_
    rcases Prog.steps_bind hcreate with ⟨q, hq, hthrow, -⟩ | ⟨_, _, _, -, -, hret⟩
    · cases q with
      | throw _ =>
          cases hthrow
          exact (createPermit_complete ..).of_steps hq nofun
      | pure _ => cases hthrow
      | panic _ => cases hthrow
      | call _ _ => cases hthrow
    · cases hret

/-- An issue call that fails leaves the permit directory as it was if and only if
none of these faults came after the creation of its permit file: its metadata
could not be read, or the directory could not be opened or synced. -/
theorem failed_issue_keeps_iff {prepared : PreparedPrivilegedActivation}
    {grant : OsAuthorizationGrant} {nowUnixMs : Nat} {e : PermitIssueError}
    (hs : (self.issue prepared grant nowUnixMs).Steps tr (.throw e))
    (hx : Prog.Exec Fs.Step fs tr fs') (hfresh : fs.Fresh)
    (hdelete : ∀ error,
      ⟨.removeFile (self.permitPath prepared.authorization), .error error⟩ ∉ tr) :
    self.directory fs' = self.directory fs
      ↔ ¬ self.Stranding (self.permitPath prepared.authorization) tr := by
  rcases failed_of_steps hs with rfl | hcreation
  · obtain rfl := Prog.exec_nil.mp hx
    simp [Stranding]
  rcases hcreation.files hx hfresh hdelete with ⟨hkept, htext⟩ | ⟨hstranding, hbefore, hafter⟩
  · refine iff_of_true ?_ hkept
    funext name
    rw [directory, directory, htext]
  · refine iff_of_false ?_ (not_not.mpr hstranding)
    intro hsame
    have hpermit : fs'.text (self.permitPath prepared.authorization)
        = fs.text (self.permitPath prepared.authorization) := congrFun hsame _
    rw [hbefore, hafter] at hpermit
    cases hpermit

/-! ## The pilot request -/

section

variable {prepared : PreparedPrivilegedActivation} {grant : OsAuthorizationGrant}
  {nowUnixMs : Nat}

/-- An approved call fails as its creation does. -/
theorem issue_of_creation_failed (happroved : self.Approved prepared grant nowUnixMs)
    {e : PermitIssueError}
    (h : (self.createPermit (self.permitPath prepared.authorization) prepared.authorization
      (TrustedActivationPermit.fromPrepared prepared).canonicalText).Steps tr (.throw e)) :
    (self.issue prepared grant nowUnixMs).Steps tr (.throw e) := by
  unfold issue
  rw [approve_eq happroved, Prog.bind_pure]
  exact h.bind_throw

/-- The write fails and the file is removed again. -/
theorem steps_unwritten (hroot : root.SafeRoot self.expectedOwnerUid)
    (authorization : SystemAuthorizationId) (error : IoError) :
    (self.createPermit path authorization canonical).Steps
      [ ⟨.symlinkMetadata self.root, .ok root⟩
      , ⟨.createNew path 0o600, .ok file⟩
      , ⟨.writeAll file canonical, .error error⟩
      , ⟨.removeFile path, .ok ()⟩ ] (.throw (.io error.text)) :=
  (steps_validateRoot hroot).bind (.call (.call (.call (.refl _))))

/-- The directory cannot be synced. -/
theorem steps_rootUnsynced (hroot : root.SafeRoot self.expectedOwnerUid) {metadata : Metadata}
    (hfile : metadata.SafeFile self.expectedOwnerUid) (authorization : SystemAuthorizationId)
    (directory : Handle) (error : IoError) :
    (self.createPermit path authorization canonical).Steps
      (self.writtenEvents path canonical root file
        ++ [ ⟨.symlinkMetadata path, .ok metadata⟩
           , ⟨.openFile self.root, .ok directory⟩
           , ⟨.syncAll directory, .error error⟩ ]) (.throw (.io error.text)) := by
  refine (steps_validateRoot hroot).bind (.call (.call (.call (.call ?_))))
  show Prog.Steps (if _ then _ else _) _ _
  rw [if_neg hfile]
  exact .call (.call (.refl _))

end

open PermitRuns

def diskError : IoError := ⟨.other, "Input/output error (os error 5)"⟩

/-- A call that fails and leaves a permit that was not there before: the directory
could not be synced. -/
theorem permit_left_behind : ∃ tr fs',
    (pilotIssuer.issue pilotPrepared pilotGrant 2300).Steps tr (.throw (.io diskError.text))
      ∧ Prog.Exec Fs.Step (.emptyDirectory pilotRoot) tr fs'
      ∧ (∀ error, ⟨.removeFile (pilotIssuer.permitPath ⟨"auth:one"⟩), .error error⟩ ∉ tr)
      ∧ fs'.text (pilotIssuer.permitPath ⟨"auth:one"⟩)
        = some (TrustedActivationPermit.fromPrepared pilotPrepared).canonicalText
      ∧ pilotIssuer.directory fs' ≠ pilotIssuer.directory (.emptyDirectory pilotRoot) := by
  have hempty : Empty (.emptyDirectory pilotRoot) := ⟨fun _ => rfl, rfl⟩
  have hs := issue_of_creation_failed pilotGrant_approved
    (@steps_rootUnsynced pilotIssuer _ _ _ (.file 0) rootMetadata_safe _ permitMetadata_safe _
      .dir diskError)
  have hleft : (withPermit (.emptyDirectory pilotRoot)).text
      (pilotIssuer.permitPath ⟨"auth:one"⟩)
        = some (TrustedActivationPermit.fromPrepared pilotPrepared).canonicalText :=
    Fs.text_append_create ..
  refine ⟨_, withPermit (.emptyDirectory pilotRoot), hs, ?_, by simp [writtenEvents], hleft, ?_⟩
  · exact .cons ⟨hempty.stat_root, rfl⟩ <| .cons ⟨hempty.free, rfl, permitMetadata, rfl⟩ <|
      .cons rfl <| .cons rfl <| .cons ⟨withPermit_stat, rfl⟩ <| .cons ⟨hempty.dir, rfl⟩ <|
      .cons rfl .nil
  intro hsame
  have hpermit := congrFun hsame (permitFileName ⟨"auth:one"⟩)
  exact absurd (hleft.symm.trans hpermit) (by simp [directory, Fs.text, Fs.emptyDirectory])

/-- The pilot's call when the permit cannot be written. -/
def pilotUnwritten : List (Event FsSig) :=
  [ ⟨.symlinkMetadata pilotRoot, .ok rootMetadata⟩
  , ⟨.createNew pilotPath 0o600, .ok (.file 0)⟩
  , ⟨.writeAll (.file 0) (TrustedActivationPermit.fromPrepared pilotPrepared).canonicalText,
      .error diskError⟩
  , ⟨.removeFile pilotPath, .ok ()⟩ ]

/-- What was created is removed again. -/
theorem pilot_kept : ∃ fs',
    (pilotIssuer.issue pilotPrepared pilotGrant 2300).Steps pilotUnwritten
        (.throw (.io diskError.text))
      ∧ Prog.Exec Fs.Step (.emptyDirectory pilotRoot) pilotUnwritten fs'
      ∧ pilotIssuer.directory fs' = pilotIssuer.directory (.emptyDirectory pilotRoot) := by
  have hempty : Empty (.emptyDirectory pilotRoot) := ⟨fun _ => rfl, rfl⟩
  have hs : (pilotIssuer.issue pilotPrepared pilotGrant 2300).Steps pilotUnwritten
      (.throw (.io diskError.text)) :=
    issue_of_creation_failed pilotGrant_approved (steps_unwritten rootMetadata_safe _ diskError)
  have hx : Prog.Exec Fs.Step (.emptyDirectory pilotRoot) pilotUnwritten
      ((((Fs.emptyDirectory pilotRoot).create pilotPath permitMetadata).append 0 "").remove
        pilotPath) :=
    .cons ⟨hempty.stat_root, rfl⟩ <| .cons ⟨hempty.free, rfl, permitMetadata, rfl⟩ <|
      .cons ⟨"", List.nil_prefix, rfl⟩ <| .cons ⟨by simp, rfl⟩ .nil
  refine ⟨_, hs, hx, (failed_issue_keeps_iff hs hx (Fs.fresh_emptyDirectory _) ?_).mpr ?_⟩
  · simp [pilotUnwritten]
  · simp [Stranding, pilotUnwritten]

end RootOwnedActivationPermitIssuer

end Blob
