import Blob.PermitRuns

/-!
# From the issuer to the consumer

Issuer and consumer live in two crates, each with its own text encoding, path
and owner checks. On files that never fail they agree: what an issue call that
returned `Ok` leaves is a permit (`Holds`) that every request with the same
permit consumes and no other request does, in any order of attempts
(`issued_consumable`).
-/

namespace Blob

open Prog

/-! ## Permit paths -/

/-- Different authorizations have different permit files. -/
theorem PermitRuns.permitPath_injective (root : PathBuf) :
    Function.Injective (PermitRuns.permitPath root) := by
  intro a b h
  exact (SystemAuthorizationId.mk.injEq ..).mpr
    (PathBuf.join_hexText_injective (by decide) (by decide) h)

namespace FileTrustedActivationPermitStore

/-! ## A permit that is there -/

/-- In these files the permit of the request is in place, and everything about it is as
the store wants it. -/
structure Holds (store : FileTrustedActivationPermitStore) (fs : Fs)
    (prepared : PreparedPrivilegedActivation) (i : Nat) : Prop where
  root : ∃ metadata, fs.stat store.root = some metadata
    ∧ metadata.SafeRoot store.expectedOwnerUid
  distinct : store.permitPath prepared.authorization ≠ store.root
  name : fs.names (store.permitPath prepared.authorization) = some i
  file : (fs.inodes i).metadata.SafeFile store.expectedOwnerUid
  content : fs.content i = (TrustedActivationPermit.fromPrepared prepared).canonicalText

variable {self : FileTrustedActivationPermitStore} {fs : Fs}
  {p q : PreparedPrivilegedActivation} {i : Nat}

/-- A request with the same permit finds the same file. -/
theorem Holds.of_eq (h : self.Holds fs p i)
    (heq : TrustedActivationPermit.fromPrepared q = .fromPrepared p) : self.Holds fs q i := by
  have hauthorization : q.authorization = p.authorization :=
    congrArg TrustedActivationPermit.authorization heq
  obtain ⟨hroot, hdistinct, hname, hfile, hcontent⟩ := h
  rw [← hauthorization] at hdistinct hname
  rw [← heq] at hcontent
  exact ⟨hroot, hdistinct, hname, hfile, hcontent⟩

/-- Its request consumes it. -/
theorem Holds.consumed (h : self.Holds fs p i) (created : Nat → Metadata) :
    (self.consumeMatching p).run (Fs.serve created) fs
      = (.returned (), fs.remove (self.permitPath p.authorization)) := by
  obtain ⟨rootMetadata, hstat, hroot⟩ := h.root
  have hafter : (fs.remove (self.permitPath p.authorization)).stat self.root
      = some rootMetadata := by
    rw [Fs.stat_remove_ne (Ne.symm h.distinct), hstat]
  obtain ⟨directory, hopen⟩ := Fs.serve_openFile created (Fs.not_free_of_stat hafter)
  have hsteps : (self.consumeMatching p).Steps (self.consumeEvents p rootMetadata
      (fs.inodes i).metadata (.file i) directory) (.pure ()) :=
    consumeMatching_of_match p hroot h.file (.file i) directory
  have hlook : fs.serve created (.symlinkMetadata self.root) = (.ok rootMetadata, fs) := by
    simp only [Fs.serve, hstat]
  have hshown : fs.stat (self.permitPath p.authorization) = some (fs.inodes i).metadata := by
    simp only [Fs.stat, h.name]
  have hfile : fs.serve created (.symlinkMetadata (self.permitPath p.authorization))
      = (.ok (fs.inodes i).metadata, fs) := by
    simp only [Fs.serve, hshown]
  have hopened : fs.serve created (.openFile (self.permitPath p.authorization))
      = (.ok (.file i), fs) := by
    simp only [Fs.serve, h.name]
  have hread : fs.serve created (.readToString (.file i))
      = (.ok (TrustedActivationPermit.fromPrepared p).canonicalText, fs) := by
    simp only [Fs.serve, h.content]
  have hremove : fs.serve created (.removeFile (self.permitPath p.authorization))
      = (.ok (), fs.remove (self.permitPath p.authorization)) := by
    simp only [Fs.serve, h.name]
  exact run_of_steps hsteps (.cons hlook <| .cons hfile <| .cons hopened <| .cons hread <|
    .cons hremove <| .cons hopen <| .cons rfl .nil)

/-- So does every request with the same permit. -/
theorem Holds.consumed_by (h : self.Holds fs p i)
    (heq : TrustedActivationPermit.fromPrepared q = .fromPrepared p) (created : Nat → Metadata) :
    (self.consumeMatching q).run (Fs.serve created) fs
      = (.returned (), fs.remove (self.permitPath p.authorization)) := by
  rw [(h.of_eq heq).consumed, show q.authorization = p.authorization from
    congrArg TrustedActivationPermit.authorization heq]

/-- A run of a consumer leaves the files as they are and does not succeed, or there was
a file with exactly its text under the name of its permit. -/
theorem run_consumeMatching (self : FileTrustedActivationPermitStore)
    (created : Nat → Metadata) (fs : Fs) (p : PreparedPrivilegedActivation) :
    (((self.consumeMatching p).run (Fs.serve created) fs).2 = fs
        ∧ ((self.consumeMatching p).run (Fs.serve created) fs).1 ≠ .returned ())
      ∨ ∃ i, fs.names (self.permitPath p.authorization) = some i
        ∧ fs.content i = (TrustedActivationPermit.fromPrepared p).canonicalText := by
  obtain ⟨tr, q, hs, hstatus, hx⟩ := run_exec (Fs.serve_step created) (self.consumeMatching p) fs
  rcases consumeMatching_files hs hx with ⟨hfs, hne⟩ | ⟨i, hname, htext, -⟩
  · exact Or.inl ⟨hfs, hstatus ▸ hne⟩
  · exact Or.inr ⟨i, hname, htext⟩

/-! ## What an issue call leaves -/

/-- On files, the events of an issue call that returns create the permit's file, with its
text in it. -/
theorem issueEvents_files {issuer : RootOwnedActivationPermitIssuer}
    {rootMetadata metadata : Metadata} {file directory : Handle} {fs' : Fs}
    (hx : Exec Fs.Step fs (issuer.issueEvents p rootMetadata metadata file directory) fs') :
    fs.stat issuer.root = some rootMetadata ∧ fs.Free (issuer.permitPath p.authorization)
      ∧ fs'.stat (issuer.permitPath p.authorization) = some metadata
      ∧ ∃ given, fs' = (fs.create (issuer.permitPath p.authorization) given).append fs.next
        (TrustedActivationPermit.fromPrepared p).canonicalText := by
  cases hx with | cons hlook hx =>
  obtain ⟨hstat, rfl⟩ := hlook
  cases hx with | cons hnew hx =>
  obtain ⟨hfree, rfl, given, rfl⟩ := hnew
  cases hx with | cons hwritten hx =>
  obtain rfl := hwritten
  cases hx with | cons hsynced hx =>
  obtain rfl := hsynced
  cases hx with | cons hshown hx =>
  obtain ⟨hmetadata, rfl⟩ := hshown
  cases hx with | cons hopened hx =>
  cases hx with | cons hclosed hx =>
  obtain rfl := hclosed
  cases hx
  cases directory <;> obtain ⟨-, rfl⟩ := hopened <;> exact ⟨hstat, hfree, hmetadata, given, rfl⟩

/-- An issue call that returned has created one file, and it is a permit for the
request. -/
theorem holds_of_issued {issuer : RootOwnedActivationPermitIssuer}
    (hroot : issuer.root = self.root) (howner : issuer.expectedOwnerUid = self.expectedOwnerUid)
    {grant : OsAuthorizationGrant} {now : Nat} {issued : IssuedActivationPermit}
    {tr : List (Event FsSig)} (hs : (issuer.issue p grant now).Steps tr (.pure issued))
    {fs' : Fs} (hfresh : fs.Fresh) (hx : Exec Fs.Step fs tr fs') :
    issued.permitPath = self.permitPath p.authorization ∧ self.Holds fs' p fs.next := by
  obtain ⟨-, rfl, hcreate⟩ := RootOwnedActivationPermitIssuer.issued_of_steps hs
  obtain ⟨rootMetadata, metadata, file, directory, rfl, hsafe, hfile⟩ :=
    RootOwnedActivationPermitIssuer.createPermit_returned hcreate
  have hpath : issuer.permitPath p.authorization = self.permitPath p.authorization :=
    RootOwnedActivationPermitIssuer.permitPath_eq hroot _
  obtain ⟨hstat, hfree, hshown, given, rfl⟩ := issueEvents_files hx
  rw [hpath] at hfree hshown ⊢
  rw [hroot] at hstat
  rw [howner] at hsafe hfile
  refine ⟨hpath, ?_⟩
  have hdistinct : self.permitPath p.authorization ≠ self.root := by
    intro heq
    rw [heq] at hfree
    simp [Fs.stat, hfree.1, hfree.2] at hstat
  refine ⟨⟨rootMetadata, ?_, hsafe⟩, hdistinct, ?_, ?_, ?_⟩
  · rw [Fs.stat_append, Fs.stat_create_ne hfresh (Ne.symm hdistinct), hstat]
  · rw [Fs.append_names, Fs.create_names_self]
  · simp only [Fs.stat, Fs.append_names, Fs.create_names_self, Option.some.injEq] at hshown
    rwa [hshown]
  · rw [Fs.append_content_self, Fs.create_content_self, String.empty_append]

/-! ## Any requests, in any order -/

/-- The files after these requests were tried one after the other. -/
def consumeAll (self : FileTrustedActivationPermitStore) (created : Nat → Metadata) :
    List PreparedPrivilegedActivation → Fs → Fs
  | [], fs => fs
  | q :: rest, fs =>
      self.consumeAll created rest ((self.consumeMatching q).run (Fs.serve created) fs).2

/-- No permit is there, under whatever name. -/
def Vacant (self : FileTrustedActivationPermitStore) (fs : Fs) : Prop :=
  ∀ authorization, fs.names (self.permitPath authorization) = none

theorem Vacant.run (h : self.Vacant fs) (created : Nat → Metadata)
    (q : PreparedPrivilegedActivation) :
    ((self.consumeMatching q).run (Fs.serve created) fs).2 = fs
      ∧ ((self.consumeMatching q).run (Fs.serve created) fs).1 ≠ .returned () := by
  rcases self.run_consumeMatching created fs q with hrejected | ⟨i, hname, -⟩
  · exact hrejected
  · rw [h] at hname
    cases hname

theorem Vacant.consumeAll (h : self.Vacant fs) (created : Nat → Metadata)
    (earlier : List PreparedPrivilegedActivation) :
    self.consumeAll created earlier fs = fs := by
  induction earlier with
  | nil => rfl
  | cons q rest ih => rw [FileTrustedActivationPermitStore.consumeAll, (h.run created q).1, ih]

/-- The permit of `p` is there, and no other. -/
structure HoldsOnly (store : FileTrustedActivationPermitStore) (fs : Fs)
    (p : PreparedPrivilegedActivation) (i : Nat) : Prop extends store.Holds fs p i where
  alone : ∀ authorization, store.permitPath authorization ≠ store.permitPath p.authorization →
    fs.names (store.permitPath authorization) = none

/-- Once consumed it leaves none. -/
theorem HoldsOnly.vacant (h : self.HoldsOnly fs p i) :
    self.Vacant (fs.remove (self.permitPath p.authorization)) := by
  intro authorization
  by_cases hpath : self.permitPath authorization = self.permitPath p.authorization
  · rw [hpath, Fs.remove_names_self]
  · rw [Fs.remove_names_ne hpath, h.alone authorization hpath]

/-- A request with another permit is rejected and changes nothing. -/
theorem HoldsOnly.rejected (h : self.HoldsOnly fs p i)
    (hne : TrustedActivationPermit.fromPrepared q ≠ .fromPrepared p) (created : Nat → Metadata) :
    ((self.consumeMatching q).run (Fs.serve created) fs).2 = fs
      ∧ ((self.consumeMatching q).run (Fs.serve created) fs).1 ≠ .returned () := by
  rcases self.run_consumeMatching created fs q with hrejected | ⟨j, hname, htext⟩
  · exact hrejected
  · by_cases hpath : self.permitPath q.authorization = self.permitPath p.authorization
    · rw [hpath, h.name] at hname
      obtain rfl := Option.some.inj hname
      exact absurd (TrustedActivationPermit.eq_of_canonicalText_eq (htext.symm.trans h.content)) hne
    · rw [h.alone _ hpath] at hname
      cases hname

/-- Where the attempts so far leave the permit. -/
theorem HoldsOnly.consumeAll (h : self.HoldsOnly fs p i) (created : Nat → Metadata)
    (earlier : List PreparedPrivilegedActivation) :
    ((∀ q ∈ earlier, TrustedActivationPermit.fromPrepared q ≠ .fromPrepared p)
        → self.consumeAll created earlier fs = fs)
      ∧ ((∃ q ∈ earlier, TrustedActivationPermit.fromPrepared q = .fromPrepared p)
        → self.Vacant (self.consumeAll created earlier fs)) := by
  induction earlier with
  | nil => exact ⟨fun _ => rfl, by simp⟩
  | cons q rest ih =>
      rw [FileTrustedActivationPermitStore.consumeAll]
      by_cases heq : TrustedActivationPermit.fromPrepared q = .fromPrepared p
      · rw [h.consumed_by heq, h.vacant.consumeAll]
        exact ⟨fun hall => absurd heq (hall q (List.mem_cons_self ..)), fun _ => h.vacant⟩
      · rw [(h.rejected heq created).1]
        exact ⟨fun hall => ih.1 fun q' hq' => hall q' (List.mem_cons_of_mem _ hq'),
          fun ⟨q', hq', heq'⟩ => ih.2 (by
            rcases List.mem_cons.mp hq' with rfl | hq'
            · exact absurd heq' heq
            · exact ⟨q', hq', heq'⟩)⟩

/-- The attempt that consumes the permit is the first one of a request with it. -/
theorem HoldsOnly.consumed_iff (h : self.HoldsOnly fs p i) (created : Nat → Metadata)
    (earlier : List PreparedPrivilegedActivation) (q : PreparedPrivilegedActivation) :
    ((self.consumeMatching q).run (Fs.serve created) (self.consumeAll created earlier fs)).1
        = .returned ()
      ↔ TrustedActivationPermit.fromPrepared q = .fromPrepared p
        ∧ ∀ q' ∈ earlier, TrustedActivationPermit.fromPrepared q' ≠ .fromPrepared p := by
  obtain ⟨hkept, hspent⟩ := h.consumeAll created earlier
  by_cases hall : ∀ q' ∈ earlier, TrustedActivationPermit.fromPrepared q' ≠ .fromPrepared p
  · rw [hkept hall]
    by_cases heq : TrustedActivationPermit.fromPrepared q = .fromPrepared p
    · rw [h.consumed_by heq]
      exact ⟨fun _ => ⟨heq, hall⟩, fun _ => rfl⟩
    · exact ⟨fun hok => absurd hok (h.rejected heq created).2, fun hq => absurd hq.1 heq⟩
  · have hvacant := hspent (by simpa using hall)
    exact ⟨fun hok => absurd hok (hvacant.run created q).2, fun hq => absurd hq.2 hall⟩

/-- An attempt that fails changes nothing. -/
theorem HoldsOnly.unchanged (h : self.HoldsOnly fs p i) (created : Nat → Metadata)
    (earlier : List PreparedPrivilegedActivation) (q : PreparedPrivilegedActivation)
    (hrejected : ((self.consumeMatching q).run (Fs.serve created)
      (self.consumeAll created earlier fs)).1 ≠ .returned ()) :
    ((self.consumeMatching q).run (Fs.serve created) (self.consumeAll created earlier fs)).2
      = self.consumeAll created earlier fs := by
  obtain ⟨hkept, hspent⟩ := h.consumeAll created earlier
  by_cases hall : ∀ q' ∈ earlier, TrustedActivationPermit.fromPrepared q' ≠ .fromPrepared p
  · have hne : TrustedActivationPermit.fromPrepared q ≠ .fromPrepared p := fun heq =>
      hrejected ((h.consumed_iff created earlier q).mpr ⟨heq, hall⟩)
    rw [hkept hall]
    exact (h.rejected hne created).1
  · exact ((hspent (by simpa using hall)).run created q).1

/-- What an issue call that returned `Ok` leaves, on files that never fail and with no
other permit there: whatever requests were tried before, a request is accepted
if and only if its permit is the issued one and it is the first such request; a
request that is not accepted changes nothing, and the issued permit stays in
place until it is consumed; and after one `Ok` every further request is rejected. -/
theorem issued_consumable {issuer : RootOwnedActivationPermitIssuer}
    (hroot : issuer.root = self.root) (howner : issuer.expectedOwnerUid = self.expectedOwnerUid)
    {created : Nat → Metadata} {grant : OsAuthorizationGrant} {now : Nat}
    {issued : IssuedActivationPermit} {fs fs' : Fs} (hfresh : fs.Fresh)
    (hissued : (issuer.issue p grant now).run (Fs.serve created) fs = (.returned issued, fs'))
    (halone : ∀ authorization, self.permitPath authorization ≠ issued.permitPath →
      fs'.names (self.permitPath authorization) = none)
    (earlier : List PreparedPrivilegedActivation) (q : PreparedPrivilegedActivation) :
    let attempt := fun earlier q => (self.consumeMatching q).run (Fs.serve created)
      (self.consumeAll created earlier fs')
    ((attempt earlier q).1 = .returned ()
        ↔ TrustedActivationPermit.fromPrepared q = .fromPrepared p
          ∧ ∀ q' ∈ earlier, TrustedActivationPermit.fromPrepared q' ≠ .fromPrepared p)
      ∧ ((attempt earlier q).1 ≠ .returned () →
        (attempt earlier q).2 = self.consumeAll created earlier fs')
      ∧ ((∀ q' ∈ earlier, TrustedActivationPermit.fromPrepared q' ≠ .fromPrepared p) →
        self.consumeAll created earlier fs' = fs')
      ∧ ∀ before q' after, earlier = before ++ q' :: after → (attempt before q').1 = .returned () →
        (attempt earlier q).1 ≠ .returned () := by
  obtain ⟨tr, done, hs, hstatus, hx⟩ :=
    run_exec (Fs.serve_step created) (issuer.issue p grant now) fs
  rw [hissued] at hstatus hx
  obtain rfl : done = .pure issued := by
    cases done <;> cases hstatus
    rfl
  obtain ⟨hpath, hholds⟩ := holds_of_issued hroot howner hs hfresh hx
  rw [hpath] at halone
  have honly : self.HoldsOnly fs' p fs.next := ⟨hholds, halone⟩
  refine ⟨honly.consumed_iff created earlier q, honly.unchanged created earlier q,
    (honly.consumeAll created earlier).1, ?_⟩
  rintro before q' after rfl hok hok'
  have hsame := ((honly.consumed_iff created before q').mp hok).1
  exact ((honly.consumed_iff created _ q).mp hok').2 q' (by simp) hsame

end FileTrustedActivationPermitStore

namespace PermitRuns

/-- New files of root, with no umask. -/
def pilotCreated (mode : Nat) : Metadata := ⟨false, false, true, 0, mode⟩

theorem pilot_issued : (pilotIssuer.issue pilotPrepared pilotGrant 2300).run
    (Fs.serve pilotCreated) (.emptyDirectory pilotRoot)
      = (.returned (pilotIssuer.issuedFor pilotPrepared pilotGrant 2300),
        withPermit (.emptyDirectory pilotRoot)) := by
  have hempty : Empty (.emptyDirectory pilotRoot) := ⟨fun _ => rfl, rfl⟩
  have hlook : (Fs.emptyDirectory pilotRoot).serve pilotCreated (.symlinkMetadata pilotRoot)
      = (.ok rootMetadata, .emptyDirectory pilotRoot) := by
    simp only [Fs.serve, hempty.stat_root]
  have hnew : (Fs.emptyDirectory pilotRoot).serve pilotCreated (.createNew pilotPath 0o600)
      = (.ok (.file 0), (Fs.emptyDirectory pilotRoot).create pilotPath permitMetadata) := by
    simp only [Fs.serve, if_pos hempty.free]
    rfl
  have hshown : (withPermit (.emptyDirectory pilotRoot)).serve pilotCreated
      (.symlinkMetadata pilotPath)
      = (.ok permitMetadata, withPermit (.emptyDirectory pilotRoot)) := by
    simp only [Fs.serve, withPermit_stat]
  have hopen : (withPermit (.emptyDirectory pilotRoot)).serve pilotCreated (.openFile pilotRoot)
      = (.ok .dir, withPermit (.emptyDirectory pilotRoot)) := by
    simp only [Fs.serve, withPermit_names hempty, if_neg (Ne.symm pilotPath_ne)]
    rfl
  exact run_of_steps (RootOwnedActivationPermitIssuer.issue_of_approved pilotGrant_approved
      rootMetadata_safe permitMetadata_safe (.file 0) .dir)
    (.cons hlook <| .cons hnew <| .cons rfl <| .cons rfl <| .cons hshown <| .cons hopen <|
      .cons rfl .nil)

/-- Someone else's request does not take the pilot's permit. -/
theorem pilot_handed_over :
    ((pilotPermits.consumeMatching pilotPrepared).run (Fs.serve pilotCreated)
      (pilotPermits.consumeAll pilotCreated [Pilot.prepared ⟨"auth:two"⟩]
        (withPermit (.emptyDirectory pilotRoot)))).1 = .returned () := by
  have hother : TrustedActivationPermit.fromPrepared (Pilot.prepared ⟨"auth:two"⟩)
      ≠ .fromPrepared pilotPrepared := by
    intro h
    have hauthorization := congrArg TrustedActivationPermit.authorization h
    exact absurd hauthorization (by decide)
  refine (FileTrustedActivationPermitStore.issued_consumable rfl rfl
    (Fs.fresh_emptyDirectory pilotRoot) pilot_issued (fun authorization hne => ?_)
    [Pilot.prepared ⟨"auth:two"⟩] pilotPrepared).1.mpr ⟨rfl, by simpa using hother⟩
  rw [withPermit_names ⟨fun _ => rfl, rfl⟩]
  exact if_neg hne

end PermitRuns

end Blob
