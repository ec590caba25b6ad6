import Mathlib.Data.List.Perm.Subperm
import Blob.PermitHandover

/-!
# Concurrent use of permits

Any number of issue calls and consumers, interleaved operation by operation on
one permit directory. Several consumers may have read the same permit, and it
may be issued again in between; but a name is taken once for each creation and
freed once for each removal (`run_balance`), and every consumer that succeeds
has removed. So there are at most as many as creations (`permit_use`).
-/

namespace Blob

namespace PermitUse

open Pool

/-! ## The system -/

inductive Call where
  | issue (self : RootOwnedActivationPermitIssuer) (prepared : PreparedPrivilegedActivation)
      (grant : OsAuthorizationGrant) (nowUnixMs : Nat)
  | consumeMatching (self : FileTrustedActivationPermitStore)
      (prepared : PreparedPrivilegedActivation)

namespace Call

abbrev Err : Call → Type
  | .issue _ _ _ _ => PermitIssueError
  | .consumeMatching _ _ => TrustedActivationPermitError

abbrev Res : Call → Type
  | .issue _ _ _ _ => IssuedActivationPermit
  | .consumeMatching _ _ => Unit

def prog : (c : Call) → Prog FsSig c.Err c.Res
  | .issue self prepared grant now => self.issue prepared grant now
  | .consumeMatching self prepared => self.consumeMatching prepared

def root : Call → PathBuf
  | .issue self _ _ _ => self.root
  | .consumeMatching self _ => self.root

end Call

/-- Calls on one permit directory, with any grants. The environment may do what it
likes but put a permit there. -/
abbrev system (root : PathBuf) : System where
  S := FsSig
  Call := Call
  Err := Call.Err
  Res := Call.Res
  prog := Call.prog
  World := Fs
  step := Fs.Step
  drift fs fs' := ∀ authorization, fs.names (PermitRuns.permitPath root authorization) = none →
    fs'.names (PermitRuns.permitPath root authorization) = none
  admits _ c := c.root = root

/-! ## Creations and removals of one name -/

def isCreate (path : PathBuf) : Act FsSig Call → Bool
  | .act _ ⟨.createNew name _, .ok _⟩ => decide (name = path)
  | _ => false

def isRemove (path : PathBuf) : Act FsSig Call → Bool
  | .act _ ⟨.removeFile name, .ok _⟩ => decide (name = path)
  | _ => false

/-- One, if the name is taken. -/
def held (path : PathBuf) (fs : Fs) : Nat := if (fs.names path).isSome then 1 else 0

theorem held_of_none {path : PathBuf} {fs : Fs} (h : fs.names path = none) :
    held path fs = 0 := by
  simp [held, h]

theorem held_of_ne_none {path : PathBuf} {fs : Fs} (h : fs.names path ≠ none) :
    held path fs = 1 := by
  simp [held, Option.isSome_iff_ne_none.mpr h]

theorem held_le_one (path : PathBuf) (fs : Fs) : held path fs ≤ 1 := by
  unfold held
  split <;> omega

/-- What one step does to a name, and how it is counted. -/
theorem step_balance {fs fs' : Fs} {e : Event FsSig} (h : fs.Step e fs') (path : PathBuf)
    (k : Nat) : (if isRemove path (.act k e) then 1 else 0) + held path fs'
      = (if isCreate path (.act k e) then 1 else 0) + held path fs := by
  rcases Fs.step_cases h with ⟨rfl, hquiet⟩ | ⟨name, mode, metadata, rfl, hfree, rfl⟩
      | ⟨i, text, answer, chunk, rfl, -, rfl⟩ | ⟨name, rfl, rfl⟩
  · have hcreate : isCreate path (.act k e) = false := by
      obtain ⟨op, ans⟩ := e
      cases op <;> cases ans <;> first | rfl | cases hquiet
    have hremove : isRemove path (.act k e) = false := by
      obtain ⟨op, ans⟩ := e
      cases op <;> cases ans <;> first | rfl | cases hquiet
    rw [hcreate, hremove]
  · by_cases hname : name = path
    · subst hname
      rw [held_of_none hfree.1, held_of_ne_none (by simp)]
      simp [isCreate, isRemove]
    · have hsame : held path (fs.create name metadata) = held path fs := by
        rw [held, Fs.create_names_ne (Ne.symm hname), held]
      simp [isCreate, isRemove, hname, hsame]
  · rfl
  · by_cases hname : name = path
    · subst hname
      rw [held_of_none (Fs.remove_names_self ..), held_of_ne_none h.1]
      simp [isCreate, isRemove]
    · have hsame : held path (fs.remove name) = held path fs := by
        rw [held, Fs.remove_names_ne (Ne.symm hname), held]
      simp [isCreate, isRemove, hname, hsame]

/-- Along every run a permit name is removed at most as often as it was created, counting
what is there at the start and what is left. -/
theorem run_balance {root : PathBuf} {fs₀ fs : Fs} {h : (system root).History}
    (hr : Run (system root) fs₀ h fs) (authorization : SystemAuthorizationId) :
    h.countP (isRemove (PermitRuns.permitPath root authorization))
        + held (PermitRuns.permitPath root authorization) fs
      ≤ h.countP (isCreate (PermitRuns.permitPath root authorization))
        + held (PermitRuns.permitPath root authorization) fs₀ := by
  induction hr with
  | nil => exact Nat.le_refl _
  | spawn c _ _ ih => simpa [isRemove, isCreate] using ih
  | @act h fs fs' k c e q _ _ _ hstep ih =>
      have hone := step_balance hstep (PermitRuns.permitPath root authorization) k
      simp only [List.countP_append, List.countP_singleton]
      omega
  | @drift h fs fs' _ hdrift ih =>
      cases hname : fs.names (PermitRuns.permitPath root authorization) with
      | none =>
          rw [held_of_none (hdrift _ hname)]
          rw [held_of_none hname] at ih
          exact ih
      | some i =>
          have hone := held_le_one (PermitRuns.permitPath root authorization) fs'
          rw [held_of_ne_none (by simp [hname])] at ih
          omega

/-! ## Who creates, and who removes -/

/-- A create-new step of an issue call for this authorization that succeeded. -/
def createsFor (h : List (Act FsSig Call)) (authorization : SystemAuthorizationId) :
    Act FsSig Call → Bool
  | .act k ⟨.createNew _ _, .ok _⟩ =>
      match (calls h)[k]? with
      | some (.issue _ prepared _ _) => decide (prepared.authorization = authorization)
      | _ => false
  | _ => false

/-- How many there are. -/
def creations (h : List (Act FsSig Call)) (authorization : SystemAuthorizationId) : Nat :=
  h.countP (createsFor h authorization)

/-- Call `x` is a consumer of a permit of this authorization that has returned `Ok`. -/
def returnedOk (h : List (Act FsSig Call)) (authorization : SystemAuthorizationId) (x : Nat) :
    Bool :=
  match (calls h)[x]? with
  | some (.consumeMatching self prepared) =>
      decide (prepared.authorization = authorization)
        && match (self.consumeMatching prepared).follow (proj x h) with
          | some (.pure _) => true
          | _ => false
  | _ => false

/-- How many there are. -/
def consumptions (h : List (Act FsSig Call)) (authorization : SystemAuthorizationId) : Nat :=
  (List.range (calls h).length).countP (returnedOk h authorization)

theorem returnedOk_iff {h : List (Act FsSig Call)} {authorization : SystemAuthorizationId}
    {x : Nat} : returnedOk h authorization x = true
      ↔ ∃ self prepared, (calls h)[x]? = some (.consumeMatching self prepared)
        ∧ prepared.authorization = authorization
        ∧ (self.consumeMatching prepared).Steps (proj x h) (.pure ()) := by
  unfold returnedOk
  constructor
  · intro hok
    split at hok
    · rename_i self prepared hcall
      rw [Bool.and_eq_true, decide_eq_true_eq] at hok
      obtain ⟨hauthorization, hdone⟩ := hok
      split at hdone
      · rename_i u hfollow
        exact ⟨self, prepared, hcall, hauthorization, Prog.steps_of_follow hfollow⟩
      · cases hdone
    · cases hok
  · rintro ⟨self, prepared, hcall, hauthorization, hs⟩
    simp [hcall, hauthorization, Prog.follow_of_steps hs]

/-- A permit file is created by an issue call for its authorization. -/
theorem creator_of_mem {root : PathBuf} {fs₀ fs : Fs} {h : (system root).History}
    (hr : Run (system root) fs₀ h fs) {authorization : SystemAuthorizationId} {k mode : Nat}
    {file : Handle} (hmem : .act k
      ⟨.createNew (PermitRuns.permitPath root authorization) mode, .ok file⟩ ∈ h) :
    ∃ self prepared grant now, (calls h)[k]? = some (.issue self prepared grant now)
      ∧ prepared.authorization = authorization := by
  obtain ⟨h₁, h₂, rfl⟩ := List.append_of_mem hmem
  obtain ⟨c, _, _, q, hcall, -, hs, -⟩ := hr.split
  obtain ⟨_, _, -, hroot⟩ := hr.admitted (calls_mono _ hcall)
  cases c with
  | issue self prepared grant now =>
      refine ⟨self, prepared, grant, now, calls_mono _ hcall, ?_⟩
      rcases RootOwnedActivationPermitIssuer.issue_writes hs with hnil | ⟨-, _, _, hprefix⟩
      · simp at hnil
      · have hcreate := hprefix.subset (List.mem_filter.mpr
          ⟨List.mem_append_right _ (List.mem_singleton_self _), rfl⟩)
        simp only [List.mem_cons, Event.mk.injEq, FsOp.createNew.injEq, reduceCtorEq, false_and,
          or_false, List.not_mem_nil] at hcreate
        have hpath : self.permitPath prepared.authorization
            = PermitRuns.permitPath root prepared.authorization := by
          rw [← (hroot : self.root = root)]
          exact @RootOwnedActivationPermitIssuer.permitPath_eq self ⟨self.root, 0⟩ rfl _
        exact PermitRuns.permitPath_injective root (hpath.symm.trans hcreate.1.1.symm)
  | consumeMatching self prepared =>
      have hnone := writes_eq_nil (self.consumeMatching_uses prepared) hs
      rw [List.filter_append, List.append_eq_nil_iff] at hnone
      cases hnone.2

/-- So a permit name is created as often as its authorization was issued. -/
theorem creates_le {root : PathBuf} {fs₀ fs : Fs} {h : (system root).History}
    (hr : Run (system root) fs₀ h fs) (authorization : SystemAuthorizationId) :
    h.countP (isCreate (PermitRuns.permitPath root authorization))
      ≤ creations h authorization := by
  refine List.countP_mono_left ?_
  intro a hmem hcreate
  rcases a with c | ⟨k, ⟨op, ans⟩⟩
  · cases hcreate
  · cases op with
    | createNew name mode =>
        rcases ans with e | file
        · cases hcreate
        · obtain rfl := of_decide_eq_true hcreate
          obtain ⟨self, prepared, grant, now, hcall, hauthorization⟩ := creator_of_mem hr hmem
          simp [createsFor, hcall, hauthorization]
    | _ => cases hcreate

/-- Who performed an operation. -/
def actor : Act FsSig Call → Nat
  | .spawn _ => 0
  | .act k _ => k

/-- Every consumer that has returned `Ok` has removed its permit. -/
theorem consumptions_le {root : PathBuf} {fs₀ fs : Fs} {h : (system root).History}
    (hr : Run (system root) fs₀ h fs) (authorization : SystemAuthorizationId) :
    consumptions h authorization
      ≤ h.countP (isRemove (PermitRuns.permitPath root authorization)) := by
  have hsub : (List.range (calls h).length).filter (returnedOk h authorization)
      ⊆ (h.filter (isRemove (PermitRuns.permitPath root authorization))).map actor := by
    intro x hx
    obtain ⟨self, prepared, hcall, rfl, hs⟩ := returnedOk_iff.mp (List.mem_filter.mp hx).2
    obtain ⟨_, _, -, hroot⟩ := hr.admitted hcall
    obtain ⟨file, hconsumed⟩ := FileTrustedActivationPermitStore.steps_consumeMatching hs
    obtain ⟨pre, post, hproj, -⟩ := hconsumed.removal
    have hmem : .act x ⟨.removeFile (self.permitPath prepared.authorization), .ok ()⟩ ∈ h :=
      mem_proj.mp (by rw [hproj]; simp)
    refine List.mem_map.mpr ⟨_, List.mem_filter.mpr ⟨hmem, decide_eq_true ?_⟩, rfl⟩
    rw [← hroot]
    rfl
  have hnodup : ((List.range (calls h).length).filter (returnedOk h authorization)).Nodup :=
    List.nodup_range.filter _
  rw [consumptions, List.countP_eq_length_filter, List.countP_eq_length_filter]
  simpa using (List.subperm_of_subset hnodup hsub).length_le

/-! ## The theorem -/

/-- Call `x` read this text from the permit file of its request, when the file held
it. -/
def ReadAt {root : PathBuf} (fs₀ : Fs) (h : (system root).History) (x : Nat)
    (self : FileTrustedActivationPermitStore) (prepared : PreparedPrivilegedActivation)
    (text : String) : Prop :=
  ∃ before after i fs, h = before ++ .act x ⟨.readToString (.file i), .ok text⟩ :: after
    ∧ ⟨.openFile (self.permitPath prepared.authorization), .ok (.file i)⟩ ∈ proj x before
    ∧ Run (system root) fs₀ before fs ∧ fs.content i = text
    ∧ ∀ file text', .act x ⟨.readToString file, .ok text'⟩ ∈ h → file = .file i ∧ text' = text

/-- A consumer that has returned `Ok` has read exactly its text. -/
theorem read_of_returned {root : PathBuf} {fs₀ fs : Fs} {h : (system root).History}
    (hr : Run (system root) fs₀ h fs) {x : Nat} {self : FileTrustedActivationPermitStore}
    {prepared : PreparedPrivilegedActivation}
    (hs : (self.consumeMatching prepared).Steps (proj x h) (.pure ())) :
    ReadAt fs₀ h x self prepared
      (TrustedActivationPermit.fromPrepared prepared).canonicalText := by
  obtain ⟨file, hconsumed⟩ := FileTrustedActivationPermitStore.steps_consumeMatching hs
  obtain ⟨rootMetadata, metadata, post, hproj, -⟩ := id hconsumed
  rw [List.append_cons] at hproj
  obtain ⟨before, after, rfl, hbefore, -⟩ := proj_eq_append hproj
  obtain ⟨_, fs₁, _, _, -, hr₁, -, hstep⟩ := hr.split
  cases file with
  | dir => exact absurd hstep id
  | file i =>
      refine ⟨before, after, i, fs₁, rfl, ?_, hr₁, hstep.1.symm, fun file' text' hmem => ?_⟩
      · rw [hbefore]
        simp
      · exact hconsumed.read_unique (mem_proj.mpr hmem)

/-- In every run of any number of issue calls and consumers on one permit directory, in
any interleaving: for each authorization no more consumers return `Ok` than
create-new steps succeed for it, beside a permit that was there from the start; a
consumer that returns `Ok` has read exactly its own text from the file; and one
that returns an error other than an I/O error has removed nothing. -/
theorem permit_use {root : PathBuf} {fs₀ fs : Fs} {h : (system root).History}
    (hr : Run (system root) fs₀ h fs) :
    (∀ authorization, consumptions h authorization
        ≤ creations h authorization + held (PermitRuns.permitPath root authorization) fs₀)
      ∧ (∀ authorization, fs₀.names (PermitRuns.permitPath root authorization) = none →
        consumptions h authorization ≤ creations h authorization)
      ∧ ∀ x self prepared, (calls h)[x]? = some (.consumeMatching self prepared) →
        ((self.consumeMatching prepared).Steps (proj x h) (.pure ()) →
          ReadAt fs₀ h x self prepared
            (TrustedActivationPermit.fromPrepared prepared).canonicalText)
        ∧ ∀ e, (self.consumeMatching prepared).Steps (proj x h) (.throw e) →
          (∀ text, e ≠ .io text) → ∀ path, .act x ⟨.removeFile path, .ok ()⟩ ∉ h := by
  have hcount : ∀ authorization, consumptions h authorization
      ≤ creations h authorization + held (PermitRuns.permitPath root authorization) fs₀ := by
    intro authorization
    have hconsumed := consumptions_le hr authorization
    have hbalance := run_balance hr authorization
    have hcreated := creates_le hr authorization
    omega
  refine ⟨hcount, fun authorization hfree => ?_, fun x self prepared hcall => ⟨?_, ?_⟩⟩
  · have := hcount authorization
    rwa [held_of_none hfree] at this
  · exact read_of_returned hr
  · intro e hs he path hmem
    have hquiet := FileTrustedActivationPermitStore.rejected_of_steps hs he
    have hremoval := List.filter_eq_nil_iff.mp hquiet _ (mem_proj.mpr hmem)
    exact hremoval rfl

/-! The pilot's permit, issued and consumed. -/

open PermitRuns (pilotRoot pilotPath pilotIssuer pilotPermits pilotPrepared pilotGrant pilotIssue
  pilotConsume withPermit)

def pilotUse : List (Act FsSig Call) :=
  .spawn (.issue pilotIssuer pilotPrepared pilotGrant 2300) :: (pilotIssue 0).map (.act 0)
    ++ .spawn (.consumeMatching pilotPermits pilotPrepared) :: (pilotConsume 0).map (.act 1)

theorem pilotUse_run : Run (system pilotRoot) (.emptyDirectory pilotRoot) pilotUse
    ((withPermit (.emptyDirectory pilotRoot)).remove pilotPath) := by
  have hempty : PermitRuns.Empty (.emptyDirectory pilotRoot) := ⟨fun _ => rfl, rfl⟩
  have hissue : (pilotIssuer.issue pilotPrepared pilotGrant 2300).Steps (pilotIssue 0) _ :=
    RootOwnedActivationPermitIssuer.issue_of_approved PermitRuns.pilotGrant_approved
      PermitRuns.rootMetadata_safe PermitRuns.permitMetadata_safe (.file 0) .dir
  have hconsume : (pilotPermits.consumeMatching pilotPrepared).Steps (pilotConsume 0) _ :=
    FileTrustedActivationPermitStore.consumeMatching_of_match pilotPrepared
      PermitRuns.rootMetadata_safe PermitRuns.permitMetadata_safe (.file 0) .dir
  have hissued := Run.nil.call (Y := system pilotRoot)
    (c := .issue pilotIssuer pilotPrepared pilotGrant 2300) rfl hissue
    (PermitRuns.exec_pilotIssue hempty)
  exact hissued.call (c := .consumeMatching pilotPermits pilotPrepared) rfl hconsume
    (PermitRuns.exec_pilotConsume hempty)

theorem pilot_permit_use :
    consumptions pilotUse ⟨"auth:one"⟩ ≤ creations pilotUse ⟨"auth:one"⟩ :=
  (permit_use pilotUse_run).2.1 _ rfl

end PermitUse

end Blob
