import Blob.PermitFiles

/-!
# Is an approval single-use?

A grant that has passed the issuer's checks can be used again: the issuer
only looks whether the permit file is there, and a consumer removes it.
After a consumption the same grant therefore gives a second permit, and a
second consumer succeeds (`grant_consumed_twice`). A second gap is between
a consumer's reading and its removal, which go by name: the file it removes
need not be the one it has read.

These two are all there is: in every run in which no step takes one of them
(`SafeStep`), each granted check leads to at most one successful consumer
(`single_use`).
-/

namespace Blob

namespace PermitRuns

open Pool PkcheckAuthorizationChecker

/-! ## What a grant leads to -/

/-- Call `k` is an issue call with the grant of call `j`. -/
def IssuesFrom (h : List (Act PermitsSig Call)) (k j : Nat) : Prop :=
  ∃ issuer prepared grant now, (calls h)[k]? = some (.issue issuer prepared j grant now)

def IsConsumer (h : List (Act PermitsSig Call)) (x : Nat) : Prop :=
  ∃ c permits prepared, (calls h)[x]? = some c ∧ c.consumer? = some (permits, prepared)

/-- Call `x` has removed the permit that call `k` created. -/
def Removes (h : List (Act PermitsSig Call)) (x k : Nat) : Prop :=
  ∃ before path after i, h = before ++ .act x (fsEvent ⟨.removeFile path, .ok ()⟩) :: after
    ∧ holder path before = some (k, i)

/-- Call `x` has read the permit that call `k` created. -/
def Reads (h : List (Act PermitsSig Call)) (x k : Nat) : Prop :=
  ∃ i text path, .act x (fsEvent ⟨.readToString (.file i), .ok text⟩) ∈ h
    ∧ Created h k path i

/-- Call `x` has consumed a permit with success. -/
def Succeeds (h : List (Act PermitsSig Call)) (x : Nat) : Prop :=
  ∃ c permits prepared, (calls h)[x]? = some c ∧ c.consumer? = some (permits, prepared)
    ∧ (permits.consumeMatching prepared).Steps (files (proj x h)) (.pure ())

/-- The grant of call `j` has led to the success of call `x`: it matched, or
removed, a permit issued with that grant. -/
def LeadsTo (h : List (Act PermitsSig Call)) (j x : Nat) : Prop :=
  Succeeds h x ∧ ∃ k, IssuesFrom h k j ∧ (Reads h x k ∨ Removes h x k)

/-- No consumer has removed a permit issued with the grant of call `j`. -/
def Unspent (h : List (Act PermitsSig Call)) (j : Nat) : Prop :=
  ∀ x k, IsConsumer h x → Removes h x k → ¬ IssuesFrom h k j

/-- A step that keeps approvals single-use, seen from the history before it. -/
structure SafeStep (before : List (Act PermitsSig Call)) (k : Nat) (e : Event FsSig) :
    Prop where
  /-- An issue call that is to create a permit nobody holds has an unspent grant. -/
  unspent : ∀ {path mode j}, e.op = .createNew path mode → holder path before = none →
    IssuesFrom before k j → Unspent before j
  /-- A consumer that is to remove a permit has read that one. -/
  same : ∀ {path i i' text k'}, e.op = .removeFile path →
    .act k (fsEvent ⟨.readToString (.file i), .ok text⟩) ∈ before →
    holder path before = some (k', i') → i' = i

theorem IssuesFrom.mono {h : List (Act PermitsSig Call)} {k j : Nat} (hk : IssuesFrom h k j)
    (h' : List (Act PermitsSig Call)) : IssuesFrom (h ++ h') k j := by
  obtain ⟨issuer, prepared, grant, now, hc⟩ := hk
  exact ⟨issuer, prepared, grant, now, calls_mono h' hc⟩

/-! ## One name for a grant -/

/-- A call returns one grant. -/
theorem Granted.unique {h : List (Act PermitsSig Call)} {j : Nat}
    {grant grant' : OsAuthorizationGrant} {h₁ h₁' h₂ h₂' : List (Act PermitsSig Call)}
    (hg : Granted h₁ j grant) (hg' : Granted h₁' j grant') (hh : h = h₁ ++ h₂)
    (hh' : h = h₁' ++ h₂') : grant = grant' := by
  obtain ⟨self, request, now, tr, hc, -, hs⟩ := hg
  obtain ⟨self', request', now', tr', hc', -, hs'⟩ := hg'
  have hcall := calls_mono h₂ hc
  have hcall' := calls_mono h₂' hc'
  rw [← hh] at hcall
  rw [← hh', hcall] at hcall'
  obtain ⟨rfl, rfl, rfl⟩ := Call.check.inj (Option.some.inj hcall')
  obtain ⟨-, -, -, -, rfl⟩ := steps_checkUserInitiated hs
  obtain ⟨-, -, -, -, rfl⟩ := steps_checkUserInitiated hs'
  rfl

/-- The issue call that created a permit: its grant, and the permit's name. -/
theorem issue_of_created {root : PathBuf} {fs₀ fs : Fs} {h : (system root).History}
    (hempty : ∀ authorization, fs₀.names (permitPath root authorization) = none)
    (hr : Run (system root) fs₀ h fs) {j k i : Nat} {path : PathBuf}
    (hk : IssuesFrom h k j) (hcreated : Created h k path i) :
    ∃ prepared grant h₁ h₂, h = h₁ ++ h₂ ∧ Granted h₁ j grant
      ∧ grant.approvedPermitCanonical
        = (TrustedActivationPermit.fromPrepared prepared).canonicalText
      ∧ path = permitPath root prepared.authorization := by
  obtain ⟨c, text, hcall, hwriter, -, -⟩ := (run_inv hempty hr).content hcreated
  obtain ⟨issuer, prepared, source, grant, now, rfl, happroved, rfl, -⟩ := hwriter
  obtain ⟨issuer', prepared', grant', now', hcall'⟩ := hk
  rw [hcall] at hcall'
  obtain ⟨-, -, rfl, -, -⟩ := Call.issue.inj (Option.some.inj hcall')
  obtain ⟨h₁, h₂, rfl, hroot, hgranted⟩ := hr.admitted hcall
  refine ⟨prepared, grant, h₁, _, rfl, hgranted, happroved.exact_binding, ?_⟩
  rw [← hroot]
  exact @RootOwnedActivationPermitIssuer.permitPath_eq issuer ⟨issuer.root, 0⟩ rfl _

/-- Permits issued with one grant have one name. -/
theorem path_of_grant {root : PathBuf} {fs₀ fs : Fs} {h : (system root).History}
    (hempty : ∀ authorization, fs₀.names (permitPath root authorization) = none)
    (hr : Run (system root) fs₀ h fs) {j k k' i i' : Nat} {path path' : PathBuf}
    (hk : IssuesFrom h k j) (hk' : IssuesFrom h k' j) (hcreated : Created h k path i)
    (hcreated' : Created h k' path' i') : path = path' := by
  obtain ⟨prepared, grant, h₁, h₂, hh, hgranted, htext, rfl⟩ :=
    issue_of_created hempty hr hk hcreated
  obtain ⟨prepared', grant', h₁', h₂', hh', hgranted', htext', rfl⟩ :=
    issue_of_created hempty hr hk' hcreated'
  obtain rfl := hgranted.unique hgranted' hh hh'
  have hpermit := TrustedActivationPermit.eq_of_canonicalText_eq (htext.symm.trans htext')
  rw [show prepared.authorization = prepared'.authorization from
    congrArg TrustedActivationPermit.authorization hpermit]

/-! ## Where a permit was consumed -/

/-- Call `x` removed here the permit that a call with this grant created. -/
def RemovedAt (h before : List (Act PermitsSig Call)) (j x : Nat) (path : PathBuf) (k : Nat) :
    Prop :=
  ∃ i after, h = before ++ .act x (fsEvent ⟨.removeFile path, .ok ()⟩) :: after
    ∧ holder path before = some (k, i) ∧ IssuesFrom before k j

/-- A successful consumer has removed a permit name, and all it has read, before
that, is the file it had opened. -/
theorem removal_of_succeeds {root : PathBuf} {fs₀ fs : Fs} {h : (system root).History}
    (hr : Run (system root) fs₀ h fs) {x : Nat} (hsucc : Succeeds h x) :
    ∃ before after authorization file text,
      h = before ++ .act x (fsEvent ⟨.removeFile (permitPath root authorization), .ok ()⟩)
        :: after
      ∧ .act x (fsEvent ⟨.readToString file, .ok text⟩) ∈ before
      ∧ ∀ file' text', .act x (fsEvent ⟨.readToString file', .ok text'⟩) ∈ h → file' = file := by
  obtain ⟨c, permits, prepared, hc, hconsumer, hs⟩ := hsucc
  obtain ⟨file, hconsumed⟩ := FileTrustedActivationPermitStore.steps_consumeMatching hs
  obtain ⟨_, _, -, hadmits⟩ := hr.admitted hc
  have hroot : permits.root = root := by
    cases c with
    | check self request now => cases hconsumer
    | issue self prepared source grant now => cases hconsumer
    | consume permits' prepared' => cases hconsumer; exact hadmits
    | execute self permits' prepared' now => cases hconsumer; exact hadmits
  have hpath : permits.permitPath prepared.authorization
      = permitPath root prepared.authorization := by
    rw [← hroot]
    rfl
  rw [hpath] at hconsumed
  obtain ⟨pre, post, hfiles, hread⟩ := hconsumed.removal
  obtain ⟨before, after, rfl, rfl, -⟩ := files_eq_append hfiles
  exact ⟨before, after, prepared.authorization, file, _, rfl,
    mem_proj.mp (mem_files.mp hread),
    fun file' text' hmem => (hconsumed.read_unique (mem_files.mpr (mem_proj.mpr hmem))).1⟩

theorem IssuesFrom.before {before after : List (Act PermitsSig Call)} {k j : Nat}
    (hk : IssuesFrom (before ++ after) k j) {c : Call} (hc : (calls before)[k]? = some c) :
    IssuesFrom before k j := by
  obtain ⟨issuer, prepared, grant, now, hc'⟩ := hk
  rw [calls_mono after hc] at hc'
  exact ⟨issuer, prepared, grant, now, hc.trans hc'⟩

/-- What a grant led to was consumed in one place. -/
theorem removedAt_of_leadsTo {root : PathBuf} {fs₀ fs : Fs} {h : (system root).History}
    (hempty : ∀ authorization, fs₀.names (permitPath root authorization) = none)
    (hr : Run (system root) fs₀ h fs)
    (hsafe : ∀ before k e after, h = before ++ .act k (fsEvent e) :: after →
      SafeStep before k e) {j x : Nat} (hleads : LeadsTo h j x) :
    ∃ before path k, RemovedAt h before j x path k := by
  obtain ⟨hsucc, k, hissues, hreads | hremoves⟩ := hleads
  · obtain ⟨before, after, authorization, file, text, rfl, hread, hunique⟩ :=
      removal_of_succeeds hr hsucc
    obtain ⟨i, text', path, hmem, hcreated⟩ := hreads
    obtain rfl := hunique _ _ hmem
    -- the name that is removed denotes the file that was read
    obtain ⟨c, fs₁, _, _, -, hr₁, -, hstep⟩ := hr.split
    have hinv := run_inv hempty hr₁
    have hname := hinv.names authorization
    cases hholder : holder (permitPath root authorization) before with
    | none =>
        rw [hholder] at hname
        exact absurd hname hstep.1
    | some held =>
        obtain ⟨k', i'⟩ := held
        obtain rfl := (hsafe _ _ _ _ rfl).same rfl hread hholder
        have hcreated' := created_of_holder hholder
        obtain rfl := (run_inv hempty hr).unique hcreated (hcreated'.mono _)
        obtain ⟨_, _, hcall, -⟩ := hinv.content hcreated'
        exact ⟨before, _, k, i', after, rfl, hholder, hissues.before hcall⟩
  · obtain ⟨before, path, after, i, rfl, hholder⟩ := hremoves
    obtain ⟨fs₁, hr₁⟩ := hr.prefix
    obtain ⟨_, _, hcall, -⟩ := (run_inv hempty hr₁).content (created_of_holder hholder)
    exact ⟨before, path, k, i, after, rfl, hholder, hissues.before hcall⟩

/-! ## Single use -/

/-- No second permit issued with a grant is removed after a consumer has removed
one. -/
theorem not_removedAt_later {root : PathBuf} {fs₀ fs : Fs} {h : (system root).History}
    (hempty : ∀ authorization, fs₀.names (permitPath root authorization) = none)
    (hr : Run (system root) fs₀ h fs)
    (hsafe : ∀ before k e after, h = before ++ .act k (fsEvent e) :: after →
      SafeStep before k e) {before since : (system root).History} {j x y k k' : Nat}
    {path path' : PathBuf} (hconsumer : IsConsumer before x)
    (hx : RemovedAt h before j x path k)
    (hy : RemovedAt h (before ++ .act x (fsEvent ⟨.removeFile path, .ok ()⟩) :: since) j y
      path' k') : False := by
  obtain ⟨i, -, -, hholder, hissues⟩ := hx
  obtain ⟨i', after, rfl, hholder', hissues'⟩ := hy
  obtain ⟨fs₁, hr₁⟩ := hr.prefix
  -- both permits have the same name, and nobody holds it right after the removal
  obtain rfl : path' = path := path_of_grant hempty hr₁ hissues' (hissues.mono _)
    (created_of_holder hholder') ((created_of_holder hholder).mono _)
  have hfree : holder path' (before ++ [.act x (fsEvent ⟨.removeFile path', .ok ()⟩)]) = none := by
    rw [holder_concat]
    simp [track, fsEvent, Event.inl, Event.inr]
  have hholder₀ := hholder'
  rw [List.append_cons before] at hholder'
  obtain ⟨t₁, mode, t₂, rfl⟩ := created_since hfree hholder'
  -- so the file was created again, while the grant was spent
  obtain ⟨prepared, _, _, _, -, -, -, hpath⟩ := issue_of_created hempty hr₁ hissues'
    (created_of_holder hholder₀)
  have hsplit : before ++ .act x (fsEvent ⟨.removeFile path', .ok ()⟩)
      :: (t₁ ++ .act k' (fsEvent ⟨.createNew path' mode, .ok (.file i')⟩) :: t₂)
      = (before ++ .act x (fsEvent ⟨.removeFile path', .ok ()⟩) :: t₁)
        ++ .act k' (fsEvent ⟨.createNew path' mode, .ok (.file i')⟩) :: t₂ := by simp
  rw [hsplit] at hr₁ hissues'
  obtain ⟨c, fs₂, _, _, hcall, hr₂, -, hstep⟩ := hr₁.split
  have hnone : holder path' (before
      ++ .act x (fsEvent ⟨.removeFile path', .ok ()⟩) :: t₁) = none := by
    have hname := (run_inv hempty hr₂).names prepared.authorization
    rw [← hpath, hstep.1.1] at hname
    exact Option.map_eq_none_iff.mp hname.symm
  have hstep' := hsafe _ k' _ _ (by rw [hsplit, List.append_assoc, List.cons_append])
  have hunspent := hstep'.unspent rfl hnone (hissues'.before hcall)
  obtain ⟨c', permits, prepared', hc', hsome⟩ := hconsumer
  exact hunspent x k ⟨c', permits, prepared', calls_mono _ hc', hsome⟩
    ⟨before, path', t₁, i, rfl, hholder⟩ (hissues.mono _)

/-- In every run, of any number of calls in any interleaving, whose steps are all
safe: a granted check leads to at most one successful consumer. -/
theorem single_use {root : PathBuf} {fs₀ fs : Fs} {h : (system root).History}
    (hempty : ∀ authorization, fs₀.names (permitPath root authorization) = none)
    (hr : Run (system root) fs₀ h fs)
    (hsafe : ∀ before k e after, h = before ++ .act k (fsEvent e) :: after →
      SafeStep before k e) {j x y : Nat} (hx : LeadsTo h j x) (hy : LeadsTo h j y) : x = y := by
  have hconsumer : ∀ {z before after path}, Succeeds h z →
      h = before ++ .act z (fsEvent ⟨.removeFile path, .ok ()⟩) :: after →
      IsConsumer before z := by
    rintro z before after path ⟨c, permits, prepared, hc, hsome, -⟩ rfl
    obtain ⟨c', _, _, _, hc', -⟩ := hr.split
    obtain rfl := Option.some.inj ((calls_mono _ hc').symm.trans hc)
    exact ⟨c', permits, prepared, hc', hsome⟩
  obtain ⟨before, path, k, hremoved⟩ := removedAt_of_leadsTo hempty hr hsafe hx
  obtain ⟨before', path', k', hremoved'⟩ := removedAt_of_leadsTo hempty hr hsafe hy
  obtain ⟨i, after, hsplit, hheld⟩ := id hremoved
  obtain ⟨i', after', hsplit', hheld'⟩ := id hremoved'
  -- the two removals happen in some order
  rcases entries_ordered hsplit hsplit' with heq | ⟨since, rfl⟩ | ⟨since, rfl⟩
  · exact (Act.act.inj heq).1
  · exact (not_removedAt_later hempty hr hsafe (hconsumer hx.1 hsplit) hremoved
      hremoved').elim
  · exact (not_removedAt_later hempty hr hsafe (hconsumer hy.1 hsplit') hremoved'
      hremoved).elim

/-! The pilot's grant, used once and used twice. -/

/-- A consumer of a permit that was issued with the pilot's grant. -/
theorem leadsTo_pilot {h : List (Act PermitsSig Call)} {x k i : Nat}
    (hconsume : (calls h)[x]? = some pilotConsumeCall)
    (hconsumed : files (proj x h) = pilotConsume i)
    (hissue : (calls h)[k]? = some pilotIssueCall)
    (hissued : files (proj k h) = pilotIssue i) : LeadsTo h 0 x := by
  have hsteps : (pilotPermits.consumeMatching pilotPrepared).Steps (pilotConsume i) (.pure ()) :=
    FileTrustedActivationPermitStore.consumeMatching_of_match pilotPrepared
      rootMetadata_safe permitMetadata_safe (.file i) .dir
  have hread : ⟨.readToString (.file i),
      .ok (TrustedActivationPermit.fromPrepared pilotPrepared).canonicalText⟩
      ∈ pilotConsume i := by
    simp only [pilotConsume, FileTrustedActivationPermitStore.consumeEvents, List.mem_cons,
      true_or, or_true]
  have hcreate : ⟨.createNew (pilotIssuer.permitPath pilotPrepared.authorization) 0o600,
      .ok (.file i)⟩ ∈ pilotIssue i := by
    simp only [pilotIssue, RootOwnedActivationPermitIssuer.issueEvents, List.mem_cons,
      true_or, or_true]
  rw [← hconsumed] at hread
  rw [← hissued] at hcreate
  exact ⟨⟨_, pilotPermits, pilotPrepared, hconsume, rfl, hconsumed ▸ hsteps⟩, k,
    ⟨pilotIssuer, pilotPrepared, pilotGrant, 2300, hissue⟩,
    Or.inl ⟨i, _, _, mem_proj.mp (mem_files.mp hread), 0o600,
      mem_proj.mp (mem_files.mp hcreate)⟩⟩

/-- Check, issue, consume. -/
def onceHistory : (system pilotRoot).History :=
  checking ++ issuing 1 0 ++ consuming 2 0

/-- And then issue and consume once more, with the same grant. -/
def twiceHistory : (system pilotRoot).History :=
  onceHistory ++ issuing 3 1 ++ consuming 4 1

theorem emptyDirectory_empty : Empty (.emptyDirectory pilotRoot) :=
  ⟨fun _ => rfl, rfl⟩

theorem onceHistory_run : Run (system pilotRoot) (.emptyDirectory pilotRoot) onceHistory
    ((withPermit (.emptyDirectory pilotRoot)).remove pilotPath) :=
  run_consuming (run_issuing run_checking emptyDirectory_empty (granted_pilot rfl) rfl rfl)
    emptyDirectory_empty rfl rfl

/-- The files that are created or read in a history. -/
def fileOf : Act PermitsSig Call → Option Nat
  | .act _ ⟨.inr (.inl (.createNew _ _)), .ok (.file i)⟩ => some i
  | .act _ ⟨.inr (.inl (.readToString (.file i))), .ok _⟩ => some i
  | _ => none

/-- The creations, and the removals, of a history. -/
def isCreation : Act PermitsSig Call → Option Bool
  | .act _ ⟨.inr (.inl (.createNew _ _)), _⟩ => some true
  | .act _ ⟨.inr (.inl (.removeFile _)), _⟩ => some false
  | _ => none

/-- One file only, and no creation after its removal. -/
theorem onceHistory_safe {before after : List (Act PermitsSig Call)} {k : Nat}
    {e : Event FsSig} (hsplit : onceHistory = before ++ .act k (fsEvent e) :: after) :
    SafeStep before k e where
  unspent := by
    rintro path mode j hop - -
    rintro x k' - ⟨b, name, a, i, rfl, -⟩ -
    have hcreation : isCreation (.act k (fsEvent e)) = some true := by
      obtain ⟨op, ans⟩ := e
      obtain rfl : op = .createNew path mode := hop
      rfl
    have hsub : List.Sublist [.act x (fsEvent ⟨.removeFile name, .ok ()⟩), .act k (fsEvent e)]
        onceHistory := by
      rw [hsplit]
      exact (List.singleton_sublist.mpr (by simp)).append (List.singleton_sublist.mpr (by simp))
    have hremoval : isCreation (.act x (fsEvent ⟨.removeFile name, .ok ()⟩)) = some false := rfl
    have horder := hsub.filterMap isCreation
    rw [List.filterMap_cons_some hremoval, List.filterMap_cons_some hcreation,
      show onceHistory.filterMap isCreation = [true, false] from rfl] at horder
    exact absurd horder (by decide)
  same := by
    rintro path i i' text k' - hread hholder
    obtain ⟨mode, hcreate⟩ := created_of_holder hholder
    have hfile : ∀ {a i}, a ∈ before → fileOf a = some i → i = 0 := by
      intro a i ha hi
      have hmem : i ∈ onceHistory.filterMap fileOf := by
        rw [hsplit]
        exact List.mem_filterMap.mpr ⟨a, List.mem_append_left _ ha, hi⟩
      rw [show onceHistory.filterMap fileOf = [0, 0] from rfl] at hmem
      simpa using hmem
    rw [hfile hcreate rfl, hfile hread rfl]

theorem onceHistory_single_use :
    LeadsTo onceHistory 0 2 ∧ ∀ y, LeadsTo onceHistory 0 y → y = 2 := by
  have hleads : LeadsTo onceHistory 0 2 := leadsTo_pilot (k := 1) rfl rfl rfl rfl
  refine ⟨hleads, ?_⟩
  intro y hy
  exact single_use (fun _ => rfl) onceHistory_run (fun _ _ _ _ => onceHistory_safe) hy hleads

theorem twiceHistory_run : ∃ fs, Run (system pilotRoot) (.emptyDirectory pilotRoot)
    twiceHistory fs := by
  have hgranted : Granted onceHistory 0 pilotGrant := granted_pilot rfl
  exact ⟨_, run_consuming (run_issuing onceHistory_run emptyDirectory_empty.remove hgranted
    rfl rfl) emptyDirectory_empty.remove rfl rfl⟩

/-- One granted check, two successful consumers. -/
theorem grant_consumed_twice :
    (∃ fs, Run (system pilotRoot) (.emptyDirectory pilotRoot) twiceHistory fs)
      ∧ LeadsTo twiceHistory 0 2 ∧ LeadsTo twiceHistory 0 4 :=
  ⟨twiceHistory_run, leadsTo_pilot (k := 1) rfl rfl rfl rfl,
    leadsTo_pilot (k := 3) rfl rfl rfl rfl⟩

end PermitRuns

end Blob
