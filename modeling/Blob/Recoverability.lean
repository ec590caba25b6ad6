import Blob.Availability
import Blob.ProductionSafety

/-!
# What a run leaves behind

Every interleaving of production calls, each of which may meet faults and be
cut off anywhere, leaves an authorization in one of four ways: untouched,
with a whole permit, with a permit whose write never succeeded, or with a
receipt (`recoverable`). The first two can still be used to the full on a
node in order; nothing gets past the third, which only an administrator can
remove; and under the fourth no command is ever handed over again.

So no failure of a process or of a disk spends an authorization before its
receipt is there, and the only failure that blocks one is that of the write
of its permit.
-/

namespace Blob

namespace PermitRuns

open Pool

/-! ## Permits whose write has succeeded -/

variable {root : PathBuf} {fs₀ fs : Fs} {h : (system root).History}

/-- Who writes to a file has created it. -/
theorem created_of_write (hr : Run (system root) fs₀ h fs) {k : Nat} {file : Handle}
    {text : String} {answer : Except IoError Unit}
    (hwrite : .act k (fsEvent ⟨.writeAll file text, answer⟩) ∈ h) :
    ∃ path mode, .act k (fsEvent ⟨.createNew path mode, .ok file⟩) ∈ h := by
  obtain ⟨before, after, rfl⟩ := List.append_of_mem hwrite
  obtain ⟨c, fs₁, fs₂, q, hc, -, hs, -⟩ := hr.split
  obtain ⟨path, -, hwrites⟩ := writer_of_write hs
  have hmem : (⟨.createNew path 0o600, .ok file⟩ : Event FsSig)
      ∈ (files (proj k before)).filter isWrite := by
    rw [hwrites]
    exact List.mem_singleton_self _
  exact ⟨path, 0o600, List.mem_append_left _
    (mem_proj.mp (mem_files.mp (List.mem_of_mem_filter hmem)))⟩

/-- A file holds what was written to it, where the write has succeeded. -/
theorem content_of_written
    (hempty : ∀ authorization, fs₀.names (permitPath root authorization) = none)
    (hr : Run (system root) fs₀ h fs) {k i : Nat} {text : String}
    (hwritten : .act k (fsEvent ⟨.writeAll (.file i) text, .ok ()⟩) ∈ h) :
    fs.content i = text := by
  induction hr with
  | nil => cases hwritten
  | @spawn h fs c hr _ ih =>
      rcases List.mem_append.mp hwritten with hold | hnow
      · exact ih hold
      · cases List.mem_singleton.mp hnow
  | @act h fs fs' j c e q hr hc hs hstep ih =>
      have hinv := run_inv hempty hr
      rcases List.mem_append.mp hwritten with hold | hnow
      · -- it is not written to again
        obtain ⟨path, mode, hmine⟩ := created_of_write hr hold
        have hlt := hinv.fresh ⟨mode, hmine⟩
        rw [← ih hold]
        obtain ⟨o | o | o, ans⟩ := e
        · obtain rfl : fs' = fs := hstep
          rfl
        · rcases Fs.step_cases hstep with ⟨rfl, -⟩ | ⟨path', mode', metadata, -, -, rfl⟩
              | ⟨i', text', answer, chunk, heq, -, rfl⟩ | ⟨path', -, rfl⟩
          · rfl
          · exact Fs.create_content_ne (Nat.ne_of_lt hlt) _ _
          · obtain ⟨rfl, heq⟩ := Event.mk.inj heq
            obtain rfl := eq_of_heq heq
            refine Fs.append_content_ne ?_ chunk
            rintro rfl
            obtain ⟨path', -, hwrites⟩ := writer_of_write hs
            obtain ⟨hcreated, hnew⟩ := created_of_writes hwrites
            obtain rfl := hinv.unique hcreated ⟨mode, hmine⟩
            exact hnew ⟨_, _, _, hold⟩
          · rfl
        · obtain rfl : fs' = fs := hstep
          rfl
      · obtain ⟨rfl, rfl⟩ := Act.act.inj (List.mem_singleton.mp hnow)
        obtain ⟨path, -, hwrites⟩ := writer_of_write hs
        obtain ⟨hcreated, hnew⟩ := created_of_writes hwrites
        obtain ⟨_, _, -, -, -, hblank⟩ := hinv.content hcreated
        obtain rfl : fs' = fs.append i text := hstep
        rw [Fs.append_content_self, hblank hnew, String.empty_append]
  | @drift h fs fs' hr hdrift ih =>
      obtain ⟨path, mode, hmine⟩ := created_of_write hr hwritten
      rw [hdrift.2.1 i ((run_inv hempty hr).fresh ⟨mode, hmine⟩)]
      exact ih hwritten

/-- What an issue call writes, it writes to the file it has created, and it is the permit. -/
theorem written_of_created (hr : Run (system root) fs₀ h fs) {k : Nat}
    {self : RootOwnedActivationPermitIssuer} {prepared : PreparedPrivilegedActivation}
    {source : Nat} {grant : OsAuthorizationGrant} {now : Nat}
    (hcall : (calls h)[k]? = some (.issue self prepared source grant now)) {path : PathBuf}
    {i : Nat} (hcreated : Created h k path i) {file : Handle} {text : String}
    {answer : Except IoError Unit}
    (hwritten : .act k (fsEvent ⟨.writeAll file text, answer⟩) ∈ h) :
    file = .file i ∧ text = (TrustedActivationPermit.fromPrepared prepared).canonicalText := by
  obtain ⟨mode, hcreated⟩ := hcreated
  obtain ⟨q, hs⟩ : ∃ q, (Call.issue self prepared source grant now).prog.Steps (proj k h) q :=
    hr.steps hcall
  have hmem : ∀ {e}, .act k (fsEvent e) ∈ h → isWrite e = true →
      e ∈ (files (proj k h)).filter isWrite := fun he hwrite =>
    List.mem_filter.mpr ⟨mem_files.mpr (mem_proj.mpr he), hwrite⟩
  rcases steps_writes hs with hnil | ⟨path', text', hwriter, file', answer', hprefix⟩
  · have hnone := hmem hwritten rfl
    rw [hnil] at hnone
    cases hnone
  · obtain ⟨_, _, _, _, _, heq, -, -, rfl⟩ := hwriter
    obtain ⟨-, rfl, -⟩ := Call.issue.inj heq
    have hfirst := hprefix.subset (hmem hcreated rfl)
    have hsecond := hprefix.subset (hmem hwritten rfl)
    simp only [List.mem_cons, List.not_mem_nil, or_false, Event.mk.injEq, reduceCtorEq,
      false_and, false_or, or_false, FsOp.createNew.injEq, FsOp.writeAll.injEq] at hfirst hsecond
    obtain ⟨⟨rfl, rfl⟩, hfile⟩ := hfirst
    obtain rfl : Handle.file i = file' := Except.ok.inj (eq_of_heq hfile)
    exact hsecond.1

end PermitRuns

namespace ProductionRuns

open Pool Prog PermitRuns

open LedgerRuns (isReceipt)

variable {root : PathBuf} {ledger : FilePrivilegedExecutionLedger}

/-! ## The permit of an authorization -/

/-- Call `k` is an issue call that has approved this request. -/
def Issues (h : List (Act PermitsSig Call)) (k : Nat) (issued : PreparedPrivilegedActivation) :
    Prop :=
  ∃ issuer source grant issuedAt,
    (calls h)[k]? = some (.issue issuer issued source grant issuedAt)
      ∧ issuer.Approved issued grant issuedAt

/-- A permit file holds a beginning of what an issue call has approved, and all of it if
the call's write has succeeded. -/
theorem permit_of_run {fs₀ fs : Fs} {h : (production root ledger).system.History}
    (hempty : ∀ authorization, fs₀.names (permitPath root authorization) = none)
    (hfresh : fs₀.Fresh) (hr : Run (production root ledger).system fs₀ h fs)
    {authorization : SystemAuthorizationId} {i : Nat}
    (hname : fs.names (permitPath root authorization) = some i) :
    ∃ k issued, Issues h k issued ∧ issued.authorization = authorization
      ∧ (fs.content i).toList
        <+: (TrustedActivationPermit.fromPrepared issued).canonicalText.toList
      ∧ ∀ file text, .act k (fsEvent ⟨.writeAll file text, .ok ()⟩) ∈ h →
        fs.content i = (TrustedActivationPermit.fromPrepared issued).canonicalText := by
  obtain ⟨g, hg, href⟩ := (simulation hempty hfresh).run hr
  have hempty' : ∀ authorization,
      (blanked ledger fs₀).names (permitPath root authorization) = none := hempty
  have hinv := run_inv hempty' hg
  have hheld := hinv.names authorization
  rw [show ((simulation hempty hfresh).abs fs).names = fs.names from rfl, hname] at hheld
  obtain ⟨⟨k, i'⟩, hholder, rfl⟩ := Option.map_eq_some_iff.mp hheld.symm
  have hcreated := created_of_holder hholder
  obtain ⟨_, text, hcall, ⟨issuer, issued, source, grant, issuedAt, rfl, happroved, hpath, rfl⟩,
    hprefix, -⟩ := hinv.content hcreated
  obtain ⟨_, _, -, hroot, -⟩ := hg.admitted hcall
  have hauthorization : issued.authorization = authorization := by
    refine @PermitRuns.permitPath_injective root _ _ ?_
    rw [hpath, ← hroot]
    rfl
  -- a permit is no receipt, so nothing of it was blanked out
  have hpermit : ¬ IsReceiptFile ledger fs i' := by
    rintro ⟨path, hreceipt, hnamed⟩
    exact (run_apart hempty hfresh hr).apart ⟨authorization, rfl⟩ hreceipt hname hnamed
  have hsame : ((simulation hempty hfresh).abs fs).content i' = fs.content i' :=
    blanked_content_other hpermit
  have hcall' : (calls h)[k]? = some (.issue issuer issued source grant issuedAt) := by
    rw [← href.matching.calls_eq, hcall]
  refine ⟨k, issued, ⟨issuer, source, grant, issuedAt, hcall', happroved⟩, hauthorization,
    hsame ▸ hprefix, fun file text hwritten => ?_⟩
  have hproj := (href.stands hcall').eq_of_passed
    (issue_pass issuer issued source grant issuedAt)
  have hwritten' : .act k (fsEvent ⟨.writeAll file text, .ok ()⟩) ∈ g :=
    mem_proj.mp (hproj ▸ mem_proj.mpr hwritten)
  obtain ⟨rfl, rfl⟩ := written_of_created hg hcall hcreated hwritten'
  rw [← hsame]
  exact content_of_written hempty' hg hwritten'

end ProductionRuns

namespace Recoverability

open Prog MemoryStores Availability PermitRuns ProductionRuns

variable {N : Type} {host : N → (o : HelperSig.Op) → HelperSig.Ans o × N}
  {view : N → Stacking.Node} {installed : PathBuf → Prop} {created : Nat → Metadata}
  {permits : FileTrustedActivationPermitStore} {ledger : FilePrivilegedExecutionLedger}
  {fs : Fs} {n : N} {p : PreparedPrivilegedActivation} {authorization : SystemAuthorizationId}

/-! ## What can still be done -/

/-- The request is executed whenever it is valid. -/
def Executable (host : N → (o : HelperSig.Op) → HelperSig.Ans o × N) (created : Nat → Metadata)
    (permits : FileTrustedActivationPermitStore) (ledger : FilePrivilegedExecutionLedger)
    (w : Fs × N) (p : PreparedPrivilegedActivation) : Prop :=
  ∀ (boundary : RootOwnedNixOsActivationBoundary) (now : Nat),
    (∃ outcome, (executeOnFiles host created permits ledger boundary p now w).1
        = .returned outcome)
      ↔ boundary.runtime.validatePrepared p now = .ok ()

/-- Whatever is approved is issued, and can then be executed. -/
def Issuable (host : N → (o : HelperSig.Op) → HelperSig.Ans o × N) (installed : PathBuf → Prop)
    (created : Nat → Metadata) (permits : FileTrustedActivationPermitStore)
    (ledger : FilePrivilegedExecutionLedger) (w : Fs × N)
    (authorization : SystemAuthorizationId) : Prop :=
  ∀ (issuer : RootOwnedActivationPermitIssuer) (p : PreparedPrivilegedActivation)
    (grant : OsAuthorizationGrant) (now : Nat), issuer.root = permits.root →
    issuer.expectedOwnerUid = permits.expectedOwnerUid → p.authorization = authorization →
    ((∃ issued, ((issuer.issue p grant now).run (Fs.serve created) w.1).1 = .returned issued)
        ↔ issuer.Approved p grant now)
      ∧ ∀ issued fs', (issuer.issue p grant now).run (Fs.serve created) w.1
          = (.returned issued, fs') → installed (.ofString p.plan.systemClosure) →
        Executable host created permits ledger (fs', w.2) p

/-- Nothing is issued or executed, and nothing changes. -/
def Blocked (host : N → (o : HelperSig.Op) → HelperSig.Ans o × N) (created : Nat → Metadata)
    (permits : FileTrustedActivationPermitStore) (ledger : FilePrivilegedExecutionLedger)
    (w : Fs × N) (authorization : SystemAuthorizationId) : Prop :=
  ∀ p : PreparedPrivilegedActivation, p.authorization = authorization →
    (∀ (issuer : RootOwnedActivationPermitIssuer) (grant : OsAuthorizationGrant) (now : Nat),
      issuer.root = permits.root → issuer.expectedOwnerUid = permits.expectedOwnerUid →
      ∃ st, (issuer.issue p grant now).run (Fs.serve created) w.1 = (st, w.1)
        ∧ ∀ issued, st ≠ .returned issued)
      ∧ ∀ (boundary : RootOwnedNixOsActivationBoundary) (now : Nat), ∃ st,
        executeOnFiles host created permits ledger boundary p now w = (st, w)
          ∧ ∀ outcome, st ≠ .returned outcome

/-- No command is handed over, whatever fails and wherever the call is cut off, and the
receipt stays. -/
def Exhausted (permits : FileTrustedActivationPermitStore)
    (ledger : FilePrivilegedExecutionLedger) (fs : Fs) (authorization : SystemAuthorizationId) :
    Prop :=
  ∀ (M : Type) (host : M → Event HelperSig → M → Prop)
    (boundary : RootOwnedNixOsActivationBoundary) (p : PreparedPrivilegedActivation) (now : Nat)
    (m : M) (tr : List (Event SpentAuthority.FilesSig))
    (st : Status RootActivationBoundaryError PrivilegedActivationExecution) (w' : Fs × M),
    p.authorization = authorization →
    Behaves (SpentAuthority.step host) (SpentAuthority.execute boundary p now permits ledger)
      (fs, m) tr st w' →
    (∀ program argument answer, ⟨.inr (.run program argument), answer⟩ ∉ tr)
      ∧ w'.1.names (ledger.receiptPath authorization) ≠ none

/-! ## When it can -/

theorem executable_of_holds (hhealthy : Healthy host view installed) (hbooted : Booted (view n))
    (hbaseline : installed (view n).live) (hcandidate : installed (.ofString p.plan.systemClosure))
    (hdirs : Directories permits ledger fs)
    (hfree : fs.names (ledger.receiptPath p.authorization) = none) {i : Nat}
    (hholds : permits.Holds fs p i) : Executable host created permits ledger (fs, n) p := by
  intro boundary now
  constructor
  · rintro ⟨outcome, hexecuted⟩
    cases hvalid : boundary.runtime.validatePrepared p now with
    | error e =>
        rw [executeOnFiles_of_invalid hvalid] at hexecuted
        cases hexecuted
    | ok _ => rfl
  · intro hvalid
    obtain ⟨_, _, hexecute, -⟩ : ∃ _ _, executeOnFiles host created permits ledger boundary p now
        (fs, n) = _ ∧ _ :=
      run_executeOnFiles hhealthy hbooted hbaseline hcandidate hdirs hfree hholds hvalid
    exact ⟨_, congrArg Prod.fst hexecute⟩

theorem issuable_of_free (hhealthy : Healthy host view installed) (hbooted : Booted (view n))
    (hbaseline : installed (view n).live)
    (hcreated : (created 0o600).SafeFile permits.expectedOwnerUid)
    (hdirs : Directories permits ledger fs)
    (hunspent : Unspent permits ledger fs authorization) :
    Issuable host installed created permits ledger (fs, n) authorization := by
  rintro issuer p grant now hroot howner rfl
  constructor
  · constructor
    · rintro ⟨issued, hissued⟩
      exact approved_of_issued hissued
    · intro happroved
      obtain ⟨issued, hrun⟩ :=
        hdirs.issue_approved hroot howner hcreated happroved hunspent.permit
      exact ⟨issued, congrArg Prod.fst hrun⟩
  · intro issued fs' hissued hcandidate
    obtain ⟨_, hrun⟩ := hdirs.issue_approved hroot howner hcreated
      (approved_of_issued (congrArg Prod.fst hissued)) hunspent.permit
    obtain rfl := (Prod.mk.inj (hissued.symm.trans hrun)).2
    refine executable_of_holds hhealthy hbooted hbaseline hcandidate
      (directories_issued hdirs p.authorization _ _) ?_ (holds_issued hdirs hcreated)
    rw [withFile_names_ne (receiptPath_ne_permitPath permits ledger _ _), hunspent.receipt]

theorem blocked_of_torn (hcreated : (created 0o600).SafeFile permits.expectedOwnerUid)
    (hdirs : Directories permits ledger fs) {i : Nat}
    (hname : fs.names (permits.permitPath authorization) = some i)
    (hfile : (fs.inodes i).metadata.SafeFile permits.expectedOwnerUid)
    (htorn : ∀ p : PreparedPrivilegedActivation, p.authorization = authorization →
      fs.content i ≠ (TrustedActivationPermit.fromPrepared p).canonicalText) :
    Blocked host created permits ledger (fs, n) authorization := by
  rintro p rfl
  constructor
  · intro issuer grant now hroot howner
    rcases hdirs.run_issue hroot howner hcreated p grant now with ⟨hfree, -⟩ | hfailed
    · rw [hname] at hfree
      cases hfree
    · exact hfailed
  · intro boundary now
    cases hvalid : boundary.runtime.validatePrepared p now with
    | error e =>
        exact ⟨_, executeOnFiles_of_invalid hvalid _, fun _ hreturned => by cases hreturned⟩
    | ok _ =>
        have hrefused := hdirs.run_mismatch hname hfile (htorn p rfl) created
        refine ⟨.failed (.trustedPermitRejected .permitMismatch), ?_,
          fun _ hreturned => by cases hreturned⟩
        unfold executeOnFiles
        rw [SpentAuthority.execute_of_valid hvalid]
        exact run_bind_failed (run_inl_mapErr hrefused _ n)

/-! ## When it cannot -/

section Receipt

variable {boundary : RootOwnedNixOsActivationBoundary} {now : Nat}

/-- Before the helper hands over a command it has created the receipt. -/
theorem receipt_of_run {tr : List (Event SpentAuthority.FilesSig)}
    {r : Prog SpentAuthority.FilesSig PrivilegedActivationError PrivilegedActivationExecution}
    (hs : (SpentAuthority.helper boundary p now ledger).Steps tr r) {program : PathBuf}
    {argument : String} {answer : Except String PrivilegedCommandOutcome}
    (hrun : ⟨.inr (.run program argument), answer⟩ ∈ tr) :
    ∃ file, ⟨.inl (.createNew (ledger.receiptPath p.authorization) 0o600), .ok file⟩ ∈ tr := by
  have houter : ¬ ∃ file : FsOp, (Sum.inr (.run program argument) : FsOp ⊕ HelperOp) = .inl file :=
    nofun
  have hoverlays := SpentAuthority.withLedger_overlays ledger
  obtain ⟨ops, p', done, rest, hbody, hx, rfl, hdone⟩ := steps_handle_of_last hs hrun
    fun hq hmem => (hoverlays.op_of_mem hq hmem houter).2
  obtain ⟨o, a, seg, hmem, hseg, hin⟩ := hx.exists_of_mem hdone
  obtain rfl : .inr (.run program argument) = o := (hoverlays.op_of_mem hseg hin houter).1
  obtain ⟨trh, q, rfl, hexecute, -⟩ := steps_inr hbody
  obtain ⟨e, he, heq⟩ := List.mem_map.mp hmem
  obtain rfl : e = ⟨.run program argument, a⟩ := Event.inr_injective heq
  have hphase :=
    ((PrivilegedNixOsActivationHelper.execute_all boundary.runtime p now).of_steps hexecute).1
  obtain ⟨seg', hseg', hall⟩ := hx.segment_of_mem (h := SpentAuthority.withLedger ledger)
    (o := .inr (.consumeOnce p.authorization p.preparedAtUnixMs)) (a := .ok ())
    (List.mem_map_of_mem (hphase.consumed_of_run he))
  obtain ⟨file, hcreate⟩ := FilePrivilegedExecutionLedger.receipt_of_agreed hseg'
  exact ⟨file, List.mem_append_left rest (hall _ hcreate)⟩

/-- A receipt is not created where there is one. -/
theorem receipt_once {M : Type} {host : M → Event HelperSig → M → Prop} {w w' : Fs × M}
    {tr : List (Event SpentAuthority.FilesSig)} (hx : Exec (SpentAuthority.step host) w tr w')
    (hkeeps : ∀ e ∈ tr, SpentAuthority.KeepsPermits ledger e.op)
    (htaken : w.1.names (ledger.receiptPath authorization) ≠ none) (file : Handle) :
    ⟨.inl (.createNew (ledger.receiptPath authorization) 0o600), .ok file⟩ ∉ tr := by
  intro hmem
  obtain ⟨before, after, rfl⟩ := List.append_of_mem hmem
  obtain ⟨w₁, hx₁, hx₂⟩ := hx.split
  obtain ⟨_, hstep, -⟩ := exec_cons.mp hx₂
  obtain ⟨i, hname⟩ := Option.ne_none_iff_exists'.mp htaken
  have hkept := (SpentAuthority.exec_keeps hx₁ fun e he =>
    hkeeps e (List.mem_append_left _ he)).1 _ i hname
  rw [hstep.1.1.1] at hkept
  cases hkept

theorem exhausted_of_receipt (htaken : fs.names (ledger.receiptPath authorization) ≠ none) :
    Exhausted permits ledger fs authorization := by
  rintro M host boundary p now m tr st ⟨fs', m'⟩ rfl hb
  constructor
  · intro program argument answer hrun
    obtain ⟨hstage, hx⟩ := SpentAuthority.stage_of_behaves hb
    cases hstage with
    | invalid e => cases hrun
    | consuming _ _ _ =>
        obtain ⟨e, -, heq⟩ := List.mem_map.mp hrun
        cases congrArg Event.op heq
    | helping hconsumed hsteps _ =>
        obtain ⟨⟨fs₁, m₁⟩, hx₁, hx₂⟩ := hx.split
        obtain ⟨-, hremoved⟩ :=
          SpentAuthority.consumed_files hconsumed (SpentAuthority.exec_inl hx₁).1
        obtain rfl : fs₁ = fs.remove _ := hremoved
        have hrun' := (List.mem_append.mp hrun).resolve_left fun hmem => by
          obtain ⟨e, -, heq⟩ := List.mem_map.mp hmem
          cases congrArg Event.op heq
        obtain ⟨file, hcreated⟩ := receipt_of_run hsteps hrun'
        refine receipt_once hx₂ ((SpentAuthority.helper_uses boundary p now ledger).of_steps
          hsteps) ?_ file hcreated
        rw [Fs.remove_names_ne (receiptPath_ne_permitPath permits ledger _ _)]
        exact htaken
  · obtain ⟨i, hname⟩ := Option.ne_none_iff_exists'.mp htaken
    rcases SpentAuthority.names_of_behaves hb hname with hkept | ⟨hpath, -⟩
    · rw [hkept]
      simp
    · exact absurd hpath (receiptPath_ne_permitPath permits ledger _ _)

end Receipt

/-! ## After a run -/

/-- How the calls of a history leave an authorization, in these files and on this node. -/
inductive Standing (host : N → (o : HelperSig.Op) → HelperSig.Ans o × N)
    (installed : PathBuf → Prop) (created : Nat → Metadata)
    (permits : FileTrustedActivationPermitStore) (ledger : FilePrivilegedExecutionLedger)
    (h : List (Act PermitsSig Call)) (fs : Fs) (n : N)
    (authorization : SystemAuthorizationId) : Prop
  /-- It is as if nothing had been done with it. -/
  | untouched (unspent : Unspent permits ledger fs authorization)
      (issuable : Issuable host installed created permits ledger (fs, n) authorization)
  /-- The permit of an approved request is there. -/
  | permitted (receipt : fs.names (ledger.receiptPath authorization) = none) (k : Nat)
      (p : PreparedPrivilegedActivation) (issued : Issues h k p)
      (same : p.authorization = authorization)
      (text : fs.text (permits.permitPath authorization)
        = some (TrustedActivationPermit.fromPrepared p).canonicalText)
      (executable : installed (.ofString p.plan.systemClosure) →
        Executable host created permits ledger (fs, n) p)
  /-- There is a beginning of one, its write not having succeeded. -/
  | torn (receipt : fs.names (ledger.receiptPath authorization) = none) (k : Nat)
      (p : PreparedPrivilegedActivation) (issued : Issues h k p)
      (same : p.authorization = authorization) (text : String)
      (beginning : text.toList <+: (TrustedActivationPermit.fromPrepared p).canonicalText.toList)
      (proper : text ≠ (TrustedActivationPermit.fromPrepared p).canonicalText)
      (held : fs.text (permits.permitPath authorization) = some text)
      (unwritten : ∀ file text, .act k (fsEvent ⟨.writeAll file text, .ok ()⟩) ∉ h)
      (blocked : Blocked host created permits ledger (fs, n) authorization)
  /-- It is used up. -/
  | used (receipt : fs.names (ledger.receiptPath authorization) ≠ none)
      (exhausted : Exhausted permits ledger fs authorization)

/-- In every run of the production configuration from an empty permit directory, however its
calls are interleaved, whatever fails in them and wherever they are cut off, every
authorization is left in one of four ways. -/
theorem recoverable {fs₀ : Fs} {h : (production permits.root ledger).system.History}
    (hempty : ∀ authorization, fs₀.names (permits.permitPath authorization) = none)
    (hfresh : fs₀.Fresh) (hr : Pool.Run (production permits.root ledger).system fs₀ h fs)
    (hdirs : Directories permits ledger fs)
    (hfiles : ∀ authorization i, fs.names (permits.permitPath authorization) = some i →
      (fs.inodes i).metadata.SafeFile permits.expectedOwnerUid)
    (hcreated : (created 0o600).SafeFile permits.expectedOwnerUid)
    (hhealthy : Healthy host view installed) (hbooted : Booted (view n))
    (hbaseline : installed (view n).live) (authorization : SystemAuthorizationId) :
    Standing host installed created permits ledger h fs n authorization := by
  by_cases hreceipt : fs.names (ledger.receiptPath authorization) = none
  · cases hname : fs.names (permits.permitPath authorization) with
    | none =>
        exact .untouched ⟨hname, hreceipt⟩
          (issuable_of_free hhealthy hbooted hbaseline hcreated hdirs ⟨hname, hreceipt⟩)
    | some i =>
        obtain ⟨k, p, hissues, rfl, hprefix, hwhole⟩ := permit_of_run hempty hfresh hr hname
        have htext : fs.text (permits.permitPath p.authorization) = some (fs.content i) := by
          rw [Fs.text, hname]
          rfl
        have hsafe := hfiles p.authorization i hname
        by_cases hsame : fs.content i = (TrustedActivationPermit.fromPrepared p).canonicalText
        · refine .permitted hreceipt k p hissues rfl (hsame ▸ htext) fun hcandidate => ?_
          have hholds : permits.Holds fs p i := {
            root := hdirs.stat_permitRoot
            distinct := (hdirs.ne_roots (hdirs.noDirectory p.authorization).1).1
            name := hname
            file := hsafe
            content := hsame }
          exact executable_of_holds hhealthy hbooted hbaseline hcandidate hdirs hreceipt hholds
        · refine .torn hreceipt k p hissues rfl _ hprefix hsame htext
            (fun file text hwritten => hsame (hwhole file text hwritten))
            (blocked_of_torn hcreated hdirs hname hsafe fun q _ heq => hsame ?_)
          -- a whole permit does not begin another
          rw [heq] at hprefix ⊢
          rw [TrustedActivationPermit.canonicalText_prefix hprefix]
  · exact .used hreceipt (exhausted_of_receipt hreceipt)

/-! The pilot's issue call, cut off before it has written its permit. -/

def tornHistory : (production pilotRoot ProductionRuns.pilotLedger).system.History :=
  checking ++ .spawn pilotIssueCall :: (((pilotIssue 0).take 2).map fsEvent).map (.act 1)

def tornDisk : Fs := (Fs.emptyDirectory pilotRoot).create pilotPath permitMetadata

theorem torn_run : Pool.Run (production pilotRoot ProductionRuns.pilotLedger).system
    (.emptyDirectory pilotRoot) tornHistory tornDisk := by
  have hstart : Pool.Run (production pilotRoot ProductionRuns.pilotLedger).system
      (.emptyDirectory pilotRoot) [] (.emptyDirectory pilotRoot) := .nil
  have hissue : (pilotIssuer.issue pilotPrepared pilotGrant 2300).Steps
      ((pilotIssue 0).take 2 ++ (pilotIssue 0).drop 2) _ :=
    RootOwnedActivationPermitIssuer.issue_of_approved pilotGrant_approved rootMetadata_safe
      permitMetadata_safe (.file 0) .dir
  obtain ⟨q, hcut, -⟩ := hissue.split
  have hlift := (hcut.inl (T := HelperSig)).inr (S := PkcheckSig)
  rw [List.map_map] at hlift
  have hfiles : Exec Fs.Step (.emptyDirectory pilotRoot) ((pilotIssue 0).take 2) tornDisk :=
    .cons ⟨onDisk_emptyDirectory.stat_root, rfl⟩ <|
      .cons ⟨⟨rfl, (onDisk_emptyDirectory.directories.noDirectory _).1⟩, rfl, permitMetadata, rfl⟩
        .nil
  have hx : Exec (production pilotRoot ProductionRuns.pilotLedger).step
      (.emptyDirectory pilotRoot) _ tornDisk := exec_fsEvents hfiles
  exact (checked_run hstart ⟨"auth:one"⟩).call (c := pilotIssueCall) ⟨rfl, granted_pilot rfl⟩
    (steps_passed hlift (pass_files _)) hx

/-- A new file holds no permit. -/
theorem canonicalText_ne_empty (permit : TrustedActivationPermit) : permit.canonicalText ≠ "" := by
  intro hempty
  have hevery : ∀ other, permit = other := fun other =>
    TrustedActivationPermit.canonicalText_prefix (by rw [hempty]; exact List.nil_prefix)
  have hsame : (⟨"auth:one"⟩ : SystemAuthorizationId) = ⟨"auth:two"⟩ :=
    congrArg TrustedActivationPermit.authorization
      ((hevery (.fromPrepared (Pilot.prepared ⟨"auth:one"⟩))).symm.trans
        (hevery (.fromPrepared (Pilot.prepared ⟨"auth:two"⟩))))
  exact absurd hsame (by decide)

/-- With its permit there the pilot's request can be executed, and another one issued; the
issue that was cut off blocks it; and after its launch it is used up. -/
theorem pilot_recoverable :
    (∃ k p, Issues (checking ++ issuing 1 0) k p ∧ p.authorization = ⟨"auth:one"⟩
        ∧ (pilotInstalled (.ofString p.plan.systemClosure) →
          Executable Availability.pilotHost pilotCreated pilotPermits ProductionRuns.pilotLedger
            (withPermit (.emptyDirectory pilotRoot), Stacking.pilotNode) p))
      ∧ Issuable Availability.pilotHost pilotInstalled pilotCreated pilotPermits
        ProductionRuns.pilotLedger (withPermit (.emptyDirectory pilotRoot), Stacking.pilotNode)
        ⟨"auth:two"⟩
      ∧ Blocked Availability.pilotHost pilotCreated pilotPermits ProductionRuns.pilotLedger
        (tornDisk, Stacking.pilotNode) ⟨"auth:one"⟩
      ∧ Exhausted pilotPermits ProductionRuns.pilotLedger
        (receipted ⟨"auth:one"⟩ (withPermit (.emptyDirectory pilotRoot))) ⟨"auth:one"⟩ := by
  have hissuedDisk := onDisk_emptyDirectory.after_issue ⟨"auth:one"⟩
  have hstanding : ∀ {h fs}, Pool.Run (production pilotRoot ProductionRuns.pilotLedger).system
      (.emptyDirectory pilotRoot) h fs → OnDisk fs → ∀ authorization,
      Standing Availability.pilotHost pilotInstalled pilotCreated pilotPermits
        ProductionRuns.pilotLedger h fs Stacking.pilotNode authorization := by
    intro h fs hr hdisk authorization
    refine recoverable (fun _ => rfl) (Fs.fresh_emptyDirectory _) hr hdisk.directories ?_
      (by decide) pilotHost_healthy pilotNode_booted (Or.inl rfl) authorization
    intro authorization i hname
    rw [hdisk.metadata _ i hname]
    exact permitMetadata_safe
  refine ⟨?_, ?_, ?_, ?_⟩
  · have htext : (withPermit (.emptyDirectory pilotRoot)).text pilotPath
        = some (TrustedActivationPermit.fromPrepared pilotPrepared).canonicalText :=
      Fs.text_append_create _ _ _ _
    cases hstanding pilot_issued_run hissuedDisk ⟨"auth:one"⟩ with
    | untouched unspent _ => exact absurd unspent.permit (by decide)
    | permitted _ k p issued same _ executable => exact ⟨k, p, issued, same, executable⟩
    | torn _ k p issued same text beginning proper held _ _ =>
        obtain rfl := Option.some.inj (htext.symm.trans held)
        exact absurd (congrArg _ (TrustedActivationPermit.canonicalText_prefix beginning)) proper
    | used receipt _ => exact absurd rfl receipt
  · have hnone : (withPermit (.emptyDirectory pilotRoot)).text
        (pilotPermits.permitPath ⟨"auth:two"⟩) = none := by
      rw [Fs.text, show (withPermit (.emptyDirectory pilotRoot)).names
        (pilotPermits.permitPath ⟨"auth:two"⟩) = none by decide]
      rfl
    cases hstanding pilot_issued_run hissuedDisk ⟨"auth:two"⟩ with
    | untouched _ issuable => exact issuable
    | permitted _ k p issued same text _ => cases hnone.symm.trans text
    | torn _ k p issued same text beginning proper held _ _ => cases hnone.symm.trans held
    | used receipt _ => exact absurd rfl receipt
  · have hdisk : OnDisk tornDisk :=
      onDisk_emptyDirectory.create (onDisk_emptyDirectory.directories.noDirectory _).1
    have htext : tornDisk.text pilotPath = some "" := by
      rw [Fs.text, tornDisk, Fs.create_names_self, Option.map_some, Fs.create_content_self]
    cases hstanding torn_run hdisk ⟨"auth:one"⟩ with
    | untouched unspent _ => exact absurd unspent.permit (by decide)
    | permitted _ k p issued same text _ =>
        exact absurd (Option.some.inj (htext.symm.trans text)).symm (canonicalText_ne_empty _)
    | torn _ k p issued same text beginning proper held _ blocked => exact blocked
    | used receipt _ => exact absurd rfl receipt
  · cases hstanding pilot_run (hissuedDisk.after_execute ⟨"auth:one"⟩) ⟨"auth:one"⟩ with
    | untouched unspent _ => exact absurd unspent.receipt (by decide)
    | permitted receipt _ _ _ _ _ _ => exact absurd receipt (by decide)
    | torn receipt _ _ _ _ _ _ _ _ _ _ => exact absurd receipt (by decide)
    | used _ exhausted => exact exhausted

end Recoverability

end Blob
