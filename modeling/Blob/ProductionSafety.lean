import Blob.MemoryStores
import Blob.ProductionRuns

/-!
# One consent, one exact launch

The production configuration refines the runs of `PermitRuns`, in which the
ledger may answer anything: to a permit protocol the receipts are files the
environment makes and writes to, so they are blanked out (`blanked`), and
the file operations of `consume_once` are drifts (`simulation`). What a
boundary call launches is therefore exactly approved.

The receipts are latches as in `LedgerRuns`: an authorization is launched by
one call. A granted check determines the authorization it was for, so in the
production configuration no check leads to two launches
(`one_launch_per_consent`), although its grant may be issued and consumed again
once its permit is gone.
-/

namespace Blob

namespace ProductionRuns

open Pool Prog PermitRuns

open LedgerRuns (isReceipt)

variable {root : PathBuf} {ledger : FilePrivilegedExecutionLedger}

/-! ## Blanking out the receipts -/

/-- The file is a receipt. -/
def IsReceiptFile (ledger : FilePrivilegedExecutionLedger) (fs : Fs) (i : Nat) : Prop :=
  ∃ path, isReceipt ledger path ∧ fs.names path = some i

open Classical in
/-- An inode with nothing in it, if so. -/
noncomputable def blank (so : Prop) (inode : Inode) : Inode :=
  if so then ⟨"", inode.metadata⟩ else inode

theorem blank_pos {so : Prop} (h : so) (inode : Inode) : blank so inode = ⟨"", inode.metadata⟩ :=
  if_pos h

theorem blank_neg {so : Prop} (h : ¬ so) (inode : Inode) : blank so inode = inode := if_neg h

@[simp] theorem blank_metadata (so : Prop) (inode : Inode) :
    (blank so inode).metadata = inode.metadata := by
  unfold blank
  split <;> rfl

theorem blank_empty (so : Prop) (metadata : Metadata) :
    blank so ⟨"", metadata⟩ = ⟨"", metadata⟩ := by
  unfold blank
  split <;> rfl

theorem blank_congr {so so' : Prop} (h : so ↔ so') (inode : Inode) :
    blank so inode = blank so' inode := by
  rw [propext h]

/-- The files, with nothing in the receipts. -/
noncomputable def blanked (ledger : FilePrivilegedExecutionLedger) (fs : Fs) : Fs :=
  { fs with inodes := fun i => blank (IsReceiptFile ledger fs i) (fs.inodes i) }

@[simp] theorem blanked_names (fs : Fs) : (blanked ledger fs).names = fs.names := rfl

@[simp] theorem blanked_next (fs : Fs) : (blanked ledger fs).next = fs.next := rfl

@[simp] theorem blanked_stat (fs : Fs) : (blanked ledger fs).stat = fs.stat := by
  funext path
  unfold Fs.stat blanked
  cases fs.names path with
  | none => rfl
  | some i => simp

theorem blanked_content_receipt {fs : Fs} {i : Nat} (hi : IsReceiptFile ledger fs i) :
    (blanked ledger fs).content i = "" :=
  congrArg Inode.content (blank_pos hi _)

theorem blanked_content_other {fs : Fs} {i : Nat} (hi : ¬ IsReceiptFile ledger fs i) :
    (blanked ledger fs).content i = fs.content i :=
  congrArg Inode.content (blank_neg hi _)

/-- A new file under a name that is no receipt's. -/
theorem blanked_create {fs : Fs} {path : PathBuf} (hpath : ¬ isReceipt ledger path)
    (metadata : Metadata) :
    blanked ledger (fs.create path metadata) = (blanked ledger fs).create path metadata := by
  have hsame : ∀ i, IsReceiptFile ledger (fs.create path metadata) i
      ↔ IsReceiptFile ledger fs i := by
    intro i
    refine exists_congr fun path' => and_congr_right fun hpath' => ?_
    rw [Fs.create_names_ne (by rintro rfl; exact hpath hpath')]
  unfold blanked Fs.create
  congr 1
  funext i
  by_cases hi : i = fs.next
  · -- it is empty, receipt or not
    simp only [if_pos hi, blank_empty]
  · simp only [if_neg hi]
    exact blank_congr (hsame i) _

theorem blanked_append {fs : Fs} {i : Nat} (hi : ¬ IsReceiptFile ledger fs i) (text : String) :
    blanked ledger (fs.append i text) = (blanked ledger fs).append i text := by
  have hsame : ∀ j, IsReceiptFile ledger (fs.append i text) j ↔ IsReceiptFile ledger fs j :=
    fun _ => Iff.rfl
  unfold blanked Fs.append
  congr 1
  funext j
  by_cases hj : j = i
  · subst hj
    simp only [if_true, blank_neg hi]
    exact blank_neg (mt (hsame j).mp hi) _
  · simp only [if_neg hj]
    exact blank_congr (hsame j) _

theorem blanked_remove {fs : Fs} {path : PathBuf} (hpath : ¬ isReceipt ledger path) :
    blanked ledger (fs.remove path) = (blanked ledger fs).remove path := by
  have hsame : ∀ i, IsReceiptFile ledger (fs.remove path) i ↔ IsReceiptFile ledger fs i := by
    intro i
    refine exists_congr fun path' => and_congr_right fun hpath' => ?_
    rw [Fs.remove_names_ne (by rintro rfl; exact hpath hpath')]
  unfold blanked Fs.remove
  congr 1
  funext i
  exact blank_congr (hsame i) _

/-- What is done to permits and to files that are no receipts is the same with the
receipts blanked out. -/
theorem blanked_step {fs fs' : Fs} {e : Event FsSig} (hstep : fs.Step e fs')
    (hpermits : Permits (isPermit root)
      (fun file => ∀ i, file = .file i → ¬ IsReceiptFile ledger fs i) e.op) :
    (blanked ledger fs).Step e (blanked ledger fs') := by
  have hne : ∀ {path}, isPermit root path → ¬ isReceipt ledger path := fun hpath hreceipt =>
    ne_of_isPermit hpath hreceipt rfl
  obtain ⟨o, ans⟩ := e
  cases o with
  | symlinkMetadata path =>
      rcases ans with e | metadata
      · obtain ⟨hfree, rfl⟩ := hstep
        exact ⟨hfree, rfl⟩
      · obtain ⟨hstat, rfl⟩ := hstep
        exact ⟨by rw [blanked_stat, hstat], rfl⟩
  | createNew path mode =>
      rcases ans with e | file
      · obtain ⟨htaken, rfl⟩ := hstep
        exact ⟨htaken, rfl⟩
      · obtain ⟨hfree, rfl, metadata, rfl⟩ := hstep
        exact ⟨hfree, rfl, metadata, blanked_create (hne hpermits) metadata⟩
  | openFile path =>
      rcases ans with e | (i | _)
      · obtain ⟨hfree, rfl⟩ := hstep
        exact ⟨hfree, rfl⟩
      · obtain ⟨hname, rfl⟩ := hstep
        exact ⟨hname, rfl⟩
      · obtain ⟨hdir, rfl⟩ := hstep
        exact ⟨hdir, rfl⟩
  | writeAll file text =>
      rcases file with i | _
      · rcases ans with e | _
        · obtain ⟨chunk, hchunk, rfl⟩ := hstep
          exact ⟨chunk, hchunk, blanked_append (hpermits i rfl) chunk⟩
        · obtain rfl : fs' = fs.append i text := hstep
          exact blanked_append (hpermits i rfl) text
      · rcases ans with e | _
        · obtain rfl : fs' = fs := hstep
          rfl
        · exact absurd hstep id
  | syncAll file =>
      obtain rfl : fs' = fs := hstep
      rfl
  | readToString file =>
      rcases file with i | _
      · rcases ans with e | text
        · obtain rfl : fs' = fs := hstep
          rfl
        · obtain ⟨rfl, rfl⟩ := hstep
          exact ⟨(blanked_content_other (hpermits i rfl)).symm, rfl⟩
      · rcases ans with e | text
        · obtain rfl : fs' = fs := hstep
          rfl
        · exact absurd hstep id
  | removeFile path =>
      rcases ans with e | _
      · obtain ⟨hnone, rfl⟩ := hstep
        exact ⟨hnone, rfl⟩
      · obtain ⟨hname, rfl⟩ := hstep
        exact ⟨hname, blanked_remove (hne hpermits)⟩

/-- What is done to receipts is a drift of the permit directory. -/
theorem blanked_drift {fs fs' : Fs} {e : Event FsSig} (hstep : fs.Step e fs')
    (hkeep : e.op.isRemove = false)
    (hpermits : Permits (isReceipt ledger)
      (fun file => ∀ i, file = .file i → IsReceiptFile ledger fs i) e.op) :
    Drift root (blanked ledger fs) (blanked ledger fs') := by
  rcases Fs.step_cases hstep with ⟨rfl, -⟩ | ⟨path, mode, metadata, rfl, hfree, rfl⟩
      | ⟨i, text, answer, chunk, rfl, -, rfl⟩ | ⟨path, rfl, -⟩
  · exact .refl root _
  · have hreceipt : isReceipt ledger path := hpermits
    refine ⟨fun authorization => ?_, fun i hi => ?_, Nat.le_succ _⟩
    · exact Fs.create_names_ne (ne_of_isPermit ⟨authorization, rfl⟩ hreceipt) metadata
    · have hne : i ≠ fs.next := Nat.ne_of_lt hi
      have hsame : IsReceiptFile ledger (fs.create path metadata) i
          ↔ IsReceiptFile ledger fs i := by
        refine exists_congr fun path' => and_congr_right fun _ => ?_
        by_cases hpath : path' = path
        · subst hpath
          rw [Fs.create_names_self, hfree.1, Option.some.injEq]
          exact iff_of_false hne.symm nofun
        · rw [Fs.create_names_ne hpath]
      by_cases hi' : IsReceiptFile ledger fs i
      · rw [blanked_content_receipt hi', blanked_content_receipt (hsame.mpr hi')]
      · rw [blanked_content_other hi', blanked_content_other (mt hsame.mp hi'),
          Fs.create_content_ne hne]
  · have hi : IsReceiptFile ledger fs i := hpermits i rfl
    refine ⟨fun _ => rfl, fun j _ => ?_, Nat.le_refl _⟩
    have hsame : IsReceiptFile ledger (fs.append i chunk) j ↔ IsReceiptFile ledger fs j := Iff.rfl
    by_cases hj : IsReceiptFile ledger fs j
    · rw [blanked_content_receipt hj, blanked_content_receipt (hsame.mpr hj)]
    · have hne : j ≠ i := by
        rintro rfl
        exact hj hi
      rw [blanked_content_other hj, blanked_content_other (mt hsame.mp hj),
        Fs.append_content_ne hne]
  · cases hkeep

theorem blanked_undisturbed {fs fs' : Fs} (h : Undisturbed root ledger fs fs') :
    Drift root (blanked ledger fs) (blanked ledger fs') := by
  obtain ⟨⟨hnames, hcontent, hnext⟩, hreceipts⟩ := h
  refine ⟨hnames, fun i hi => ?_, hnext⟩
  have hsame : IsReceiptFile ledger fs' i ↔ IsReceiptFile ledger fs i :=
    exists_congr fun path => and_congr_right fun hpath => by rw [hreceipts path hpath]
  by_cases hi' : IsReceiptFile ledger fs i
  · rw [blanked_content_receipt hi', blanked_content_receipt (hsame.mpr hi')]
  · rw [blanked_content_other hi', blanked_content_other (mt hsame.mp hi'), hcontent i hi]

/-! ## The refinement -/

/-- A check asks nothing of its ledger, and neither does an issue call. -/
theorem check_pass (self : PkcheckAuthorizationChecker) (request : PolkitAuthorizationRequest)
    (now : Nat) : (Call.check self request now).prog.Uses
      fun o => withLedger ledger o = .call o .pure :=
  uses_inl (uses_of_forall (fun _ => rfl) _)

theorem issue_pass (self : RootOwnedActivationPermitIssuer)
    (prepared : PreparedPrivilegedActivation) (source : Nat) (grant : OsAuthorizationGrant)
    (now : Nat) : (Call.issue self prepared source grant now).prog.Uses
      fun o => withLedger ledger o = .call o .pure :=
  uses_inr (uses_inl (uses_of_forall (fun _ => rfl) _))

theorem granted_iff {h : (production root ledger).system.History}
    {g : (PermitRuns.system root).History} (href : (production root ledger).Refines h g)
    {j : Nat} {grant : OsAuthorizationGrant} : Granted h j grant ↔ Granted g j grant := by
  have hcalls : calls g = calls h := href.matching.calls_eq
  refine exists_congr fun self => exists_congr fun request => exists_congr fun now =>
    exists_congr fun tr => ?_
  rw [hcalls]
  refine and_congr_right fun hcall => ?_
  rw [(href.stands hcall).eq_of_passed (check_pass self request now)]

theorem admits_of_refines {h : (production root ledger).system.History}
    {g : (PermitRuns.system root).History} (href : (production root ledger).Refines h g)
    {c : Call} (hadm : Admits root h c) : Admits root g c := by
  cases c with
  | issue self prepared source grant now => exact ⟨hadm.1, (granted_iff href).mp hadm.2⟩
  | _ => exact hadm

/-- The operation of the ledger is a call of the file ledger. -/
theorem steps_consumeOnce {authorization : SystemAuthorizationId} {preparedAtUnixMs : Nat}
    {tr : List (Event PermitsSig)}
    {r : Prog PermitsSig Empty (Except PrivilegedExecutionLedgerError Unit)}
    (hs : (withLedger ledger (.inr (.inr (.consumeOnce authorization preparedAtUnixMs)))).Steps
      tr r) :
    ∃ tr' q, tr = tr'.map fsEvent
      ∧ (ledger.consumeOnce authorization preparedAtUnixMs).Steps tr' q
      ∧ r = (q.attempt.inl : Prog (FsSig.sum HelperSig) Empty _).inr := by
  obtain ⟨tr₁, q₁, rfl, hs₁, rfl⟩ := steps_inr hs
  obtain ⟨tr₂, q₂, rfl, hs₂, rfl⟩ := steps_inl hs₁
  obtain ⟨q₃, hs₃, rfl⟩ := steps_attempt hs₂
  exact ⟨tr₂, q₃, List.map_map .., hs₃, rfl⟩

section Moves

variable {fs₀ fs fs' : Fs} {h : (production root ledger).system.History} {i : Nat} {c : Call}
  {ops : List (Event PermitsSig)} {done rest : List (Event PermitsSig)} {e : Event PermitsSig}
  {o : PermitsSig.Op} {k : PermitsSig.Ans o → Prog PermitsSig c.Err c.Res}
  {q : Prog PermitsSig Empty (PermitsSig.Ans o)}

/-- A move of an operation that is passed on is that operation. -/
theorem move_pass (hmove : (production root ledger).Move fs₀ h fs fs' i c ops o k done rest e q)
    (hpass : withLedger ledger o = .call o .pure) : ∃ a, e = ⟨o, a⟩ ∧ q = .pure a := by
  have hs : (withLedger ledger o).Steps (rest ++ [e]) q := hmove.steps
  rw [hpass] at hs
  exact (steps_pass hs).2

/-- What a call has been handed, an event of the history has handed to it. -/
theorem handed_of_move
    (hmove : (production root ledger).Move fs₀ h fs fs' i c ops o k done rest e q)
    {e' : Event FsSig} (hmem : e' ∈ files ops) : .act i (fsEvent e') ∈ h := by
  obtain ⟨seg, hseg, hin⟩ := hmove.expands.segment_of_mem (o := .inr (.inl e'.op)) (a := e'.ans)
    (mem_files.mp hmem)
  obtain ⟨seg', hseg', heq⟩ : ∃ seg', (Prog.call (.inr (.inl e'.op)) .pure :
      Prog PermitsSig Empty _).Steps seg' (.pure e'.ans) ∧ seg = seg' := ⟨seg, hseg, rfl⟩
  have hthis : fsEvent e' ∈ seg := by
    cases hseg' with
    | call hdone =>
        cases hdone
        rw [heq]
        exact List.mem_singleton_self _
  have hdid : fsEvent e' ∈ proj i h := by
    rw [hmove.did]
    exact List.mem_append_left _ (hin _ hthis)
  exact mem_proj.mp hdid

/-- The ledger at work: a file operation of a `consume_once`, on receipts. -/
theorem drift_of_move {authorization : SystemAuthorizationId} {preparedAtUnixMs : Nat}
    {k : Except PrivilegedExecutionLedgerError Unit → Prog PermitsSig c.Err c.Res}
    {q : Prog PermitsSig Empty (Except PrivilegedExecutionLedgerError Unit)}
    (hapart : Apart root ledger h fs)
    (hmove : (production root ledger).Move fs₀ h fs fs' i c ops
      (.inr (.inr (.consumeOnce authorization preparedAtUnixMs))) k done rest e q) :
    Drift root (blanked ledger fs) (blanked ledger fs') := by
  obtain ⟨tr, q', htr, hs, -⟩ := steps_consumeOnce hmove.steps
  obtain ⟨rest', last, rfl, hrest, hlast⟩ := List.map_eq_append_iff.mp htr.symm
  obtain ⟨e', rfl, rfl⟩ := List.map_eq_singleton_iff.mp hlast
  subst hrest
  have hstep : fs.Step e' fs' := hmove.step
  have hperforms : ledger.Performs authorization e'.op :=
    (ledger.consumeOnce_uses authorization preparedAtUnixMs).of_steps hs e'
      (List.mem_append_right _ (List.mem_singleton_self e'))
  refine blanked_drift hstep hperforms.keeps
    (((confined_consumeOnce ledger authorization preparedAtUnixMs).of_steps hs).mono ?_)
  rintro file (hfalse | ⟨e'', hmem, hhanded⟩) j rfl
  · exact hfalse.elim
  · have hdid : fsEvent e'' ∈ proj i h := by
      rw [hmove.did]
      exact List.mem_append_right _ (List.mem_map_of_mem hmem)
    exact hapart.receipt (mem_proj.mp hdid) hhanded

/-- A file operation of anything else, on permits. -/
theorem step_of_move {o : FsOp} {a : FsSig.Ans o}
    {k : FsSig.Ans o → Prog PermitsSig c.Err c.Res} (hc : OnRoot root c)
    (hapart : Apart root ledger h fs)
    (hmove : (production root ledger).Move fs₀ h fs fs' i c ops (.inr (.inl o)) k done rest
      (fsEvent ⟨o, a⟩) (.pure a)) :
    (blanked ledger fs).Step ⟨o, a⟩ (blanked ledger fs') := by
  have hpermits : Permits (isPermit root) (fun file => ∃ e' ∈ files ops,
      Handed (isPermit root) e' file) o :=
    permits_of_steps (e := ⟨o, a⟩) hc hmove.performs
  have hothers : Permits (isPermit root)
      (fun file => ∀ j, file = .file j → ¬ IsReceiptFile ledger fs j) o := hpermits.mono ?_
  · exact blanked_step (e := ⟨o, a⟩) hmove.step hothers
  rintro file ⟨e', hmem, hhanded⟩ j rfl ⟨path, hpath, hname⟩
  exact (hapart.permit (handed_of_move hmove hmem) hhanded).2 path hpath hname

end Moves

/-- The production configuration refines the runs of the permit protocol, the receipts
being files of the environment. -/
noncomputable def simulation {fs₀ : Fs}
    (hempty : ∀ authorization, fs₀.names (permitPath root authorization) = none)
    (hfresh : fs₀.Fresh) : (production root ledger).Simulation fs₀ where
  abs := blanked ledger
  within := by
    intro h fs fs' i c ops o k done rest e q hmove hunfinished
    rcases (withLedger_overlays ledger).cases o with ⟨authorization, preparedAt, rfl⟩ | hpass
    · exact drift_of_move (run_apart hempty hfresh hmove.run) hmove
    · obtain ⟨a, -, rfl⟩ := move_pass hmove hpass
      exact absurd rfl (hunfinished a)
  finish := by
    intro h fs fs' i c ops o k done rest e a hmove
    have hapart := run_apart hempty hfresh hmove.run
    rcases (withLedger_overlays ledger).cases o with ⟨authorization, preparedAt, rfl⟩ | hpass
    · exact ⟨blanked ledger fs', drift_of_move hapart hmove, rfl⟩
    · obtain ⟨a', rfl, heq⟩ := move_pass hmove hpass
      obtain rfl := Prog.pure.inj heq
      obtain ⟨_, _, -, hadm⟩ := hmove.run.admitted hmove.call
      refine ⟨blanked ledger fs, .refl root _, ?_⟩
      rcases o with o | o | o
      · obtain rfl : fs' = fs := hmove.step
        rfl
      · exact step_of_move (onRoot_of_admits hadm) hapart hmove
      · obtain rfl : fs' = fs := hmove.step
        rfl
  drift := fun _ hdrift => blanked_undisturbed hdrift
  admits := fun _ href hadm => admits_of_refines href hadm

/-! ## What was done before a launch -/

/-- By then call `x` was exactly approved, has removed its permit, and has created the
receipt of its authorization. -/
structure Authorized (root : PathBuf) (ledger : FilePrivilegedExecutionLedger)
    (before : (production root ledger).system.History) (x : Nat)
    (prepared : PreparedPrivilegedActivation) : Prop where
  approved : ExactlyApproved before prepared
  permit : .act x (fsEvent ⟨.removeFile (permitPath root prepared.authorization), .ok ()⟩)
    ∈ before
  receipt : ∃ file, .act x (fsEvent
    ⟨.createNew (ledger.receiptPath prepared.authorization) 0o600, .ok file⟩) ∈ before

/-- It is its helper that hands a command over. -/
theorem helper_of_launch {self : RootOwnedNixOsActivationBoundary}
    {permits : FileTrustedActivationPermitStore} {prepared : PreparedPrivilegedActivation}
    {now : Nat} {tr : List (Event PermitsSig)}
    {r : Prog PermitsSig RootActivationBoundaryError PrivilegedActivationExecution}
    (hs : (Call.execute self permits prepared now).prog.Steps tr r) {program : PathBuf}
    {argument : String} {answer : Except String PrivilegedCommandOutcome}
    (hmem : launch program argument answer ∈ tr) :
    ∃ trh q, (self.runtime.execute prepared now).Steps trh q
      ∧ ⟨.run program argument, answer⟩ ∈ trh ∧ ∀ e ∈ trh, helperEvent e ∈ tr := by
  have hnone : ∀ tr : List (Event FsSig),
      launch program argument answer ∉ (tr.map Event.inl).map Event.inr := by
    intro tr hmem
    rw [List.map_map] at hmem
    obtain ⟨e, -, he⟩ := List.mem_map.mp hmem
    cases congrArg Event.op he
  obtain ⟨tr', q, rfl, hq, -⟩ := steps_inr hs
  rcases RootOwnedNixOsActivationBoundary.steps_execute hq with rfl | ⟨-, hconsuming | hhelping⟩
  · cases hmem
  · obtain ⟨trp, -, rfl, -⟩ := hconsuming
    exact absurd hmem (hnone trp)
  · obtain ⟨trp, trh, q', rfl, -, hh⟩ := hhelping
    rw [List.map_append] at hmem
    have hmem := (List.mem_append.mp hmem).resolve_left (hnone trp)
    rw [List.map_map] at hmem
    obtain ⟨e, he, heq⟩ := List.mem_map.mp hmem
    obtain rfl : e = ⟨.run program argument, answer⟩ :=
      Event.inr_injective (Event.inr_injective heq)
    refine ⟨trh, q', hh, he, fun e he => ?_⟩
    rw [List.map_append]
    exact List.mem_append_right _ (List.mem_map_of_mem (List.mem_map_of_mem he))

/-- A boundary call that launches has the ledger's agreement. -/
theorem consumed_of_launch {self : RootOwnedNixOsActivationBoundary}
    {permits : FileTrustedActivationPermitStore} {prepared : PreparedPrivilegedActivation}
    {now : Nat} {tr : List (Event PermitsSig)}
    {r : Prog PermitsSig RootActivationBoundaryError PrivilegedActivationExecution}
    (hs : (Call.execute self permits prepared now).prog.Steps tr r) {program : PathBuf}
    {argument : String} {answer : Except String PrivilegedCommandOutcome}
    (hmem : launch program argument answer ∈ tr) :
    helperEvent ⟨.consumeOnce prepared.authorization prepared.preparedAtUnixMs, .ok ()⟩ ∈ tr := by
  obtain ⟨trh, q, hh, hrun, hall⟩ := helper_of_launch hs hmem
  exact hall _ (((PrivilegedNixOsActivationHelper.execute_all self.runtime prepared
    now).of_steps hh).1.consumed_of_run hrun)

/-- The next step of a call that launches is the operation of running a command. -/
theorem performs_launch {fs₀ fs fs' : Fs} {h : (production root ledger).system.History}
    {i : Nat} {c : Call} {ops done rest : List (Event PermitsSig)} {o : PermitsSig.Op}
    {k : PermitsSig.Ans o → Prog PermitsSig c.Err c.Res} {program : PathBuf}
    {argument : String} {answer : Except String PrivilegedCommandOutcome}
    {q : Prog PermitsSig Empty (PermitsSig.Ans o)}
    (hmove : (production root ledger).Move fs₀ h fs fs' i c ops o k done rest
      (launch program argument answer) q) :
    ∃ r, c.prog.Steps (ops ++ [launch program argument answer]) r := by
  have houter : ¬ ∃ file : FsOp, (launch program argument answer).op = .inr (.inl file) := nofun
  obtain ⟨hop, -⟩ := (withLedger_overlays ledger).op_of_mem hmove.steps
    (List.mem_append_right _ (List.mem_singleton_self _)) houter
  obtain rfl : .inr (.inr (.run program argument)) = o := hop
  obtain ⟨a, heq, rfl⟩ := move_pass hmove rfl
  exact ⟨_, heq ▸ hmove.performs⟩

/-- What was approved in the one history was approved in the other. -/
theorem approved_of_matches {h : (production root ledger).system.History}
    {g : (PermitRuns.system root).History} (hm : (production root ledger).Matches h g)
    {prepared : PreparedPrivilegedActivation} (happroved : ExactlyApproved g prepared) :
    ExactlyApproved h prepared := by
  obtain ⟨before, between, after, source, checker, request, checkedAt, plan, outcome, grant,
    issuer, issued, issuedAt, rfl, hc, hrest⟩ := happroved
  obtain ⟨h₁, x, h₂, rfl, hm₁, hissue⟩ := hm.split rfl
  obtain ⟨h₃, y, h₄, rfl, hm₃, hcheck⟩ := hm₁.split rfl
  cases hissue with
  | spawn _ =>
      cases hcheck with
      | @act _ o a seg e hs =>
          -- the check's operation is passed on
          obtain ⟨-, a', rfl, heq⟩ := steps_pass (T := PermitsSig) (o := .inl (.run plan)) hs
          obtain rfl := Prog.pure.inj heq
          refine ⟨h₃, h₄, h₂, source, checker, request, checkedAt, plan, outcome, grant, issuer,
            issued, issuedAt, rfl, ?_, hrest⟩
          rw [← hm₃.calls_eq]
          exact hc

/-- A call that launches has done so in the permit protocol. -/
theorem performed_of_launch {fs₀ fs : Fs} {h : (production root ledger).system.History}
    (hempty : ∀ authorization, fs₀.names (permitPath root authorization) = none)
    (hfresh : fs₀.Fresh) (hr : Run (production root ledger).system fs₀ h fs) {x : Nat}
    {self : RootOwnedNixOsActivationBoundary} {permits : FileTrustedActivationPermitStore}
    {prepared : PreparedPrivilegedActivation} {now : Nat}
    (hcall : (calls h)[x]? = some (.execute self permits prepared now))
    {before after : (production root ledger).system.History} {program : PathBuf}
    {argument : String} {answer : Except String PrivilegedCommandOutcome}
    (hlaunch : h = before ++ .act x (launch program argument answer) :: after) :
    ∃ g fs₁, Run (PermitRuns.system root) (blanked ledger fs₀)
        (g ++ [.act x (launch program argument answer)]) (blanked ledger fs₁)
      ∧ (production root ledger).Refines before g ∧ permits.root = root
      ∧ (calls before)[x]? = some (.execute self permits prepared now)
      ∧ ∃ r, (Call.execute self permits prepared now).prog.Steps
        (proj x g ++ [launch program argument answer]) r := by
  subst hlaunch
  obtain ⟨c, fs₁, fs₂, _, hc, hr₁, hs, hstep⟩ := hr.split
  obtain rfl := Option.some.inj ((calls_mono _ hc).symm.trans hcall)
  obtain ⟨_, _, -, hroot⟩ := hr₁.admitted hc
  obtain ⟨g, hg, href⟩ := (simulation hempty hfresh).run hr₁
  obtain ⟨o, k, done, rest, q, hops, hexpands, hdid, hsteps⟩ :=
    (href.stands hc).next (production root ledger).busy hs
  have hmove : (production root ledger).Move fs₀ before fs₁ fs₂ x
      (.execute self permits prepared now) (proj x g) o k done rest
      (launch program argument answer) q := ⟨hr₁, hstep, hc, hops, hexpands, hdid, hsteps⟩
  obtain ⟨r, hperforms⟩ := performs_launch hmove
  have hcall' : (calls g)[x]? = some (.execute self permits prepared now) := by
    rw [href.matching.calls_eq, hc]
  exact ⟨g, fs₁, hg.act hcall' hperforms rfl, href, hroot, hc, r, hperforms⟩

/-- What a call has been passed on in the permit protocol, it has done. -/
theorem mem_of_performed {h : (production root ledger).system.History}
    {g : (PermitRuns.system root).History} (href : (production root ledger).Refines h g) {x : Nat}
    {c : Call} (hc : (calls h)[x]? = some c) {e : Event PermitsSig} (hmem : e ∈ proj x g)
    (hpass : withLedger ledger e.op = .call e.op .pure) : .act x e ∈ h := by
  obtain ⟨seg, hseg, hall⟩ := (href.stands hc).segment_of_mem hmem
  obtain rfl := segment_passed hseg hpass
  exact mem_proj.mp (hall e (List.mem_singleton_self e))

theorem authorized_of_launch {fs₀ fs : Fs} {h : (production root ledger).system.History}
    (hempty : ∀ authorization, fs₀.names (permitPath root authorization) = none)
    (hfresh : fs₀.Fresh) (hr : Run (production root ledger).system fs₀ h fs) {x : Nat}
    {self : RootOwnedNixOsActivationBoundary} {permits : FileTrustedActivationPermitStore}
    {prepared : PreparedPrivilegedActivation} {now : Nat}
    (hcall : (calls h)[x]? = some (.execute self permits prepared now))
    {before after : (production root ledger).system.History} {program : PathBuf}
    {argument : String} {answer : Except String PrivilegedCommandOutcome}
    (hlaunch : h = before ++ .act x (launch program argument answer) :: after) :
    Authorized root ledger before x prepared := by
  obtain ⟨g, fs₁, hlaunched, href, rfl, hc, r, hperforms⟩ :=
    performed_of_launch hempty hfresh hr hcall hlaunch
  have hcall' : (calls g)[x]? = some (.execute self permits prepared now) := by
    rw [href.matching.calls_eq, hc]
  refine ⟨approved_of_matches href.matching ?_, ?_, ?_⟩
  · have hempty' : ∀ authorization,
        (blanked ledger fs₀).names (permitPath permits.root authorization) = none := hempty
    exact command_approved hempty' hlaunched (calls_mono _ hcall') rfl
  · -- the permit was consumed before anything was asked of the host
    have hconsumed := (steps_execute hperforms).2 ⟨.run program argument, answer⟩
      (List.mem_append_right _ (List.mem_singleton_self _))
    rw [files_append, show files [launch program argument answer] = [] from rfl,
      List.append_nil] at hconsumed
    obtain ⟨file, htrace⟩ := FileTrustedActivationPermitStore.steps_consumeMatching hconsumed
    obtain ⟨pre, post, hremoved, -⟩ := htrace.removal
    exact mem_of_performed href hc (mem_files.mp
      (hremoved ▸ List.mem_append_right _ (List.mem_cons_self ..))) rfl
  · -- the ledger has agreed before the command
    have hagreed := consumed_of_launch hperforms
      (List.mem_append_right _ (List.mem_singleton_self _))
    have hagreed := (List.mem_append.mp hagreed).resolve_right fun hmem => by
      cases congrArg Event.op (List.mem_singleton.mp hmem)
    obtain ⟨seg, hseg, hin⟩ := (href.stands hc).segment_of_mem hagreed
    obtain ⟨tr, q', rfl, hledger, hq⟩ := steps_consumeOnce hseg
    obtain rfl := attempt_eq_ok (inl_eq_pure (inr_eq_pure hq.symm))
    obtain ⟨file, hcreated⟩ := ((ledger.consumeOnce_all _ _).of_steps hledger).1 rfl
    exact ⟨file, mem_proj.mp (hin _ (List.mem_map_of_mem hcreated))⟩

/-! ## One launch for each consent -/

/-- The receipt of this authorization is created in this event. -/
def Receipts (ledger : FilePrivilegedExecutionLedger) (authorization : SystemAuthorizationId)
    (e : Event PermitsSig) : Prop :=
  ∃ file, e = fsEvent ⟨.createNew (ledger.receiptPath authorization) 0o600, .ok file⟩

/-- A receipt stays, whatever permits are created and removed. -/
def receiptLatch (root : PathBuf) (ledger : FilePrivilegedExecutionLedger)
    (authorization : SystemAuthorizationId) : Latch (production root ledger).system where
  closed fs := fs.names (ledger.receiptPath authorization) ≠ none
  closes := Receipts ledger authorization
  keeps := by
    intro c tr e q fs fs' hs hstep hnamed
    obtain ⟨root', hc⟩ := exists_onRoot c
    have hkeeps : Keeps root' ledger e.op := (production_uses hc).of_steps hs e
      (List.mem_append_right _ (List.mem_singleton_self e))
    obtain ⟨o | o | o, ans⟩ := e
    · obtain rfl : fs' = fs := hstep
      exact hnamed
    · have hstep : fs.Step ⟨o, ans⟩ fs' := hstep
      cases hremove : o.isRemove with
      | false => exact Fs.names_ne_none_of_step hstep hremove hnamed
      | true =>
          cases o with
          | removeFile path =>
              have hne : ledger.receiptPath authorization ≠ path :=
                (ne_of_isPermit hkeeps ⟨authorization, rfl⟩).symm
              rcases ans with error | _
              · exact hstep.2 ▸ hnamed
              · rw [hstep.2, Fs.remove_names_ne hne]
                exact hnamed
          | _ => cases hremove
    · obtain rfl : fs' = fs := hstep
      exact hnamed
  shuts := by
    rintro fs fs' _ hstep ⟨file, rfl⟩
    obtain ⟨hfree, -, metadata, rfl⟩ := hstep
    exact ⟨not_not.mpr hfree.1, by simp⟩
  drift hdrift hnamed := by
    rw [hdrift.2 _ ⟨authorization, rfl⟩]
    exact hnamed

/-- Boundary call `x`, for this request, has handed over a command. -/
def Launches (h : List (Act PermitsSig Call)) (x : Nat)
    (prepared : PreparedPrivilegedActivation) : Prop :=
  ∃ self permits now program argument answer,
    (calls h)[x]? = some (.execute self permits prepared now)
      ∧ .act x (launch program argument answer) ∈ h

/-- Check `j` has shown exactly this to the user, who consented. -/
def Consents (h : List (Act PermitsSig Call)) (j : Nat) (permit : TrustedActivationPermit) :
    Prop :=
  ∃ checker request checkedAt plan outcome,
    (calls h)[j]? = some (.check checker request checkedAt) ∧ request.approvedPermit = permit
      ∧ .act j (.inl (PkcheckAuthorizationChecker.pkcheckRun plan outcome)) ∈ h
      ∧ outcome.exitCode = some 0

theorem consents_of_approved {h : List (Act PermitsSig Call)}
    {prepared : PreparedPrivilegedActivation} (happroved : ExactlyApproved h prepared)
    (h' : List (Act PermitsSig Call)) : ∃ j, Consents (h ++ h') j (.fromPrepared prepared) := by
  obtain ⟨before, between, after, source, checker, request, checkedAt, plan, outcome, grant,
    issuer, issued, issuedAt, rfl, hc, hcode, -, ⟨name, checked, hrequest, hsame⟩, -⟩ := happroved
  refine ⟨source, checker, request, checkedAt, plan, outcome, ?_, ?_, by simp, hcode⟩
  · rw [List.append_assoc, List.append_assoc]
    exact calls_mono _ hc
  · rw [PolkitAuthorizationRequest.approvedPermit_eq hrequest, hsame]

theorem Consents.unique {h : List (Act PermitsSig Call)} {j : Nat}
    {permit permit' : TrustedActivationPermit} (hj : Consents h j permit)
    (hj' : Consents h j permit') : permit = permit' := by
  obtain ⟨checker, request, checkedAt, plan, outcome, hc, rfl, -⟩ := hj
  obtain ⟨checker', request', checkedAt', plan', outcome', hc', rfl, -⟩ := hj'
  obtain ⟨-, rfl, -⟩ := Call.check.inj (Option.some.inj (hc.symm.trans hc'))
  rfl

section Consent

variable {fs₀ fs : Fs} {h : (production root ledger).system.History}

theorem Launches.authorized
    (hempty : ∀ authorization, fs₀.names (permitPath root authorization) = none)
    (hfresh : fs₀.Fresh) (hr : Run (production root ledger).system fs₀ h fs) {x : Nat}
    {prepared : PreparedPrivilegedActivation} (hx : Launches h x prepared) :
    ∃ before after, h = before ++ after ∧ Authorized root ledger before x prepared := by
  obtain ⟨self, permits, now, program, argument, answer, hcall, hmem⟩ := hx
  obtain ⟨before, after, hsplit⟩ := List.append_of_mem hmem
  exact ⟨before, _, hsplit, authorized_of_launch hempty hfresh hr hcall hsplit⟩

/-- One call launches under an authorization. -/
theorem Launches.unique
    (hempty : ∀ authorization, fs₀.names (permitPath root authorization) = none)
    (hfresh : fs₀.Fresh) (hr : Run (production root ledger).system fs₀ h fs) {x y : Nat}
    {prepared prepared' : PreparedPrivilegedActivation} (hx : Launches h x prepared)
    (hy : Launches h y prepared') (hsame : prepared.authorization = prepared'.authorization) :
    x = y := by
  obtain ⟨before, after, hh, hauthorized⟩ := hx.authorized hempty hfresh hr
  obtain ⟨before', after', hh', hauthorized'⟩ := hy.authorized hempty hfresh hr
  obtain ⟨file, hreceipt⟩ := hauthorized.receipt
  obtain ⟨file', hreceipt'⟩ := hauthorized'.receipt
  refine Latch.unique (L := receiptLatch root ledger prepared.authorization) hr
    (hh ▸ List.mem_append_left _ hreceipt) (hh' ▸ List.mem_append_left _ hreceipt')
    ⟨file, rfl⟩ ⟨file', ?_⟩
  rw [hsame]

/-- In every run of the production configuration from an empty permit directory: before a
boundary call hands over a command for a request, a check of exactly that request has
succeeded and an issue call was made with its grant, and the call has destroyed the permit
and left its receipt. No other call ever launches under that authorization. -/
theorem launch_authorized
    (hempty : ∀ authorization, fs₀.names (permitPath root authorization) = none)
    (hfresh : fs₀.Fresh) (hr : Run (production root ledger).system fs₀ h fs) {x : Nat}
    {self : RootOwnedNixOsActivationBoundary} {permits : FileTrustedActivationPermitStore}
    {prepared : PreparedPrivilegedActivation} {now : Nat}
    (hcall : (calls h)[x]? = some (.execute self permits prepared now))
    {before after : (production root ledger).system.History} {program : PathBuf}
    {argument : String} {answer : Except String PrivilegedCommandOutcome}
    (hlaunch : h = before ++ .act x (launch program argument answer) :: after) :
    Authorized root ledger before x prepared
      ∧ ∀ y prepared', Launches h y prepared' →
        prepared'.authorization = prepared.authorization → y = x := by
  refine ⟨authorized_of_launch hempty hfresh hr hcall hlaunch, fun y prepared' hy hsame => ?_⟩
  have hx : Launches h x prepared :=
    ⟨self, permits, now, program, argument, answer, hcall, by simp [hlaunch]⟩
  exact hy.unique hempty hfresh hr hx hsame

/-- In every run of the production configuration from an empty permit directory: a user
has consented, in some check, to exactly the request of each call that launches, and no
check is the consent to two launches. -/
theorem one_launch_per_consent
    (hempty : ∀ authorization, fs₀.names (permitPath root authorization) = none)
    (hfresh : fs₀.Fresh) (hr : Run (production root ledger).system fs₀ h fs) :
    (∀ x prepared, Launches h x prepared → ∃ j, Consents h j (.fromPrepared prepared))
      ∧ ∀ j x y prepared prepared', Consents h j (.fromPrepared prepared) →
        Consents h j (.fromPrepared prepared') → Launches h x prepared →
        Launches h y prepared' → x = y := by
  constructor
  · intro x prepared hx
    obtain ⟨before, after, rfl, hauthorized⟩ := hx.authorized hempty hfresh hr
    exact consents_of_approved hauthorized.approved after
  · intro j x y prepared prepared' hj hj' hx hy
    exact hx.unique hempty hfresh hr hy
      (congrArg TrustedActivationPermit.authorization (hj.unique hj'))

end Consent

/-! The pilot request, with permits and receipts in one directory. -/

section Pilot

open PrivilegedNixOsActivationHelper (pilotHelper pilotObservations consumption testCommand)

open MemoryStores

def pilotLedger : FilePrivilegedExecutionLedger := ⟨pilotRoot⟩

def pilotReceipt : List (Event FsSig) :=
  pilotLedger.consumeEvents ⟨"auth:one"⟩ 2000 rootMetadata (.file 1) .dir

/-- The pilot request, from its check to its receipt. -/
def pilotHistory : (production pilotRoot pilotLedger).system.History :=
  checking ++ issuing 1 0 ++ .spawn pilotExecuteCall
    :: ((pilotConsume 0).map fsEvent ++ pilotObservations.map helperEvent
      ++ pilotReceipt.map fsEvent).map (.act 2)

/-- A call of which everything is passed on. -/
theorem steps_passed {c : Call} {tr : List (Event PermitsSig)} {q : Prog PermitsSig c.Err c.Res}
    (hs : c.prog.Steps tr q) (hpass : ∀ e ∈ tr, withLedger ledger e.op = .call e.op .pure) :
    ((production root ledger).system.prog c).Steps tr (handle (withLedger ledger) q) :=
  steps_of_expands hs (expands_of_passed hpass)

theorem exec_fsEvents {fs fs' : Fs} {tr : List (Event FsSig)} (hx : Exec Fs.Step fs tr fs') :
    Exec (production root ledger).step fs (tr.map fsEvent) fs' :=
  show Exec (PermitRuns.system root).step fs (tr.map fsEvent) fs' from exec_files hx

theorem exec_helperEvents {fs : Fs} (tr : List (Event HelperSig)) :
    Exec (production root ledger).step fs (tr.map helperEvent) fs :=
  show Exec (PermitRuns.system root).step fs (tr.map helperEvent) fs from exec_helper tr

theorem pass_files (tr : List (Event FsSig)) :
    ∀ e ∈ tr.map fsEvent, withLedger ledger e.op = .call e.op .pure := by
  intro e he
  obtain ⟨e', -, rfl⟩ := List.mem_map.mp he
  rfl

/-! ### The pilot request under any authorization -/

/-- The user is asked about it under this authorization. -/
def requestOf (a : SystemAuthorizationId) : PolkitAuthorizationRequest :=
  { pilotRequest with approvedPermit := .fromPrepared (Pilot.prepared a) }

def grantOf (a : SystemAuthorizationId) : OsAuthorizationGrant :=
  PkcheckAuthorizationChecker.grantFor (requestOf a) 2200

theorem steps_check (a : SystemAuthorizationId) :
    (pilotChecker.checkUserInitiated (requestOf a) 2200).Steps
      [PkcheckAuthorizationChecker.pkcheckRun pilotCheckPlan ⟨some 0, "", ""⟩]
      (.pure (grantOf a)) :=
  steps_of_follow rfl

/-- The check of the request, as call `k`. -/
def checked (a : SystemAuthorizationId) (k : Nat) :
    (production pilotRoot pilotLedger).system.History :=
  [ .spawn (.check pilotChecker (requestOf a) 2200)
  , .act k (.inl (PkcheckAuthorizationChecker.pkcheckRun pilotCheckPlan ⟨some 0, "", ""⟩)) ]

/-- The issue of its permit on the check of call `j`, as call `k`; the new file is `i`. -/
def issued (a : SystemAuthorizationId) (j k i : Nat) :
    (production pilotRoot pilotLedger).system.History :=
  .spawn (.issue pilotIssuer (Pilot.prepared a) j (grantOf a) 2300)
    :: ((pilotIssuer.issueEvents (Pilot.prepared a) rootMetadata permitMetadata (.file i) .dir).map
      fsEvent).map (.act k)

/-- What its boundary call does up to its launch: its permit is file `i`, its receipt
becomes file `j`. -/
def executeEvents (a : SystemAuthorizationId) (i j : Nat) : List (Event PermitsSig) :=
  (pilotPermits.consumeEvents (Pilot.prepared a) rootMetadata permitMetadata (.file i) .dir).map
      fsEvent
    ++ pilotObservations.map helperEvent
    ++ (pilotLedger.consumeEvents a 2000 rootMetadata (.file j) .dir).map fsEvent

/-- The boundary call, as call `k`. -/
def launched (a : SystemAuthorizationId) (k i j : Nat) :
    (production pilotRoot pilotLedger).system.History :=
  .spawn (.execute ⟨pilotHelper⟩ pilotPermits (Pilot.prepared a) 2500)
    :: (executeEvents a i j ++ [helperEvent testCommand]).map (.act k)

/-- The gate, the user and the node have nothing against the request. -/
structure InOrder (a : SystemAuthorizationId) : Prop where
  approved : pilotIssuer.Approved (Pilot.prepared a) (grantOf a) 2300
  valid : pilotHelper.validatePrepared (Pilot.prepared a) 2500 = .ok ()
  executes : ∃ q, (pilotHelper.execute (Pilot.prepared a) 2500).Steps
    (pilotObservations ++ [consumption a] ++ [testCommand]) q

theorem inOrder_one : InOrder ⟨"auth:one"⟩ where
  approved := pilotGrant_approved
  valid := rfl
  executes := ⟨_, steps_of_follow rfl⟩

theorem inOrder_two : InOrder ⟨"auth:two"⟩ where
  approved := { pilotGrant_approved with validated := rfl, exact_binding := rfl }
  valid := rfl
  executes := ⟨_, steps_of_follow rfl⟩

/-- The pilot's directory, with some permits and receipts in it. -/
structure OnDisk (fs : Fs) : Prop where
  directories : Directories pilotPermits pilotLedger fs
  dirs : fs.dirs = (Fs.emptyDirectory pilotRoot).dirs
  metadata : ∀ path i, fs.names path = some i → (fs.inodes i).metadata = permitMetadata

theorem onDisk_emptyDirectory : OnDisk (.emptyDirectory pilotRoot) where
  directories := directories_emptyDirectory rfl rfl (by decide)
  dirs := rfl
  metadata := nofun

section OnDisk

variable {a : SystemAuthorizationId} {fs₀ fs : Fs}
  {h : (production pilotRoot pilotLedger).system.History}

theorem OnDisk.stat_root (hdisk : OnDisk fs) : fs.stat pilotRoot = some rootMetadata := by
  rw [Fs.stat, show fs.names pilotRoot = none from hdisk.directories.noFile.1, hdisk.dirs]
  rfl

theorem OnDisk.stat_file (hdisk : OnDisk fs) {path : PathBuf} {i : Nat}
    (hname : fs.names path = some i) : fs.stat path = some permitMetadata := by
  rw [Fs.stat, hname]
  exact congrArg some (hdisk.metadata path i hname)

theorem OnDisk.dir (hdisk : OnDisk fs) : fs.dirs pilotRoot ≠ none := by
  rw [hdisk.dirs]
  exact nofun

theorem OnDisk.create (hdisk : OnDisk fs) {path : PathBuf} (hpath : fs.dirs path = none) :
    OnDisk (fs.create path permitMetadata) where
  directories := hdisk.directories.of_names hpath rfl
    (fun _ hne => Fs.create_names_ne hne _)
    (hdisk.directories.fresh.create _ _)
  dirs := hdisk.dirs
  metadata path' i hname := by
    by_cases hi : i = fs.next
    · simp [Fs.create, hi]
    · have hne : path' ≠ path := by
        rintro rfl
        rw [Fs.create_names_self, Option.some.injEq] at hname
        exact hi hname.symm
      rw [Fs.create_names_ne hne] at hname
      simpa [Fs.create, hi] using hdisk.metadata path' i hname

theorem OnDisk.append (hdisk : OnDisk fs) (i : Nat) (text : String) :
    OnDisk (fs.append i text) where
  directories := { hdisk.directories with }
  dirs := hdisk.dirs
  metadata path j hname := by
    have hold := hdisk.metadata path j hname
    by_cases hj : j = i
    · subst hj
      simpa [Fs.append] using hold
    · simpa [Fs.append, hj] using hold

theorem OnDisk.remove (hdisk : OnDisk fs) {path : PathBuf} (hpath : fs.dirs path = none) :
    OnDisk (fs.remove path) where
  directories := hdisk.directories.of_names hpath rfl (fun _ => Fs.remove_names_ne)
    (hdisk.directories.fresh.remove _)
  dirs := hdisk.dirs
  metadata path' i hname := by
    by_cases hpath' : path' = path
    · rw [hpath', Fs.remove_names_self] at hname
      cases hname
    · rw [Fs.remove_names_ne hpath'] at hname
      exact hdisk.metadata path' i hname

/-- With the permit of the request in it. -/
def permitted (a : SystemAuthorizationId) (fs : Fs) : Fs :=
  withFile fs (permitPath pilotRoot a) permitMetadata
    (TrustedActivationPermit.fromPrepared (Pilot.prepared a)).canonicalText

theorem content_permitted (a : SystemAuthorizationId) (fs : Fs) :
    (permitted a fs).content fs.next
      = (TrustedActivationPermit.fromPrepared (Pilot.prepared a)).canonicalText := by
  rw [permitted, Fs.content, withFile_inodes_self]

/-- With the receipt of the request in the place of its permit. -/
def receipted (a : SystemAuthorizationId) (fs : Fs) : Fs :=
  withFile (fs.remove (permitPath pilotRoot a)) (pilotLedger.receiptPath a) permitMetadata
    (receiptText a 2000)

theorem OnDisk.after_issue (hdisk : OnDisk fs) (a : SystemAuthorizationId) :
    OnDisk (permitted a fs) :=
  (hdisk.create (hdisk.directories.noDirectory a).1).append _ _

theorem OnDisk.after_execute (hdisk : OnDisk fs) (a : SystemAuthorizationId) :
    OnDisk (receipted a fs) :=
  ((hdisk.remove (hdisk.directories.noDirectory a).1).create
    (hdisk.directories.noDirectory a).2).append _ _

/-- The issue call creates and writes the permit. -/
theorem OnDisk.exec_issue (hdisk : OnDisk fs)
    (hfree : fs.names (permitPath pilotRoot a) = none) :
    Exec Fs.Step fs (pilotIssuer.issueEvents (Pilot.prepared a) rootMetadata permitMetadata
      (.file fs.next) .dir) (permitted a fs) := by
  have hdisk' := hdisk.after_issue a
  have hstat := hdisk'.stat_file withFile_names_self
  exact .cons ⟨hdisk.stat_root, rfl⟩ <|
    .cons ⟨⟨hfree, (hdisk.directories.noDirectory a).1⟩, rfl, permitMetadata, rfl⟩ <|
    .cons rfl <| .cons rfl <| .cons ⟨hstat, rfl⟩ <| .cons ⟨hdisk'.dir, rfl⟩ <| .cons rfl .nil

/-- The boundary call removes the permit and leaves the receipt. -/
theorem OnDisk.exec_execute (hdisk : OnDisk fs) {i : Nat}
    (hname : fs.names (permitPath pilotRoot a) = some i)
    (hcontent : fs.content i
      = (TrustedActivationPermit.fromPrepared (Pilot.prepared a)).canonicalText)
    (hfree : fs.names (pilotLedger.receiptPath a) = none) :
    Exec (production pilotRoot pilotLedger).step fs (executeEvents a i fs.next)
      (receipted a fs) := by
  have hdisk₁ := hdisk.remove (hdisk.directories.noDirectory a).1
  have hdisk₂ := hdisk.after_execute a
  have hfree₁ : (fs.remove (permitPath pilotRoot a)).names (pilotLedger.receiptPath a) = none :=
    (Fs.remove_names_ne (receiptPath_ne_permitPath pilotPermits pilotLedger a a)).trans hfree
  have hconsume : Exec Fs.Step fs (pilotPermits.consumeEvents (Pilot.prepared a) rootMetadata
      permitMetadata (.file i) .dir) (fs.remove (permitPath pilotRoot a)) :=
    .cons ⟨hdisk.stat_root, rfl⟩ <| .cons ⟨hdisk.stat_file hname, rfl⟩ <|
      .cons ⟨hname, rfl⟩ <| .cons ⟨hcontent.symm, rfl⟩ <|
      .cons ⟨hname ▸ Option.some_ne_none i, rfl⟩ <| .cons ⟨hdisk₁.dir, rfl⟩ <| .cons rfl .nil
  have hreceipt : Exec Fs.Step (fs.remove (permitPath pilotRoot a))
      (pilotLedger.consumeEvents a 2000 rootMetadata (.file fs.next) .dir) (receipted a fs) :=
    .cons ⟨hdisk₁.stat_root, rfl⟩ <|
      .cons ⟨⟨hfree₁, (hdisk.directories.noDirectory a).2⟩, rfl, permitMetadata, rfl⟩ <|
      .cons rfl <| .cons (withFile_append _).symm <| .cons rfl <| .cons ⟨hdisk₂.dir, rfl⟩ <|
      .cons rfl .nil
  exact ((exec_fsEvents hconsume).append (exec_helperEvents pilotObservations)).append
    (exec_fsEvents hreceipt)

/-- The user is asked, and consents. -/
theorem checked_run (hr : Run (production pilotRoot pilotLedger).system fs₀ h fs)
    (a : SystemAuthorizationId) :
    Run (production pilotRoot pilotLedger).system fs₀ (h ++ checked a (calls h).length) fs := by
  have hcheck : (Call.check pilotChecker (requestOf a) 2200).prog.Steps
      [.inl (PkcheckAuthorizationChecker.pkcheckRun pilotCheckPlan ⟨some 0, "", ""⟩)] _ :=
    (steps_check a).inl
  exact hr.call (c := .check pilotChecker (requestOf a) 2200) ⟨":1.42", Pilot.prepared a, rfl⟩
    (steps_passed hcheck ((check_pass _ _ _).of_steps hcheck)) (.cons rfl .nil)

/-- On the check of call `j` a permit is issued. -/
theorem issued_run (hr : Run (production pilotRoot pilotLedger).system fs₀ h fs)
    (hdisk : OnDisk fs) (horder : InOrder a) {j : Nat} (hgranted : Granted h j (grantOf a))
    (hfree : fs.names (permitPath pilotRoot a) = none) :
    Run (production pilotRoot pilotLedger).system fs₀
      (h ++ issued a j (calls h).length fs.next) (permitted a fs) := by
  have hissue : (pilotIssuer.issue (Pilot.prepared a) (grantOf a) 2300).Steps _ _ :=
    RootOwnedActivationPermitIssuer.issue_of_approved horder.approved rootMetadata_safe
      permitMetadata_safe (.file fs.next) .dir
  have hlift := (hissue.inl (T := HelperSig)).inr (S := PkcheckSig)
  rw [List.map_map] at hlift
  have hx : Exec (production pilotRoot pilotLedger).step fs _ (permitted a fs) :=
    exec_fsEvents (hdisk.exec_issue hfree)
  exact hr.call (c := .issue pilotIssuer (Pilot.prepared a) j (grantOf a) 2300) ⟨rfl, hgranted⟩
    (steps_passed hlift (pass_files _)) hx

theorem steps_receipt (a : SystemAuthorizationId) (i : Nat) :
    (withLedger pilotLedger (helperEvent (consumption a)).op).Steps
      ((pilotLedger.consumeEvents a 2000 rootMetadata (.file i) .dir).map fsEvent)
      (.pure (.ok ())) := by
  have hs : (pilotLedger.consumeOnce a 2000).Steps
      (pilotLedger.consumeEvents a 2000 rootMetadata (.file i) .dir) (.pure ()) :=
    FilePrivilegedExecutionLedger.steps_consumeEvents (by decide) a 2000 (.file i) .dir
  rw [show fsEvent = Event.inr ∘ Event.inl from rfl, ← List.map_map]
  exact hs.attempt.inl.inr

/-- The boundary call, its receipt in place of the ledger's answer. -/
theorem steps_launched (horder : InOrder a) (i j : Nat) : ∃ q,
    ((production pilotRoot pilotLedger).system.prog
      (.execute ⟨pilotHelper⟩ pilotPermits (Pilot.prepared a) 2500)).Steps
        (executeEvents a i j ++ [helperEvent testCommand]) q := by
  have hconsume : (pilotPermits.consumeMatching (Pilot.prepared a)).Steps
      (pilotPermits.consumeEvents (Pilot.prepared a) rootMetadata permitMetadata (.file i) .dir)
      (.pure ()) :=
    FileTrustedActivationPermitStore.consumeMatching_of_match (Pilot.prepared a)
      rootMetadata_safe permitMetadata_safe (.file i) .dir
  obtain ⟨q, hhelper⟩ := horder.executes
  have hboundary : ((⟨pilotHelper⟩ : RootOwnedNixOsActivationBoundary).execute
      (Pilot.prepared a) 2500 pilotPermits.toStore).Steps _ _ :=
    RootOwnedNixOsActivationBoundary.execute_of_steps pilotPermits.toStore horder.valid hconsume
      hhelper
  have hlift := hboundary.inr (S := PkcheckSig)
  have hobservations : Expands (withLedger pilotLedger) (pilotObservations.map helperEvent)
      (pilotObservations.map helperEvent) := by
    refine expands_of_passed fun e he => ?_
    obtain ⟨e', he', rfl⟩ := List.mem_map.mp he
    simp only [pilotObservations, PrivilegedNixOsActivationHelper.observations, List.mem_cons,
      List.not_mem_nil, or_false] at he'
    rcases he' with rfl | rfl | rfl | rfl | rfl <;> rfl
  have hreceipt : Expands (withLedger pilotLedger) [helperEvent (consumption a)] _ :=
    .cons (steps_receipt a j) .nil
  rw [List.append_nil] at hreceipt
  have hlaunch : Expands (withLedger pilotLedger) [helperEvent testCommand]
      [helperEvent testCommand] :=
    expands_of_passed fun e he => by
      obtain rfl := List.mem_singleton.mp he
      rfl
  have hconsumed : Expands (withLedger pilotLedger) ((pilotPermits.consumeEvents
      (Pilot.prepared a) rootMetadata permitMetadata (.file i) .dir).map fsEvent) _ :=
    expands_of_passed (pass_files _)
  have hexpands := ((hconsumed.append hobservations).append hreceipt).append hlaunch
  rw [List.map_append, List.map_map, List.map_map, List.map_append, List.map_append,
    ← List.append_assoc, ← List.append_assoc] at hlift
  exact ⟨_, steps_of_expands hlift hexpands⟩

/-- The boundary call finds the permit, and launches. -/
theorem launched_run (hr : Run (production pilotRoot pilotLedger).system fs₀ h fs)
    (hdisk : OnDisk fs) (horder : InOrder a) {i : Nat}
    (hname : fs.names (permitPath pilotRoot a) = some i)
    (hcontent : fs.content i
      = (TrustedActivationPermit.fromPrepared (Pilot.prepared a)).canonicalText)
    (hfree : fs.names (pilotLedger.receiptPath a) = none) :
    Run (production pilotRoot pilotLedger).system fs₀
      (h ++ launched a (calls h).length i fs.next) (receipted a fs) := by
  obtain ⟨q, hexecute⟩ := steps_launched horder i fs.next
  exact hr.call (c := .execute ⟨pilotHelper⟩ pilotPermits (Pilot.prepared a) 2500) rfl hexecute
    ((hdisk.exec_execute hname hcontent hfree).append (exec_helperEvents [testCommand]))

end OnDisk

/-- The user has consented, and the permit is there. -/
theorem pilot_issued_run : Run (production pilotRoot pilotLedger).system
    (.emptyDirectory pilotRoot) (checking ++ issuing 1 0)
    (withPermit (.emptyDirectory pilotRoot)) :=
  issued_run (checked_run .nil ⟨"auth:one"⟩) onDisk_emptyDirectory inOrder_one (granted_pilot rfl)
    rfl

theorem pilot_run : Run (production pilotRoot pilotLedger).system (.emptyDirectory pilotRoot)
    (pilotHistory ++ [.act 2 (helperEvent testCommand)])
    (receipted ⟨"auth:one"⟩ (permitted ⟨"auth:one"⟩ (.emptyDirectory pilotRoot))) := by
  have hdisk := onDisk_emptyDirectory.after_issue ⟨"auth:one"⟩
  have hrun := launched_run pilot_issued_run hdisk inOrder_one withFile_names_self
    (content_permitted _ _) rfl
  exact hrun

/-- Two requests are checked and issued, and launched the other way round. -/
def twoLaunches : (production pilotRoot pilotLedger).system.History :=
  checked ⟨"auth:one"⟩ 0 ++ checked ⟨"auth:two"⟩ 1 ++ issued ⟨"auth:one"⟩ 0 2 0
    ++ issued ⟨"auth:two"⟩ 1 3 1 ++ launched ⟨"auth:two"⟩ 4 1 2 ++ launched ⟨"auth:one"⟩ 5 0 3

theorem twoLaunches_run : ∃ fs, Run (production pilotRoot pilotLedger).system
    (.emptyDirectory pilotRoot) twoLaunches fs := by
  let fs₁ := permitted ⟨"auth:one"⟩ (.emptyDirectory pilotRoot)
  let fs₂ := permitted ⟨"auth:two"⟩ fs₁
  let fs₃ := receipted ⟨"auth:two"⟩ fs₂
  have hdisk₁ : OnDisk fs₁ := onDisk_emptyDirectory.after_issue _
  have hdisk₂ : OnDisk fs₂ := hdisk₁.after_issue _
  have hdisk₃ : OnDisk fs₃ := hdisk₂.after_execute _
  have hstart : Run (production pilotRoot pilotLedger).system (.emptyDirectory pilotRoot) []
      (.emptyDirectory pilotRoot) := .nil
  have hchecked := checked_run (checked_run hstart ⟨"auth:one"⟩) ⟨"auth:two"⟩
  have hissued := issued_run hchecked onDisk_emptyDirectory inOrder_one (j := 0)
    ⟨pilotChecker, _, 2200, _, rfl, rfl, steps_check _⟩ rfl
  have hissued := issued_run hissued hdisk₁ inOrder_two (j := 1)
    ⟨pilotChecker, _, 2200, _, rfl, rfl, steps_check _⟩ (by decide)
  have hlaunched := launched_run hissued hdisk₂ inOrder_two withFile_names_self
    (content_permitted _ _) (by decide)
  have hinode : fs₃.inodes 0 = fs₁.inodes 0 := calc
    fs₃.inodes 0 = fs₂.inodes 0 := withFile_inodes_ne (by decide)
    _ = fs₁.inodes 0 := withFile_inodes_ne (by decide)
  have hcontent : fs₃.content 0 = fs₁.content 0 := congrArg Inode.content hinode
  exact ⟨_, launched_run hlaunched hdisk₃ inOrder_one (i := 0) (by decide)
    (hcontent.trans (content_permitted _ _)) (by decide)⟩

/-- The pilot's command was launched with all it takes, and by this call alone. -/
theorem pilot_authorized :
    Authorized pilotRoot pilotLedger pilotHistory 2 pilotPrepared
      ∧ ∀ y prepared', Launches (pilotHistory ++ [.act 2 (helperEvent testCommand)]) y prepared' →
        prepared'.authorization = pilotPrepared.authorization → y = 2 := by
  exact launch_authorized (fun _ => rfl) (Fs.fresh_emptyDirectory _) pilot_run (x := 2) rfl rfl

theorem launch_mem (a : SystemAuthorizationId) (k i j : Nat) :
    .act k (helperEvent testCommand) ∈ launched a k i j :=
  List.mem_cons_of_mem _ (List.mem_map_of_mem
    (List.mem_append_right _ (List.mem_singleton_self _)))

theorem launches_two : Launches twoLaunches 4 (Pilot.prepared ⟨"auth:two"⟩)
    ∧ Launches twoLaunches 5 (Pilot.prepared ⟨"auth:one"⟩) := by
  have htwo : .act 4 (helperEvent testCommand) ∈ twoLaunches :=
    List.mem_append_left _ (List.mem_append_right _ (launch_mem _ 4 1 2))
  have hone : .act 5 (helperEvent testCommand) ∈ twoLaunches :=
    List.mem_append_right _ (launch_mem _ 5 0 3)
  exact ⟨⟨_, _, _, _, _, _, rfl, htwo⟩, ⟨_, _, _, _, _, _, rfl, hone⟩⟩

/-- Both launches have a consent, and they have different ones. -/
theorem pilot_consent :
    Launches twoLaunches 4 (Pilot.prepared ⟨"auth:two"⟩)
      ∧ Launches twoLaunches 5 (Pilot.prepared ⟨"auth:one"⟩)
      ∧ (∃ j, Consents twoLaunches j (.fromPrepared (Pilot.prepared ⟨"auth:two"⟩)))
      ∧ (∃ j, Consents twoLaunches j (.fromPrepared (Pilot.prepared ⟨"auth:one"⟩)))
      ∧ ∀ j, Consents twoLaunches j (.fromPrepared (Pilot.prepared ⟨"auth:two"⟩)) →
        ¬ Consents twoLaunches j (.fromPrepared (Pilot.prepared ⟨"auth:one"⟩)) := by
  obtain ⟨fs, hr⟩ := twoLaunches_run
  obtain ⟨hconsent, hone⟩ :=
    one_launch_per_consent (fun _ => rfl) (Fs.fresh_emptyDirectory _) hr
  obtain ⟨htwo, hfirst⟩ := launches_two
  refine ⟨htwo, hfirst, hconsent _ _ htwo, hconsent _ _ hfirst, fun j hj hj' => ?_⟩
  exact absurd (hone j 4 5 _ _ hj hj' htwo hfirst) (by decide)

end Pilot

end ProductionRuns

end Blob
