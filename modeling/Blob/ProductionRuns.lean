import Blob.Confined
import Blob.ExactApproval
import Blob.Implemented
import Blob.LedgerRuns
import Blob.SpentAuthority

/-!
# Runs of the production configuration

Checks, issue calls, consumers and boundary calls, as in `PermitRuns`, but
with the durable ledger in place of one that may answer anything: permits
and receipts are files of one file system, and every interleaving of the
file operations of all calls is a run.

Issuers and consumers are confined to the permit names, the ledger to the
receipt names (`confined_issue`, `confined_consumeMatching`,
`confined_consumeOnce`). So no file ever has both kinds of name, and what a
call was handed under the one is never a file of the other kind (`Apart`,
`run_apart`).
-/

namespace Blob

namespace ProductionRuns

open Pool Prog PermitRuns

open LedgerRuns (isReceipt)

/-! ## The system -/

def isPermit (root : PathBuf) (path : PathBuf) : Prop :=
  ∃ authorization, path = permitPath root authorization

/-- Implement `consume_once` by the file ledger; pass on every other call. -/
def withLedger (ledger : FilePrivilegedExecutionLedger) :
    (o : PermitsSig.Op) → Prog PermitsSig Empty (PermitsSig.Ans o)
  | .inr (.inr (.consumeOnce authorization preparedAtUnixMs)) =>
      (ledger.consumeOnce authorization preparedAtUnixMs).attempt.inl.inr
  | o => .call o .pure

/-- The file operations of `consume_once` come in between, and nothing else. -/
theorem withLedger_overlays (ledger : FilePrivilegedExecutionLedger) :
    Overlays (withLedger ledger)
      (fun o => ∃ authorization preparedAtUnixMs,
        o = .inr (.inr (.consumeOnce authorization preparedAtUnixMs)))
      (fun o => ∃ file, o = .inr (.inl file)) id (fun _ a => a) where
  uses := by
    rintro _ ⟨authorization, preparedAt, rfl⟩
    exact uses_inr (uses_inl (uses_of_forall (fun o => ⟨o, rfl⟩) _))
  cases o := by
    rcases o with o | o | o
    · exact Or.inr rfl
    · exact Or.inr rfl
    · cases o with
      | consumeOnce authorization preparedAt => exact Or.inl ⟨_, _, rfl⟩
      | _ => exact Or.inr rfl

theorem withLedger_busy (ledger : FilePrivilegedExecutionLedger) (o : PermitsSig.Op)
    (a : PermitsSig.Ans o) : withLedger ledger o ≠ .pure a := by
  refine (withLedger_overlays ledger).busy ?_ o a
  rintro _ ⟨authorization, preparedAt, rfl⟩
  exact nofun

/-- The environment changes neither the permit names, nor a file that exists, nor the
receipt names. -/
def Undisturbed (root : PathBuf) (ledger : FilePrivilegedExecutionLedger) (fs fs' : Fs) : Prop :=
  Drift root fs fs' ∧ ∀ path, isReceipt ledger path → fs'.names path = fs.names path

/-- The calls of `PermitRuns`, their ledger being the files of a ledger directory. -/
abbrev production (root : PathBuf) (ledger : FilePrivilegedExecutionLedger) :
    Implementation (PermitRuns.system root) where
  T := PermitsSig
  impl := withLedger ledger
  busy := withLedger_busy ledger
  World := Fs
  step := (PermitRuns.system root).step
  drift := Undisturbed root ledger
  admits := Admits root

variable {root : PathBuf} {ledger : FilePrivilegedExecutionLedger}

/-- A call on this permit directory. -/
def OnRoot (root : PathBuf) : Call → Prop
  | .check _ _ _ => True
  | .issue self _ _ _ _ => self.root = root
  | .consume permits _ => permits.root = root
  | .execute _ permits _ _ => permits.root = root

theorem onRoot_of_admits {h : List (Act PermitsSig Call)} {c : Call} (hadm : Admits root h c) :
    OnRoot root c := by
  cases c with
  | check self request now => trivial
  | issue self prepared source grant now => exact hadm.1
  | consume permits prepared => exact hadm
  | execute self permits prepared now => exact hadm

theorem exists_onRoot (c : Call) : ∃ root, OnRoot root c := by
  cases c with
  | check self request now => exact ⟨self.program, trivial⟩
  | issue self prepared source grant now => exact ⟨self.root, rfl⟩
  | consume permits prepared => exact ⟨permits.root, rfl⟩
  | execute self permits prepared now => exact ⟨permits.root, rfl⟩

/-! ## Who keeps to which names -/

/-- A permit is no receipt. -/
theorem ne_of_isPermit {path path' : PathBuf} (hpermit : isPermit root path)
    (hreceipt : isReceipt ledger path') : path ≠ path' := by
  obtain ⟨authorization, rfl⟩ := hpermit
  obtain ⟨other, rfl⟩ := hreceipt
  exact SpentAuthority.permitPath_ne_receiptPath ⟨root, 0⟩ ledger authorization other

theorem confined_consumeOnce (ledger : FilePrivilegedExecutionLedger)
    (authorization : SystemAuthorizationId) (preparedAtUnixMs : Nat) :
    Confined (isReceipt ledger) (fun _ => False)
      (ledger.consumeOnce authorization preparedAtUnixMs) := by
  have hroot : Confined (isReceipt ledger) (fun _ => False) ledger.validateRoot :=
    confined_bind (confined_mapErr (confined_symlinkMetadata _)) fun _ =>
      confined_bind confined_reject fun _ => confined_reject
  refine confined_bind hroot fun _ => confined_ask ⟨authorization, rfl⟩ fun ans file hans => ?_
  obtain rfl : ans = .ok file := hans
  have hheld : False ∨ Handed (isReceipt ledger)
      ⟨.createNew (ledger.receiptPath authorization) 0o600, .ok file⟩ file :=
    Or.inr (Or.inl ⟨_, _, ⟨authorization, rfl⟩, rfl⟩)
  refine confined_bind (confined_mapErr ?_) fun _ => confined_mapErr (confined_syncDirectory _)
  exact confined_bind (confined_writeAll hheld _) fun _ =>
    confined_bind (confined_writeAll hheld _) fun _ => confined_syncAll file

theorem confined_issue (self : RootOwnedActivationPermitIssuer)
    (prepared : PreparedPrivilegedActivation) (grant : OsAuthorizationGrant) (nowUnixMs : Nat) :
    Confined (isPermit self.root) (fun _ => False) (self.issue prepared grant nowUnixMs) := by
  have happrove : Confined (isPermit self.root) (fun _ => False)
      (self.approve prepared grant nowUnixMs) :=
    confined_of_quiet fun _ _ hs => (RootOwnedActivationPermitIssuer.steps_approve hs).1
  have hroot : Confined (isPermit self.root) (fun _ => False) self.validateRoot :=
    confined_bind (confined_mapErr (confined_symlinkMetadata _)) fun _ => confined_reject
  have hpath : isPermit self.root (self.permitPath prepared.authorization) :=
    ⟨prepared.authorization, rfl⟩
  refine confined_bind happrove fun action => confined_bind ?_ fun _ => trivial
  refine confined_bind hroot fun _ => confined_ask hpath fun ans file hans => ?_
  obtain rfl : ans = .ok file := hans
  have hheld : False ∨ Handed (isPermit self.root)
      ⟨.createNew (self.permitPath prepared.authorization) 0o600, .ok file⟩ file :=
    Or.inr (Or.inl ⟨_, _, hpath, rfl⟩)
  refine confined_bind (confined_attempt ?_) fun written => ?_
  · exact confined_bind (confined_writeAll hheld _) fun _ => confined_syncAll file
  · cases written with
    | error error =>
        exact confined_bind (confined_attempt (confined_removeFile hpath)) fun _ => trivial
    | ok _ =>
        refine confined_bind (confined_mapErr (confined_symlinkMetadata _)) fun metadata => ?_
        show Confined _ _ (if _ then _ else _)
        split
        · exact confined_bind (confined_attempt (confined_removeFile hpath)) fun _ => trivial
        · exact confined_mapErr (confined_syncDirectory _)

theorem confined_consumeMatching (self : FileTrustedActivationPermitStore)
    (prepared : PreparedPrivilegedActivation) :
    Confined (isPermit self.root) (fun _ => False) (self.consumeMatching prepared) := by
  have hpath : isPermit self.root (self.permitPath prepared.authorization) :=
    ⟨prepared.authorization, rfl⟩
  have hread : Confined (isPermit self.root) (fun _ => False)
      (FileTrustedActivationPermitStore.readPermit (self.permitPath prepared.authorization)) := by
    refine ⟨trivial, fun ans => ?_⟩
    cases ans with
    | error error => trivial
    | ok file => exact confined_readToString (Or.inr (Or.inr ⟨_, hpath, rfl⟩))
  refine confined_bind ?_ fun _ => confined_bind ?_ fun _ =>
    confined_bind (confined_mapErr hread) fun observed => confined_bind confined_reject fun _ =>
      confined_bind (confined_mapErr (confined_removeFile hpath)) fun _ =>
        confined_mapErr (confined_syncDirectory _)
  · exact confined_bind (confined_mapErr (confined_symlinkMetadata _)) fun _ => confined_reject
  · exact confined_bind (confined_mapErr (confined_symlinkMetadata _)) fun _ => confined_reject

/-- What a call does to files, it does to permits. -/
theorem permits_of_steps {c : Call} (hc : OnRoot root c)
    {tr : List (Event PermitsSig)} {e : Event FsSig} {r : Prog PermitsSig c.Err c.Res}
    (hs : c.prog.Steps (tr ++ [fsEvent e]) r) :
    Permits (isPermit root) (fun file => ∃ e' ∈ files tr, Handed (isPermit root) e' file)
      e.op := by
  have hlast : files (tr ++ [fsEvent e]) = files tr ++ [e] := files_append ..
  have hconfined : ∀ {ε α : Type} {p q : Prog FsSig ε α},
      Confined (isPermit root) (fun _ => False) p → p.Steps (files (tr ++ [fsEvent e])) q →
        Permits (isPermit root) (fun file => ∃ e' ∈ files tr, Handed (isPermit root) e' file)
          e.op := by
    intro ε α p q hp hq
    rw [hlast] at hq
    exact (hp.of_steps hq).mono fun file hfile => hfile.resolve_left id
  cases c with
  | check self request now =>
      obtain ⟨tr', q, htr, -, -⟩ := steps_inl hs
      rw [htr, files_check] at hlast
      simp at hlast
  | issue self prepared source grant now =>
      obtain rfl : self.root = root := hc
      obtain ⟨tr', q, htr, hq, -⟩ := steps_inr hs
      obtain ⟨tr'', q', rfl, hq', -⟩ := steps_inl hq
      refine hconfined (confined_issue self prepared grant now) (q := q') ?_
      rw [htr, List.map_map]
      exact (files_files tr'').symm ▸ hq'
  | consume permits prepared =>
      obtain rfl : permits.root = root := hc
      obtain ⟨q, hq⟩ := steps_consumer rfl hs
      exact hconfined (confined_consumeMatching permits prepared) hq
  | execute self permits prepared now =>
      obtain rfl : permits.root = root := hc
      obtain ⟨q, hq⟩ := steps_consumer rfl hs
      exact hconfined (confined_consumeMatching permits prepared) hq

/-- Calls create permits and receipts, and remove permits. -/
def Keeps (root : PathBuf) (ledger : FilePrivilegedExecutionLedger) : PermitsSig.Op → Prop
  | .inr (.inl (.createNew path _)) => isPermit root path ∨ isReceipt ledger path
  | .inr (.inl (.removeFile path)) => isPermit root path
  | _ => True

theorem keeps_of_permits {o : FsOp} (ho : Permits (isPermit root) (fun _ => True) o) :
    Keeps root ledger (.inr (.inl o)) := by
  cases o with
  | createNew path mode => exact Or.inl ho
  | removeFile path => exact ho
  | _ => trivial

theorem uses_prog {c : Call} (hc : OnRoot root c) : c.prog.Uses (Keeps root ledger) := by
  have hconsume : ∀ {permits : FileTrustedActivationPermitStore} prepared, permits.root = root →
      (permits.consumeMatching prepared).Uses fun o => Keeps root ledger (.inr (.inl o)) := by
    rintro permits prepared rfl
    exact (confined_consumeMatching permits prepared).uses.imp fun o => keeps_of_permits
  cases c with
  | check self request now => exact uses_inl (uses_of_forall (fun _ => trivial) _)
  | issue self prepared source grant now =>
      obtain rfl : self.root = root := hc
      exact uses_inr (uses_inl
        ((confined_issue self prepared grant now).uses.imp fun o => keeps_of_permits))
  | consume permits prepared => exact uses_inr (uses_inl (hconsume prepared hc))
  | execute self permits prepared now =>
      refine uses_inr (uses_bind (uses_mapErr (uses_ofExcept _)) fun _ => uses_bind ?_ fun _ => ?_)
      · exact uses_mapErr (uses_inl (hconsume prepared hc))
      · exact uses_mapErr (uses_inr (uses_of_forall (fun _ => trivial) _))

/-- So do calls with their ledger in place. -/
theorem production_uses {c : Call} (hc : OnRoot root c) :
    ((production root ledger).system.prog c).Uses (Keeps root ledger) := by
  refine uses_handle (P := Keeps root ledger) (fun o ho => ?_) (uses_prog hc)
  rcases (withLedger_overlays ledger).cases o with ⟨authorization, preparedAt, rfl⟩ | hpass
  · refine uses_inr (uses_inl (uses_attempt
      ((ledger.consumeOnce_uses authorization preparedAt).imp fun o ho => ?_)))
    cases o with
    | createNew path mode => exact Or.inr ⟨authorization, ho.1⟩
    | removeFile path => exact absurd ho id
    | _ => trivial
  · show Uses _ (withLedger ledger o)
    rw [hpass]
    exact ⟨ho, fun _ => trivial⟩

/-! ## The two kinds of files -/

/-- Permits and receipts are different files, and no call holds a file of the one
kind that it was handed as one of the other. -/
structure Apart (root : PathBuf) (ledger : FilePrivilegedExecutionLedger)
    (h : List (Act PermitsSig Call)) (fs : Fs) : Prop where
  fresh : ∀ {path i}, isPermit root path ∨ isReceipt ledger path →
    fs.names path = some i → i < fs.next
  apart : ∀ {path path' i}, isPermit root path → isReceipt ledger path' →
    fs.names path = some i → fs.names path' ≠ some i
  permit : ∀ {k e i}, .act k (fsEvent e) ∈ h → Handed (isPermit root) e (.file i) →
    i < fs.next ∧ ∀ path, isReceipt ledger path → fs.names path ≠ some i
  receipt : ∀ {k e i}, .act k (fsEvent e) ∈ h → Handed (isReceipt ledger) e (.file i) →
    ∃ path, isReceipt ledger path ∧ fs.names path = some i

/-- The start of a run. -/
theorem Apart.nil {fs : Fs} (hempty : ∀ authorization, fs.names (permitPath root authorization)
    = none) (hfresh : fs.Fresh) : Apart root ledger [] fs where
  fresh _ hname := hfresh _ _ hname
  apart := by
    rintro _ path' i ⟨authorization, rfl⟩ - hname
    rw [hempty] at hname
    cases hname
  permit hmem := by cases hmem
  receipt hmem := by cases hmem

/-- The names stay, and what is handed out is the file of its name. -/
theorem Apart.quiet {h t : List (Act PermitsSig Call)} {fs fs' : Fs}
    (hapart : Apart root ledger h fs)
    (hnames : ∀ path, isPermit root path ∨ isReceipt ledger path →
      fs'.names path = fs.names path) (hnext : fs.next ≤ fs'.next)
    (hnew : ∀ {k e i P}, .act k (fsEvent e) ∈ t → Handed P e (.file i) →
      ∃ path, P path ∧ fs.names path = some i) : Apart root ledger (h ++ t) fs' := by
  constructor
  · intro path i hpath hname
    rw [hnames path hpath] at hname
    exact Nat.lt_of_lt_of_le (hapart.fresh hpath hname) hnext
  · intro path path' i hpath hpath' hname
    rw [hnames path (Or.inl hpath)] at hname
    rw [hnames path' (Or.inr hpath')]
    exact hapart.apart hpath hpath' hname
  · intro k e i hmem hhanded
    rcases List.mem_append.mp hmem with hold | hnow
    · obtain ⟨hlt, hne⟩ := hapart.permit hold hhanded
      refine ⟨Nat.lt_of_lt_of_le hlt hnext, fun path hpath => ?_⟩
      rw [hnames path (Or.inr hpath)]
      exact hne path hpath
    · obtain ⟨path, hpath, hname⟩ := hnew hnow hhanded
      refine ⟨Nat.lt_of_lt_of_le (hapart.fresh (Or.inl hpath) hname) hnext, ?_⟩
      intro path' hpath'
      rw [hnames path' (Or.inr hpath')]
      exact hapart.apart hpath hpath' hname
  · intro k e i hmem hhanded
    have hold : ∃ path, isReceipt ledger path ∧ fs.names path = some i := by
      rcases List.mem_append.mp hmem with hold | hnow
      · exact hapart.receipt hold hhanded
      · exact hnew hnow hhanded
    obtain ⟨path, hpath, hname⟩ := hold
    exact ⟨path, hpath, by rw [hnames path (Or.inr hpath), hname]⟩

/-- A permit or a receipt is created. -/
theorem Apart.create {h : List (Act PermitsSig Call)} {fs : Fs}
    (hapart : Apart root ledger h fs) (k : Nat) {path : PathBuf} {mode : Nat}
    (hpath : isPermit root path ∨ isReceipt ledger path) (hfree : fs.Free path)
    (metadata : Metadata) :
    Apart root ledger (h ++ [.act k (fsEvent ⟨.createNew path mode, .ok (.file fs.next)⟩)])
      (fs.create path metadata) := by
  have hcases : ∀ {path' i}, (fs.create path metadata).names path' = some i →
      (path' = path ∧ i = fs.next) ∨ (path' ≠ path ∧ fs.names path' = some i) := by
    intro path' i hname
    by_cases heq : path' = path
    · rw [heq, Fs.create_names_self, Option.some.injEq] at hname
      exact Or.inl ⟨heq, hname.symm⟩
    · rw [Fs.create_names_ne heq] at hname
      exact Or.inr ⟨heq, hname⟩
  have hnew : ∀ {k' e}, (.act k' (fsEvent e) : Act PermitsSig Call)
      ∈ [.act k (fsEvent ⟨.createNew path mode, .ok (.file fs.next)⟩)] →
      e = ⟨.createNew path mode, .ok (.file fs.next)⟩ := fun hmem =>
    fsEvent_injective (Act.act.inj (List.mem_singleton.mp hmem)).2
  have hhanded : ∀ {P : PathBuf → Prop} {i},
      Handed P ⟨.createNew path mode, .ok (.file fs.next)⟩ (.file i) → P path ∧ i = fs.next := by
    rintro P i (⟨path', mode', hP, heq⟩ | ⟨path', -, heq⟩)
    · simp only [Event.mk.injEq, FsOp.createNew.injEq] at heq
      obtain ⟨⟨rfl, rfl⟩, heq⟩ := heq
      exact ⟨hP, by simpa using heq.symm⟩
    · cases congrArg Event.op heq
  constructor
  · intro path' i hpath' hname
    rw [Fs.create_next]
    rcases hcases hname with ⟨-, rfl⟩ | ⟨-, hold⟩
    · exact Nat.lt_succ_self _
    · exact Nat.lt_succ_of_lt (hapart.fresh hpath' hold)
  · intro path₁ path₂ i hpath₁ hpath₂ hname₁ hname₂
    have hne := ne_of_isPermit hpath₁ hpath₂
    rcases hcases hname₁ with ⟨rfl, rfl⟩ | ⟨-, hold₁⟩ <;>
      rcases hcases hname₂ with ⟨rfl, hi⟩ | ⟨-, hold₂⟩
    · exact hne rfl
    · exact absurd (hapart.fresh (Or.inr hpath₂) hold₂) (Nat.lt_irrefl _)
    · exact absurd (hi ▸ hapart.fresh (Or.inl hpath₁) hold₁) (Nat.lt_irrefl _)
    · exact hapart.apart hpath₁ hpath₂ hold₁ hold₂
  · intro k' e i hmem hpermit
    rw [Fs.create_next]
    rcases List.mem_append.mp hmem with hold | hnow
    · obtain ⟨hlt, hne⟩ := hapart.permit hold hpermit
      refine ⟨Nat.lt_succ_of_lt hlt, fun path' hpath' hname => ?_⟩
      rcases hcases hname with ⟨-, rfl⟩ | ⟨-, hsame⟩
      · exact Nat.lt_irrefl _ hlt
      · exact hne path' hpath' hsame
    · obtain rfl := hnew hnow
      obtain ⟨hthis, rfl⟩ := hhanded hpermit
      refine ⟨Nat.lt_succ_self _, fun path' hpath' hname => ?_⟩
      rcases hcases hname with ⟨rfl, -⟩ | ⟨-, hsame⟩
      · exact ne_of_isPermit hthis hpath' rfl
      · exact Nat.lt_irrefl _ (hapart.fresh (Or.inr hpath') hsame)
  · intro k' e i hmem hreceipt
    rcases List.mem_append.mp hmem with hold | hnow
    · obtain ⟨path', hpath', hname⟩ := hapart.receipt hold hreceipt
      refine ⟨path', hpath', ?_⟩
      have hne : path' ≠ path := by
        rintro rfl
        rw [hfree.1] at hname
        cases hname
      rw [Fs.create_names_ne hne, hname]
    · obtain rfl := hnew hnow
      obtain ⟨hthis, rfl⟩ := hhanded hreceipt
      exact ⟨path, hthis, Fs.create_names_self ..⟩

/-- A permit is removed. -/
theorem Apart.remove {h : List (Act PermitsSig Call)} {fs : Fs}
    (hapart : Apart root ledger h fs) (k : Nat) {path : PathBuf} (hpath : isPermit root path) :
    Apart root ledger (h ++ [.act k (fsEvent ⟨.removeFile path, .ok ()⟩)]) (fs.remove path) := by
  have hcases : ∀ {path' i}, (fs.remove path).names path' = some i →
      fs.names path' = some i := by
    intro path' i hname
    by_cases heq : path' = path
    · rw [heq, Fs.remove_names_self] at hname
      cases hname
    · rwa [Fs.remove_names_ne heq] at hname
  have hhanded : ∀ {P k' e i}, (.act k' (fsEvent e) : Act PermitsSig Call)
      ∈ [.act k (fsEvent ⟨.removeFile path, .ok ()⟩)] → ¬ Handed P e (.file i) := by
    intro P k' e i hmem
    obtain rfl := fsEvent_injective (Act.act.inj (List.mem_singleton.mp hmem)).2
    rintro (⟨_, _, -, heq⟩ | ⟨_, -, heq⟩) <;> cases congrArg Event.op heq
  constructor
  · intro path' i hpath' hname
    exact hapart.fresh hpath' (hcases hname)
  · intro path₁ path₂ i hpath₁ hpath₂ hname₁ hname₂
    exact hapart.apart hpath₁ hpath₂ (hcases hname₁) (hcases hname₂)
  · intro k' e i hmem hpermit
    rcases List.mem_append.mp hmem with hold | hnow
    · obtain ⟨hlt, hne⟩ := hapart.permit hold hpermit
      exact ⟨hlt, fun path' hpath' hname => hne path' hpath' (hcases hname)⟩
    · exact absurd hpermit (hhanded hnow)
  · intro k' e i hmem hreceipt
    rcases List.mem_append.mp hmem with hold | hnow
    · obtain ⟨path', hpath', hname⟩ := hapart.receipt hold hreceipt
      exact ⟨path', hpath', by rw [Fs.remove_names_ne (ne_of_isPermit hpath hpath').symm, hname]⟩
    · exact absurd hreceipt (hhanded hnow)

/-- What an operation that changes no names hands out is the file of its name. -/
theorem name_of_handed {fs fs' : Fs} {e : Event FsSig} (hstep : fs.Step e fs')
    (hquiet : Fs.changesNames e = false) {P : PathBuf → Prop} {i : Nat}
    (hhanded : Handed P e (.file i)) : ∃ path, P path ∧ fs.names path = some i := by
  rcases hhanded with ⟨path, mode, hP, rfl⟩ | ⟨path, hP, rfl⟩
  · cases hquiet
  · exact ⟨path, hP, hstep.1⟩

/-- Along every run. -/
theorem run_apart {fs₀ fs : Fs} {h : (production root ledger).system.History}
    (hempty : ∀ authorization, fs₀.names (permitPath root authorization) = none)
    (hfresh : fs₀.Fresh) (hr : Run (production root ledger).system fs₀ h fs) :
    Apart root ledger h fs := by
  have hsame : ∀ {fs : Fs} {t : List (Act PermitsSig Call)}, Apart root ledger t fs →
      ∀ {a}, (∀ k e, a ≠ .act k (fsEvent e)) → Apart root ledger (t ++ [a]) fs := by
    intro fs t hapart a ha
    refine hapart.quiet (fun _ _ => rfl) (Nat.le_refl _) fun hmem => ?_
    exact absurd (List.mem_singleton.mp hmem).symm (ha _ _)
  induction hr with
  | nil => exact .nil hempty hfresh
  | spawn c _ _ ih => exact hsame ih nofun
  | @act h fs fs' k c e q hr hc hs hstep ih =>
      obtain ⟨_, _, -, hadm⟩ := hr.admitted hc
      have hkeeps : Keeps root ledger e.op :=
        (production_uses (onRoot_of_admits hadm)).of_steps hs e
          (List.mem_append_right _ (List.mem_singleton_self e))
      obtain ⟨o | o | o, ans⟩ := e
      · obtain rfl : fs' = fs := hstep
        exact hsame ih fun k e heq => by cases congrArg Event.op (Act.act.inj heq).2
      · have hnow : ∀ {k' e}, (.act k' (fsEvent e) : Act PermitsSig Call)
            ∈ [.act k (fsEvent ⟨o, ans⟩)] → e = ⟨o, ans⟩ := fun hmem =>
          fsEvent_injective (Act.act.inj (List.mem_singleton.mp hmem)).2
        rcases Fs.step_cases hstep with ⟨rfl, hquiet⟩ | ⟨path, mode, metadata, heq, hfree, rfl⟩
            | ⟨i, text, answer, chunk, heq, -, rfl⟩ | ⟨path, heq, rfl⟩
        · refine ih.quiet (fun _ _ => rfl) (Nat.le_refl _) fun hmem hhanded => ?_
          obtain rfl := hnow hmem
          exact name_of_handed hstep hquiet hhanded
        · obtain ⟨rfl, heq⟩ := Event.mk.inj heq
          obtain rfl := eq_of_heq heq
          exact ih.create k hkeeps hfree metadata
        · obtain ⟨rfl, heq⟩ := Event.mk.inj heq
          obtain rfl := eq_of_heq heq
          refine ih.quiet (fun _ _ => rfl) (Nat.le_refl _) fun hmem hhanded => ?_
          obtain rfl := hnow hmem
          rcases hhanded with ⟨_, _, -, heq⟩ | ⟨_, -, heq⟩ <;> cases congrArg Event.op heq
        · obtain ⟨rfl, heq⟩ := Event.mk.inj heq
          obtain rfl := eq_of_heq heq
          exact ih.remove k hkeeps
      · obtain rfl : fs' = fs := hstep
        exact hsame ih fun k e heq => by cases congrArg Event.op (Act.act.inj heq).2
  | @drift h fs fs' _ hdrift ih =>
      have hnames : ∀ path, isPermit root path ∨ isReceipt ledger path →
          fs'.names path = fs.names path := by
        rintro path (⟨authorization, rfl⟩ | hpath)
        · exact hdrift.1.1 authorization
        · exact hdrift.2 path hpath
      have hapart : Apart root ledger (h ++ []) fs' := ih.quiet hnames hdrift.1.2.2 nofun
      rwa [List.append_nil] at hapart

end ProductionRuns

end Blob
