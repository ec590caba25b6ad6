import Blob.PermitTrace
import Blob.Pool

/-!
# Runs on one permit directory

Any number of checks, issue calls, permit consumers and boundary calls,
interleaved operation by operation on one permit directory that nobody
else changes. `pkcheck`, the host, the ledger and the command runner may
answer anything; the files answer truthfully but may fail at any time.

What the calls do to the files is read off their programs here, once for
all properties of runs: only approved issue calls write, each to a file it
has created and once (`steps_writes`), and a boundary call reaches its
helper past a completed consumption (`steps_execute`).
-/

namespace Blob

namespace PermitRuns

open Pool

/-! ## The system -/

/-- `pkcheck`, the files, and everything the helper asks for. -/
abbrev PermitsSig : Sig := PkcheckSig.sum (FsSig.sum HelperSig)

def fsEvent (e : Event FsSig) : Event PermitsSig := .inr (.inl e)

def helperEvent (e : Event HelperSig) : Event PermitsSig := .inr (.inr e)

theorem fsEvent_injective : Function.Injective fsEvent :=
  fun _ _ h => Event.inl_injective (Event.inr_injective h)

inductive Call where
  | check (self : PkcheckAuthorizationChecker) (request : PolkitAuthorizationRequest)
      (nowUnixMs : Nat)
  /-- `source` is the call that returned the grant. -/
  | issue (self : RootOwnedActivationPermitIssuer) (prepared : PreparedPrivilegedActivation)
      (source : Nat) (grant : OsAuthorizationGrant) (nowUnixMs : Nat)
  | consume (permits : FileTrustedActivationPermitStore)
      (prepared : PreparedPrivilegedActivation)
  | execute (self : RootOwnedNixOsActivationBoundary)
      (permits : FileTrustedActivationPermitStore) (prepared : PreparedPrivilegedActivation)
      (nowUnixMs : Nat)

namespace Call

abbrev Err : Call → Type
  | .check _ _ _ => PolkitAuthorizationError
  | .issue _ _ _ _ _ => PermitIssueError
  | .consume _ _ => TrustedActivationPermitError
  | .execute _ _ _ _ => RootActivationBoundaryError

abbrev Res : Call → Type
  | .check _ _ _ => OsAuthorizationGrant
  | .issue _ _ _ _ _ => IssuedActivationPermit
  | .consume _ _ => Unit
  | .execute _ _ _ _ => PrivilegedActivationExecution

def prog : (c : Call) → Prog PermitsSig c.Err c.Res
  | .check self request now => (self.checkUserInitiated request now).inl
  | .issue self prepared _ grant now => (self.issue prepared grant now).inl.inr
  | .consume permits prepared => (permits.consumeMatching prepared).inl.inr
  | .execute self permits prepared now => (self.execute prepared now permits.toStore).inr

/-- The store a call consumes a permit of, and for which request. -/
def consumer? : Call → Option (FileTrustedActivationPermitStore × PreparedPrivilegedActivation)
  | .consume permits prepared => some (permits, prepared)
  | .execute _ permits prepared _ => some (permits, prepared)
  | _ => none

end Call

/-- Call `i` was a check and has returned this grant. -/
def Granted (h : List (Act PermitsSig Call)) (i : Nat) (grant : OsAuthorizationGrant) : Prop :=
  ∃ self request now tr, (calls h)[i]? = some (.check self request now)
    ∧ proj i h = tr.map .inl ∧ (self.checkUserInitiated request now).Steps tr (.pure grant)

/-- Requests are built from prepared activations, and grants come from checks;
everything is on one permit directory. -/
def Admits (root : PathBuf) (h : List (Act PermitsSig Call)) : Call → Prop
  | .check _ request _ => ∃ name prepared,
      PolkitAuthorizationRequest.forPrepared name prepared = .ok request
  | .issue self _ source grant _ => self.root = root ∧ Granted h source grant
  | .consume permits _ => permits.root = root
  | .execute _ permits _ _ => permits.root = root

/-- The permit file of an authorization. -/
def permitPath (root : PathBuf) (authorization : SystemAuthorizationId) : PathBuf :=
  root.join (permitFileName authorization)

/-- The environment changes neither the permit names nor a file that exists. -/
def Drift (root : PathBuf) (fs fs' : Fs) : Prop :=
  (∀ authorization, fs'.names (permitPath root authorization)
      = fs.names (permitPath root authorization))
    ∧ (∀ i < fs.next, fs'.content i = fs.content i) ∧ fs.next ≤ fs'.next

abbrev system (root : PathBuf) : System where
  S := PermitsSig
  Call := Call
  Err := Call.Err
  Res := Call.Res
  prog := Call.prog
  World := Fs
  step fs e fs' :=
    match e with
    | ⟨.inr (.inl o), ans⟩ => fs.Step ⟨o, ans⟩ fs'
    | _ => fs' = fs
  drift := Drift root
  admits := Admits root

/-! ## What a call does to the files -/

/-- The file operations among the events. -/
def files : List (Event PermitsSig) → List (Event FsSig)
  | [] => []
  | ⟨.inr (.inl o), ans⟩ :: tr => ⟨o, ans⟩ :: files tr
  | _ :: tr => files tr

@[simp] theorem files_append (tr tr' : List (Event PermitsSig)) :
    files (tr ++ tr') = files tr ++ files tr' := by
  induction tr with
  | nil => rfl
  | cons e tr ih =>
      obtain ⟨o | o | o, ans⟩ := e <;> simp [files, ih]

@[simp] theorem files_check (tr : List (Event PkcheckSig)) : files (tr.map .inl) = [] := by
  induction tr with
  | nil => rfl
  | cons e tr ih => exact ih

@[simp] theorem files_files (tr : List (Event FsSig)) :
    files (tr.map fsEvent) = tr := by
  induction tr with
  | nil => rfl
  | cons e tr ih => exact congrArg (_ :: ·) ih

@[simp] theorem files_helper (tr : List (Event HelperSig)) :
    files (tr.map helperEvent) = [] := by
  induction tr with
  | nil => rfl
  | cons e tr ih => exact ih

theorem mem_files {e : Event FsSig} {tr : List (Event PermitsSig)} :
    e ∈ files tr ↔ fsEvent e ∈ tr := by
  induction tr with
  | nil => simp [files]
  | cons e' tr ih =>
      obtain ⟨o | o | o, ans⟩ := e'
      · have hne : fsEvent e ≠ ⟨.inl o, ans⟩ := fun h => by cases h
        simp [files, hne, ih]
      · have heq : fsEvent e = ⟨.inr (.inl o), ans⟩ ↔ e = ⟨o, ans⟩ :=
          fsEvent_injective.eq_iff (b := ⟨o, ans⟩)
        simp [files, heq, ih]
      · have hne : fsEvent e ≠ ⟨.inr (.inr o), ans⟩ := fun h => by cases h
        simp [files, hne, ih]

/-- What a call has done to the files, split, splits the history. -/
theorem files_eq_append {x : Nat} {h : List (Act PermitsSig Call)} {tr tr' : List (Event FsSig)}
    {e : Event FsSig} (hfiles : files (proj x h) = tr ++ e :: tr') :
    ∃ h₁ h₂, h = h₁ ++ .act x (fsEvent e) :: h₂ ∧ files (proj x h₁) = tr
      ∧ files (proj x h₂) = tr' := by
  have hsplit : ∀ {all : List (Event PermitsSig)} {tr : List (Event FsSig)},
      files all = tr ++ e :: tr' → ∃ all₁ all₂, all = all₁ ++ fsEvent e :: all₂
        ∧ files all₁ = tr ∧ files all₂ = tr' := by
    intro all
    induction all with
    | nil => intro tr h; simp [files] at h
    | cons e' all ih =>
        intro tr h
        obtain ⟨o | o | o, ans⟩ := e'
        · obtain ⟨all₁, all₂, rfl, h₁, h₂⟩ := ih h
          exact ⟨_ :: all₁, all₂, rfl, h₁, h₂⟩
        · cases tr with
          | nil =>
              obtain ⟨rfl, hrest⟩ := List.cons.inj h
              exact ⟨[], all, rfl, rfl, hrest⟩
          | cons e'' tr =>
              obtain ⟨rfl, hrest⟩ := List.cons.inj h
              obtain ⟨all₁, all₂, rfl, h₁, h₂⟩ := ih hrest
              exact ⟨_ :: all₁, all₂, rfl, congrArg (_ :: ·) h₁, h₂⟩
        · obtain ⟨all₁, all₂, rfl, h₁, h₂⟩ := ih h
          exact ⟨_ :: all₁, all₂, rfl, h₁, h₂⟩
  obtain ⟨all₁, all₂, hall, htr, htr'⟩ := hsplit hfiles
  obtain ⟨h₁, h₂, rfl, rfl, rfl⟩ := proj_eq_append hall
  exact ⟨h₁, h₂, rfl, htr, htr'⟩

/-- A boundary call first consumes; a helper operation comes after a consumption
that succeeded. -/
theorem steps_execute {self : RootOwnedNixOsActivationBoundary}
    {permits : FileTrustedActivationPermitStore} {prepared : PreparedPrivilegedActivation}
    {now : Nat} {tr : List (Event PermitsSig)}
    {r : Prog PermitsSig RootActivationBoundaryError PrivilegedActivationExecution}
    (h : (Call.execute self permits prepared now).prog.Steps tr r) :
    (∃ q, (permits.consumeMatching prepared).Steps (files tr) q)
      ∧ ∀ e, helperEvent e ∈ tr →
        (permits.consumeMatching prepared).Steps (files tr) (.pure ()) := by
  obtain ⟨tr', q, rfl, hq, -⟩ := Prog.steps_inr h
  rcases RootOwnedNixOsActivationBoundary.steps_execute hq with rfl | ⟨-, htr | htr⟩
  · exact ⟨⟨_, .refl _⟩, by simp⟩
  · obtain ⟨trp, q', rfl, hp⟩ := htr
    have hfiles : files ((trp.map Event.inl).map Event.inr) = trp := by
      rw [List.map_map]
      exact files_files trp
    rw [hfiles]
    refine ⟨⟨q', hp⟩, ?_⟩
    intro e he
    rw [List.map_map] at he
    obtain ⟨e', -, he'⟩ := List.mem_map.mp he
    cases congrArg Event.op he'
  · obtain ⟨trp, trh, q', rfl, hp, -⟩ := htr
    have hfiles : files ((trp.map Event.inl ++ trh.map Event.inr).map Event.inr) = trp := by
      rw [List.map_append, List.map_map, List.map_map, files_append]
      exact (congrArg₂ _ (files_files trp) (files_helper trh)).trans (List.append_nil trp)
    rw [hfiles]
    exact ⟨⟨_, hp⟩, fun _ _ => hp⟩

theorem steps_consumer {c : Call} {permits : FileTrustedActivationPermitStore}
    {prepared : PreparedPrivilegedActivation} (hc : c.consumer? = some (permits, prepared))
    {tr : List (Event PermitsSig)} {r : Prog PermitsSig c.Err c.Res}
    (h : c.prog.Steps tr r) : ∃ q, (permits.consumeMatching prepared).Steps (files tr) q := by
  cases c with
  | check self request now => cases hc
  | issue self prepared source grant now => cases hc
  | consume permits' prepared' =>
      obtain ⟨rfl, rfl⟩ := Prod.mk.inj (Option.some.inj hc)
      obtain ⟨tr', q, rfl, hq, -⟩ := Prog.steps_inr h
      obtain ⟨tr'', q', rfl, hq', -⟩ := Prog.steps_inl hq
      rw [List.map_map]
      exact ⟨q', (files_files tr'').symm ▸ hq'⟩
  | execute self permits' prepared' now =>
      obtain ⟨rfl, rfl⟩ := Prod.mk.inj (Option.some.inj hc)
      exact (steps_execute h).1

/-- What call `c` is allowed to write, and where. -/
def Writer (c : Call) (path : PathBuf) (text : String) : Prop :=
  ∃ self prepared source grant now, c = .issue self prepared source grant now
    ∧ self.Approved prepared grant now ∧ path = self.permitPath prepared.authorization
    ∧ text = (TrustedActivationPermit.fromPrepared prepared).canonicalText

/-- Only approved issue calls write, once each. -/
theorem steps_writes {c : Call} {tr : List (Event PermitsSig)}
    {r : Prog PermitsSig c.Err c.Res} (h : c.prog.Steps tr r) :
    (files tr).filter isWrite = []
      ∨ ∃ path text, Writer c path text
        ∧ RootOwnedActivationPermitIssuer.WritesOnce path text (files tr) := by
  cases c with
  | check self request now =>
      obtain ⟨tr', q, rfl, -, -⟩ := Prog.steps_inl h
      exact Or.inl (by rw [files_check]; rfl)
  | issue self prepared source grant now =>
      obtain ⟨tr', q, rfl, hq, -⟩ := Prog.steps_inr h
      obtain ⟨tr'', q', rfl, hq', -⟩ := Prog.steps_inl hq
      have hfiles : files ((tr''.map Event.inl).map Event.inr) = tr'' := by
        rw [List.map_map]
        exact files_files tr''
      rw [hfiles]
      rcases RootOwnedActivationPermitIssuer.issue_writes hq' with rfl | ⟨happroved, hwrites⟩
      · exact Or.inl rfl
      · exact Or.inr ⟨_, _, ⟨self, prepared, source, grant, now, rfl, happroved, rfl, rfl⟩,
          hwrites⟩
  | consume permits prepared =>
      obtain ⟨q, hq⟩ := steps_consumer rfl h
      exact Or.inl (writes_eq_nil (permits.consumeMatching_uses prepared) hq)
  | execute self permits prepared now =>
      obtain ⟨q, hq⟩ := steps_consumer rfl h
      exact Or.inl (writes_eq_nil (permits.consumeMatching_uses prepared) hq)

theorem append_singleton_prefix_pair {α : Type} {xs : List α} {x a b : α}
    (h : xs ++ [x] <+: [a, b]) : (xs = [] ∧ x = a) ∨ (xs = [a] ∧ x = b) := by
  obtain ⟨rest, hrest⟩ := h
  rcases xs with _ | ⟨y, _ | ⟨z, xs⟩⟩
  · exact Or.inl ⟨rfl, (List.cons.inj hrest).1⟩
  · simp only [List.cons_append, List.nil_append, List.cons.injEq] at hrest
    exact Or.inr ⟨by rw [hrest.1], hrest.2.1⟩
  · simp at hrest

/-- A file is created by a writer that has written nothing before. -/
theorem writer_of_create {c : Call} {tr : List (Event PermitsSig)} {path : PathBuf}
    {mode : Nat} {file : Handle} {r : Prog PermitsSig c.Err c.Res}
    (h : c.prog.Steps (tr ++ [fsEvent ⟨.createNew path mode, .ok file⟩]) r) :
    ∃ text, Writer c path text := by
  rcases steps_writes h with hnil | ⟨path', text, hwriter, file', answer, hprefix⟩
  · rw [files_append, List.filter_append, List.append_eq_nil_iff] at hnil
    cases hnil.2
  · rw [files_append, List.filter_append] at hprefix
    rcases append_singleton_prefix_pair hprefix with ⟨-, heq⟩ | ⟨-, heq⟩
    · obtain ⟨rfl, -⟩ := FsOp.createNew.inj (congrArg Event.op heq)
      exact ⟨text, hwriter⟩
    · cases congrArg Event.op heq

/-- A file is written to by the writer that has created it, and for the first
time. -/
theorem writer_of_write {c : Call} {tr : List (Event PermitsSig)} {file : Handle}
    {text : String} {answer : Except IoError Unit} {r : Prog PermitsSig c.Err c.Res}
    (h : c.prog.Steps (tr ++ [fsEvent ⟨.writeAll file text, answer⟩]) r) :
    ∃ path, Writer c path text
      ∧ (files tr).filter isWrite = [⟨.createNew path 0o600, .ok file⟩] := by
  rcases steps_writes h with hnil | ⟨path, text', hwriter, file', answer', hprefix⟩
  · rw [files_append, List.filter_append, List.append_eq_nil_iff] at hnil
    cases hnil.2
  · rw [files_append, List.filter_append] at hprefix
    rcases append_singleton_prefix_pair hprefix with ⟨-, heq⟩ | ⟨hcreated, heq⟩
    · cases congrArg Event.op heq
    · obtain ⟨rfl, rfl⟩ := FsOp.writeAll.inj (congrArg Event.op heq)
      exact ⟨path, hwriter, hcreated⟩

theorem Writer.unique {c : Call} {path path' : PathBuf} {text text' : String}
    (h : Writer c path text) (h' : Writer c path' text') : path = path' ∧ text = text' := by
  obtain ⟨self, prepared, source, grant, now, rfl, -, rfl, rfl⟩ := h
  obtain ⟨self', prepared', source', grant', now', heq, -, rfl, rfl⟩ := h'
  obtain ⟨rfl, rfl, -, -, -⟩ := Call.issue.inj heq
  exact ⟨rfl, rfl⟩

/-! ## Calls in one piece -/

theorem exec_files {root : PathBuf} {fs fs' : Fs} {tr : List (Event FsSig)}
    (h : Prog.Exec Fs.Step fs tr fs') : Prog.Exec (system root).step fs (tr.map fsEvent) fs' := by
  induction h with
  | nil => exact .nil
  | cons hstep _ ih => exact .cons hstep ih

theorem exec_helper {root : PathBuf} {fs : Fs} (tr : List (Event HelperSig)) :
    Prog.Exec (system root).step fs (tr.map helperEvent) fs := by
  induction tr with
  | nil => exact .nil
  | cons e tr ih => exact .cons rfl ih

/-- A granted check. -/
theorem run_check {root : PathBuf} {fs₀ fs : Fs} {h : (system root).History}
    (hr : Run (system root) fs₀ h fs) {self : PkcheckAuthorizationChecker} {name : String}
    {prepared : PreparedPrivilegedActivation} {request : PolkitAuthorizationRequest} {now : Nat}
    (hrequest : PolkitAuthorizationRequest.forPrepared name prepared = .ok request)
    {e : Event PkcheckSig} {q : Prog PkcheckSig PolkitAuthorizationError OsAuthorizationGrant}
    (hs : (self.checkUserInitiated request now).Steps [e] q) :
    Run (system root) fs₀ (h ++ [.spawn (.check self request now), .act (calls h).length (.inl e)])
      fs :=
  hr.call (c := .check self request now) ⟨name, prepared, hrequest⟩ hs.inl (.cons rfl .nil)

theorem run_issue {root : PathBuf} {fs₀ fs fs' : Fs} {h : (system root).History}
    (hr : Run (system root) fs₀ h fs) {self : RootOwnedActivationPermitIssuer}
    (hroot : self.root = root) {prepared : PreparedPrivilegedActivation} {source : Nat}
    {grant : OsAuthorizationGrant} {now : Nat} (hgranted : Granted h source grant)
    {tr : List (Event FsSig)} {q : Prog FsSig PermitIssueError IssuedActivationPermit}
    (hs : (self.issue prepared grant now).Steps tr q) (hx : Prog.Exec Fs.Step fs tr fs') :
    Run (system root) fs₀ (h ++ .spawn (.issue self prepared source grant now)
      :: (tr.map fsEvent).map (.act (calls h).length)) fs' := by
  have hlift := (hs.inl (T := HelperSig)).inr (S := PkcheckSig)
  rw [List.map_map] at hlift
  exact hr.call (c := .issue self prepared source grant now) ⟨hroot, hgranted⟩ hlift
    (exec_files hx)

theorem run_consume {root : PathBuf} {fs₀ fs fs' : Fs} {h : (system root).History}
    (hr : Run (system root) fs₀ h fs) {permits : FileTrustedActivationPermitStore}
    (hroot : permits.root = root) {prepared : PreparedPrivilegedActivation}
    {tr : List (Event FsSig)} {q : Prog FsSig TrustedActivationPermitError Unit}
    (hs : (permits.consumeMatching prepared).Steps tr q) (hx : Prog.Exec Fs.Step fs tr fs') :
    Run (system root) fs₀ (h ++ .spawn (.consume permits prepared)
      :: (tr.map fsEvent).map (.act (calls h).length)) fs' := by
  have hlift := (hs.inl (T := HelperSig)).inr (S := PkcheckSig)
  rw [List.map_map] at hlift
  exact hr.call (c := .consume permits prepared) hroot hlift (exec_files hx)

/-- A boundary call whose permit is there, and that goes on to its helper. -/
theorem run_execute {root : PathBuf} {fs₀ fs fs' : Fs} {h : (system root).History}
    (hr : Run (system root) fs₀ h fs) (self : RootOwnedNixOsActivationBoundary)
    {permits : FileTrustedActivationPermitStore} (hroot : permits.root = root)
    {prepared : PreparedPrivilegedActivation} {now : Nat}
    (hvalid : self.runtime.validatePrepared prepared now = .ok ())
    {tr : List (Event FsSig)} (hs : (permits.consumeMatching prepared).Steps tr (.pure ()))
    (hx : Prog.Exec Fs.Step fs tr fs') {trh : List (Event HelperSig)}
    {q : Prog HelperSig PrivilegedActivationError PrivilegedActivationExecution}
    (hh : (self.runtime.execute prepared now).Steps trh q) :
    Run (system root) fs₀ (h ++ .spawn (.execute self permits prepared now)
      :: (tr.map fsEvent ++ trh.map helperEvent).map (.act (calls h).length)) fs' := by
  have hlift := (RootOwnedNixOsActivationBoundary.execute_of_steps permits.toStore
    hvalid hs hh).inr (S := PkcheckSig)
  rw [List.map_append, List.map_map, List.map_map] at hlift
  exact hr.call (c := .execute self permits prepared now) hroot hlift
    ((exec_files hx).append (exec_helper trh))

/-! ## The pilot request -/

def pilotRoot : PathBuf := .ofString "/var/lib/theblob/activation-permits"

def pilotChecker : PkcheckAuthorizationChecker where
  program := .ofString "/usr/bin/pkcheck"

def pilotIssuer : RootOwnedActivationPermitIssuer where
  root := pilotRoot
  expectedOwnerUid := 0
  validator := PrivilegedNixOsActivationHelper.pilotHelper

def pilotPermits : FileTrustedActivationPermitStore where
  root := pilotRoot
  expectedOwnerUid := 0

def pilotPrepared : PreparedPrivilegedActivation := Pilot.prepared ⟨"auth:one"⟩

def pilotRequest : PolkitAuthorizationRequest where
  systemBusName := ":1.42"
  action := .testActivation
  approvedPermit := .fromPrepared pilotPrepared

theorem pilotRequest_forPrepared :
    PolkitAuthorizationRequest.forPrepared ":1.42" pilotPrepared = .ok pilotRequest := rfl

def pilotCheckPlan : PolkitCheckPlan where
  program := .ofString "/usr/bin/pkcheck"
  args :=
    [ "--action-id", "org.theblob.nixos.test-activation"
    , "--system-bus-name", ":1.42"
    , "--allow-user-interaction"
    , "--detail", "theblob_node", "node:lab"
    , "--detail", "theblob_candidate", "candidate:one"
    , "--detail", "theblob_system_spec", "system:one"
    , "--detail", "theblob_action", "org.theblob.nixos.test-activation"
    , "--detail", "theblob_system_closure", "/nix/store/abc123-nixos-system-blob-pilot" ]

open PkcheckAuthorizationChecker in
/-- The grant of the pilot check, and its one event. -/
def pilotGrant : OsAuthorizationGrant := grantFor pilotRequest 2200

open PkcheckAuthorizationChecker in
theorem steps_pilotCheck : (pilotChecker.checkUserInitiated pilotRequest 2200).Steps
    [pkcheckRun pilotCheckPlan ⟨some 0, "", ""⟩] (.pure pilotGrant) :=
  Prog.steps_of_follow rfl

theorem pilotGrant_approved : pilotIssuer.Approved pilotPrepared pilotGrant 2300 where
  validated := rfl
  prepared_le := by decide
  checked_le := by decide
  age := by decide
  action := rfl
  exact_binding := rfl

def rootMetadata : Metadata := ⟨false, true, false, 0, 0o700⟩

def permitMetadata : Metadata := ⟨false, false, true, 0, 0o600⟩

/-- The file events of the pilot's issue call, the new file being `i`. -/
def pilotIssue (i : Nat) : List (Event FsSig) :=
  pilotIssuer.issueEvents pilotPrepared rootMetadata permitMetadata (.file i) .dir

/-- The file events of the pilot's consumer, the permit file being `i`. -/
def pilotConsume (i : Nat) : List (Event FsSig) :=
  pilotPermits.consumeEvents pilotPrepared rootMetadata permitMetadata (.file i) .dir

/-- A permit directory without permits. -/
structure Empty (fs : Fs) : Prop where
  names : ∀ path, fs.names path = none
  dirs : fs.dirs = (Fs.emptyDirectory pilotRoot).dirs

def pilotPath : PathBuf := permitPath pilotRoot ⟨"auth:one"⟩

theorem pilotPath_ne : pilotPath ≠ pilotRoot := by decide

/-- With the pilot's permit in it. -/
def withPermit (fs : Fs) : Fs :=
  (fs.create pilotPath permitMetadata).append fs.next
    (TrustedActivationPermit.fromPrepared pilotPrepared).canonicalText

theorem Empty.stat_root {fs : Fs} (hempty : Empty fs) :
    fs.stat pilotRoot = some rootMetadata := by
  simp [Fs.stat, hempty.names, hempty.dirs, Fs.emptyDirectory, rootMetadata]

theorem Empty.free {fs : Fs} (hempty : Empty fs) : fs.Free pilotPath := by
  refine ⟨hempty.names _, ?_⟩
  rw [hempty.dirs]
  simp [Fs.emptyDirectory, pilotPath_ne]

theorem Empty.dir {fs : Fs} (hempty : Empty fs) : fs.dirs pilotRoot ≠ none := by
  simp [hempty.dirs, Fs.emptyDirectory]

theorem withPermit_names {fs : Fs} (hempty : Empty fs) (path : PathBuf) :
    (withPermit fs).names path = if path = pilotPath then some fs.next else none := by
  simp [withPermit, Fs.create, Fs.append, hempty.names]

theorem withPermit_stat {fs : Fs} : (withPermit fs).stat pilotPath = some permitMetadata := by
  simp [withPermit, Fs.stat, Fs.create, Fs.append]

theorem withPermit_stat_root {fs : Fs} (hempty : Empty fs) :
    (withPermit fs).stat pilotRoot = some rootMetadata := by
  have hname := withPermit_names hempty pilotRoot
  rw [if_neg (Ne.symm pilotPath_ne)] at hname
  simp only [Fs.stat, hname]
  show fs.dirs pilotRoot = _
  rw [hempty.dirs]
  simp [Fs.emptyDirectory, rootMetadata]

theorem withPermit_content {fs : Fs} : (withPermit fs).content fs.next
    = (TrustedActivationPermit.fromPrepared pilotPrepared).canonicalText := by
  rw [withPermit, Fs.append_content_self, Fs.create_content_self, String.empty_append]

/-- The issue call creates and writes the permit. -/
theorem exec_pilotIssue {fs : Fs} (hempty : Empty fs) :
    Prog.Exec Fs.Step fs (pilotIssue fs.next) (withPermit fs) :=
  .cons ⟨hempty.stat_root, rfl⟩ <| .cons ⟨hempty.free, rfl, permitMetadata, rfl⟩ <|
    .cons rfl <| .cons rfl <| .cons ⟨withPermit_stat, rfl⟩ <| .cons ⟨hempty.dir, rfl⟩ <|
    .cons rfl .nil

/-- The consumer reads the permit and removes it. -/
theorem exec_pilotConsume {fs : Fs} (hempty : Empty fs) :
    Prog.Exec Fs.Step (withPermit fs) (pilotConsume fs.next)
      ((withPermit fs).remove pilotPath) := by
  have hname : (withPermit fs).names pilotPath = some fs.next := by
    rw [withPermit_names hempty, if_pos rfl]
  refine .cons ⟨withPermit_stat_root hempty, rfl⟩ <| .cons ⟨withPermit_stat, rfl⟩ <|
    .cons ⟨hname, rfl⟩ <| .cons ⟨withPermit_content.symm, rfl⟩ <| .cons ⟨?_, rfl⟩ <|
    .cons ⟨hempty.dir, rfl⟩ <| .cons rfl .nil
  rw [show pilotPermits.permitPath pilotPrepared.authorization = pilotPath from rfl, hname]
  exact Option.some_ne_none _

theorem Empty.remove {fs : Fs} (hempty : Empty fs) :
    Empty ((withPermit fs).remove pilotPath) where
  names path := by
    by_cases hpath : path = pilotPath
    · rw [hpath, Fs.remove_names_self]
    · rw [Fs.remove_names_ne hpath, withPermit_names hempty, if_neg hpath]
  dirs := hempty.dirs

def pilotCheckCall : Call := .check pilotChecker pilotRequest 2200

def pilotIssueCall : Call := .issue pilotIssuer pilotPrepared 0 pilotGrant 2300

def pilotConsumeCall : Call := .consume pilotPermits pilotPrepared

def pilotExecuteCall : Call :=
  .execute ⟨PrivilegedNixOsActivationHelper.pilotHelper⟩ pilotPermits pilotPrepared 2500

/-- The check, granted. -/
def checking : List (Act PermitsSig Call) :=
  [ .spawn pilotCheckCall
  , .act 0 (.inl (PkcheckAuthorizationChecker.pkcheckRun pilotCheckPlan ⟨some 0, "", ""⟩)) ]

/-- An issue call as call `k`, that creates file `i`. -/
def issuing (k i : Nat) : List (Act PermitsSig Call) :=
  .spawn pilotIssueCall :: ((pilotIssue i).map fsEvent).map (.act k)

/-- A consumer as call `k`, that removes file `i`. -/
def consuming (k i : Nat) : List (Act PermitsSig Call) :=
  .spawn pilotConsumeCall :: ((pilotConsume i).map fsEvent).map (.act k)

theorem rootMetadata_safe : rootMetadata.SafeRoot 0 := by decide

theorem permitMetadata_safe : permitMetadata.SafeFile 0 := by decide

theorem run_checking {fs : Fs} : Run (system pilotRoot) fs checking fs :=
  run_check .nil pilotRequest_forPrepared steps_pilotCheck

/-- The grant is there as long as the check did nothing else. -/
theorem granted_pilot {h : List (Act PermitsSig Call)} (hproj : proj 0 h = []) :
    Granted (checking ++ h) 0 pilotGrant := by
  refine ⟨pilotChecker, pilotRequest, 2200, _, calls_mono h rfl, ?_, steps_pilotCheck⟩
  rw [proj_append, hproj]
  rfl

theorem run_issuing {fs₀ fs : Fs} {h : (system pilotRoot).History}
    (hr : Run (system pilotRoot) fs₀ h fs) (hempty : Empty fs)
    (hgranted : Granted h 0 pilotGrant) {k i : Nat} (hk : (calls h).length = k)
    (hi : fs.next = i) :
    Run (system pilotRoot) fs₀ (h ++ issuing k i) (withPermit fs) := by
  subst hk hi
  have hsteps : (pilotIssuer.issue pilotPrepared pilotGrant 2300).Steps (pilotIssue fs.next) _ :=
    RootOwnedActivationPermitIssuer.issue_of_approved pilotGrant_approved
      rootMetadata_safe permitMetadata_safe (.file fs.next) .dir
  exact run_issue hr rfl hgranted hsteps (exec_pilotIssue hempty)

theorem run_consuming {fs₀ fs : Fs} {h : (system pilotRoot).History}
    (hr : Run (system pilotRoot) fs₀ h (withPermit fs)) (hempty : Empty fs) {k i : Nat}
    (hk : (calls h).length = k) (hi : fs.next = i) :
    Run (system pilotRoot) fs₀ (h ++ consuming k i) ((withPermit fs).remove pilotPath) := by
  subst hk hi
  have hsteps : (pilotPermits.consumeMatching pilotPrepared).Steps (pilotConsume fs.next) _ :=
    FileTrustedActivationPermitStore.consumeMatching_of_match pilotPrepared
      rootMetadata_safe permitMetadata_safe (.file fs.next) .dir
  exact run_consume hr rfl hsteps (exec_pilotConsume hempty)

end PermitRuns

end Blob
