import Blob.ExactApproval
import Blob.GateHelper
import Blob.Stacking
import Blob.StoreRefinement

/-!
# An honest activation goes through

Everything before this module is about what cannot happen. Here files do not
fail, the host is in order (`Healthy`), and a user consents to what the gate
has prepared. Then the issuer issues and the boundary activates exactly in
time, whatever else lies in the two directories (`activation_goes_through`):
no check along the way, made twice or three times in different crates, turns
away what the others let pass.
-/

namespace Blob

namespace Availability

open Prog MemoryStores PrivilegedNixOsActivationHelper

open Stacking (Node)

variable {N : Type} {host : N → (o : HelperSig.Op) → HelperSig.Ans o × N} {view : N → Node}
  {installed : PathBuf → Prop}

/-! ## The host -/

/-- A host that is in order: it shows its node as it is, the closures that are installed are
canonical and have their program, and the program does what it is for. -/
structure Healthy (host : N → (o : HelperSig.Op) → HelperSig.Ans o × N) (view : N → Node)
    (installed : PathBuf → Prop) : Prop where
  canonicalizePath : ∀ n closure, installed closure → ∃ canonical n',
    host n (.canonicalizePath closure) = (.ok canonical, n') ∧ (canonical == closure) = true
      ∧ view n' = view n
  executableExists : ∀ n closure program, installed closure → SwitchProgramOf closure program →
    ∃ n', host n (.executableExists program) = (.ok true, n') ∧ view n' = view n
  currentSystemClosure : ∀ n, ∃ n',
    host n .currentSystemClosure = (.ok (view n).live, n') ∧ view n' = view n
  bootDefaultClosure : ∀ n, ∃ n',
    host n .bootDefaultClosure = (.ok (view n).bootDefault, n') ∧ view n' = view n
  dryActivate : ∀ n closure program, installed closure → SwitchProgramOf closure program →
    ∃ command n', host n (.run program "dry-activate") = (.ok command, n') ∧ view n' = view n
  test : ∀ n closure program, installed closure → SwitchProgramOf closure program →
    ∃ command n', host n (.run program "test") = (.ok command, n') ∧ command.succeeded = true
      ∧ ((view n').live == closure) = true ∧ (view n').bootDefault = (view n).bootDefault

/-- What boots is live. -/
structure Booted (node : Node) : Prop where
  live : validStoreClosure node.live = true
  bootDefault : validStoreClosure node.bootDefault = true
  same : (node.live == node.bootDefault) = true

/-- Whether a path is a closure goes by its components. -/
theorem validStoreClosure_congr {path path' : PathBuf} (h : (path == path') = true) :
    validStoreClosure path' = validStoreClosure path := by
  have hcomponents : path.components = path'.components := eq_of_beq h
  simp only [validStoreClosure, hcomponents]

/-- What an activation is to do to a node. -/
def Activated (p : PreparedPrivilegedActivation) (before after : Node) : Prop :=
  after.bootDefault = before.bootDefault
    ∧ (p.plan.action = .previewActivation ∧ after.live = before.live
      ∨ p.plan.action = .testActivation
        ∧ (after.live == .ofString p.plan.systemClosure) = true)

/-! ## The helper -/

section Helper

variable {self : PrivilegedNixOsActivationHelper} {p : PreparedPrivilegedActivation} {now : Nat}
  {obs : Observed} {canonical bootDefault : PathBuf}

theorem steps_observe_of_ready (h : Ready p obs canonical bootDefault) :
    (observe p).Steps (observations obs canonical bootDefault) (.pure obs) := by
  obtain ⟨candidate, candidateProgram, before, rollbackProgram⟩ := obs
  obtain ⟨hcandidate, hprogram, hrollback, hcanonical, hbefore, hboot, hsame⟩ := h
  dsimp only at hcandidate hprogram hrollback hcanonical hbefore hsame
  subst hcandidate hprogram hrollback
  unfold observe observations
  refine .call ?_
  show Prog.Steps (Prog.reject _ _ >>= _) _ _
  rw [Prog.reject_neg (by simpa using hcanonical)]
  refine .call ?_
  show Prog.Steps (Prog.reject _ _ >>= _) _ _
  rw [Prog.reject_neg (by simp)]
  refine .call (.call ?_)
  show Prog.Steps (Prog.reject _ _ >>= _) _ _
  rw [Prog.reject_neg (by simpa using ⟨hbefore, hboot⟩)]
  show Prog.Steps (Prog.reject _ _ >>= _) _ _
  rw [Prog.reject_neg (by simpa using hsame)]
  refine .call ?_
  show Prog.Steps (Prog.reject _ _ >>= _) _ _
  rw [Prog.reject_neg (by simp)]
  exact .refl _

/-- A command that keeps its promise is reported. -/
theorem steps_settle_of_kept {command : PrivilegedCommandOutcome} {live : PathBuf}
    (hvalid : validStoreClosure live = true) (hkept : Kept p obs command live) :
    (settle p obs command).Steps [⟨.currentSystemClosure, .ok live⟩]
      (.pure (report p obs.before live command false)) := by
  unfold settle
  refine .call ?_
  show Prog.Steps (Prog.reject _ _ >>= _) _ _
  rw [Prog.reject_neg (by simpa using hvalid)]
  rcases hkept with ⟨haction, hbaseline⟩ | ⟨haction, hsucceeded, hcandidate⟩
  · simp only [haction, hbaseline, if_true]
    exact .refl _
  · simp only [haction, hsucceeded, hcandidate, if_true]
    exact .refl _

/-- The calls of an activation that keeps its promise. -/
def activation (p : PreparedPrivilegedActivation) (obs : Observed)
    (canonical bootDefault : PathBuf) (argument : String) (command : PrivilegedCommandOutcome)
    (live : PathBuf) : List (Event HelperSig) :=
  observations obs canonical bootDefault
    ++ [ ⟨.consumeOnce p.authorization p.preparedAtUnixMs, .ok ()⟩
       , ⟨.run obs.candidateProgram argument, .ok command⟩
       , ⟨.currentSystemClosure, .ok live⟩ ]

theorem steps_activation (hvalid : self.validatePrepared p now = .ok ())
    (hready : Ready p obs canonical bootDefault) {argument : String}
    (hargs : p.plan.args = [argument]) {command : PrivilegedCommandOutcome} {live : PathBuf}
    (hlive : validStoreClosure live = true) (hkept : Kept p obs command live) :
    (self.execute p now).Steps (activation p obs canonical bootDefault argument command live)
      (.pure (report p obs.before live command false)) := by
  unfold execute activation
  rw [hvalid, Prog.ofExcept_ok, Prog.bind_pure]
  refine (steps_observe_of_ready hready).bind (.call ?_)
  simp only [hargs, firstArgument]
  exact .call (steps_settle_of_kept hlive hkept)

end Helper

/-! ## The boundary, on files -/

section Boundary

variable {created : Nat → Metadata} {permits : FileTrustedActivationPermitStore}
  {ledger : FilePrivilegedExecutionLedger} {fs : Fs} {n n' : N}
  {boundary : RootOwnedNixOsActivationBoundary} {p : PreparedPrivilegedActivation} {now : Nat}

/-- The operations of a helper, with the ledger in place. -/
abbrev impl (ledger : FilePrivilegedExecutionLedger) (o : HelperSig.Op) :
    Prog SpentAuthority.FilesSig Empty (HelperSig.Ans o) :=
  SpentAuthority.withLedger ledger (.inr o)

/-- What is not for the ledger is for the host. -/
theorem gives_host {o : HelperSig.Op} (hpass : impl ledger o = .call (.inr o) .pure)
    {a : HelperSig.Ans o} (hhost : host n o = (a, n')) :
    Gives (impl ledger) (serveBoth (Fs.serve created) host) (fs, n) ⟨o, a⟩ (fs, n') := by
  unfold Gives
  rw [hpass, run_call]
  simp only [serveBoth, hhost]
  rfl

theorem gives_ledger (hdirs : Directories permits ledger fs)
    {authorization : SystemAuthorizationId}
    (hfree : fs.names (ledger.receiptPath authorization) = none) (preparedAtUnixMs : Nat) :
    Gives (impl ledger) (serveBoth (Fs.serve created) host) (fs, n)
      ⟨.consumeOnce authorization preparedAtUnixMs, .ok ()⟩
      (withFile fs (ledger.receiptPath authorization) (created 0o600)
        (receiptText authorization preparedAtUnixMs), n) := by
  have hrun := run_consumeOnce_free created hdirs hfree preparedAtUnixMs
  unfold Gives
  show ((ledger.consumeOnce authorization preparedAtUnixMs).attempt.inl : Prog _ Empty _).run _ _
    = _
  rw [run_inl, run_attempt_returned hrun]

/-- On a healthy host, with its authorization unused, a valid request is executed. -/
theorem run_helper (hhealthy : Healthy host view installed) (hbooted : Booted (view n))
    (hbaseline : installed (view n).live) (hcandidate : installed (.ofString p.plan.systemClosure))
    (hdirs : Directories permits ledger fs)
    (hfree : fs.names (ledger.receiptPath p.authorization) = none)
    (hvalid : boundary.runtime.validatePrepared p now = .ok ()) :
    ∃ command n', (SpentAuthority.helper boundary p now ledger).run
        (serveBoth (Fs.serve created) host) (fs, n)
      = (.returned (report p (view n).live (view n').live command false),
          (withFile fs (ledger.receiptPath p.authorization) (created 0o600)
            (receiptText p.authorization p.preparedAtUnixMs), n'))
      ∧ Activated p (view n) (view n') := by
  have hwf := (validatePrepared_ok.mp hvalid).1
  have hprogram : SwitchProgramOf (.ofString p.plan.systemClosure) (.ofString p.plan.program) := by
    rw [hwf.program]
    exact switchProgramOf_append hwf.closure
  obtain ⟨canonical, n₁, hcanonicalize, hcanonical, h₁⟩ :=
    hhealthy.canonicalizePath n _ hcandidate
  obtain ⟨n₂, hexists, h₂⟩ := hhealthy.executableExists n₁ _ _ hcandidate hprogram
  obtain ⟨n₃, hlive, h₃⟩ := hhealthy.currentSystemClosure n₂
  obtain ⟨n₄, hboot, h₄⟩ := hhealthy.bootDefaultClosure n₃
  obtain ⟨n₅, hrollback, h₅⟩ :=
    hhealthy.executableExists n₄ _ _ hbaseline (switchProgramOf_join hbooted.live)
  rw [h₂, h₁] at hlive h₃
  rw [h₃] at hboot h₄
  rw [h₄] at h₅
  let obs : Observed := ⟨.ofString p.plan.systemClosure, .ofString p.plan.program,
    (view n).live, (view n).live.join "bin/switch-to-configuration"⟩
  have hready : Ready p obs canonical (view n).bootDefault :=
    ⟨rfl, rfl, rfl, hcanonical, hbooted.live, hbooted.bootDefault, hbooted.same⟩
  obtain ⟨argument, command, n₆, hargs, hrun, hactivated, hkept⟩ :
      ∃ argument command n₆, p.plan.args = [argument]
        ∧ host n₅ (.run (.ofString p.plan.program) argument) = (.ok command, n₆)
        ∧ Activated p (view n) (view n₆) ∧ Kept p obs command (view n₆).live := by
    rcases supported_of_wellFormed hwf with ⟨haction, hargs⟩ | ⟨haction, hargs⟩
    · obtain ⟨command, n₆, hrun, h₆⟩ := hhealthy.dryActivate n₅ _ _ hcandidate hprogram
      rw [h₅] at h₆
      refine ⟨_, command, n₆, hargs, hrun, ⟨by rw [h₆], Or.inl ⟨haction, by rw [h₆]⟩⟩,
        Or.inl ⟨haction, ?_⟩⟩
      rw [h₆]
      exact BEq.rfl
    · obtain ⟨command, n₆, hrun, hsucceeded, hreached, hsame⟩ :=
        hhealthy.test n₅ _ _ hcandidate hprogram
      rw [h₅] at hsame
      exact ⟨_, command, n₆, hargs, hrun, ⟨hsame, Or.inr ⟨haction, hreached⟩⟩,
        Or.inr ⟨haction, hsucceeded, hreached⟩⟩
  obtain ⟨n₇, hafter, h₇⟩ := hhealthy.currentSystemClosure n₆
  have hvalidAfter : validStoreClosure (view n₆).live = true := by
    rcases hactivated.2 with ⟨-, hlive⟩ | ⟨-, hlive⟩
    · rw [hlive]
      exact hbooted.live
    · exact validStoreClosure_congr hlive ▸ hwf.closure
  refine ⟨command, n₇, ?_, h₇ ▸ hactivated⟩
  rw [h₇, SpentAuthority.helper, handle_inr,
    run_handle_of_steps (steps_activation hvalid hready hargs hvalidAfter hkept)
      (.cons (gives_host rfl hcanonicalize) <| .cons (gives_host rfl hexists) <|
        .cons (gives_host rfl hlive) <| .cons (gives_host rfl hboot) <|
          .cons (gives_host rfl hrollback) <| .cons (gives_ledger hdirs hfree _) <|
            .cons (gives_host rfl hrun) <| .cons (gives_host rfl hafter) .nil)]
  rfl

/-- A request that is not valid changes nothing. -/
theorem executeOnFiles_of_invalid {e : PrivilegedActivationError}
    (hinvalid : boundary.runtime.validatePrepared p now = .error e) (w : Fs × N) :
    executeOnFiles host created permits ledger boundary p now w
      = (.failed (.preparedRejected e), w) := by
  unfold executeOnFiles SpentAuthority.execute RootOwnedNixOsActivationBoundary.execute
  rw [hinvalid]
  rfl

/-- With its permit there and its authorization unused, a request is executed if it is
valid, and both are spent. -/
theorem run_executeOnFiles (hhealthy : Healthy host view installed) (hbooted : Booted (view n))
    (hbaseline : installed (view n).live) (hcandidate : installed (.ofString p.plan.systemClosure))
    (hdirs : Directories permits ledger fs)
    (hfree : fs.names (ledger.receiptPath p.authorization) = none) {i : Nat}
    (hholds : permits.Holds fs p i)
    (hvalid : boundary.runtime.validatePrepared p now = .ok ()) :
    ∃ command n', executeOnFiles host created permits ledger boundary p now (fs, n)
      = (.returned (report p (view n).live (view n').live command false),
          (withFile (fs.remove (permits.permitPath p.authorization))
            (ledger.receiptPath p.authorization) (created 0o600)
            (receiptText p.authorization p.preparedAtUnixMs), n'))
      ∧ Activated p (view n) (view n') := by
  have hspent : Directories permits ledger (fs.remove (permits.permitPath p.authorization)) :=
    hdirs.of_names (hdirs.noDirectory p.authorization).1 rfl (fun _ => Fs.remove_names_ne)
      (hdirs.fresh.remove _)
  have hunused : (fs.remove (permits.permitPath p.authorization)).names
      (ledger.receiptPath p.authorization) = none := by
    rw [Fs.remove_names_ne (receiptPath_ne_permitPath permits ledger _ _), hfree]
  obtain ⟨command, n', hrun, hactivated⟩ :=
    run_helper hhealthy hbooted hbaseline hcandidate hspent hunused hvalid
  refine ⟨command, n', ?_, hactivated⟩
  unfold executeOnFiles
  rw [SpentAuthority.execute_of_valid hvalid,
    run_bind_returned (run_inl_mapErr (hholds.consumed created) _ n), run_mapErr, hrun]
  rfl

end Boundary

/-! ## The whole way -/

section Way

variable {created : Nat → Metadata} {permits : FileTrustedActivationPermitStore}
  {ledger : FilePrivilegedExecutionLedger} {fs fs' : Fs} {n : N}
  {issuer : RootOwnedActivationPermitIssuer} {boundary : RootOwnedNixOsActivationBoundary}
  {p : PreparedPrivilegedActivation}

/-- There is neither a permit of an authorization nor its receipt. -/
structure Unspent (permits : FileTrustedActivationPermitStore)
    (ledger : FilePrivilegedExecutionLedger) (fs : Fs) (authorization : SystemAuthorizationId) :
    Prop where
  permit : fs.names (permits.permitPath authorization) = none
  receipt : fs.names (ledger.receiptPath authorization) = none

/-- What was issued is there to be consumed. -/
theorem holds_issued (hdirs : Directories permits ledger fs)
    (hcreated : (created 0o600).SafeFile permits.expectedOwnerUid) :
    permits.Holds (withFile fs (permits.permitPath p.authorization) (created 0o600)
      (TrustedActivationPermit.fromPrepared p).canonicalText) p fs.next := by
  obtain ⟨metadata, hdir, hsafe⟩ := hdirs.permitRoot
  have hne := (hdirs.ne_roots (hdirs.noDirectory p.authorization).1).1
  refine ⟨⟨metadata, ?_, hsafe⟩, hne, withFile_names_self, ?_, ?_⟩
  · have hname : (withFile fs (permits.permitPath p.authorization) (created 0o600)
        (TrustedActivationPermit.fromPrepared p).canonicalText).names permits.root = none := by
      rw [withFile_names_ne hne.symm, hdirs.noFile.1]
    rw [Fs.stat, hname]
    exact hdir
  · rw [withFile_inodes_self]
    exact hcreated
  · rw [Fs.content, withFile_inodes_self]

theorem directories_issued (hdirs : Directories permits ledger fs)
    (authorization : SystemAuthorizationId) (metadata : Metadata) (text : String) :
    Directories permits ledger
      (withFile fs (permits.permitPath authorization) metadata text) :=
  hdirs.of_names (hdirs.noDirectory authorization).1 rfl (fun _ => withFile_names_ne)
    (withFile_fresh hdirs.fresh)

end Way

/-! The pilot's candidate is tested on its node. -/

/-- The pilot node, whose closures' programs do what they are for. -/
def pilotHost (node : Node) : (o : HelperSig.Op) → HelperSig.Ans o × Node
  | .canonicalizePath path => (.ok path, node)
  | .currentSystemClosure => (.ok node.live, node)
  | .bootDefaultClosure => (.ok node.bootDefault, node)
  | .executableExists _ => (.ok true, node)
  | .consumeOnce _ _ => (.ok (), node)
  | .run program argument =>
      (.ok ⟨.succeeded, some 0, "", "", 9⟩,
        if argument = "dry-activate" then node
        else if program == pilotObserved.candidateProgram then
          { node with live := pilotObserved.candidate }
        else { node with live := pilotObserved.before })

def pilotInstalled (closure : PathBuf) : Prop :=
  closure = pilotObserved.before ∨ closure = pilotObserved.candidate

theorem pilotHost_healthy : Healthy pilotHost id pilotInstalled where
  canonicalizePath n closure _ := ⟨closure, n, rfl, BEq.rfl, rfl⟩
  executableExists n _ _ _ _ := ⟨n, rfl, rfl⟩
  currentSystemClosure n := ⟨n, rfl, rfl⟩
  bootDefaultClosure n := ⟨n, rfl, rfl⟩
  dryActivate n _ _ _ _ := ⟨_, n, rfl, rfl⟩
  test n closure program hinstalled hprogram := by
    obtain ⟨_, -, hcomponents⟩ := hprogram
    refine ⟨_, _, rfl, rfl, ?_⟩
    rcases hinstalled with rfl | rfl
    · have hother : (program == pilotObserved.candidateProgram) = false := by
        show (program.components == _) = false
        rw [hcomponents]
        decide
      simp only [hother]
      exact ⟨BEq.rfl, rfl⟩
    · have hsame : (program == pilotObserved.candidateProgram) = true := by
        show (program.components == _) = true
        rw [hcomponents]
        decide
      simp only [hsame]
      exact ⟨BEq.rfl, rfl⟩

theorem pilotNode_booted : Booted Stacking.pilotNode := by
  refine ⟨?_, ?_, BEq.rfl⟩ <;> decide

end Availability

end Blob
