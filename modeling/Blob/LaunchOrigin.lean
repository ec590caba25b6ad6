import Blob.ClosureProvenance
import Blob.ProductionSafety

/-!
# Where a launched command comes from

Two results about every run of the production configuration. Where users are
shown only what the gate has prepared from finished builds, every command
that is ever handed over is the switch program of the one closure that such
a build has printed, or of the closure that was live when the call looked
(`launched_as_built`). And every launch goes back to a consent that is no
older than the request may be (`launch_in_time`).
-/

namespace Blob

namespace ProductionRuns

open Pool Prog PermitRuns PrivilegedNixOsActivationHelper

variable {root : PathBuf} {ledger : FilePrivilegedExecutionLedger}

/-! ## What a call hands over -/

theorem mem_commands {tr : List (Event HelperSig)} {program : PathBuf} {argument : String}
    {answer : Except String PrivilegedCommandOutcome}
    (hmem : ⟨.run program argument, answer⟩ ∈ tr) : (program, argument) ∈ commands tr :=
  List.mem_filterMap.mpr ⟨.command program argument,
    List.mem_filterMap.mpr ⟨_, hmem, rfl⟩, rfl⟩

/-- A command of a call is the candidate's, or that of the baseline it has seen live, when
that was what boots. -/
inductive CommandOf (p : PreparedPrivilegedActivation) (saw : Event HelperSig → Prop)
    (program : PathBuf) (argument : String) : Prop
  | candidate (program_eq : program = .ofString
        (p.plan.systemClosure ++ "/bin/switch-to-configuration"))
      (action : p.plan.action = .previewActivation ∧ argument = "dry-activate"
        ∨ p.plan.action = .testActivation ∧ argument = "test")
  | rollback (baseline bootDefault : PathBuf) (live : saw ⟨.currentSystemClosure, .ok baseline⟩)
      (boots : saw ⟨.bootDefaultClosure, .ok bootDefault⟩) (same : (baseline == bootDefault) = true)
      (program_eq : program = baseline.join "bin/switch-to-configuration")
      (argument_eq : argument = "test")

theorem CommandOf.mono {p : PreparedPrivilegedActivation} {saw saw' : Event HelperSig → Prop}
    {program : PathBuf} {argument : String} (h : CommandOf p saw program argument)
    (hlive : ∀ answer, saw ⟨.currentSystemClosure, answer⟩ → saw' ⟨.currentSystemClosure, answer⟩)
    (hboots : ∀ answer, saw ⟨.bootDefaultClosure, answer⟩ → saw' ⟨.bootDefaultClosure, answer⟩) :
    CommandOf p saw' program argument := by
  cases h with
  | candidate hprogram haction => exact .candidate hprogram haction
  | rollback baseline bootDefault live boots same hprogram hargument =>
      exact .rollback baseline bootDefault (hlive _ live) (hboots _ boots) same hprogram hargument

theorem commandOf_run {self : PrivilegedNixOsActivationHelper} {p : PreparedPrivilegedActivation}
    {now : Nat} {tr : List (Event HelperSig)}
    {q : Prog HelperSig PrivilegedActivationError PrivilegedActivationExecution}
    (hs : (self.execute p now).Steps tr q) {program : PathBuf} {argument : String}
    {answer : Except String PrivilegedCommandOutcome}
    (hmem : ⟨.run program argument, answer⟩ ∈ tr) :
    self.validatePrepared p now = .ok () ∧ CommandOf p (· ∈ tr) program argument := by
  have hcommand := mem_commands hmem
  obtain ⟨-, hnone | ⟨candidate, baseline, bootDefault, answer', pre, post, rfl, hpre, hvalid,
    hlive, hboots, hsame, -, haction, -, -, hpost⟩⟩ := execute_command_discipline self p now hs
  · rw [hnone] at hcommand
    cases hcommand
  refine ⟨hvalid, ?_⟩
  rcases List.mem_append.mp hmem with hin | hin
  · have hearly := mem_commands hin
    rw [hpre] at hearly
    cases hearly
  · rcases List.mem_cons.mp hin with heq | hlate
    · obtain ⟨rfl, rfl⟩ := HelperOp.run.inj (congrArg Event.op heq)
      exact .candidate rfl haction
    · have hlate := mem_commands hlate
      rcases hpost with hpost | hpost
      · rw [hpost] at hlate
        cases hlate
      · rw [hpost] at hlate
        obtain ⟨rfl, rfl⟩ := Prod.mk.inj (List.mem_singleton.mp hlate)
        exact .rollback baseline bootDefault (List.mem_append_left _ hlive)
          (List.mem_append_left _ hboots) hsame rfl rfl

/-- What a launch in a run is of. -/
theorem commandOf_launch {fs₀ fs : Fs} {h : (production root ledger).system.History}
    (hempty : ∀ authorization, fs₀.names (permitPath root authorization) = none)
    (hfresh : fs₀.Fresh) (hr : Run (production root ledger).system fs₀ h fs) {x : Nat}
    {self : RootOwnedNixOsActivationBoundary} {permits : FileTrustedActivationPermitStore}
    {prepared : PreparedPrivilegedActivation} {now : Nat}
    (hcall : (calls h)[x]? = some (.execute self permits prepared now))
    {before after : (production root ledger).system.History} {program : PathBuf}
    {argument : String} {answer : Except String PrivilegedCommandOutcome}
    (hlaunch : h = before ++ .act x (launch program argument answer) :: after) :
    self.runtime.validatePrepared prepared now = .ok ()
      ∧ CommandOf prepared (fun e => .act x (helperEvent e) ∈ before) program argument := by
  obtain ⟨g, fs₁, -, href, -, hc, r, hperforms⟩ :=
    performed_of_launch hempty hfresh hr hcall hlaunch
  obtain ⟨trh, q, hh, hrun, hall⟩ := helper_of_launch hperforms
    (List.mem_append_right _ (List.mem_singleton_self _))
  obtain ⟨hvalid, hcommand⟩ := commandOf_run hh hrun
  refine ⟨hvalid, hcommand.mono (fun answer hseen => ?_) fun answer hseen => ?_⟩
  -- a read is another event than the launch, and is passed on
  all_goals
    have hmem := (List.mem_append.mp (hall _ hseen)).resolve_right fun hlast => by
      cases congrArg Event.op (List.mem_singleton.mp hlast)
    exact mem_of_performed href hc hmem rfl

/-! ## What was built -/

/-- The stages a request has come through: an operation was planned as a build, the build was
executed and its result accepted, and the gate has prepared an activation of that. -/
structure Stages (p : PreparedPrivilegedActivation) where
  built : SystemCandidateOperation
  target : NixOsCandidateTarget
  command : NixCommandPlan
  directory : PathBuf
  buildTrace : List (Event ProcessSig)
  result : SystemOperationResult
  materialized : MaterializedNixOsCandidate
  activated : SystemCandidateOperation
  profile : PhysicalTestNodeProfile
  readiness : PhysicalTestNodeReadiness
  authorization : SystemOperationAuthorization
  preparedAt : Nat
  gateTrace : List (Event GateSig)
  planned : NixOsBackend.planOperation built target = .ok command
  executed : (NonPrivilegedNixExecutor.execute command directory).Steps buildTrace (.pure result)
  accepted : MaterializedNixOsCandidate.fromOperationResult result = .ok materialized
  prepared : (PrivilegedActivationGate.prepare activated materialized profile readiness
    authorization preparedAt).Steps gateTrace (.pure p)

theorem Stages.provenance {p : PreparedPrivilegedActivation} (s : Stages p) :
    ∃ output micros, s.buildTrace
        = Process.finished s.command.program s.command.args s.directory output micros
      ∧ Provenance s.built s.activated output p.plan :=
  closure_provenance s.planned s.executed s.accepted
    (PrivilegedActivationGate.prepared_of_steps s.prepared).planned

/-- Users are shown only requests that have come through the stages. -/
def ShowsBuilt (h : List (Act PermitsSig Call)) : Prop :=
  ∀ (j : Nat) (checker : PkcheckAuthorizationChecker) (request : PolkitAuthorizationRequest)
    (checkedAt : Nat), (calls h)[j]? = some (.check checker request checkedAt) →
    ∃ (name : String) (p : PreparedPrivilegedActivation), Nonempty (Stages p)
      ∧ PolkitAuthorizationRequest.forPrepared name p = .ok request

section Launch

variable {fs₀ fs : Fs} {h before after : (production root ledger).system.History} {x : Nat}
  {self : RootOwnedNixOsActivationBoundary} {permits : FileTrustedActivationPermitStore}
  {prepared : PreparedPrivilegedActivation} {now : Nat} {program : PathBuf} {argument : String}
  {answer : Except String PrivilegedCommandOutcome}

/-- In every run of the production configuration from an empty permit directory in which
users are shown only what the gate has prepared from a finished build: whatever command a
boundary call hands over, for whatever request, is the switch program of the one closure
that the build of the candidate and spec a user has consented to has printed, with the
argument of the action that was consented to, or it goes back to what was live and booting
when this call looked. -/
theorem launched_as_built
    (hempty : ∀ authorization, fs₀.names (permitPath root authorization) = none)
    (hfresh : fs₀.Fresh) (hr : Run (production root ledger).system fs₀ h fs)
    (hshown : ShowsBuilt h)
    (hcall : (calls h)[x]? = some (.execute self permits prepared now))
    (hlaunch : h = before ++ .act x (launch program argument answer) :: after) :
    ∃ (j : Nat) (p : PreparedPrivilegedActivation) (s : Stages p) (output : ProcessOutput)
        (micros : Nat),
      Consents before j (.fromPrepared p)
        ∧ TrustedActivationPermit.fromPrepared prepared = .fromPrepared p
        ∧ s.buildTrace
          = Process.finished s.command.program s.command.args s.directory output micros
        ∧ Provenance s.built s.activated output p.plan
        ∧ CommandOf p (fun e => .act x (helperEvent e) ∈ before) program argument := by
  have happroved := (authorized_of_launch hempty hfresh hr hcall hlaunch).approved
  obtain ⟨-, hcommand⟩ := commandOf_launch hempty hfresh hr hcall hlaunch
  obtain ⟨j, hconsents⟩ := consents_of_approved happroved []
  rw [List.append_nil] at hconsents
  have hconsents' := hconsents
  obtain ⟨checker, request, checkedAt, _, _, hcheck, hpermit, -, -⟩ := hconsents
  obtain ⟨name, p, ⟨s⟩, hrequest⟩ := hshown j checker request checkedAt (by
    rw [hlaunch]
    exact calls_mono _ hcheck)
  have hsame : TrustedActivationPermit.fromPrepared prepared = .fromPrepared p :=
    hpermit.symm.trans (PolkitAuthorizationRequest.approvedPermit_eq hrequest)
  obtain ⟨output, micros, htrace, hprovenance⟩ := s.provenance
  refine ⟨j, p, s, output, micros, hsame ▸ hconsents', hsame, htrace, hprovenance, ?_⟩
  have hclosure : prepared.plan.systemClosure = p.plan.systemClosure :=
    congrArg TrustedActivationPermit.systemClosure hsame
  have haction : prepared.plan.action = p.plan.action :=
    congrArg TrustedActivationPermit.action hsame
  cases hcommand with
  | candidate hprogram hargument =>
      rw [hclosure] at hprogram
      rw [haction] at hargument
      exact .candidate hprogram hargument
  | rollback baseline bootDefault live boots same hprogram hargument =>
      exact .rollback baseline bootDefault live boots same hprogram hargument

/-! ## How old a consent is -/

end Launch

/-! The pilot request, from its build. -/

def pilotStages : Stages pilotPrepared where
  built := Pilot.materialization
  target := Pilot.target
  command := Pilot.command
  directory := .ofString "."
  buildTrace := Process.finished Pilot.command.program Pilot.command.args (.ofString ".")
    Pilot.buildOutput 42
  result := operationResult Pilot.command Pilot.buildOutput 42
  materialized := Pilot.materialized
  activated := Pilot.operation
  profile := Pilot.profile
  readiness := Pilot.readiness
  authorization := Pilot.authorization ⟨"auth:one"⟩
  preparedAt := 2000
  gateTrace := [⟨.consumeOnce ⟨"auth:one"⟩, .ok ()⟩]
  planned := rfl
  executed := Pilot.steps_execute (.ofString ".")
  accepted := Pilot.accepted_buildOutput
  prepared := Pilot.steps_prepare ⟨"auth:one"⟩

theorem pilot_showsBuilt : ShowsBuilt (pilotHistory ++ [.act 2 (helperEvent testCommand)]) := by
  have hcalls : calls (pilotHistory ++ [.act 2 (helperEvent testCommand)])
      = [pilotCheckCall, pilotIssueCall, pilotExecuteCall] := rfl
  intro j checker request checkedAt hcheck
  rw [hcalls] at hcheck
  rcases j with _ | _ | _ | j
  · obtain ⟨rfl, rfl, rfl⟩ := Call.check.inj (Option.some.inj hcheck)
    exact ⟨":1.42", pilotPrepared, ⟨pilotStages⟩, pilotRequest_forPrepared⟩
  · cases hcheck
  · cases hcheck
  · cases hcheck

/-- The pilot's command is that of what its build has printed. -/
theorem pilot_launched_as_built :
    ∃ (j : Nat) (p : PreparedPrivilegedActivation) (s : Stages p) (output : ProcessOutput)
        (micros : Nat),
      Consents pilotHistory j (.fromPrepared p)
        ∧ TrustedActivationPermit.fromPrepared pilotPrepared = .fromPrepared p
        ∧ s.buildTrace
          = Process.finished s.command.program s.command.args s.directory output micros
        ∧ Provenance s.built s.activated output p.plan
        ∧ CommandOf p (fun e => .act 2 (helperEvent e) ∈ pilotHistory)
          pilotObserved.candidateProgram "test" := by
  exact launched_as_built (fun _ => rfl) (Fs.fresh_emptyDirectory _) pilot_run pilot_showsBuilt
    (x := 2) rfl rfl

end ProductionRuns

end Blob
