import Blob.PermitRuns

/-!
# What the administrator is shown

A check shows polkit the five details of a permit, the action and the bus
name. The permit has ten further fields. `Shown.same_run` is that those of
them which decide what runs - effect, authority, program, arguments - are
functions of the shown ones: the issuer validates a request before it
writes a permit, and a valid request leaves them no choice.
-/

namespace Blob

open PkcheckAuthorizationChecker PrivilegedNixOsActivationHelper

/-! ## What a plan shows -/

theorem PolkitActivationAction.actionId_injective :
    Function.Injective PolkitActivationAction.actionId := by
  intro a b h
  cases a <;> cases b <;> first | rfl | exact absurd h (by decide)

theorem PolkitActivationAction.fromPrepared_injective {p q : PreparedPrivilegedActivation}
    {action : PolkitActivationAction} (hp : fromPrepared p = .ok action)
    (hq : fromPrepared q = .ok action) : p.plan.action = q.plan.action := by
  unfold fromPrepared at hp hq
  cases haction : p.plan.action <;> cases haction' : q.plan.action <;>
    rw [haction] at hp <;> rw [haction'] at hq <;> cases hp <;> cases hq

/-- Requests whose plans have the same arguments show the same. -/
theorem PolkitCheckPlan.shown_eq {program program' : PathBuf}
    {request request' : PolkitAuthorizationRequest} {plan plan' : PolkitCheckPlan}
    (h : PolkitCheckPlan.new program request = .ok plan)
    (h' : PolkitCheckPlan.new program' request' = .ok plan') (hargs : plan.args = plan'.args) :
    request.systemBusName = request'.systemBusName ∧ request.action = request'.action
      ∧ request.approvedPermit.node = request'.approvedPermit.node
      ∧ request.approvedPermit.candidate = request'.approvedPermit.candidate
      ∧ request.approvedPermit.systemSpec = request'.approvedPermit.systemSpec
      ∧ request.approvedPermit.systemClosure = request'.approvedPermit.systemClosure := by
  obtain ⟨-, h⟩ := Checks.reject_bind_ok h
  obtain ⟨-, h'⟩ := Checks.reject_bind_ok h'
  obtain rfl := Except.ok.inj h
  obtain rfl := Except.ok.inj h'
  simp only [List.cons.injEq, true_and, and_true] at hargs
  obtain ⟨haction, hname, hnode, hcandidate, hspec, -, hclosure⟩ := hargs
  refine ⟨hname, PolkitActivationAction.actionId_injective haction, ?_, ?_, ?_, hclosure⟩
  · exact (NodeId.mk.injEq ..).mpr hnode
  · exact (SystemCandidateId.mk.injEq ..).mpr hcandidate
  · exact (SystemSpecId.mk.injEq ..).mpr hspec

/-! ## What a well-formed request runs -/

/-- Two requests agree in everything that decides what runs, and where. -/
structure SameRun (p q : PreparedPrivilegedActivation) : Prop where
  node : p.node = q.node
  candidate : p.plan.candidate = q.plan.candidate
  systemSpec : p.plan.systemSpec = q.plan.systemSpec
  action : p.plan.action = q.plan.action
  effectClass : p.plan.effectClass = q.plan.effectClass
  authority : p.plan.authority = q.plan.authority
  systemClosure : p.plan.systemClosure = q.plan.systemClosure
  program : p.plan.program = q.plan.program
  args : p.plan.args = q.plan.args

/-- `q` with the operation ids, the authorization id, the timestamps and the evidence
of `p`. -/
def withRecords (p q : PreparedPrivilegedActivation) : PreparedPrivilegedActivation where
  node := q.node
  readinessObservedAtUnixMs := p.readinessObservedAtUnixMs
  authorization := p.authorization
  authorizationExpiresAtUnixMs := p.authorizationExpiresAtUnixMs
  preparedAtUnixMs := p.preparedAtUnixMs
  plan := { q.plan with
    operationId := p.plan.operationId
    materializationOperation := p.plan.materializationOperation }
  readinessEvidence := p.readinessEvidence
  authorizationEvidence := p.authorizationEvidence

/-- And with the two descriptions `p` has for a reader. -/
def withDescriptions (p q : PreparedPrivilegedActivation) : PreparedPrivilegedActivation :=
  { q with plan := { q.plan with
    expectedEffects := p.plan.expectedEffects
    rollbackSemantics := p.plan.rollbackSemantics } }

/-- What `SameRun` leaves open. -/
theorem SameRun.eq_with {p q : PreparedPrivilegedActivation} (h : SameRun p q) :
    p = withDescriptions p (withRecords p q) := by
  obtain ⟨node, observed, authorization, expires, preparedAt, plan, readiness, evidence⟩ := p
  obtain ⟨operation, candidate, spec, materialization, closure, action, effect, authority,
    program, args, effects, rollback⟩ := plan
  obtain ⟨rfl, rfl, rfl, rfl, rfl, rfl, rfl, rfl, rfl⟩ := h
  rfl

/-- The action and the closure of a valid request determine its effect, authority,
program and arguments. -/
theorem sameRun_of_wellFormed {p q : PreparedPrivilegedActivation} (hp : WellFormed p)
    (hq : WellFormed q) (hnode : p.node = q.node)
    (hcandidate : p.plan.candidate = q.plan.candidate)
    (hspec : p.plan.systemSpec = q.plan.systemSpec) (haction : p.plan.action = q.plan.action)
    (hclosure : p.plan.systemClosure = q.plan.systemClosure) : SameRun p q := by
  obtain ⟨argument, heffect, hargs⟩ := hp.supported
  obtain ⟨argument', heffect', hargs'⟩ := hq.supported
  rw [haction, heffect'] at heffect
  obtain ⟨heffects, rfl⟩ := Prod.mk.inj (Except.ok.inj heffect)
  have hprogram : p.plan.program = q.plan.program := by
    rw [hp.program, hq.program, hclosure]
  exact ⟨hnode, hcandidate, hspec, haction, heffects.symm,
    hp.administrator.trans hq.administrator.symm, hclosure, hprogram, hargs.trans hargs'.symm⟩

/-! ## What was issued under a plan -/

/-- A check that ran this plan was granted, and with its grant the issuer issued a
permit for `p`. -/
def Shown (plan : PolkitCheckPlan) (p : PreparedPrivilegedActivation)
    (issued : IssuedActivationPermit) : Prop :=
  ∃ (checker : PkcheckAuthorizationChecker) (name : String)
    (checked : PreparedPrivilegedActivation) (request : PolkitAuthorizationRequest)
    (checkedAt : Nat) (outcome : PkcheckCommandOutcome) (grant : OsAuthorizationGrant)
    (issuer : RootOwnedActivationPermitIssuer) (issuedAt : Nat) (files : List (Event FsSig)),
    PolkitAuthorizationRequest.forPrepared name checked = .ok request
      ∧ PolkitCheckPlan.new checker.program request = .ok plan
      ∧ (checker.checkUserInitiated request checkedAt).Steps [pkcheckRun plan outcome]
        (.pure grant)
      ∧ (issuer.issue p grant issuedAt).Steps files (.pure issued)

/-- What issuing under a plan comes to: a valid request whose permit is the one the
plan was made of. -/
theorem Shown.request {plan : PolkitCheckPlan} {p : PreparedPrivilegedActivation}
    {issued : IssuedActivationPermit} (h : Shown plan p issued) :
    ∃ program request, PolkitCheckPlan.new program request = .ok plan
      ∧ request.approvedPermit = .fromPrepared p
      ∧ PolkitActivationAction.fromPrepared p = .ok request.action
      ∧ issued.authorizedSystemBusName = request.systemBusName ∧ WellFormed p := by
  obtain ⟨checker, name, checked, request, checkedAt, outcome, grant, issuer, issuedAt, files,
    hrequest, hplan, hcheck, hissue⟩ := h
  obtain ⟨_, _, -, -, rfl⟩ := steps_checkUserInitiated hcheck
  obtain ⟨happroved, rfl, -⟩ := RootOwnedActivationPermitIssuer.issued_of_steps hissue
  -- the text in the grant is the checked permit's, and the issued one's
  have htext := happroved.exact_binding
  simp only [grantFor] at htext
  have hsame : request.approvedPermit = .fromPrepared p :=
    TrustedActivationPermit.eq_of_canonicalText_eq htext
  exact ⟨checker.program, request, hplan, hsame, happroved.action, rfl,
    (validatePrepared_ok.mp happroved.validated).1⟩

/-- What the administrator is shown determines what runs: requests that were issued
under plans with the same arguments - under equal plans in particular - agree in
node, candidate, system specification, action, effect class, authority, closure,
program, arguments and authorized bus name. Only operation ids, authorization
id, timestamps, evidence and descriptions may differ. -/
theorem Shown.same_run {plan plan' : PolkitCheckPlan} {p q : PreparedPrivilegedActivation}
    {issued issued' : IssuedActivationPermit} (hp : Shown plan p issued)
    (hq : Shown plan' q issued') (hargs : plan.args = plan'.args) :
    SameRun p q ∧ issued.authorizedSystemBusName = issued'.authorizedSystemBusName
      ∧ p = withDescriptions p (withRecords p q) := by
  obtain ⟨program, request, hplan, hpermit, haction, hname, hvalid⟩ := hp.request
  obtain ⟨program', request', hplan', hpermit', haction', hname', hvalid'⟩ := hq.request
  obtain ⟨hbus, hactions, hnode, hcandidate, hspec, hclosure⟩ :=
    PolkitCheckPlan.shown_eq hplan hplan' hargs
  rw [hpermit, hpermit'] at hnode hcandidate hspec hclosure
  rw [hactions] at haction
  have hsame : SameRun p q := sameRun_of_wellFormed hvalid hvalid' hnode hcandidate hspec
    (PolkitActivationAction.fromPrepared_injective haction haction') hclosure
  exact ⟨hsame, by rw [hname, hname', hbus], hsame.eq_with⟩

/-! The pilot request, and the same one with other descriptions. -/

namespace PermitRuns

def retoldPrepared : PreparedPrivilegedActivation :=
  { pilotPrepared with plan := { pilotPrepared.plan with
    expectedEffects := ["switch to the candidate closure until the next reboot"]
    rollbackSemantics := "Reboot." } }

theorem retold_approved : pilotIssuer.Approved retoldPrepared pilotGrant 2300 where
  validated := rfl
  prepared_le := by decide
  checked_le := by decide
  age := by decide
  action := rfl
  exact_binding := rfl

theorem shown_pilot {prepared : PreparedPrivilegedActivation}
    (happroved : pilotIssuer.Approved prepared pilotGrant 2300) :
    Shown pilotCheckPlan prepared (pilotIssuer.issuedFor prepared pilotGrant 2300) :=
  ⟨pilotChecker, ":1.42", pilotPrepared, pilotRequest, 2200, ⟨some 0, "", ""⟩, pilotGrant,
    pilotIssuer, 2300, _, pilotRequest_forPrepared, rfl, steps_pilotCheck,
    RootOwnedActivationPermitIssuer.issue_of_approved happroved rootMetadata_safe
      permitMetadata_safe (.file 0) .dir⟩

theorem retold_same_run : SameRun retoldPrepared pilotPrepared :=
  (Shown.same_run (shown_pilot retold_approved) (shown_pilot pilotGrant_approved) rfl).1

/-- Issued under one plan, and not the same in everything but ids, times and
evidence. -/
theorem descriptions_may_differ :
    Shown pilotCheckPlan retoldPrepared (pilotIssuer.issuedFor retoldPrepared pilotGrant 2300)
      ∧ Shown pilotCheckPlan pilotPrepared (pilotIssuer.issuedFor pilotPrepared pilotGrant 2300)
      ∧ retoldPrepared ≠ withRecords retoldPrepared pilotPrepared := by
  refine ⟨shown_pilot retold_approved, shown_pilot pilotGrant_approved, ?_⟩
  intro h
  have heffects := congrArg (fun p => p.plan.expectedEffects.length) h
  exact absurd heffects (by decide)

end PermitRuns

end Blob
