import Blob.GateLedger

/-!
# What a receipt is good for

Calls of the gate that share nothing but a receipt, each on a fresh ledger.
The receipt names every field of the operation but its effect class, and the
planner recomputes that one from the action, so a receipt covers one operation
(`operation_of_prepared`), forged fields or not.

It does not cover one readiness snapshot or one closure: of the snapshot it
holds the node and the time, of the materialized candidate the candidate and
the specification (`rebound_receipt`).
-/

namespace Blob

namespace PrivilegedActivationGate

open Prog

/-- The call returns `p` on a ledger of its own. -/
def Request.Accepted (request : Request) (p : PreparedPrivilegedActivation) : Prop :=
  (request.prepare {}).1 = .returned p

theorem Request.accepted_iff {request : Request} :
    (∃ p, request.Accepted p) ↔ request.Passes := by
  have hempty : ({} : InMemoryAuthorizationLedger).poisoned = false := rfl
  unfold Request.Accepted
  rcases prepare_cases request hempty with ⟨e, hfailed, hwhy⟩ | ⟨p, hreturned, hpasses, -, -⟩
  · rw [hfailed]
    rcases hwhy with hrejected | hspent
    · exact ⟨nofun, fun hpasses => absurd hpasses hrejected⟩
    · exact absurd hspent (Finset.notMem_empty _)
  · rw [hreturned]
    exact ⟨fun _ => hpasses, fun _ => ⟨p, rfl⟩⟩

theorem Request.Accepted.prepared {request : Request} {p : PreparedPrivilegedActivation}
    (h : request.Accepted p) :
    Prepared request.operation request.materialized request.profile request.readiness
      request.authorization request.nowUnixMs p := by
  have hserved : ∀ ledger o, Serves InMemoryAuthorizationLedger.serve ledger
      ⟨o, (ledger.serve o).1⟩ (ledger.serve o).2 := fun _ _ => rfl
  obtain ⟨tr, q, hs, hstatus, -⟩ := run_exec hserved (PrivilegedActivationGate.prepare
    request.operation request.materialized request.profile request.readiness
    request.authorization request.nowUnixMs) {}
  exact prepare_all.of_steps hs p (hstatus.trans h)

/-! ## One operation -/

section Scope

variable {operation : SystemCandidateOperation}
  {materialized : MaterializedNixOsCandidate} {profile : PhysicalTestNodeProfile}
  {readiness : PhysicalTestNodeReadiness}
  {authorization : SystemOperationAuthorization} {now : Nat}
  {p : PreparedPrivilegedActivation}

/-- The operation of an accepted call is the one the receipt names, with the
effect and authority of its action. -/
theorem operation_of_prepared
    (h : Prepared operation materialized profile readiness authorization now p) :
    operation = .new authorization.operation authorization.candidate
      authorization.systemSpec authorization.action := by
  have hcovers := h.covers
  have hpolicy := (ImmutableNixOsActivationPlanner.consistent_of_plan h.planned).policy
  obtain ⟨id, candidate, systemSpec, action, effectClass, authority⟩ := operation
  simp only [SystemCandidateOperation.new, hcovers.operation_eq, hcovers.candidate_eq,
    hcovers.systemSpec_eq, hcovers.action_eq, ← hpolicy]

end Scope

/-- What two prepared activations agree on when they are for the same operation
on the same node as it was observed at one time. -/
structure SameScope (p q : PreparedPrivilegedActivation) : Prop where
  node : p.node = q.node
  observed : p.readinessObservedAtUnixMs = q.readinessObservedAtUnixMs
  operationId : p.plan.operationId = q.plan.operationId
  candidate : p.plan.candidate = q.plan.candidate
  systemSpec : p.plan.systemSpec = q.plan.systemSpec
  action : p.plan.action = q.plan.action
  effectClass : p.plan.effectClass = q.plan.effectClass
  authority : p.plan.authority = q.plan.authority
  args : p.plan.args = q.plan.args

/-- Two plans for one operation have one argument vector. -/
theorem args_eq_of_action_eq {operation operation' : SystemCandidateOperation}
    {materialized materialized' : MaterializedNixOsCandidate}
    {plan plan' : ImmutableNixOsActivationPlan}
    (h : ImmutableNixOsActivationPlanner.Derived operation materialized plan)
    (h' : ImmutableNixOsActivationPlanner.Derived operation' materialized' plan')
    (haction : plan.action = plan'.action) : plan.args = plan'.args := by
  rcases h.argument with ⟨hact, hargs⟩ | ⟨hact, hargs⟩ <;>
    rcases h'.argument with ⟨hact', hargs'⟩ | ⟨hact', hargs'⟩
  · rw [hargs, hargs']
  · cases hact.symm.trans (haction.trans hact')
  · cases hact.symm.trans (haction.trans hact')
  · rw [hargs, hargs']

theorem sameScope_of_accepted {r s : Request} (hreceipt : r.authorization = s.authorization)
    {p q : PreparedPrivilegedActivation} (hr : r.Accepted p) (hs : s.Accepted q) :
    SameScope p q := by
  have hp := hr.prepared
  have hq := hs.prepared
  have hoperation : r.operation = s.operation := by
    rw [operation_of_prepared hp, operation_of_prepared hq, hreceipt]
  have hd := ImmutableNixOsActivationPlanner.plan_derived hp.planned
  have hd' := ImmutableNixOsActivationPlanner.plan_derived hq.planned
  have haction : p.plan.action = q.plan.action := by
    rw [hd.action, hd'.action, hoperation]
  have hpolicy : (p.plan.effectClass, p.plan.authority)
      = (q.plan.effectClass, q.plan.authority) := by
    rw [hd.policy, hd'.policy, haction]
  refine ⟨?_, ?_, ?_, ?_, ?_, haction, (Prod.mk.inj hpolicy).1, (Prod.mk.inj hpolicy).2,
    args_eq_of_action_eq hd hd' haction⟩
  · rw [hp.node, hq.node, ← hp.covers.node_eq, ← hq.covers.node_eq, hreceipt]
  · rw [hp.observed, hq.observed, ← hp.covers.snapshot_eq, ← hq.covers.snapshot_eq, hreceipt]
  · rw [hd.operationId, hd'.operationId, hoperation]
  · rw [hd.candidate, hd'.candidate, hoperation]
  · rw [hd.systemSpec, hd'.systemSpec, hoperation]

/-- The request at another time. -/
def Request.at (request : Request) (nowUnixMs : Nat) : Request := { request with nowUnixMs }

/-- An accepted request is accepted exactly inside the window of its receipt. -/
theorem Request.Passes.at_iff {request : Request} {now : Nat}
    (h : (request.at now).Passes) (t : Nat) :
    (request.at t).Passes ↔ request.authorization.grantedAtUnixMs ≤ t
      ∧ t < request.authorization.expiresAtUnixMs := by
  have hcovers := SystemOperationAuthorization.validateFor_ok.mp h.authorized
  constructor
  · intro ht
    have hcovers' := SystemOperationAuthorization.validateFor_ok.mp ht.authorized
    exact ⟨hcovers'.started, hcovers'.not_expired⟩
  · rintro ⟨hstarted, hbefore⟩
    refine ⟨h.ready, SystemOperationAuthorization.validateFor_ok.mpr ?_, h.planned⟩
    exact { hcovers with started := hstarted, not_expired := hbefore }

/-- A receipt is not transferable between operations: whatever two calls it is
accepted for, the prepared activations have one scope, whose action is one that
activates; and a call that is accepted at some time is accepted exactly from
the grant of the receipt until before its expiry. -/
theorem receipt_not_transferable (authorization : SystemOperationAuthorization) :
    (∀ (r s : Request) (p q : PreparedPrivilegedActivation),
      r.authorization = authorization → s.authorization = authorization →
      r.Accepted p → s.Accepted q →
      SameScope p q
        ∧ (p.plan.action = .previewActivation ∨ p.plan.action = .testActivation))
      ∧ ∀ r : Request, r.authorization = authorization →
        (∃ now p, (r.at now).Accepted p) →
        ∀ t, (∃ p, (r.at t).Accepted p)
          ↔ authorization.grantedAtUnixMs ≤ t ∧ t < authorization.expiresAtUnixMs := by
  refine ⟨?_, ?_⟩
  · intro r s p q hr hs hp hq
    refine ⟨sameScope_of_accepted (hr.trans hs.symm) hp hq, ?_⟩
    rcases (ImmutableNixOsActivationPlanner.plan_derived hp.prepared.planned).argument with
      ⟨haction, -⟩ | ⟨haction, -⟩
    · exact Or.inl haction
    · exact Or.inr haction
  · rintro r rfl ⟨now, haccepted⟩ t
    rw [Request.accepted_iff]
    exact (Request.accepted_iff.mp haccepted).at_iff t

/-! ## Any snapshot, any closure -/

/-- Of the readiness snapshot a receipt covers the node and the time. -/
theorem covers_of_snapshot {authorization : SystemOperationAuthorization}
    {operation : SystemCandidateOperation} {readiness readiness' : PhysicalTestNodeReadiness}
    {now : Nat} (h : authorization.Covers operation readiness now)
    (hnode : readiness'.node = readiness.node)
    (hobserved : readiness'.observedAtUnixMs = readiness.observedAtUnixMs) :
    authorization.Covers operation readiness' now :=
  { h with
    node_eq := hnode ▸ h.node_eq
    snapshot_eq := hobserved ▸ h.snapshot_eq
    granted_after := hobserved ▸ h.granted_after }

/-- What an accepted call is bound to by its receipt: the node and the time of
the snapshot, the candidate and the specification. The closure and the
materialization are those of the candidate the call was given, whatever they
are. -/
structure BoundTo (authorization : SystemOperationAuthorization) (request : Request)
    (p : PreparedPrivilegedActivation) : Prop where
  node : request.readiness.node = authorization.node
  observed : request.readiness.observedAtUnixMs = authorization.readinessObservedAtUnixMs
  candidate : p.plan.candidate = authorization.candidate
  systemSpec : p.plan.systemSpec = authorization.systemSpec
  materializedCandidate : request.materialized.candidate = authorization.candidate
  materializedSystemSpec : request.materialized.systemSpec = authorization.systemSpec
  closure : p.plan.systemClosure = request.materialized.systemClosure
  materialization :
    p.plan.materializationOperation = request.materialized.materializationOperation

theorem Request.Accepted.boundTo {r : Request} {p : PreparedPrivilegedActivation}
    (h : r.Accepted p) : BoundTo r.authorization r p := by
  have hp := h.prepared
  have hd := ImmutableNixOsActivationPlanner.plan_derived hp.planned
  have hc := ImmutableNixOsActivationPlanner.consistent_of_plan hp.planned
  exact {
    node := hp.covers.node_eq.symm
    observed := hp.covers.snapshot_eq.symm
    candidate := hd.candidate.trans hp.covers.candidate_eq.symm
    systemSpec := hd.systemSpec.trans hp.covers.systemSpec_eq.symm
    materializedCandidate := hc.candidate.symm.trans hp.covers.candidate_eq.symm
    materializedSystemSpec := hc.systemSpec.symm.trans hp.covers.systemSpec_eq.symm
    closure := hd.closure
    materialization := hd.materialization }

/-- Under one receipt, the closure and the materialization make the plan. -/
theorem plan_eq_iff {r s : Request} (hreceipt : r.authorization = s.authorization)
    {p q : PreparedPrivilegedActivation} (hr : r.Accepted p) (hs : s.Accepted q) :
    p.plan = q.plan ↔ p.plan.systemClosure = q.plan.systemClosure
      ∧ p.plan.materializationOperation = q.plan.materializationOperation := by
  constructor
  · intro h
    rw [h]
    exact ⟨rfl, rfl⟩
  · rintro ⟨hclosure, hmaterialization⟩
    have hoperation : r.operation = s.operation := by
      rw [operation_of_prepared hr.prepared, operation_of_prepared hs.prepared, hreceipt]
    have hb := hr.boundTo
    have hb' := hs.boundTo
    have hmaterialized : r.materialized = s.materialized := by
      have hcandidate := hb.materializedCandidate
      have hsystemSpec := hb.materializedSystemSpec
      rw [hreceipt, ← hb'.materializedCandidate] at hcandidate
      rw [hreceipt, ← hb'.materializedSystemSpec] at hsystemSpec
      rw [hb.closure, hb'.closure] at hclosure
      rw [hb.materialization, hb'.materialization] at hmaterialization
      generalize r.materialized = m at *
      generalize s.materialized = m' at *
      obtain ⟨_, _, _, _⟩ := m
      obtain ⟨_, _, _, _⟩ := m'
      simp_all
    have hplanned := hr.prepared.planned
    rw [hoperation, hmaterialized, hs.prepared.planned] at hplanned
    exact (Except.ok.inj hplanned).symm

/-- A receipt is bound to the reviewed candidate: two calls it is accepted for
have snapshots of one node and one time, and plans for one candidate and one
specification; their plans are one when they name one closure and one
materialization. -/
theorem receipt_binds_candidate (authorization : SystemOperationAuthorization)
    (r s : Request) (p q : PreparedPrivilegedActivation)
    (hr : r.authorization = authorization) (hs : s.authorization = authorization)
    (hp : r.Accepted p) (hq : s.Accepted q) :
    BoundTo authorization r p ∧ BoundTo authorization s q
      ∧ r.readiness.node = s.readiness.node
      ∧ r.readiness.observedAtUnixMs = s.readiness.observedAtUnixMs
      ∧ p.plan.candidate = q.plan.candidate ∧ p.plan.systemSpec = q.plan.systemSpec
      ∧ (p.plan = q.plan ↔ p.plan.systemClosure = q.plan.systemClosure
        ∧ p.plan.materializationOperation = q.plan.materializationOperation) := by
  have hb : BoundTo authorization r p := hr ▸ hp.boundTo
  have hb' : BoundTo authorization s q := hs ▸ hq.boundTo
  refine ⟨hb, hb', hb.node.trans hb'.node.symm, hb.observed.trans hb'.observed.symm,
    hb.candidate.trans hb'.candidate.symm, hb.systemSpec.trans hb'.systemSpec.symm, ?_⟩
  exact plan_eq_iff (hr.trans hs.symm) hp hq

/-! The pilot's request, and a second one for the receipt of the first: the disk
has filled up since, and the candidate was materialized again. -/

def pilotRebound (id : SystemAuthorizationId) : Request :=
  { pilotRequest id with
    materialized := { Pilot.materialized with
      materializationOperation := ⟨"op:rematerialize"⟩
      systemClosure := "/nix/store/def456-nixos-system-blob-pilot" }
    readiness := { Pilot.readiness with freeSpaceBytes := 9 * 1024 * 1024 * 1024 } }

theorem pilotRebound_passes (id : SystemAuthorizationId) : (pilotRebound id).Passes where
  ready := rfl
  authorized := SystemOperationAuthorization.validateFor_ok.mpr
    (covers_of_snapshot (Pilot.authorization_covers id) rfl rfl)
  planned := ⟨_, rfl⟩

theorem pilot_accepted (id : SystemAuthorizationId) : ∃ p, (pilotRequest id).Accepted p :=
  Request.accepted_iff.mpr (pilotRequest_passes id)

theorem pilotRebound_accepted (id : SystemAuthorizationId) :
    ∃ p, (pilotRebound id).Accepted p :=
  Request.accepted_iff.mpr (pilotRebound_passes id)

theorem pilot_scope :
    (∃ p q, SameScope p q
        ∧ (p.plan.action = .previewActivation ∨ p.plan.action = .testActivation))
      ∧ ∀ t, (∃ p, ((pilotRequest ⟨"auth:one"⟩).at t).Accepted p) ↔ 1100 ≤ t ∧ t < 61100 := by
  obtain ⟨p, hp⟩ := pilot_accepted ⟨"auth:one"⟩
  obtain ⟨q, hq⟩ := pilotRebound_accepted ⟨"auth:one"⟩
  obtain ⟨hscope, hwindow⟩ := receipt_not_transferable (Pilot.authorization ⟨"auth:one"⟩)
  exact ⟨⟨p, q, hscope (pilotRequest ⟨"auth:one"⟩) (pilotRebound ⟨"auth:one"⟩) p q rfl rfl hp hq⟩,
    hwindow (pilotRequest ⟨"auth:one"⟩) rfl ⟨2000, p, hp⟩⟩

theorem pilot_bound :
    ∃ p q, BoundTo (Pilot.authorization ⟨"auth:one"⟩) (pilotRequest ⟨"auth:one"⟩) p
      ∧ BoundTo (Pilot.authorization ⟨"auth:one"⟩) (pilotRebound ⟨"auth:one"⟩) q := by
  obtain ⟨p, hp⟩ := pilot_accepted ⟨"auth:one"⟩
  obtain ⟨q, hq⟩ := pilotRebound_accepted ⟨"auth:one"⟩
  obtain ⟨hb, hb', -⟩ := receipt_binds_candidate (Pilot.authorization ⟨"auth:one"⟩)
    (pilotRequest ⟨"auth:one"⟩) (pilotRebound ⟨"auth:one"⟩) p q rfl rfl hp hq
  exact ⟨p, q, hb, hb'⟩

/-- One receipt, accepted for two calls with different snapshots, whose plans
name different closures and different materializations. -/
theorem rebound_receipt :
    ∃ (authorization : SystemOperationAuthorization) (r s : Request)
      (p q : PreparedPrivilegedActivation),
      r.authorization = authorization ∧ s.authorization = authorization
        ∧ r.Accepted p ∧ s.Accepted q
        ∧ r.readiness ≠ s.readiness
        ∧ p.plan.systemClosure ≠ q.plan.systemClosure
        ∧ p.plan.materializationOperation ≠ q.plan.materializationOperation := by
  obtain ⟨p, hp⟩ := pilot_accepted ⟨"auth:one"⟩
  obtain ⟨q, hq⟩ := pilotRebound_accepted ⟨"auth:one"⟩
  refine ⟨Pilot.authorization ⟨"auth:one"⟩, pilotRequest ⟨"auth:one"⟩,
    pilotRebound ⟨"auth:one"⟩, p, q, rfl, rfl, hp, hq, by decide, ?_, ?_⟩
  · rw [hp.boundTo.closure, hq.boundTo.closure]
    decide
  · rw [hp.boundTo.materialization, hq.boundTo.materialization]
    decide

end PrivilegedActivationGate

end Blob
