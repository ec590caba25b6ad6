import Mathlib.Data.Finset.Insert
import Blob.ActivationGate

/-!
# The gate on one ledger

Sequences of `prepare` calls that share one in-memory ledger. A call consumes
its authorization in its last step and fails without a trace before that
(`prepare_cases`), so after any sequence the consumed ids are exactly those of
the calls that returned `Ok`, each id of one call (`gate_ledger_exact`).
-/

namespace Blob

/-- The consumed ids, behind a mutex. -/
structure InMemoryAuthorizationLedger where
  consumed : Finset SystemAuthorizationId := ∅
  poisoned : Bool := false

namespace InMemoryAuthorizationLedger

def wasConsumed (self : InMemoryAuthorizationLedger) (id : SystemAuthorizationId) : Bool :=
  !self.poisoned && decide (id ∈ self.consumed)

def consumeOnce (self : InMemoryAuthorizationLedger) (id : SystemAuthorizationId) :
    Except ActivationGateError Unit × InMemoryAuthorizationLedger :=
  if self.poisoned then (.error .authorizationLedgerPoisoned, self)
  else if id ∈ self.consumed then (.error (.authorizationAlreadyConsumed id), self)
  else (.ok (), { self with consumed := insert id self.consumed })

/-- The ledger as the world a gate runs in. -/
def serve (self : InMemoryAuthorizationLedger) :
    (o : GateSig.Op) → GateSig.Ans o × InMemoryAuthorizationLedger
  | .consumeOnce id => self.consumeOnce id

end InMemoryAuthorizationLedger

namespace PrivilegedActivationGate

open Prog

/-- The arguments of a `prepare` call, less the ledger. -/
structure Request where
  operation : SystemCandidateOperation
  materialized : MaterializedNixOsCandidate
  profile : PhysicalTestNodeProfile
  readiness : PhysicalTestNodeReadiness
  authorization : SystemOperationAuthorization
  nowUnixMs : Nat

abbrev Outcome : Type := Status ActivationGateError PreparedPrivilegedActivation

/-- One call, and the ledger after it. -/
def Request.prepare (request : Request) (ledger : InMemoryAuthorizationLedger) :
    Outcome × InMemoryAuthorizationLedger :=
  (PrivilegedActivationGate.prepare request.operation request.materialized request.profile
    request.readiness request.authorization request.nowUnixMs).run
      InMemoryAuthorizationLedger.serve ledger

/-- A sequence of calls with their outcomes, and the ledger after it. -/
def prepareAll (ledger : InMemoryAuthorizationLedger) :
    List Request → List (Request × Outcome) × InMemoryAuthorizationLedger
  | [] => ([], ledger)
  | request :: rest =>
      let (outcome, ledger') := request.prepare ledger
      let (outcomes, final) := prepareAll ledger' rest
      ((request, outcome) :: outcomes, final)

/-- The authorization ids of the calls that returned `Ok`, in order. -/
def okIds (outcomes : List (Request × Outcome)) : List SystemAuthorizationId :=
  outcomes.filterMap fun
    | (request, .returned _) => some request.authorization.id
    | _ => none

theorem okIds_cons_failed (request : Request) (e : ActivationGateError)
    (log : List (Request × Outcome)) : okIds ((request, .failed e) :: log) = okIds log := rfl

theorem okIds_cons_returned (request : Request) (p : PreparedPrivilegedActivation)
    (log : List (Request × Outcome)) :
    okIds ((request, .returned p) :: log) = request.authorization.id :: okIds log := rfl

/-- The request passes every check that comes before the ledger. -/
structure Request.Passes (request : Request) : Prop where
  ready : request.profile.validateReadiness request.operation.action request.readiness = .ok ()
  authorized : request.authorization.validateFor request.operation request.readiness
    request.nowUnixMs = .ok ()
  planned : ∃ plan,
    ImmutableNixOsActivationPlanner.plan request.operation request.materialized = .ok plan

theorem run_consumeOnce {id : SystemAuthorizationId} {ledger : InMemoryAuthorizationLedger}
    (hsound : ledger.poisoned = false) (hnew : id ∉ ledger.consumed) :
    (consumeOnce id).run InMemoryAuthorizationLedger.serve ledger
      = (.returned (), { ledger with consumed := insert id ledger.consumed }) := by
  show (Prog.ofExcept (ledger.consumeOnce id).1).run _ (ledger.consumeOnce id).2 = _
  rw [InMemoryAuthorizationLedger.consumeOnce, hsound, if_neg Bool.false_ne_true, if_neg hnew]
  rfl

theorem run_consumeOnce_again {id : SystemAuthorizationId}
    {ledger : InMemoryAuthorizationLedger} (hsound : ledger.poisoned = false)
    (hconsumed : id ∈ ledger.consumed) :
    (consumeOnce id).run InMemoryAuthorizationLedger.serve ledger
      = (.failed (.authorizationAlreadyConsumed id), ledger) := by
  show (Prog.ofExcept (ledger.consumeOnce id).1).run _ (ledger.consumeOnce id).2 = _
  rw [InMemoryAuthorizationLedger.consumeOnce, hsound, if_neg Bool.false_ne_true, if_pos hconsumed]
  rfl

/-- What a call on a sound ledger does: it fails and leaves the ledger, on a
request that does not pass or whose id is consumed, or it returns and consumes
the id. -/
theorem prepare_cases (request : Request) {ledger : InMemoryAuthorizationLedger}
    (hsound : ledger.poisoned = false) :
    (∃ e, request.prepare ledger = (.failed e, ledger)
        ∧ (¬ request.Passes ∨ request.authorization.id ∈ ledger.consumed))
      ∨ ∃ p, request.prepare ledger = (.returned p,
          { ledger with consumed := insert request.authorization.id ledger.consumed })
        ∧ request.Passes ∧ request.authorization.id ∉ ledger.consumed
        ∧ p.authorization = request.authorization.id := by
  unfold Request.prepare PrivilegedActivationGate.prepare
  cases hready : request.profile.validateReadiness request.operation.action request.readiness with
  | error violations =>
      refine Or.inl ⟨_, rfl, Or.inl ?_⟩
      intro hpasses
      cases hready.symm.trans hpasses.ready
  | ok _ =>
  cases hauth : request.authorization.validateFor request.operation request.readiness
      request.nowUnixMs with
  | error violations =>
      refine Or.inl ⟨_, rfl, Or.inl ?_⟩
      intro hpasses
      cases hauth.symm.trans hpasses.authorized
  | ok _ =>
  cases hplan : ImmutableNixOsActivationPlanner.plan request.operation request.materialized with
  | error e =>
      refine Or.inl ⟨_, rfl, Or.inl ?_⟩
      intro hpasses
      obtain ⟨plan, hplanned⟩ := hpasses.planned
      cases hplan.symm.trans hplanned
  | ok plan =>
      have hpasses : request.Passes := ⟨hready, hauth, plan, hplan⟩
      simp only [ofExcept_ok, mapErr_pure, bind_pure]
      by_cases hconsumed : request.authorization.id ∈ ledger.consumed
      · exact Or.inl ⟨_, run_bind_failed (run_consumeOnce_again hsound hconsumed),
          Or.inr hconsumed⟩
      · exact Or.inr ⟨_, run_bind_returned (run_consumeOnce hsound hconsumed), hpasses,
          hconsumed, rfl⟩

theorem prepare_new {request : Request} {ledger : InMemoryAuthorizationLedger}
    (hsound : ledger.poisoned = false) (hpasses : request.Passes)
    (hnew : request.authorization.id ∉ ledger.consumed) :
    ∃ p, request.prepare ledger = (.returned p,
      { ledger with consumed := insert request.authorization.id ledger.consumed }) := by
  rcases prepare_cases request hsound with ⟨e, -, hrejected | hspent⟩ | ⟨p, hreturned, -⟩
  · exact absurd hpasses hrejected
  · exact absurd hspent hnew
  · exact ⟨p, hreturned⟩

theorem prepare_refused {request : Request} {ledger : InMemoryAuthorizationLedger}
    (hsound : ledger.poisoned = false)
    (hwhy : ¬ request.Passes ∨ request.authorization.id ∈ ledger.consumed) :
    ∃ e, request.prepare ledger = (.failed e, ledger) := by
  rcases prepare_cases request hsound with ⟨e, hfailed, -⟩ | ⟨p, -, hpasses, hnew, -⟩
  · exact ⟨e, hfailed⟩
  · rcases hwhy with hrejected | hspent
    · exact absurd hpasses hrejected
    · exact absurd hspent hnew

/-- A sequence of calls on a sound ledger adds the ids of those that returned,
none of them twice and none that was there. -/
theorem prepareAll_exact (requests : List Request) {ledger : InMemoryAuthorizationLedger}
    (hsound : ledger.poisoned = false) :
    (prepareAll ledger requests).2.poisoned = false
      ∧ (∀ id, id ∈ (prepareAll ledger requests).2.consumed
          ↔ id ∈ ledger.consumed ∨ id ∈ okIds (prepareAll ledger requests).1)
      ∧ (okIds (prepareAll ledger requests).1).Nodup
      ∧ ∀ id ∈ okIds (prepareAll ledger requests).1, id ∉ ledger.consumed := by
  induction requests generalizing ledger with
  | nil => exact ⟨hsound, fun id => by simp [prepareAll, okIds], .nil, nofun⟩
  | cons request rest ih =>
      rcases prepare_cases request hsound with ⟨e, hfailed, -⟩ | ⟨p, hreturned, -, hnew, -⟩
      · simp only [prepareAll, hfailed, okIds_cons_failed]
        exact ih hsound
      · simp only [prepareAll, hreturned, okIds_cons_returned]
        have hsound' : InMemoryAuthorizationLedger.poisoned
            { ledger with consumed := insert request.authorization.id ledger.consumed }
              = false := hsound
        obtain ⟨hpoisoned, hconsumed, hnodup, hfresh⟩ := ih hsound'
        refine ⟨hpoisoned, fun id => ?_, List.nodup_cons.mpr ⟨fun hmem => ?_, hnodup⟩, ?_⟩
        · rw [hconsumed, Finset.mem_insert, List.mem_cons]
          tauto
        · exact hfresh _ hmem (Finset.mem_insert_self ..)
        · rintro id hmem
          rcases List.mem_cons.mp hmem with rfl | hmem
          · exact hnew
          · exact fun hold => hfresh id hmem (Finset.mem_insert_of_mem hold)

/-- After every sequence of calls on a ledger that started empty: exactly the ids
of the calls that returned `Ok` are consumed, each of one call; and whatever
call comes next leaves the ledger when it is rejected, and returns `Ok` when it
passes the checks and its id is not consumed. -/
theorem gate_ledger_exact (requests : List Request) :
    let log := (prepareAll {} requests).1
    let ledger := (prepareAll {} requests).2
    (∀ id, ledger.wasConsumed id = true ↔ id ∈ okIds log)
      ∧ (∀ id, id ∈ ledger.consumed ↔ id ∈ okIds log)
      ∧ (okIds log).Nodup
      ∧ ∀ next : Request,
        (∀ e, (next.prepare ledger).1 = .failed e → (next.prepare ledger).2 = ledger)
        ∧ (next.Passes → next.authorization.id ∉ okIds log →
          ∃ p, (next.prepare ledger).1 = .returned p) := by
  have hempty : ({} : InMemoryAuthorizationLedger).poisoned = false := rfl
  obtain ⟨hsound, hconsumed, hnodup, -⟩ := prepareAll_exact requests hempty
  have hexact : ∀ id, id ∈ (prepareAll {} requests).2.consumed
      ↔ id ∈ okIds (prepareAll {} requests).1 := fun id => by simpa using hconsumed id
  refine ⟨fun id => ?_, hexact, hnodup, fun next => ?_⟩
  · rw [← hexact id, InMemoryAuthorizationLedger.wasConsumed, hsound, Bool.not_false,
      Bool.true_and, decide_eq_true_iff]
  · constructor
    · intro e hfailed
      rcases prepare_cases next hsound with ⟨_, hrefused, -⟩ | ⟨p, hreturned, -⟩
      · rw [hrefused]
      · rw [hreturned] at hfailed
        cases hfailed
    · intro hpasses hfresh
      obtain ⟨p, hreturned⟩ :=
        prepare_new hsound hpasses fun hspent => hfresh ((hexact _).mp hspent)
      exact ⟨p, by rw [hreturned]⟩

/-- The pilot's request. -/
def pilotRequest (id : SystemAuthorizationId) : Request where
  operation := Pilot.operation
  materialized := Pilot.materialized
  profile := Pilot.profile
  readiness := Pilot.readiness
  authorization := Pilot.authorization id
  nowUnixMs := 2000

theorem pilotRequest_passes (id : SystemAuthorizationId) : (pilotRequest id).Passes where
  ready := rfl
  authorized := SystemOperationAuthorization.validateFor_ok.mpr (Pilot.authorization_covers id)
  planned := ⟨Pilot.plan, rfl⟩

/-- The request under another id, when its authorization has expired. -/
def lateRequest : Request := { pilotRequest ⟨"auth:two"⟩ with nowUnixMs := 61100 }

theorem lateRequest_not_passes : ¬ lateRequest.Passes := by
  intro hpasses
  have hexpired : (61100 : Nat) < 61100 :=
    (SystemOperationAuthorization.validateFor_ok.mp hpasses.authorized).not_expired
  exact Nat.lt_irrefl _ hexpired

/-- One call that returns, the same call again, and one that comes too late. -/
def pilotRequests : List Request :=
  [pilotRequest ⟨"auth:one"⟩, pilotRequest ⟨"auth:one"⟩, lateRequest]

theorem okIds_pilotRequests : okIds (prepareAll {} pilotRequests).1 = [⟨"auth:one"⟩] := by
  obtain ⟨p, hreturned⟩ := @prepare_new (pilotRequest ⟨"auth:one"⟩) {} rfl
    (pilotRequest_passes _) (Finset.notMem_empty _)
  have hspent : (⟨"auth:one"⟩ : SystemAuthorizationId)
      ∈ insert ⟨"auth:one"⟩ (∅ : Finset SystemAuthorizationId) := Finset.mem_insert_self ..
  obtain ⟨e, hreplayed⟩ := @prepare_refused (pilotRequest ⟨"auth:one"⟩)
    ⟨insert ⟨"auth:one"⟩ ∅, false⟩ rfl (Or.inr hspent)
  obtain ⟨e', hlate⟩ := @prepare_refused lateRequest ⟨insert ⟨"auth:one"⟩ ∅, false⟩ rfl
    (Or.inl lateRequest_not_passes)
  simp only [pilotRequests, prepareAll, hreturned]
  rw [show (pilotRequest ⟨"auth:one"⟩).authorization.id = ⟨"auth:one"⟩ from rfl]
  simp only [hreplayed, hlate]
  rfl

/-- Neither the replay nor the late call has consumed anything: the second id is
still good for one call. -/
theorem pilot_prepared_once :
    (prepareAll {} pilotRequests).2.wasConsumed ⟨"auth:one"⟩ = true
      ∧ (prepareAll {} pilotRequests).2.wasConsumed ⟨"auth:two"⟩ = false
      ∧ ∃ p, ((pilotRequest ⟨"auth:two"⟩).prepare (prepareAll {} pilotRequests).2).1
        = .returned p := by
  obtain ⟨hwas, -, -, hnext⟩ := gate_ledger_exact pilotRequests
  rw [okIds_pilotRequests] at hwas hnext
  refine ⟨(hwas _).mpr (List.mem_singleton_self _), Bool.eq_false_iff.mpr fun htwo => ?_, ?_⟩
  · exact absurd ((hwas _).mp htwo) (by decide)
  · exact (hnext _).2 (pilotRequest_passes _) (by decide)

end PrivilegedActivationGate

end Blob
