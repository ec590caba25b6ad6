import Blob.PrivilegedHelper

/-!
# The gate and the helper agree

The gate composes a prepared activation, and the helper re-derives from
it, in another crate, the closure shape, program, argument, policy and
evidence the gate put in. Here the two derivations meet: everything the
gate returns is well formed in the helper's sense, so the helper's
answer depends on the node and on time only.
-/

namespace Blob

namespace PrivilegedNixOsActivationHelper

open PrivilegedActivationGate ImmutableNixOsActivationPlanner

/-- The two closure checks agree: a store entry's name is never empty. -/
theorem validStoreClosure_eq (path : PathBuf) :
    validStoreClosure path = isStoreEntry path.components := by
  unfold validStoreClosure
  split
  · rename_i nix store closure hcomps
    have hne : closure ≠ [] :=
      PathBuf.normal_ne_nil (p := path) (by rw [hcomps]; simp)
    simp [hcomps, isStoreEntry, hne]
  · rename_i hother
    unfold isStoreEntry
    split
    · rename_i nix store closure hcomps
      exact absurd hcomps (hother nix store closure)
    · rfl

variable {operation : SystemCandidateOperation}
  {materialized : MaterializedNixOsCandidate} {profile : PhysicalTestNodeProfile}
  {readiness : PhysicalTestNodeReadiness}
  {authorization : SystemOperationAuthorization} {t : Nat}
  {p : PreparedPrivilegedActivation}

/-- Every output of the gate is well formed for the helper. -/
theorem wellFormed_of_prepared
    (h : Prepared operation materialized profile readiness authorization t p) :
    WellFormed p where
  observed_le := by
    rw [h.observed, h.preparedAt]
    exact Nat.le_trans h.covers.granted_after h.covers.started
  expires_gt := by
    rw [h.preparedAt, h.expires]
    exact h.covers.not_expired
  supported := by
    have hd := plan_derived h.planned
    have hpolicy := hd.policy
    rcases hd.argument with ⟨hact, hargs⟩ | ⟨hact, hargs⟩
    · refine ⟨_, ?_, hargs⟩
      rw [hact] at hpolicy ⊢
      rw [(Prod.mk.inj hpolicy).1]
      rfl
    · refine ⟨_, ?_, hargs⟩
      rw [hact] at hpolicy ⊢
      rw [(Prod.mk.inj hpolicy).1]
      rfl
  administrator := by
    have hd := plan_derived h.planned
    have hpolicy := hd.policy
    rcases hd.argument with ⟨hact, -⟩ | ⟨hact, -⟩ <;>
      rw [hact] at hpolicy <;> exact (Prod.mk.inj hpolicy).2
  closure := by
    rw [validStoreClosure_eq]
    exact (plan_derived h.planned).storeEntry
  program := (plan_derived h.planned).program
  authorizationEvidence := by
    rw [h.id, h.authorizationEvidence]
    simp only [SystemOperationAuthorization.evidenceLines, List.mem_cons, true_or]
  expiryEvidence := by
    rw [h.expires, h.authorizationEvidence]
    simp only [SystemOperationAuthorization.evidenceLines, List.mem_cons, true_or,
      or_true]
  nodeEvidence := by
    rw [h.node, h.readinessEvidence]
    simp only [PhysicalTestNodeReadiness.evidenceLines, List.mem_cons, true_or]
  snapshotEvidence := by
    rw [h.observed, h.readinessEvidence]
    simp only [PhysicalTestNodeReadiness.evidenceLines, List.mem_cons, true_or,
      or_true]

/-- What the helper can still object to in a well-formed request. -/
theorem error_of_wellFormed {self : PrivilegedNixOsActivationHelper} {now : Nat}
    {e : PrivilegedActivationError} (hwf : WellFormed p)
    (he : self.validatePrepared p now = .error e) :
    (e = .nodeMismatch self.localNode p.node ∧ p.node ≠ self.localNode)
      ∨ (e = .timestampOrderInvalid ∧ now < p.preparedAtUnixMs)
      ∨ (e = .preparedActivationStale
        ∧ self.policy.maxPreparedAgeMs < now - p.preparedAtUnixMs)
      ∨ (e = .readinessStale
        ∧ self.policy.maxReadinessAgeMs < now - p.readinessObservedAtUnixMs)
      ∨ (e = .authorizationExpired ∧ p.authorizationExpiresAtUnixMs ≤ now) := by
  have hobs := hwf.observed_le
  have hexp := hwf.expires_gt
  rcases Checks.reject_bind_error he with ⟨hnode, rfl⟩ | ⟨hnode, he⟩
  · exact Or.inl ⟨rfl, hnode⟩
  rcases Checks.reject_bind_error he with ⟨htimes, rfl⟩ | ⟨htimes, he⟩
  · exact Or.inr (Or.inl ⟨rfl, by omega⟩)
  rcases Checks.reject_bind_error he with ⟨hage, rfl⟩ | ⟨hage, he⟩
  · exact Or.inr (Or.inr (Or.inl ⟨rfl, hage⟩))
  rcases Checks.reject_bind_error he with ⟨hready, rfl⟩ | ⟨hready, he⟩
  · exact Or.inr (Or.inr (Or.inr (Or.inl ⟨rfl, hready⟩)))
  rcases Checks.reject_bind_error he with ⟨hexpired, rfl⟩ | ⟨hexpired, he⟩
  · exact Or.inr (Or.inr (Or.inr (Or.inr ⟨rfl, hexpired⟩)))
  -- past the time checks every remaining test is one the request passes
  have hok : self.validatePrepared p now = .ok () :=
    validatePrepared_ok.mpr ⟨hwf,
      ⟨by simpa using hnode, by omega, by omega, by omega, by omega⟩⟩
  have hok := (Checks.reject_bind_ok hok).2
  have hok := (Checks.reject_bind_ok hok).2
  have hok := (Checks.reject_bind_ok hok).2
  have hok := (Checks.reject_bind_ok hok).2
  have hok := (Checks.reject_bind_ok hok).2
  rw [hok] at he
  cases he

/-- For every output `p` of the gate, the helper accepts `p` exactly while
node, preparation age, readiness age and expiry allow it, and a rejection
is for one of these: never for authority, effect class, closure, program,
arguments, evidence or the order of `p`'s own timestamps. -/
theorem gate_output_accepted_iff
    {tr : List (Event GateSig)}
    (h : (prepare operation materialized profile readiness authorization t).Steps tr
      (.pure p))
    (helper : PrivilegedNixOsActivationHelper) (t' : Nat) :
    (helper.validatePrepared p t' = .ok ()
      ↔ helper.localNode = readiness.node ∧ t ≤ t'
        ∧ t' - t ≤ helper.policy.maxPreparedAgeMs
        ∧ t' - readiness.observedAtUnixMs ≤ helper.policy.maxReadinessAgeMs
        ∧ t' < authorization.expiresAtUnixMs)
      ∧ ∀ e, helper.validatePrepared p t' = .error e →
        (e = .nodeMismatch helper.localNode readiness.node
            ∧ readiness.node ≠ helper.localNode)
          ∨ (e = .timestampOrderInvalid ∧ t' < t)
          ∨ (e = .preparedActivationStale ∧ helper.policy.maxPreparedAgeMs < t' - t)
          ∨ (e = .readinessStale
            ∧ helper.policy.maxReadinessAgeMs < t' - readiness.observedAtUnixMs)
          ∨ (e = .authorizationExpired ∧ authorization.expiresAtUnixMs ≤ t') := by
  have hp := prepared_of_steps h
  have hwf := wellFormed_of_prepared hp
  constructor
  · rw [validatePrepared_ok]
    constructor
    · rintro ⟨-, hfresh⟩
      have hprep := hfresh.prepared_le
      have hage := hfresh.prepared_age
      have hready := hfresh.readiness_age
      have hexp := hfresh.not_expired
      rw [hp.preparedAt] at hprep hage
      rw [hp.observed] at hready
      rw [hp.expires] at hexp
      exact ⟨hfresh.node.symm.trans hp.node, hprep, hage, hready, hexp⟩
    · rintro ⟨hnode, hprep, hage, hready, hexp⟩
      refine ⟨hwf, hp.node.trans hnode.symm, ?_, ?_, ?_, ?_⟩
      · rw [hp.preparedAt]; exact hprep
      · rw [hp.preparedAt]; exact hage
      · rw [hp.observed]; exact hready
      · rw [hp.expires]; exact hexp
  · intro e he
    have hcases := error_of_wellFormed hwf he
    rwa [hp.node, hp.preparedAt, hp.observed, hp.expires] at hcases

/-- The pilot request, prepared at 2000, is accepted ten seconds later and
stale a minute later. -/
theorem pilot_output_accepted :
    let helper : PrivilegedNixOsActivationHelper := { localNode := ⟨"node:lab"⟩ }
    helper.validatePrepared (Pilot.prepared ⟨"auth:one"⟩) 12000 = .ok ()
      ∧ helper.validatePrepared (Pilot.prepared ⟨"auth:one"⟩) 62000 ≠ .ok () := by
  refine ⟨?_, ?_⟩
  · exact (gate_output_accepted_iff (Pilot.steps_prepare ⟨"auth:one"⟩) _ 12000).1.mpr
      (by decide)
  · intro h
    have hcond := (gate_output_accepted_iff (Pilot.steps_prepare ⟨"auth:one"⟩) _
      62000).1.mp h
    exact absurd hcond (by decide)

end PrivilegedNixOsActivationHelper

end Blob
