import Blob.RootBoundary

/-!
# Fields outside the permit

A permit covers fifteen fields of a request; its descriptions and its evidence
are not among them. Validation looks at the evidence, and nothing else does:
valid requests with equal permits make the boundary the same program
(`execute_eq`), so no host, runner, permit store or ledger can tell them apart.
-/

namespace Blob

namespace TrustedActivationPermit

/-- Requests with equal permits agree in the fields of the permit. -/
theorem fields_of_eq {p q : PreparedPrivilegedActivation}
    (h : fromPrepared p = fromPrepared q) :
    p.node = q.node ∧ p.authorization = q.authorization
      ∧ p.preparedAtUnixMs = q.preparedAtUnixMs ∧ p.plan.action = q.plan.action
      ∧ p.plan.systemClosure = q.plan.systemClosure ∧ p.plan.program = q.plan.program
      ∧ p.plan.args = q.plan.args := by
  simp only [fromPrepared, TrustedActivationPermit.mk.injEq] at h
  obtain ⟨hauthorization, hnode, -, -, -, -, haction, -, -, hclosure, hprogram, hargs, -,
    hprepared, -⟩ := h
  exact ⟨hnode, hauthorization, hprepared, haction, hclosure, hprogram, hargs⟩

end TrustedActivationPermit

/-! ## The stages -/

namespace PrivilegedNixOsActivationHelper

variable {p q : PreparedPrivilegedActivation}

theorem observe_eq (hclosure : p.plan.systemClosure = q.plan.systemClosure)
    (hprogram : p.plan.program = q.plan.program) : observe p = observe q := by
  unfold observe
  rw [hclosure, hprogram]

theorem settle_eq (hnode : p.node = q.node) (hauthorization : p.authorization = q.authorization)
    (haction : p.plan.action = q.plan.action) : settle p = settle q := by
  funext obs command
  simp only [settle, report, hnode, hauthorization, haction]

/-- Past validation, the helper sees of a request what its permit covers. -/
theorem execute_eq {self : PrivilegedNixOsActivationHelper} {now : Nat}
    (h : TrustedActivationPermit.fromPrepared p = .fromPrepared q)
    (hp : self.validatePrepared p now = .ok ()) (hq : self.validatePrepared q now = .ok ()) :
    self.execute p now = self.execute q now := by
  obtain ⟨hnode, hauthorization, hprepared, haction, hclosure, hprogram, hargs⟩ :=
    TrustedActivationPermit.fields_of_eq h
  unfold execute
  rw [hp, hq, observe_eq hclosure hprogram, settle_eq hnode hauthorization haction,
    hauthorization, hprepared, hargs]

end PrivilegedNixOsActivationHelper

/-- The store looks at nothing outside the permit. -/
def TrustedActivationPermitStore.ByPermit {S : Sig} (permits : TrustedActivationPermitStore S) :
    Prop :=
  ∀ p q, TrustedActivationPermit.fromPrepared p = .fromPrepared q →
    permits.consumeMatching p = permits.consumeMatching q

theorem FileTrustedActivationPermitStore.byPermit (permits : FileTrustedActivationPermitStore) :
    permits.toStore.ByPermit := by
  intro p q h
  show permits.consumeMatching p = permits.consumeMatching q
  unfold consumeMatching
  rw [h, (TrustedActivationPermit.fields_of_eq h).2.1]

theorem InMemoryTrustedActivationPermitStore.byPermit : toStore.ByPermit := by
  intro p q h
  simp only [toStore]
  rw [h, (TrustedActivationPermit.fields_of_eq h).2.1]

/-! ## The boundary -/

namespace RootOwnedNixOsActivationBoundary

theorem execute_eq {self : RootOwnedNixOsActivationBoundary} {S : Sig}
    {permits : TrustedActivationPermitStore S} (hpermits : permits.ByPermit)
    {p q : PreparedPrivilegedActivation} {now : Nat}
    (h : TrustedActivationPermit.fromPrepared p = .fromPrepared q)
    (hp : self.runtime.validatePrepared p now = .ok ())
    (hq : self.runtime.validatePrepared q now = .ok ()) :
    self.execute p now permits = self.execute q now permits := by
  unfold execute
  rw [hp, hq, hpermits p q h, PrivilegedNixOsActivationHelper.execute_eq h hp hq]

/-- Fields outside the permit cannot influence execution: with either permit store,
requests that have equal permits and are valid at the same time lead to the same
executions - result, operations and commands, world left behind - whatever
implements the operations and in whatever world. -/
theorem unpermitted_fields_inert {self : RootOwnedNixOsActivationBoundary}
    {p q : PreparedPrivilegedActivation} {now : Nat}
    (h : TrustedActivationPermit.fromPrepared p = .fromPrepared q)
    (hp : self.runtime.validatePrepared p now = .ok ())
    (hq : self.runtime.validatePrepared q now = .ok ()) :
    (∀ permits : FileTrustedActivationPermitStore,
      Prog.Indistinguishable (self.execute p now permits.toStore)
        (self.execute q now permits.toStore))
      ∧ Prog.Indistinguishable
        (self.execute p now InMemoryTrustedActivationPermitStore.toStore)
        (self.execute q now InMemoryTrustedActivationPermitStore.toStore) :=
  ⟨fun permits => .of_eq (execute_eq permits.byPermit h hp hq),
    .of_eq (execute_eq InMemoryTrustedActivationPermitStore.byPermit h hp hq)⟩

/-- The pilot request with other descriptions and one more line of evidence. -/
def annotatedPrepared : PreparedPrivilegedActivation :=
  let prepared := Pilot.prepared ⟨"auth:one"⟩
  { prepared with
    plan := { prepared.plan with expectedEffects := [], rollbackSemantics := "Reboot." }
    readinessEvidence := "console:tty1" :: prepared.readinessEvidence }

theorem annotated_inert :
    let self : RootOwnedNixOsActivationBoundary := ⟨{ localNode := ⟨"node:lab"⟩ }⟩
    let permits : FileTrustedActivationPermitStore := ⟨.ofString "/run/permits", 0⟩
    Prog.Indistinguishable (self.execute annotatedPrepared 2500 permits.toStore)
      (self.execute (Pilot.prepared ⟨"auth:one"⟩) 2500 permits.toStore) :=
  (unpermitted_fields_inert rfl rfl rfl).1 _

end RootOwnedNixOsActivationBoundary

end Blob
