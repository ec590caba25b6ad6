import Blob.Prog

/-!
# Substituting an implementation

A program does not see how its operations are answered. An implementation
that answers each operation as another world does, and leaves worlds that
still do (`Substitutes`), can stand in for that world under every program:
the run ends the same and the worlds stay related (`Substitutes.run`).

Worlds side by side, each answering the operations of its own signature, are
`serveBoth`.
-/

namespace Blob

namespace Prog

variable {S T : Sig} {ε ε' α : Type} {V W : Type}

theorem run_mapErr (f : ε → ε') (p : Prog S ε α) (serve : W → (o : S.Op) → S.Ans o × W) (w : W) :
    (p.mapErr f).run serve w = ((p.run serve w).1.mapErr f, (p.run serve w).2) := by
  induction p generalizing w with
  | pure a => rfl
  | throw e => rfl
  | panic msg => rfl
  | call o k ih => exact ih _ _

theorem run_attempt_returned {p : Prog S ε α} {serve : W → (o : S.Op) → S.Ans o × W} {w w' : W}
    {a : α} (h : p.run serve w = (.returned a, w')) :
    (p.attempt : Prog S ε' _).run serve w = (.returned (.ok a), w') := by
  induction p generalizing w with
  | pure b =>
      obtain ⟨hb, rfl⟩ := Prod.mk.inj h
      obtain rfl := Status.returned.inj hb
      rfl
  | throw e => cases (Prod.mk.inj h).1
  | panic msg => cases (Prod.mk.inj h).1
  | call o k ih => exact ih _ h

theorem run_attempt_failed {p : Prog S ε α} {serve : W → (o : S.Op) → S.Ans o × W} {w w' : W}
    {e : ε} (h : p.run serve w = (.failed e, w')) :
    (p.attempt : Prog S ε' _).run serve w = (.returned (.error e), w') := by
  induction p generalizing w with
  | pure b => cases (Prod.mk.inj h).1
  | throw e' =>
      obtain ⟨he, rfl⟩ := Prod.mk.inj h
      obtain rfl := Status.failed.inj he
      rfl
  | panic msg => cases (Prod.mk.inj h).1
  | call o k ih => exact ih _ h

/-! ## Two worlds side by side -/

def serveBoth (serve : V → (o : S.Op) → S.Ans o × V) (serve' : W → (o : T.Op) → T.Ans o × W) :
    V × W → (o : (S.sum T).Op) → (S.sum T).Ans o × (V × W)
  | (v, w), .inl o => ((serve v o).1, ((serve v o).2, w))
  | (v, w), .inr o => ((serve' w o).1, (v, (serve' w o).2))

section Both

variable {serve : V → (o : S.Op) → S.Ans o × V} {serve' : W → (o : T.Op) → T.Ans o × W}

theorem run_inl (p : Prog S ε α) (v : V) (w : W) :
    (p.inl : Prog (S.sum T) ε α).run (serveBoth serve serve') (v, w)
      = ((p.run serve v).1, ((p.run serve v).2, w)) := by
  induction p generalizing v with
  | pure a => rfl
  | throw e => rfl
  | panic msg => rfl
  | call o k ih => exact ih _ _

/-- What the one world did, seen from both. -/
theorem run_inl_mapErr {p : Prog S ε α} {v v' : V} {st : Status ε α}
    (h : p.run serve v = (st, v')) (f : ε → ε') (w : W) :
    ((p.inl : Prog (S.sum T) ε α).mapErr f).run (serveBoth serve serve') (v, w)
      = (st.mapErr f, (v', w)) := by
  rw [run_mapErr, run_inl, h]

end Both

/-! ## One world for another -/

/-- In related worlds the implementation answers every operation as the other world does,
and it leaves related worlds. -/
def Substitutes (impl : (o : S.Op) → Prog T Empty (S.Ans o))
    (serve : V → (o : T.Op) → T.Ans o × V) (serve' : W → (o : S.Op) → S.Ans o × W)
    (R : V → W → Prop) : Prop :=
  ∀ v w, R v w → ∀ o, ((impl o).run serve v).1 = .returned (serve' w o).1
    ∧ R ((impl o).run serve v).2 (serve' w o).2

theorem Substitutes.run {impl : (o : S.Op) → Prog T Empty (S.Ans o)}
    {serve : V → (o : T.Op) → T.Ans o × V} {serve' : W → (o : S.Op) → S.Ans o × W}
    {R : V → W → Prop} (h : Substitutes impl serve serve' R) (p : Prog S ε α) {v : V} {w : W}
    (hR : R v w) : ((handle impl p).run serve v).1 = (p.run serve' w).1
      ∧ R ((handle impl p).run serve v).2 (p.run serve' w).2 := by
  induction p generalizing v w with
  | pure a => exact ⟨rfl, hR⟩
  | throw e => exact ⟨rfl, hR⟩
  | panic msg => exact ⟨rfl, hR⟩
  | call o k ih =>
      obtain ⟨hanswer, hafter⟩ := h v w hR o
      have himpl : ((impl o).mapErr Empty.elim : Prog T ε (S.Ans o)).run serve v
          = (.returned (serve' w o).1, ((impl o).run serve v).2) := by
        rw [run_mapErr, hanswer]
        rfl
      show (((impl o).mapErr Empty.elim >>= fun a => handle impl (k a)).run serve v).1 = _ ∧ _
      rw [handle, run_bind_returned himpl]
      exact ih _ hafter

/-- The implementation of an operation gives this answer, and leaves that world. -/
def Gives (impl : (o : S.Op) → Prog T Empty (S.Ans o)) (serve : V → (o : T.Op) → T.Ans o × V)
    (v : V) (e : Event S) (v' : V) : Prop :=
  (impl e.op).run serve v = (.returned e.ans, v')

/-- An execution with the answers of the implementations is a beginning of the run. -/
theorem run_handle_of_steps {impl : (o : S.Op) → Prog T Empty (S.Ans o)}
    {serve : V → (o : T.Op) → T.Ans o × V} {p q : Prog S ε α} {tr : List (Event S)} {v v' : V}
    (hs : p.Steps tr q) (hx : Exec (Gives impl serve) v tr v') :
    (handle impl p).run serve v = (handle impl q).run serve v' := by
  induction hs generalizing v with
  | refl =>
      cases hx
      rfl
  | @call o k a tr q _ ih =>
      cases hx with
      | @cons _ v₁ _ _ _ hgives hx =>
          have himpl : ((impl o).mapErr Empty.elim : Prog T ε (S.Ans o)).run serve v
              = (.returned a, v₁) := by
            rw [run_mapErr, show (impl o).run serve v = _ from hgives]
            rfl
          rw [handle, run_bind_returned himpl]
          exact ih hx

/-- Operations of the one signature are implemented alone. -/
theorem handle_inr {U : Sig} (impl : (o : (S.sum T).Op) → Prog U Empty ((S.sum T).Ans o))
    (p : Prog T ε α) :
    handle impl (p.inr : Prog (S.sum T) ε α) = handle (fun o : T.Op => impl (.inr o)) p := by
  induction p with
  | pure a => rfl
  | throw e => rfl
  | panic msg => rfl
  | call o k ih =>
      show (impl (.inr o)).mapErr Empty.elim >>= (fun a => handle impl (k a).inr) = _
      rw [funext ih]
      rfl

end Prog

end Blob
