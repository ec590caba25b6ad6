import Mathlib.Data.List.Forall2

/-!
# Checks and their outcomes

Two shapes of validation. A *guard clause* (`reject`) ends a validator
at the first test that fails; `bind_eq_ok` and its companions read off
what a successful sequence of guards has established. An *accumulating*
check (`verdict`) runs all of its tests and reports every one that
fails.
-/

namespace Blob

namespace Checks

variable {ε ε' α β V : Type}

/-! ## Guard clauses -/

/-- `if c { return Err(e) }`. -/
def reject (c : Prop) [Decidable c] (e : ε) : Except ε Unit :=
  if c then .error e else .ok ()

@[simp] theorem reject_eq_ok {c : Prop} [Decidable c] {e : ε} {u : Unit} :
    reject c e = .ok u ↔ ¬ c := by
  unfold reject
  split <;> simp_all

/-- A sequence that fails does so at its guard or past it. -/
theorem reject_bind_error {c : Prop} [Decidable c] {e e' : ε} {f : Unit → Except ε α}
    (h : (reject c e >>= f) = .error e') : (c ∧ e' = e) ∨ (¬ c ∧ f () = .error e') := by
  unfold reject at h
  split at h
  · exact Or.inl ⟨by assumption, (Except.error.inj h).symm⟩
  · exact Or.inr ⟨by assumption, h⟩

theorem reject_bind_ok {c : Prop} [Decidable c] {e : ε} {f : Unit → Except ε α} {a : α}
    (h : (reject c e >>= f) = .ok a) : ¬ c ∧ f () = .ok a := by
  unfold reject at h
  split at h
  · cases h
  · exact ⟨by assumption, h⟩

/-- A sequence succeeds when each step succeeds in turn. -/
@[simp] theorem bind_eq_ok {x : Except ε α} {f : α → Except ε β} {b : β} :
    (x >>= f) = .ok b ↔ ∃ a, x = .ok a ∧ f a = .ok b := by
  cases x <;> simp [bind, Except.bind]

@[simp] theorem pure_eq_ok {a b : α} : (pure a : Except ε α) = .ok b ↔ a = b := by
  simp [pure, Except.pure]

@[simp] theorem mapError_eq_ok {x : Except ε α} {f : ε → ε'} {a : α} :
    x.mapError f = .ok a ↔ x = .ok a := by
  cases x <;> simp [Except.mapError]

/-- A loop that may fail succeeds when each of its passes does. -/
theorem mapM_eq_ok {f : α → Except ε β} {xs : List α} {ys : List β} :
    xs.mapM f = .ok ys ↔ List.Forall₂ (fun x y => f x = .ok y) xs ys := by
  induction xs generalizing ys with
  | nil =>
      rw [List.mapM_nil, pure_eq_ok, List.forall₂_nil_left_iff]
      exact eq_comm
  | cons x xs ih =>
      rw [List.mapM_cons, bind_eq_ok]
      simp only [bind_eq_ok, pure_eq_ok, ih]
      constructor
      · rintro ⟨y, hy, ys, hys, rfl⟩
        exact .cons hy hys
      · intro h
        cases h with
        | cons hy hys => exact ⟨_, hy, _, hys, rfl⟩

/-! ## Accumulated violations -/

/-- One test: the violation to report when `c` holds. -/
def violation (c : Prop) [Decidable c] (v : V) : List V :=
  if c then [v] else []

/-- The outcome of a list of tests: `Ok` when none of them reports. -/
def verdict (tests : List (List V)) : Except (List V) Unit :=
  if tests.flatten.isEmpty then .ok () else .error tests.flatten

@[simp] theorem violation_eq_nil {c : Prop} [Decidable c] {v : V} :
    violation c v = [] ↔ ¬ c := by
  simp [violation]

@[simp] theorem verdict_eq_ok {tests : List (List V)} {u : Unit} :
    verdict tests = .ok u ↔ ∀ t ∈ tests, t = [] := by
  simp only [verdict]
  split
  · rename_i h
    simpa using h
  · rename_i h
    simpa using h

end Checks

end Blob
