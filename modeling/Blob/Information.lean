import Mathlib.Order.Basic

/-!
# Optional facts and what they tell

A fact that may be missing: `none` is *not known*. `Below x y` says that
`x` tells at most what `y` does, and where it tells anything tells the
same. Reading a fact with a default is monotone as soon as the default is
the worst value there is (`Below.getD_le`), also past a fallback that is
itself the worst value (`Below.or_getD_le`): a reader that does so never
takes an unknown fact for a better one than the known.
-/

namespace Blob

namespace Information

variable {α : Type}

/-- `x` tells at most what `y` does. -/
def Below (x y : Option α) : Prop := ∀ a, x = some a → y = some a

namespace Below

variable {x y : Option α}

theorem refl (x : Option α) : Below x x := fun _ h => h

theorem unknown (y : Option α) : Below none y := nofun

/-- Nothing in between: a fact is told as it is or not at all. -/
theorem eq_none_or_eq (h : Below x y) : x = none ∨ x = y := by
  cases x with
  | none => exact Or.inl rfl
  | some a => exact Or.inr (h a rfl).symm

theorem eq_none (h : Below x none) : x = none :=
  h.eq_none_or_eq.elim id id

section Defaults

variable [Preorder α] {d : α}

theorem getD_le (h : Below x y) (hd : ∀ a, d ≤ a) : x.getD d ≤ y.getD d := by
  rcases h.eq_none_or_eq with rfl | rfl
  · exact hd _
  · exact le_refl _

theorem or_getD_le {fallback : Option α} (h : Below x y) (hd : ∀ a, fallback.getD d ≤ a) :
    (x.or fallback).getD d ≤ (y.or fallback).getD d := by
  rcases h.eq_none_or_eq with rfl | rfl
  · exact hd _
  · exact le_refl _

end Defaults

end Below

/-! ## Forgetting -/

/-- Forget a fact, or keep it. -/
def forget (unknown : Bool) (x : Option α) : Option α :=
  if unknown then none else x

theorem forget_below (unknown : Bool) (x : Option α) : Below (forget unknown x) x := by
  cases unknown with
  | true => exact .unknown x
  | false => exact .refl x

end Information

end Blob
