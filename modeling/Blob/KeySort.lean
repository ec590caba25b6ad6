import Mathlib.Data.List.Perm.Basic
import Mathlib.Order.Lattice

/-!
# Sorting by a key

Lists sorted by a key from a linear order. The first element of the sorted
list is a least one (`head_le`), and where the key tells the elements apart
the sorted list does not depend on the order of the given one
(`byKey_eq_of_perm`).
-/

namespace Blob

namespace KeySort

variable {α κ : Type} [LinearOrder κ] {key : α → κ}

/-- The elements of a list in the order of their keys. -/
def byKey (key : α → κ) (l : List α) : List α :=
  l.mergeSort fun a b => decide (key a ≤ key b)

theorem byKey_perm (key : α → κ) (l : List α) : (byKey key l).Perm l :=
  List.mergeSort_perm l _

theorem byKey_pairwise (key : α → κ) (l : List α) :
    (byKey key l).Pairwise fun a b => key a ≤ key b := by
  have hsorted : (byKey key l).Pairwise fun a b => decide (key a ≤ key b) = true := by
    refine List.pairwise_mergeSort (fun a b c hab hbc => ?_) (fun a b => ?_) l
    · rw [decide_eq_true_eq] at *
      exact le_trans hab hbc
    · rw [Bool.or_eq_true, decide_eq_true_eq, decide_eq_true_eq]
      exact le_total (key a) (key b)
  exact hsorted.imp fun h => of_decide_eq_true h

/-- The first element has a least key. -/
theorem head_le {l : List α} {a b : α} (hhead : (byKey key l).head? = some a) (hb : b ∈ l) :
    key a ≤ key b := by
  obtain ⟨rest, hsplit⟩ := List.head?_eq_some_iff.mp hhead
  have hsorted := byKey_pairwise key l
  have hmem := (byKey_perm key l).mem_iff.mpr hb
  rw [hsplit] at hsorted hmem
  rcases List.mem_cons.mp hmem with rfl | hrest
  · exact le_refl _
  · exact List.rel_of_pairwise_cons hsorted hrest

/-- A sorted list stays as it is. -/
theorem byKey_of_pairwise {l : List α} (h : l.Pairwise fun a b => key a ≤ key b) :
    byKey key l = l :=
  List.mergeSort_of_pairwise (h.imp fun hle => decide_eq_true hle)

/-- Sorting forgets the order of the elements when keys tell them apart. -/
theorem byKey_eq_of_perm {l l' : List α} (hperm : l.Perm l')
    (hinj : ∀ a ∈ l, ∀ b ∈ l, key a = key b → a = b) : byKey key l = byKey key l' := by
  have hperms : (byKey key l).Perm (byKey key l') :=
    ((byKey_perm key l).trans hperm).trans (byKey_perm key l').symm
  refine hperms.eq_of_pairwise (fun a b ha hb hab hba => ?_) (byKey_pairwise key l)
    (byKey_pairwise key l')
  have hb' := hperm.mem_iff.mpr ((byKey_perm key l').mem_iff.mp hb)
  exact hinj a ((byKey_perm key l).mem_iff.mp ha) b hb' (le_antisymm hab hba)

end KeySort

end Blob
