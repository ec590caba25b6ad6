import Mathlib.Data.Finset.Insert
import Mathlib.Data.List.Nodup
import Mathlib.Data.List.Perm.Basic

/-!
# First occurrences

The sub-list of the elements whose key has not come before (`firsts`). It has
the keys of the list, each once, so two lists with the same elements have the
same first occurrences up to order when a key names one element
(`firsts_perm`). `firsts_filter_notMem` is the step of a reader that remembers
the keys it has seen.
-/

namespace Blob

section FirstOccurrence

variable {α κ : Type} [DecidableEq κ] (key : α → κ)

/-- The elements whose key no element before them has. -/
def firsts : List α → List α
  | [] => []
  | x :: xs => x :: (firsts xs).filter fun y => key y ≠ key x

@[simp] theorem firsts_nil : firsts key [] = [] := rfl

@[simp] theorem firsts_cons (x : α) (xs : List α) :
    firsts key (x :: xs) = x :: (firsts key xs).filter fun y => key y ≠ key x := rfl

variable {key}

theorem mem_of_mem_firsts {a : α} {xs : List α} (h : a ∈ firsts key xs) : a ∈ xs := by
  induction xs with
  | nil => cases h
  | cons x xs ih =>
      rcases List.mem_cons.mp h with rfl | h
      · exact List.mem_cons_self
      · exact List.mem_cons_of_mem _ (ih (List.mem_of_mem_filter h))

variable (key) in
/-- Every key of the list has a first occurrence. -/
theorem exists_mem_firsts {a : α} {xs : List α} (h : a ∈ xs) :
    ∃ b ∈ firsts key xs, key b = key a := by
  induction xs with
  | nil => cases h
  | cons x xs ih =>
      by_cases hkey : key a = key x
      · exact ⟨x, List.mem_cons_self, hkey.symm⟩
      · rcases List.mem_cons.mp h with rfl | h
        · exact absurd rfl hkey
        · obtain ⟨b, hb, hba⟩ := ih h
          refine ⟨b, List.mem_cons_of_mem _ (List.mem_filter.mpr ⟨hb, ?_⟩), hba⟩
          simpa [hba] using hkey

theorem nodup_keys_firsts (xs : List α) : ((firsts key xs).map key).Nodup := by
  induction xs with
  | nil => exact .nil
  | cons x xs ih =>
      refine List.nodup_cons.mpr ⟨?_, (List.Sublist.map key List.filter_sublist).nodup ih⟩
      intro hmem
      obtain ⟨y, hy, hkey⟩ := List.mem_map.mp hmem
      simp [hkey] at hy

theorem nodup_firsts (xs : List α) : (firsts key xs).Nodup :=
  .of_map _ (nodup_keys_firsts xs)

/-- Two first occurrences of one key are one. -/
theorem eq_of_mem_firsts {a b : α} {xs : List α} (ha : a ∈ firsts key xs)
    (hb : b ∈ firsts key xs) (hkey : key a = key b) : a = b :=
  List.inj_on_of_nodup_map (nodup_keys_firsts xs) ha hb hkey

/-- Where a key names one element, every element is a first occurrence. -/
theorem mem_firsts_iff {xs : List α} (hinj : ∀ a ∈ xs, ∀ b ∈ xs, key a = key b → a = b)
    {a : α} : a ∈ firsts key xs ↔ a ∈ xs := by
  constructor
  · exact mem_of_mem_firsts
  · intro ha
    obtain ⟨b, hb, hba⟩ := exists_mem_firsts key ha
    rwa [← hinj b (mem_of_mem_firsts hb) a ha hba]

theorem firsts_perm {xs ys : List α} (hsame : ∀ a, a ∈ xs ↔ a ∈ ys)
    (hinj : ∀ a ∈ xs, ∀ b ∈ xs, key a = key b → a = b) :
    (firsts key xs).Perm (firsts key ys) := by
  have hinj' : ∀ a ∈ ys, ∀ b ∈ ys, key a = key b → a = b := fun a ha b hb =>
    hinj a ((hsame a).mpr ha) b ((hsame b).mpr hb)
  refine (List.perm_ext_iff_of_nodup (nodup_firsts xs) (nodup_firsts ys)).mpr ?_
  intro a
  rw [mem_firsts_iff hinj, mem_firsts_iff hinj', hsame]

/-- A list of distinct keys is its own first occurrences. -/
theorem firsts_of_nodup {xs : List α} (h : (xs.map key).Nodup) : firsts key xs = xs := by
  induction xs with
  | nil => rfl
  | cons x xs ih =>
      rw [List.map_cons, List.nodup_cons] at h
      rw [firsts_cons, ih h.2]
      congr 1
      refine List.filter_eq_self.mpr ?_
      intro y hy
      simpa using fun hkey : key y = key x => h.1 (hkey ▸ List.mem_map_of_mem hy)

/-- The first occurrences have no others. -/
theorem firsts_firsts (xs : List α) : firsts key (firsts key xs) = firsts key xs :=
  firsts_of_nodup (nodup_keys_firsts xs)

/-- What is new to a reader of `x :: xs` that has seen the keys `seen`: the rest of
what is new, when `x` is not, and otherwise `x` and what is new to a reader
that has seen `x` too. -/
theorem firsts_filter_notMem (seen : Finset κ) (x : α) (xs : List α) :
    (firsts key (x :: xs)).filter (fun y => key y ∉ seen)
      = if key x ∈ seen then (firsts key xs).filter fun y => key y ∉ seen
        else x :: (firsts key xs).filter fun y => key y ∉ insert (key x) seen := by
  rw [firsts_cons]
  by_cases hseen : key x ∈ seen
  · rw [if_pos hseen, List.filter_cons_of_neg (by simpa using hseen), List.filter_filter]
    refine List.filter_congr ?_
    intro y _
    -- a key the reader has seen is not new, so neither is an equal one
    by_cases hy : key y = key x <;> simp [hy, hseen]
  · rw [if_neg hseen, List.filter_cons_of_pos (by simpa using hseen), List.filter_filter]
    congr 1
    refine List.filter_congr ?_
    intro y _
    simp [Finset.mem_insert, Bool.and_comm]

end FirstOccurrence

end Blob
