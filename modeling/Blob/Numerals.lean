import Mathlib.Data.List.Induction
import Blob.Words

/-!
# Decimal spellings

A number has one decimal text without a sign and without leading zeros, and
the integer parser reads it back (`parseU64_natText`). The parser takes more:
one `+`, and any number of zeros in front (`parseU64_eq_some`). Nothing else
is a spelling of the number.
-/

namespace Blob

namespace Text

theorem digitChar_of_isDigit {c : Char} (h : c.isDigit = true) :
    ∃ d, d < 10 ∧ c = Nat.digitChar d ∧ c.toNat - '0'.toNat = d := by
  simp only [Char.isDigit, Bool.and_eq_true, decide_eq_true_eq, UInt32.le_iff_toNat_le] at h
  have hrange : 48 ≤ c.toNat ∧ c.toNat ≤ 57 := h
  have hlt : c.toNat - 48 < 10 := by omega
  refine ⟨c.toNat - 48, hlt, Char.toNat_inj.mp ?_, rfl⟩
  rw [Nat.toNat_digitChar_of_lt_ten hlt]
  omega

/-- Digits are the decimal text of their value, with zeros in front. -/
theorem digits_eq {ds : List Char} (hne : ds ≠ []) (hdigits : ∀ c ∈ ds, c.isDigit = true) :
    ∃ zeros, ds = List.replicate zeros '0' ++ Nat.toDigits 10 (Nat.ofDigitChars 10 ds 0) := by
  induction ds using List.reverseRecOn with
  | nil => exact absurd rfl hne
  | append_singleton ds c ih =>
      obtain ⟨d, hd, rfl, hvalue⟩ := digitChar_of_isDigit (hdigits c (by simp))
      rw [Nat.ofDigitChars_append, Nat.ofDigitChars_cons_digitChar_of_lt_ten hd,
        Nat.ofDigitChars_nil]
      by_cases hnil : ds = []
      · subst hnil
        refine ⟨0, ?_⟩
        rw [Nat.ofDigitChars_nil, Nat.mul_zero, Nat.zero_add, Nat.toDigits_of_lt_base hd]
        rfl
      · obtain ⟨zeros, hds⟩ := ih hnil fun c' hc' => hdigits c' (by simp [hc'])
        generalize Nat.ofDigitChars 10 ds 0 = value at hds ⊢
        rcases Nat.eq_zero_or_pos value with rfl | hpos
        · -- nothing but zeros so far: the last of them is one in front now
          refine ⟨zeros + 1, ?_⟩
          rw [hds, Nat.mul_zero, Nat.zero_add, Nat.toDigits_of_lt_base hd, Nat.toDigits_zero,
            List.replicate_succ']
        · refine ⟨zeros, ?_⟩
          rw [hds, ← Nat.toDigits_append_toDigits (by decide) hpos hd,
            Nat.toDigits_of_lt_base hd, List.append_assoc]

/-- A decimal text of a number: a `+` or none, zeros, and the number without them. -/
def Spells (text : String) (n : Nat) : Prop :=
  ∃ sign zeros, (sign = "" ∨ sign = "+")
    ∧ text = sign ++ String.ofList (List.replicate zeros '0') ++ toString n

theorem isDigit_of_mem_spelling {zeros n : Nat} {c : Char}
    (hc : c ∈ List.replicate zeros '0' ++ Nat.toDigits 10 n) : c.isDigit = true := by
  rcases List.mem_append.mp hc with hc | hc
  · rw [List.eq_of_mem_replicate hc]
    decide
  · exact Nat.isDigit_of_mem_toDigits (by decide) (by decide) hc

/-- The sign is taken off, and nothing else. -/
theorem unsigned_eq {sign : String} (hsign : sign = "" ∨ sign = "+") {ds : List Char}
    (hdigits : ∀ c ∈ ds, c.isDigit = true) :
    (if (sign.toList ++ ds).head? = some '+' then (sign.toList ++ ds).tail
      else sign.toList ++ ds) = ds := by
  rcases hsign with rfl | rfl
  · have hhead : ds.head? ≠ some '+' := by
      intro hplus
      have hplus := hdigits _ (List.mem_of_head? hplus)
      exact absurd hplus (by decide)
    exact if_neg hhead
  · exact if_pos rfl

theorem toList_spelling (sign : String) (zeros n : Nat) :
    (sign ++ String.ofList (List.replicate zeros '0') ++ toString n).toList
      = sign.toList ++ (List.replicate zeros '0' ++ Nat.toDigits 10 n) := by
  simp

theorem value_of_spelling (zeros n : Nat) :
    Nat.ofDigitChars 10 (List.replicate zeros '0' ++ Nat.toDigits 10 n) 0 = n := by
  rw [Nat.ofDigitChars_append, Nat.ofDigitChars_replicate_zero, Nat.mul_zero,
    Nat.ofDigitChars_ten_toDigits]

/-- There are only digits in a spelling, and a `+`. -/
theorem Spells.mem {s : String} {n : Nat} (h : Spells s n) {c : Char} (hc : c ∈ s.toList) :
    c.isDigit = true ∨ c = '+' := by
  obtain ⟨sign, zeros, hsign, rfl⟩ := h
  rw [toList_spelling, List.mem_append] at hc
  rcases hc with hc | hc
  · rcases hsign with rfl | rfl
    · cases hc
    · exact Or.inr (List.mem_singleton.mp hc)
  · exact Or.inl (isDigit_of_mem_spelling hc)

/-- A text spells one number. -/
theorem Spells.unique {s : String} {n m : Nat} (h : Spells s n) (h' : Spells s m) : n = m := by
  obtain ⟨sign, zeros, hsign, rfl⟩ := h
  obtain ⟨sign', zeros', hsign', hs⟩ := h'
  have hlist := congrArg String.toList hs
  rw [toList_spelling, toList_spelling] at hlist
  have hdigits : ∀ zeros n, ∀ c ∈ List.replicate zeros '0' ++ Nat.toDigits 10 n,
      c.isDigit = true := fun _ _ _ => isDigit_of_mem_spelling
  have hunsigned := unsigned_eq hsign (hdigits zeros n)
  have hunsigned' := unsigned_eq hsign' (hdigits zeros' m)
  rw [hlist, hunsigned'] at hunsigned
  rw [← value_of_spelling zeros n, ← hunsigned, value_of_spelling]

/-- The text without a sign and without zeros in front. -/
theorem spells_natText (n : Nat) : Spells (toString n) n :=
  ⟨"", 0, Or.inl rfl, by simp⟩

theorem parseU64_of_spells {s : String} {n : Nat} (hn : n < 2 ^ 64) (h : Spells s n) :
    parseU64 s = some n := by
  obtain ⟨sign, zeros, hsign, rfl⟩ := h
  have hdigits : ∀ c ∈ List.replicate zeros '0' ++ Nat.toDigits 10 n, c.isDigit = true :=
    fun c hc => isDigit_of_mem_spelling hc
  have hne : (List.replicate zeros '0' ++ Nat.toDigits 10 n).isEmpty = false := by simp
  simp only [parseU64, toList_spelling, unsigned_eq hsign hdigits, hne,
    List.all_eq_true.mpr hdigits, Bool.not_true, Bool.or_self, Bool.false_eq_true, if_false,
    value_of_spelling, hn, if_true]

theorem spells_of_parseU64 {s : String} {n : Nat} (h : parseU64 s = some n) :
    n < 2 ^ 64 ∧ Spells s n := by
  obtain ⟨sign, ds, hsign, hs, hds⟩ : ∃ (sign : String) (ds : List Char),
      (sign = "" ∨ sign = "+") ∧ s.toList = sign.toList ++ ds
        ∧ (if s.toList.head? = some '+' then s.toList.tail else s.toList) = ds := by
    split
    · rename_i hplus
      obtain ⟨rest, hrest⟩ := List.head?_eq_some_iff.mp hplus
      exact ⟨"+", rest, Or.inr rfl, hrest, by rw [hrest]; rfl⟩
    · exact ⟨"", s.toList, Or.inl rfl, rfl, rfl⟩
  unfold parseU64 at h
  dsimp only at h
  rw [hds] at h
  split at h
  · cases h
  · rename_i hread
    split at h
    · rename_i hn
      obtain rfl := Option.some.inj h
      simp only [Bool.or_eq_true, not_or, Bool.not_eq_true, List.isEmpty_eq_false_iff,
        Bool.not_eq_false', List.all_eq_true] at hread
      obtain ⟨zeros, hzeros⟩ := digits_eq hread.1 hread.2
      refine ⟨hn, sign, zeros, hsign, String.toList_inj.mp ?_⟩
      rw [hs, String.toList_append, String.toList_append, String.toList_ofList, toList_natText,
        List.append_assoc, ← hzeros]
    · cases h

/-- What the parser takes for a number, and nothing else. -/
theorem parseU64_eq_some {s : String} {n : Nat} :
    parseU64 s = some n ↔ n < 2 ^ 64 ∧ Spells s n :=
  ⟨spells_of_parseU64, fun ⟨hn, h⟩ => parseU64_of_spells hn h⟩

/-- The text of a number that fits is read as the number. -/
theorem parseU64_natText {n : Nat} (hn : n < 2 ^ 64) : parseU64 (toString n) = some n :=
  parseU64_of_spells hn (spells_natText n)

/-- A text with a character that is no digit, nor a `+`, is no number. -/
theorem parseU64_eq_none {s : String} {c : Char} (hc : c ∈ s.toList) (hdigit : c.isDigit = false)
    (hplus : c ≠ '+') : parseU64 s = none := by
  rw [Option.eq_none_iff_forall_ne_some]
  intro n hread
  rcases (spells_of_parseU64 hread).2.mem hc with h | h
  · rw [hdigit] at h
    cases h
  · exact hplus h

end Text

end Blob
