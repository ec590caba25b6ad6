import Blob.Text

/-!
# Lossy decoding of UTF-8

`fromUtf8Lossy` replaces what is not UTF-8, and only that: the bytes of a
string decode to the string (`fromUtf8Lossy_utf8Bytes`). Displaying a path
that was made from a string gives the string back.

The encoding is a prefix code (`exists_append_of_utf8Bytes`), and an ASCII
byte stands for its own character only (`mem_utf8Bytes`): what is cut out
of the bytes of a text at an ASCII byte is text again.
-/

namespace Blob

namespace Text

/-- The scalar value of a character is no surrogate and below U+110000. -/
theorem scalar_lt (c : Char) :
    c.val.toNat < 0xD800 ∨ 0xDFFF < c.val.toNat ∧ c.val.toNat < 0x110000 :=
  c.valid

theorem ofNat_eq (c : Char) {n : Nat} (h : n = c.val.toNat) : Char.ofNat n = c := by
  rw [h]
  exact Char.ofNat_toNat c

theorem isContinuation_mod (v : Nat) : isContinuation (v % 64 + 0x80) = true := by
  simp [isContinuation]
  omega

/-- The lead byte of a two-byte character. -/
theorem mayFollow_two {v : Nat} (hlow : 0x7f < v) (hhigh : v ≤ 0x7ff) :
    mayFollow (v / 64 % 32 + 0xC0) (v % 64 + 0x80) = true := by
  have hlead : 0xC2 ≤ v / 64 % 32 + 0xC0 ∧ v / 64 % 32 + 0xC0 ≤ 0xDF := by omega
  simp [mayFollow, hlead, isContinuation_mod]

/-- The lead byte of a three-byte character: no overlong form and no surrogate. -/
theorem mayFollow_three {v : Nat} (hlow : 0x7ff < v) (hhigh : v ≤ 0xffff)
    (hscalar : v < 0xD800 ∨ 0xDFFF < v) :
    mayFollow (v / 4096 % 16 + 0xE0) (v / 64 % 64 + 0x80) = true := by
  have hlead : 0xE0 ≤ v / 4096 % 16 + 0xE0 ∧ v / 4096 % 16 + 0xE0 ≤ 0xEF := by omega
  have hfirst : v / 4096 % 16 + 0xE0 = 0xE0 → 0xA0 ≤ v / 64 % 64 + 0x80 := by omega
  have hsurrogate : v / 4096 % 16 + 0xE0 = 0xED → v / 64 % 64 + 0x80 ≤ 0x9F := by omega
  generalize v / 4096 % 16 + 0xE0 = lead at *
  generalize hb : v / 64 % 64 + 0x80 = b at *
  simp only [mayFollow, isContinuation]
  grind

/-- The lead byte of a four-byte character: no overlong form and nothing past
U+10FFFF. -/
theorem mayFollow_four {v : Nat} (hlow : 0xffff < v) (hhigh : v < 0x110000) :
    mayFollow (v / 262144 % 8 + 0xF0) (v / 4096 % 64 + 0x80) = true := by
  have hlead : 0xF0 ≤ v / 262144 % 8 + 0xF0 ∧ v / 262144 % 8 + 0xF0 ≤ 0xF4 := by omega
  have hfirst : v / 262144 % 8 + 0xF0 = 0xF0 → 0x90 ≤ v / 4096 % 64 + 0x80 := by omega
  have hlast : v / 262144 % 8 + 0xF0 = 0xF4 → v / 4096 % 64 + 0x80 ≤ 0x8F := by omega
  generalize v / 262144 % 8 + 0xF0 = lead at *
  generalize hb : v / 4096 % 64 + 0x80 = b at *
  simp only [mayFollow, isContinuation]
  grind

/-- The bytes of a character are read as the character, whatever follows them. -/
theorem nextLossy_utf8EncodeChar (c : Char) (rest : List Nat) :
    ∃ lead tail, (String.utf8EncodeChar c).map UInt8.toNat = lead :: tail
      ∧ nextLossy lead (tail ++ rest) = (c, rest) := by
  have hscalar := scalar_lt c
  unfold String.utf8EncodeChar
  dsimp only
  generalize hv : c.val.toNat = v at hscalar
  split
  · refine ⟨v, [], by simp; omega, ?_⟩
    unfold nextLossy
    rw [if_pos (by omega), List.nil_append, ofNat_eq c hv.symm]
  split
  · refine ⟨v / 64 % 32 + 0xC0, [v % 64 + 0x80], by simp; omega, ?_⟩
    unfold nextLossy
    rw [if_neg (by omega)]
    simp only [List.cons_append, List.nil_append, mayFollow_two (v := v) (by omega) (by omega),
      Bool.not_true, Bool.false_eq_true, if_false]
    rw [if_pos (by omega), ofNat_eq c (by omega)]
  split
  · refine ⟨v / 4096 % 16 + 0xE0, [v / 64 % 64 + 0x80, v % 64 + 0x80], by simp; omega, ?_⟩
    unfold nextLossy
    rw [if_neg (by omega)]
    simp only [List.cons_append, List.nil_append,
      mayFollow_three (v := v) (by omega) (by omega) (by omega), isContinuation_mod,
      Bool.not_true, Bool.false_eq_true, if_false]
    rw [if_neg (by omega), if_pos (by omega), ofNat_eq c (by omega)]
  · refine ⟨v / 262144 % 8 + 0xF0, [v / 4096 % 64 + 0x80, v / 64 % 64 + 0x80, v % 64 + 0x80],
      by simp; omega, ?_⟩
    unfold nextLossy
    rw [if_neg (by omega)]
    simp only [List.cons_append, List.nil_append,
      mayFollow_four (v := v) (by omega) (by omega), isContinuation_mod,
      Bool.not_true, Bool.false_eq_true, if_false]
    rw [if_neg (by omega), if_neg (by omega), ofNat_eq c (by omega)]

/-- The bytes of characters are read as the characters, when there is fuel for them. -/
theorem lossyChars_utf8Encode (cs : List Char) (fuel : Nat) (hfuel : cs.length ≤ fuel) :
    lossyChars fuel ((cs.flatMap String.utf8EncodeChar).map UInt8.toNat) = cs := by
  induction cs generalizing fuel with
  | nil => cases fuel <;> rfl
  | cons c cs ih =>
      obtain ⟨fuel, rfl⟩ : ∃ n, fuel = n + 1 := ⟨fuel - 1, by simp at hfuel; omega⟩
      obtain ⟨lead, tail, hbytes, hnext⟩ := nextLossy_utf8EncodeChar c
        ((cs.flatMap String.utf8EncodeChar).map UInt8.toNat)
      rw [List.flatMap_cons, List.map_append, hbytes, List.cons_append, lossyChars]
      simp only [hnext, ih fuel (by simpa using hfuel)]

theorem utf8Bytes_eq (s : String) : utf8Bytes s = s.toList.flatMap String.utf8EncodeChar := by
  rw [utf8Bytes, ← String.utf8Encode_toList, List.utf8Encode, List.data_toByteArray]

theorem length_le_length_utf8Encode (cs : List Char) :
    cs.length ≤ (cs.flatMap String.utf8EncodeChar).length := by
  induction cs with
  | nil => simp
  | cons c cs ih =>
      have hne : 0 < (String.utf8EncodeChar c).length :=
        List.length_pos_iff.mpr String.utf8EncodeChar_ne_nil
      rw [List.flatMap_cons, List.length_append, List.length_cons]
      omega

/-- The bytes of a string decode to the string. -/
@[simp] theorem fromUtf8Lossy_utf8Bytes (s : String) : fromUtf8Lossy (utf8Bytes s) = s := by
  rw [fromUtf8Lossy, utf8Bytes_eq, lossyChars_utf8Encode _ _ (length_le_length_utf8Encode _),
    String.ofList_toList]

/-! ## Bytes and characters -/

/-- The first character of an encoding is determined, and so is what follows it. -/
theorem utf8EncodeChar_append_inj {c d : Char} {xs ys : List UInt8}
    (h : String.utf8EncodeChar c ++ xs = String.utf8EncodeChar d ++ ys) : c = d ∧ xs = ys := by
  obtain ⟨lead, tail, hbytes, hnext⟩ := nextLossy_utf8EncodeChar c (xs.map UInt8.toNat)
  obtain ⟨lead', tail', hbytes', hnext'⟩ := nextLossy_utf8EncodeChar d (ys.map UInt8.toNat)
  have hmap := congrArg (List.map UInt8.toNat) h
  rw [List.map_append, List.map_append, hbytes, hbytes', List.cons_append,
    List.cons_append] at hmap
  obtain ⟨rfl, htail⟩ := List.cons.inj hmap
  rw [htail, hnext'] at hnext
  obtain ⟨rfl, -⟩ := Prod.mk.inj hnext
  exact ⟨rfl, List.append_cancel_left h⟩

/-- A text whose bytes begin with the bytes of another begins with that other. -/
theorem exists_append_of_utf8Bytes {s t : String} {rest : List UInt8}
    (h : utf8Bytes s = utf8Bytes t ++ rest) : ∃ u, s = t ++ u ∧ utf8Bytes u = rest := by
  rw [utf8Bytes_eq, utf8Bytes_eq] at h
  suffices hchars : ∀ cs ds : List Char, ds.flatMap String.utf8EncodeChar
      = cs.flatMap String.utf8EncodeChar ++ rest →
      ∃ us, ds = cs ++ us ∧ us.flatMap String.utf8EncodeChar = rest by
    obtain ⟨us, hs, hus⟩ := hchars _ _ h
    refine ⟨String.ofList us, String.toList_inj.mp ?_, ?_⟩
    · rw [hs, String.toList_append, String.toList_ofList]
    · rw [utf8Bytes_eq, String.toList_ofList, hus]
  intro cs
  induction cs with
  | nil => exact fun ds hds => ⟨ds, rfl, hds⟩
  | cons c cs ih =>
      intro ds hds
      cases ds with
      | nil =>
          have hempty := congrArg List.length hds
          have hpos := List.length_pos_iff.mpr (String.utf8EncodeChar_ne_nil (c := c))
          simp only [List.flatMap_nil, List.flatMap_cons, List.length_nil,
            List.length_append] at hempty
          omega
      | cons d ds =>
          rw [List.flatMap_cons, List.flatMap_cons, List.append_assoc] at hds
          obtain ⟨rfl, htail⟩ := utf8EncodeChar_append_inj hds
          obtain ⟨us, rfl, hus⟩ := ih ds htail
          exact ⟨us, rfl, hus⟩

/-- An ASCII byte stands in the encoding of its own character only. -/
theorem mem_utf8EncodeChar {b : UInt8} {c : Char} (hb : b.toNat < 0x80) :
    b ∈ String.utf8EncodeChar c ↔ c.toNat = b.toNat := by
  have hbyte : ∀ n < 256, b = UInt8.ofNat n ↔ b.toNat = n := by
    intro n hn
    rw [← UInt8.toNat_inj, UInt8.toNat_ofNat_of_lt' hn]
  have hc : c.toNat = c.val.toNat := rfl
  have hscalar := scalar_lt c
  unfold String.utf8EncodeChar
  dsimp only
  rw [hc]
  generalize c.val.toNat = v at *
  split
  · rw [List.mem_singleton, hbyte _ (by omega)]
    omega
  split
  · simp only [List.mem_cons, List.not_mem_nil, or_false]
    rw [hbyte _ (by omega), hbyte _ (by omega)]
    omega
  split
  · simp only [List.mem_cons, List.not_mem_nil, or_false]
    rw [hbyte _ (by omega), hbyte _ (by omega), hbyte _ (by omega)]
    omega
  · simp only [List.mem_cons, List.not_mem_nil, or_false]
    rw [hbyte _ (by omega), hbyte _ (by omega), hbyte _ (by omega), hbyte _ (by omega)]
    omega

/-- A text holds an ASCII character exactly when its bytes hold the character's. -/
theorem mem_utf8Bytes {b : UInt8} {s : String} (hb : b.toNat < 0x80) :
    b ∈ utf8Bytes s ↔ ∃ c ∈ s.toList, c.toNat = b.toNat := by
  simp only [utf8Bytes_eq, List.mem_flatMap, mem_utf8EncodeChar hb]

end Text

end Blob
