import Mathlib.Algebra.Group.Nat.Defs
import Mathlib.Data.List.TakeWhile
import Blob.Text

/-!
# Words and numbers

Text cut at its white space, and the decimal numbers that are read from
text. White space only separates: what stands around a blank has the words
it has by itself (`words_append_blank`). The decimal text of a number is one
word (`words_natText`).
-/

namespace Blob

namespace Text

/-! ## Words -/

/-- The maximal parts without white space. -/
def words (cs : List Char) : List (List Char) :=
  (cs.splitOnP isWhitespace).filter fun word => !word.isEmpty

/-- `str::split_whitespace`. -/
def splitWhitespace (s : String) : List String := (words s.toList).map String.ofList

/-- A text of white space, and some of it. -/
structure Blank (gap : List Char) : Prop where
  nonempty : gap ≠ []
  whitespace : ∀ c ∈ gap, isWhitespace c = true

@[simp] theorem words_nil : words [] = [] := by
  simp [words, List.splitOnP_nil]

theorem words_append_cons {c : Char} (hc : isWhitespace c = true) (xs ys : List Char) :
    words (xs ++ c :: ys) = words xs ++ words ys := by
  rw [words, List.splitOnP_append_cons xs ys hc, List.filter_append]
  rfl

theorem words_cons {c : Char} (hc : isWhitespace c = true) (ys : List Char) :
    words (c :: ys) = words ys :=
  words_append_cons hc [] ys

/-- White space in front of a text has no part in its words. -/
theorem words_whitespace_append {gap : List Char} (h : ∀ c ∈ gap, isWhitespace c = true)
    (ys : List Char) : words (gap ++ ys) = words ys := by
  induction gap with
  | nil => rfl
  | cons c gap ih =>
      rw [List.cons_append, words_cons (h c (List.mem_cons_self ..))]
      exact ih fun d hd => h d (List.mem_cons_of_mem _ hd)

/-- The words around a blank. -/
theorem words_append_blank {gap : List Char} (h : Blank gap) (xs ys : List Char) :
    words (xs ++ (gap ++ ys)) = words xs ++ words ys := by
  obtain ⟨c, rest, rfl⟩ := List.exists_cons_of_ne_nil h.nonempty
  rw [List.cons_append, words_append_cons (h.whitespace c (List.mem_cons_self ..)),
    words_whitespace_append fun d hd => h.whitespace d (List.mem_cons_of_mem _ hd)]

/-- A text without white space is one word. -/
theorem words_of_solid {word : List Char} (hne : word ≠ [])
    (h : ∀ c ∈ word, isWhitespace c = false) : words word = [word] := by
  rw [words, List.splitOnP_eq_singleton h]
  simp [hne]

/-- The characters of a word are characters of the text. -/
theorem mem_of_mem_words {cs word : List Char} {c : Char} (hword : word ∈ words cs)
    (hc : c ∈ word) : c ∈ cs := by
  have hpart := (List.mem_filter.mp hword).1
  clear hword
  induction cs generalizing word with
  | nil =>
      rw [List.splitOnP_nil, List.mem_singleton] at hpart
      rwa [hpart] at hc
  | cons d cs ih =>
      rw [List.splitOnP_cons_eq_if_modifyHead] at hpart
      split at hpart
      · rcases List.mem_cons.mp hpart with rfl | hpart
        · cases hc
        · exact List.mem_cons_of_mem _ (ih hc hpart)
      · obtain ⟨first, rest, hparts⟩ := List.exists_cons_of_ne_nil
          (List.splitOnP_ne_nil isWhitespace cs)
        rw [hparts, List.modifyHead_cons] at hpart
        rw [hparts] at ih
        rcases List.mem_cons.mp hpart with rfl | hpart
        · rcases List.mem_cons.mp hc with rfl | hc
          · exact List.mem_cons_self ..
          · exact List.mem_cons_of_mem _ (ih hc (List.mem_cons_self ..))
        · exact List.mem_cons_of_mem _ (ih hc (List.mem_cons_of_mem _ hpart))

theorem words_stripCarriageReturn (line : List Char) :
    words (stripCarriageReturn line) = words line := by
  unfold stripCarriageReturn
  split
  · rename_i hlast
    obtain ⟨init, rfl⟩ := List.getLast?_eq_some_iff.mp hlast
    rw [words_append_cons (by decide), List.dropLast_concat, words_nil, List.append_nil]
  · rfl

/-- A text with something other than white space is not blank. -/
theorem trim_nonempty {s : String} {c : Char} (hc : c ∈ s.toList)
    (hsolid : isWhitespace c = false) : (trim s).isEmpty = false := by
  by_contra hempty
  rw [Bool.not_eq_false, String.isEmpty_iff, trim] at hempty
  have hchars := congrArg String.toList hempty
  rw [String.toList_ofList] at hchars
  have hall : ∀ d ∈ s.toList.dropWhile isWhitespace, isWhitespace d = true := by
    have hnil := List.reverse_eq_nil_iff.mp hchars
    intro d hd
    exact List.dropWhile_eq_nil_iff.mp hnil d (List.mem_reverse.mpr hd)
  rw [← List.takeWhile_append_dropWhile (p := isWhitespace) (l := s.toList)] at hc
  rcases List.mem_append.mp hc with hc | hc
  · rw [List.mem_takeWhile_imp hc] at hsolid
    cases hsolid
  · rw [hall c hc] at hsolid
    cases hsolid

/-! ## Numbers -/

/-- `str::parse::<u64>`: decimal digits, at least one of them, after at most one `+`. -/
def parseU64 (s : String) : Option Nat :=
  let digits := if s.toList.head? = some '+' then s.toList.tail else s.toList
  if digits.isEmpty || !digits.all Char.isDigit then none
  else
    let n := Nat.ofDigitChars 10 digits 0
    if n < 2 ^ 64 then some n else none

/-- `u64::checked_mul`. -/
def checkedMul (a b : Nat) : Option Nat := if a * b < 2 ^ 64 then some (a * b) else none

theorem isWhitespace_of_isDigit {c : Char} (h : c.isDigit = true) : isWhitespace c = false := by
  simp only [Char.isDigit, Bool.and_eq_true, decide_eq_true_eq, UInt32.le_iff_toNat_le] at h
  have hrange : 48 ≤ c.toNat ∧ c.toNat ≤ 57 := h
  simp only [isWhitespace]
  grind

theorem toList_natText (n : Nat) : (toString n).toList = Nat.toDigits 10 n := by
  rw [Nat.toString_eq_ofList_toDigits, String.toList_ofList]

theorem isDigit_of_mem_natText {n : Nat} {c : Char} (h : c ∈ (toString n).toList) :
    c.isDigit = true := by
  rw [toList_natText] at h
  exact Nat.isDigit_of_mem_toDigits (by omega) (by omega) h

theorem natText_ne_nil (n : Nat) : (toString n).toList ≠ [] := by
  rw [toList_natText]
  exact Nat.toDigits_ne_nil

/-- A number is one word. -/
theorem words_natText (n : Nat) : words (toString n).toList = [(toString n).toList] :=
  words_of_solid (natText_ne_nil n) fun _ hc => isWhitespace_of_isDigit (isDigit_of_mem_natText hc)

end Text

end Blob
