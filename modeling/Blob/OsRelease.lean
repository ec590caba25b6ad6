import Blob.Words

/-!
# The os-release file

The probe takes a host for NixOS by the `ID` field of `/etc/os-release`. The
file is a list of assignments, a value may be quoted, and the field is the
first whose key, trimmed, is `ID`. Of every file of this form the value read
is that of its `ID` field, whatever the other fields are and hold
(`parse_text`).
-/

namespace Blob

namespace Text

/-- `str::split_once`, at a character. -/
def splitOnce (s : String) (separator : Char) : Option (String × String) :=
  match s.toList.dropWhile (· != separator) with
  | [] => none
  | _ :: value => some (String.ofList (s.toList.takeWhile (· != separator)), String.ofList value)

/-- `str::trim_matches`, of a character. -/
def trimMatches (s : String) (c : Char) : String :=
  String.ofList (((s.toList.dropWhile (· == c)).reverse.dropWhile (· == c)).reverse)

theorem splitOnce_append {separator : Char} {key : String} (hkey : separator ∉ key.toList)
    (value : String) :
    splitOnce (key ++ String.singleton separator ++ value) separator = some (key, value) := by
  have htext : (key ++ String.singleton separator ++ value).toList
      = key.toList ++ separator :: value.toList := by simp
  obtain ⟨htake, hdrop⟩ := takeWhile_separated value.toList hkey
  rw [splitOnce, htext, hdrop, htake]
  simp

/-- Nothing is trimmed where neither end is to be. -/
theorem dropWhile_ends {α : Type} {p : α → Bool} {xs : List α}
    (hfirst : ∀ x ∈ xs.head?, p x = false) (hlast : ∀ x ∈ xs.getLast?, p x = false) :
    ((xs.dropWhile p).reverse.dropWhile p).reverse = xs := by
  have hnone : ∀ {ys : List α}, (∀ y ∈ ys.head?, p y = false) → ys.dropWhile p = ys := by
    intro ys hys
    cases ys with
    | nil => rfl
    | cons y ys =>
        rw [List.dropWhile_cons_of_neg]
        simp [hys y rfl]
  rw [hnone hfirst, hnone (by rwa [List.head?_reverse]), List.reverse_reverse]

/-- What stands between two marks, where the marks are dropped at both ends. -/
theorem dropWhile_between {α : Type} {p : α → Bool} {mark : α} (hmark : p mark = true)
    {xs : List α} (h : ∀ x ∈ xs, p x = false) :
    (((mark :: xs ++ [mark]).dropWhile p).reverse.dropWhile p).reverse = xs := by
  rw [List.cons_append, List.dropWhile_cons_of_pos hmark]
  cases xs with
  | nil => simp [hmark]
  | cons x xs =>
      rw [List.cons_append, List.dropWhile_cons_of_neg (by simp [h x (List.mem_cons_self ..)]),
        ← List.cons_append, List.reverse_append, List.reverse_singleton, List.singleton_append,
        List.dropWhile_cons_of_pos hmark]
      have hlast : ∀ y ∈ (x :: xs).reverse, p y = false :=
        fun y hy => h y (List.mem_reverse.mp hy)
      cases hreverse : (x :: xs).reverse with
      | nil => simp at hreverse
      | cons y ys =>
          rw [List.dropWhile_cons_of_neg (by simp [hlast y (hreverse ▸ List.mem_cons_self ..)]),
            ← hreverse, List.reverse_reverse]

theorem trim_of_ends {s : String} (hfirst : ∀ c ∈ s.toList.head?, isWhitespace c = false)
    (hlast : ∀ c ∈ s.toList.getLast?, isWhitespace c = false) : trim s = s := by
  rw [trim, dropWhile_ends hfirst hlast, String.ofList_toList]

theorem trimMatches_quoted {value : String} (hvalue : '"' ∉ value.toList) :
    trimMatches ("\"" ++ value ++ "\"") '"' = value := by
  have htext : ("\"" ++ value ++ "\"").toList = '"' :: value.toList ++ ['"'] := by simp
  rw [trimMatches, htext, dropWhile_between (by decide), String.ofList_toList]
  intro c hc
  rw [beq_eq_false_iff_ne]
  rintro rfl
  exact hvalue hc

theorem trimMatches_of_notMem {value : String} (hvalue : '"' ∉ value.toList) :
    trimMatches value '"' = value := by
  have hnone : ∀ c ∈ value.toList, (c == '"') = false := by
    intro c hc
    rw [beq_eq_false_iff_ne]
    rintro rfl
    exact hvalue hc
  rw [trimMatches, dropWhile_ends (fun c hc => hnone c (List.mem_of_mem_head? hc))
    (fun c hc => hnone c (List.mem_of_mem_getLast? hc)), String.ofList_toList]

end Text

open Text

/-! ## The parser -/

/-- The value a line gives to `ID`, if it does. -/
def osReleaseId (line : String) : Option String := do
  let (key, value) ← splitOnce line '='
  if trim key ≠ "ID" then none else some (trimMatches (trim value) '"')

/-- `parse_os_release_id`. -/
def parseOsReleaseId (contents : String) : Option String :=
  (lines contents).findSome? osReleaseId

/-! ## The file -/

/-- An assignment: the value as it is, or in double quotes. It holds none itself, so
escaped quotes are left out. -/
structure OsReleaseField where
  key : String
  value : String
  quoted : Bool
  key_plain : ∀ c ∈ key.toList, c.isAlphanum = true ∨ c = '_'
  value_plain : ∀ c ∈ value.toList, c ≠ '"' ∧ c ≠ '\n'
  unquoted : quoted = false → ∀ c ∈ value.toList, isWhitespace c = false

namespace OsReleaseField

variable (self : OsReleaseField)

def valueText : String := if self.quoted then "\"" ++ self.value ++ "\"" else self.value

def text : String := self.key ++ "=" ++ self.valueText

theorem key_solid {c : Char} (hc : c ∈ self.key.toList) :
    isWhitespace c = false ∧ c ≠ '=' ∧ c ≠ '\n' := by
  rcases self.key_plain c hc with halnum | rfl
  · have hrange : (65 ≤ c.toNat ∧ c.toNat ≤ 90) ∨ (97 ≤ c.toNat ∧ c.toNat ≤ 122)
        ∨ (48 ≤ c.toNat ∧ c.toNat ≤ 57) := by
      change (decide (c.val ≥ 'A'.val ∧ c.val ≤ 'Z'.val) || (c.val ≥ 'a'.val && c.val ≤ 'z'.val)
        || (c.val ≥ '0'.val && c.val ≤ '9'.val)) = true at halnum
      simp only [Bool.or_eq_true, Bool.and_eq_true, decide_eq_true_eq,
        UInt32.le_iff_toNat_le] at halnum
      exact or_assoc.mp halnum
    refine ⟨?_, ?_, ?_⟩
    · simp only [isWhitespace, Bool.or_eq_false_iff, Bool.and_eq_false_iff,
        decide_eq_false_iff_not, beq_eq_false_iff_ne]
      omega
    · rintro rfl
      exact absurd hrange (by decide)
    · rintro rfl
      exact absurd hrange (by decide)
  · decide

theorem trim_key : trim self.key = self.key :=
  trim_of_ends (fun _ hc => (self.key_solid (List.mem_of_mem_head? hc)).1)
    fun _ hc => (self.key_solid (List.mem_of_mem_getLast? hc)).1

theorem valueText_quoted (h : self.quoted = true) :
    self.valueText.toList = '"' :: (self.value.toList ++ ['"']) := by
  simp [valueText, h]

/-- A value neither begins nor ends with white space. -/
theorem valueText_ends : (∀ c ∈ self.valueText.toList.head?, isWhitespace c = false)
    ∧ ∀ c ∈ self.valueText.toList.getLast?, isWhitespace c = false := by
  cases hquoted : self.quoted with
  | true =>
      rw [valueText_quoted self hquoted]
      constructor
      · rintro c hc
        obtain rfl : '"' = c := Option.some.inj hc
        decide
      · rintro c hc
        rw [← List.cons_append, List.getLast?_concat] at hc
        obtain rfl : '"' = c := Option.some.inj hc
        decide
  | false =>
      have hsolid := self.unquoted hquoted
      have htext : self.valueText = self.value := by simp [valueText, hquoted]
      rw [htext]
      exact ⟨fun c hc => hsolid c (List.mem_of_mem_head? hc),
        fun c hc => hsolid c (List.mem_of_mem_getLast? hc)⟩

/-- Trimmed and without its quotes, the text of a value is the value. -/
theorem value_of_valueText : trimMatches (trim self.valueText) '"' = self.value := by
  have hquote : '"' ∉ self.value.toList := fun h => (self.value_plain _ h).1 rfl
  rw [trim_of_ends self.valueText_ends.1 self.valueText_ends.2, valueText]
  split
  · exact trimMatches_quoted hquote
  · exact trimMatches_of_notMem hquote

theorem osReleaseId_text :
    osReleaseId self.text = if self.key = "ID" then some self.value else none := by
  have hkey : '=' ∉ self.key.toList := fun h => (self.key_solid h).2.1 rfl
  have hsplit : splitOnce self.text '=' = some (self.key, self.valueText) :=
    splitOnce_append hkey self.valueText
  simp only [osReleaseId, hsplit, Option.bind_eq_bind, Option.bind_some, trim_key,
    value_of_valueText]
  by_cases hid : self.key = "ID" <;> simp [hid]

theorem oneLine_text : OneLine self.text := by
  have hvalue : OneLine self.value := fun h => (self.value_plain _ h).2 rfl
  have hkey : OneLine self.key := fun h => (self.key_solid h).2.2 rfl
  refine (hkey.append (by decide)).append ?_
  unfold valueText
  split
  · exact ((by decide : OneLine "\"").append hvalue).append (by decide)
  · exact hvalue

/-- No line ends in a carriage return. -/
theorem stripCarriageReturn_text :
    String.ofList (stripCarriageReturn self.text.toList) = self.text := by
  have htext : self.text.toList = self.key.toList ++ '=' :: self.valueText.toList := by
    simp [text]
  have hlast : self.text.toList.getLast? ≠ some '\r' := by
    rw [htext, List.getLast?_append_cons, List.getLast?_cons]
    cases hvalue : self.valueText.toList.getLast? with
    | none => decide
    | some c =>
        intro h
        obtain rfl : c = '\r' := Option.some.inj h
        exact absurd (self.valueText_ends.2 _ hvalue) (by decide)
  rw [stripCarriageReturn, if_neg hlast, String.ofList_toList]

end OsReleaseField

namespace OsRelease

/-- The file of these fields. -/
def fileText (fields : List OsReleaseField) : String :=
  joinLines (fields.map OsReleaseField.text ++ [""])

theorem lines_fileText (fields : List OsReleaseField) :
    lines (fileText fields) = fields.map OsReleaseField.text := by
  cases fields with
  | nil => rfl
  | cons field fields =>
      rw [fileText, lines_joinLines (by simp)]
      · rw [List.map_map]
        exact List.map_congr_left fun field _ => field.stripCarriageReturn_text
      · intro line hline
        obtain ⟨field, -, rfl⟩ := List.mem_map.mp hline
        exact field.oneLine_text

/-- Of every file of assignments, the value read is that of its first `ID` field. -/
theorem parse_text (fields : List OsReleaseField) :
    parseOsReleaseId (fileText fields)
      = (fields.find? fun field => field.key = "ID").map OsReleaseField.value := by
  rw [parseOsReleaseId, lines_fileText]
  induction fields with
  | nil => rfl
  | cons field fields ih =>
      rw [List.map_cons, List.findSome?_cons, field.osReleaseId_text, List.find?_cons]
      by_cases hid : field.key = "ID"
      · simp [hid]
      · simp [hid, ih]

end OsRelease

end Blob
