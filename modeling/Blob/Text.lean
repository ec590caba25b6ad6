import Mathlib.Data.List.Basic
import Std.Data.String.ToNat

/-!
# Text encodings

Byte strings, hexadecimal text, decimal text and newline-joined lines,
independent of any particular file format. Every encoder comes with the
fact a format is built on: it is injective (`hexText_injective`,
`joinLines_injective`) and its output never contains the line separator,
so a list of lines can be recovered from the text it was joined into -
even from a text that merely extends it (`lines_prefix_of_prefix`).
-/

namespace Blob

namespace Text

/-! ## UTF-8 bytes -/

/-- The UTF-8 bytes of a string (`str::as_bytes`). -/
def utf8Bytes (s : String) : List UInt8 := s.toByteArray.data.toList

theorem utf8Bytes_injective : Function.Injective utf8Bytes := by
  intro s t h
  apply String.toByteArray_inj.mp
  exact ByteArray.ext (Array.toList_inj.mp h)

@[simp] theorem utf8Bytes_append (s t : String) :
    utf8Bytes (s ++ t) = utf8Bytes s ++ utf8Bytes t := by
  simp [utf8Bytes]

/-! ## Fixed-length codes -/

/-- A code whose words all have the same positive length is uniquely
decodable: the concatenation of the words determines the letters. -/
theorem flatMap_injective {α β : Type} {f : α → List β} {n : Nat} (hn : 0 < n)
    (hlen : ∀ a, (f a).length = n) (hf : Function.Injective f) :
    Function.Injective (List.flatMap f) := by
  intro xs
  induction xs with
  | nil =>
      intro ys h
      cases ys with
      | nil => rfl
      | cons y ys =>
          have := congrArg List.length h
          simp only [List.flatMap_nil, List.flatMap_cons, List.length_nil,
            List.length_append, hlen] at this
          omega
  | cons x xs ih =>
      intro ys h
      cases ys with
      | nil =>
          have := congrArg List.length h
          simp only [List.flatMap_nil, List.flatMap_cons, List.length_nil,
            List.length_append, hlen] at this
          omega
      | cons y ys =>
          simp only [List.flatMap_cons] at h
          obtain ⟨hxy, hrest⟩ := List.append_inj h (by rw [hlen, hlen])
          rw [hf hxy, ih hrest]

/-! ## Hexadecimal text -/

/-- Two lower-case hexadecimal digits (`{byte:02x}`). -/
def hexByte (b : UInt8) : List Char :=
  [Nat.digitChar (b.toNat / 16), Nat.digitChar (b.toNat % 16)]

/-- The lower-case hexadecimal text of the UTF-8 bytes of `s`. -/
def hexText (s : String) : String :=
  String.ofList ((utf8Bytes s).flatMap hexByte)

theorem digitChar_inj_of_lt {m n : Nat} (hm : m < 16) (hn : n < 16)
    (h : Nat.digitChar m = Nat.digitChar n) : m = n := by
  have key : ∀ a < 16, ∀ b < 16, Nat.digitChar a = Nat.digitChar b → a = b := by
    decide
  exact key m hm n hn h

theorem hexByte_injective : Function.Injective hexByte := by
  intro a b h
  simp only [hexByte, List.cons.injEq, and_true] at h
  have ha := a.toNat_lt
  have hb := b.toNat_lt
  have hdiv := digitChar_inj_of_lt (by omega) (by omega) h.1
  have hmod := digitChar_inj_of_lt (by omega) (by omega) h.2
  apply UInt8.toNat_inj.mp
  omega

theorem hexText_injective : Function.Injective hexText := by
  intro s t h
  apply utf8Bytes_injective
  exact flatMap_injective (n := 2) (by omega) (fun _ => rfl) hexByte_injective
    (String.ofList_injective h)

theorem newline_notMem_hexText (s : String) : '\n' ∉ (hexText s).toList := by
  have key : ∀ a < 16, '\n' ≠ Nat.digitChar a := by decide
  simp only [hexText, String.toList_ofList, List.mem_flatMap, hexByte,
    List.mem_cons, List.not_mem_nil, or_false, not_exists, not_and, not_or]
  intro b _
  have hb := b.toNat_lt
  exact ⟨key _ (by omega), key _ (by omega)⟩

/-! ## Decimal text -/

theorem newline_notMem_natText (n : Nat) : '\n' ∉ (toString n).toList := by
  intro h
  rw [Nat.toString_eq_ofList_toDigits, String.toList_ofList] at h
  have := Nat.isDigit_of_mem_toDigits (by omega) (by omega) h
  exact absurd this (by decide)

theorem natText_injective : Function.Injective (fun n : Nat => toString n) := by
  intro m n h
  exact Nat.repr_injective h

/-! ## Lines -/

/-- A text without line separator. -/
def OneLine (s : String) : Prop := '\n' ∉ s.toList

instance (s : String) : Decidable (OneLine s) := inferInstanceAs (Decidable (¬ _))

theorem OneLine.append {s t : String} (hs : OneLine s) (ht : OneLine t) :
    OneLine (s ++ t) := by
  simp only [OneLine, String.toList_append, List.mem_append, not_or]
  exact ⟨hs, ht⟩

theorem oneLine_hexText (s : String) : OneLine (hexText s) :=
  newline_notMem_hexText s

theorem oneLine_natText (n : Nat) : OneLine (toString n) :=
  newline_notMem_natText n

/-- `lines.join("\n")`. -/
def joinLines (lines : List String) : String := String.intercalate "\n" lines

theorem toList_joinLines (ls : List String) :
    (joinLines ls).toList = ['\n'].intercalate (ls.map String.toList) := by
  simp [joinLines, String.toList_intercalate]

theorem splitOn_joinLines {ls : List String} (hne : ls ≠ [])
    (h : ∀ l ∈ ls, OneLine l) :
    (joinLines ls).toList.splitOn '\n' = ls.map String.toList := by
  rw [toList_joinLines]
  refine List.splitOn_intercalate '\n' ?_ (by simpa using hne)
  intro l hl
  obtain ⟨s, hs, rfl⟩ := List.mem_map.mp hl
  exact h s hs

theorem map_toList_injective : Function.Injective (List.map String.toList) :=
  List.map_injective_iff.mpr fun _ _ h => String.toList_inj.mp h

/-- Joined lines determine the lines. -/
theorem joinLines_injective {ls₁ ls₂ : List String}
    (h₁ : ls₁ ≠ []) (h₂ : ls₂ ≠ []) (ho₁ : ∀ l ∈ ls₁, OneLine l)
    (ho₂ : ∀ l ∈ ls₂, OneLine l) (h : joinLines ls₁ = joinLines ls₂) :
    ls₁ = ls₂ := by
  have hsplit : ls₁.map String.toList = ls₂.map String.toList := by
    rw [← splitOn_joinLines h₁ ho₁, ← splitOn_joinLines h₂ ho₂, h]
  exact map_toList_injective hsplit

theorem toList_joinLines_terminated {ls : List String} (hne : ls ≠ []) :
    (joinLines (ls ++ [""])).toList = (joinLines ls).toList ++ ['\n'] := by
  induction ls with
  | nil => exact absurd rfl hne
  | cons l rest ih =>
      cases rest with
      | nil => simp [toList_joinLines, List.intercalate_cons_cons]
      | cons l' rest' =>
          have := ih (by simp)
          simp only [toList_joinLines, List.map_append, List.cons_append,
            List.map_cons, List.map_nil, List.intercalate_cons_cons] at this ⊢
          rw [this]
          simp

/-- Terminated lines are a prefix code: when a text starts with the lines
`ls₁`, each closed by a separator, then its own lines start with `ls₁`. -/
theorem lines_prefix_of_prefix {ls₁ ls₂ : List String}
    (h₁ : ls₁ ≠ []) (h₂ : ls₂ ≠ []) (ho₁ : ∀ l ∈ ls₁, OneLine l)
    (ho₂ : ∀ l ∈ ls₂, OneLine l)
    (h : (joinLines (ls₁ ++ [""])).toList <+: (joinLines ls₂).toList) :
    ls₁ <+: ls₂ := by
  obtain ⟨rest, hrest⟩ := h
  rw [toList_joinLines_terminated h₁, List.append_assoc, List.singleton_append] at hrest
  have hsplit : (joinLines ls₂).toList.splitOn '\n'
      = (joinLines ls₁).toList.splitOn '\n' ++ rest.splitOn '\n' := by
    rw [← hrest, List.splitOn_append_cons_self]
  rw [splitOn_joinLines h₁ ho₁, splitOn_joinLines h₂ ho₂] at hsplit
  obtain ⟨as, bs, hls, has, -⟩ := List.map_eq_append_iff.mp hsplit
  refine ⟨bs, ?_⟩
  rw [hls, map_toList_injective has]

/-! ## Parts between separators -/

/-- No part between separators holds a separator. -/
theorem notMem_of_mem_splitOn {α : Type} [BEq α] [LawfulBEq α] {c : α} {xs part : List α}
    (h : part ∈ xs.splitOn c) : c ∉ part := by
  induction xs generalizing part with
  | nil =>
      rw [List.splitOn_nil, List.mem_singleton] at h
      simp [h]
  | cons x xs ih =>
      rw [List.splitOn_cons_eq_if_modifyHead] at h
      split at h
      · rcases List.mem_cons.mp h with rfl | h
        · simp
        · exact ih h
      · rename_i hx
        obtain ⟨first, rest, hparts⟩ := List.exists_cons_of_ne_nil (List.splitOn_ne_nil c xs)
        rw [hparts, List.modifyHead_cons] at h
        rw [hparts] at ih
        rcases List.mem_cons.mp h with rfl | h
        · simp only [List.mem_cons, not_or]
          exact ⟨fun hc => hx (by rw [hc]; exact beq_self_eq_true x), ih (List.mem_cons_self ..)⟩
        · exact ih (List.mem_cons_of_mem _ h)

/-- What is read up to a separator ends at the first one. -/
theorem takeWhile_separated {separator : Char} {cs : List Char} (rest : List Char)
    (h : separator ∉ cs) :
    (cs ++ separator :: rest).takeWhile (· != separator) = cs
      ∧ (cs ++ separator :: rest).dropWhile (· != separator) = separator :: rest := by
  have hother : ∀ c ∈ cs, (c != separator) = true := by
    intro c hc
    simp only [bne_iff_ne, ne_eq]
    rintro rfl
    exact h hc
  rw [List.takeWhile_append_of_pos hother, List.dropWhile_append_of_pos hother]
  simp

/-! ## Labels -/

/-- A key without a colon ends at the first one: a field is read in one way. -/
theorem field_inj {key key' value value' : String} (hkey : ':' ∉ key.toList)
    (hkey' : ':' ∉ key'.toList) (h : key ++ ":" ++ value = key' ++ ":" ++ value') :
    key = key' ∧ value = value' := by
  have hlist : key.toList ++ ':' :: value.toList = key'.toList ++ ':' :: value'.toList := by
    simpa using congrArg String.toList h
  obtain ⟨hbefore, hafter⟩ := takeWhile_separated value.toList hkey
  obtain ⟨hbefore', hafter'⟩ := takeWhile_separated value'.toList hkey'
  rw [hlist] at hbefore hafter
  exact ⟨String.toList_inj.mp (hbefore.symm.trans hbefore'),
    String.toList_inj.mp (List.cons.inj (hafter.symm.trans hafter')).2⟩

/-- Two parts around a separator, which the parts may hold too: equal wholes have
equal parts, or the separator of one lies in a part of the other. -/
theorem append_cons_eq_iff {α : Type} {c : α} {xs ys xs' ys' : List α} :
    xs ++ c :: ys = xs' ++ c :: ys' ↔ (xs = xs' ∧ ys = ys')
      ∨ (∃ w, xs = xs' ++ c :: w ∧ ys' = w ++ c :: ys)
      ∨ ∃ w, xs' = xs ++ c :: w ∧ ys = w ++ c :: ys' := by
  rw [List.append_eq_append_iff]
  constructor
  · rintro (⟨zs, hxs, hys⟩ | ⟨zs, hxs, hys⟩)
    · cases zs with
      | nil =>
          rw [List.append_nil] at hxs
          exact Or.inl ⟨hxs.symm, (List.cons.inj hys).2⟩
      | cons z zs =>
          obtain ⟨rfl, htail⟩ := List.cons.inj hys
          exact Or.inr (Or.inr ⟨zs, hxs, htail⟩)
    · cases zs with
      | nil =>
          rw [List.append_nil] at hxs
          exact Or.inl ⟨hxs, (List.cons.inj hys).2.symm⟩
      | cons z zs =>
          obtain ⟨rfl, htail⟩ := List.cons.inj hys
          exact Or.inr (Or.inl ⟨zs, hxs, htail⟩)
  · rintro (⟨rfl, rfl⟩ | ⟨w, rfl, rfl⟩ | ⟨w, rfl, rfl⟩)
    · exact Or.inl ⟨[], by simp⟩
    · exact Or.inr ⟨c :: w, by simp⟩
    · exact Or.inl ⟨c :: w, by simp⟩

/-- Equal wholes have equal parts when the second parts hold the separator equally
often. -/
theorem append_cons_inj_of_count {α : Type} [BEq α] [LawfulBEq α] {c : α}
    {xs ys xs' ys' : List α} (h : xs ++ c :: ys = xs' ++ c :: ys')
    (hcount : ys.count c = ys'.count c) : xs = xs' ∧ ys = ys' := by
  rcases append_cons_eq_iff.mp h with h | ⟨w, -, rfl⟩ | ⟨w, -, rfl⟩
  · exact h
  · rw [List.count_append, List.count_cons_self] at hcount
    omega
  · rw [List.count_append, List.count_cons_self] at hcount
    omega

/-- Two labels with a colon between their parts. -/
theorem colon_eq_iff {v i v' i' : String} :
    v ++ ":" ++ i = v' ++ ":" ++ i' ↔ (v = v' ∧ i = i')
      ∨ (∃ w, v = v' ++ ":" ++ w ∧ i' = w ++ ":" ++ i)
      ∨ ∃ w, v' = v ++ ":" ++ w ∧ i = w ++ ":" ++ i' := by
  have hcolon : ":".toList = [':'] := rfl
  have hexists : ∀ P : List Char → Prop, (∃ w, P w) ↔ ∃ s : String, P s.toList := by
    intro P
    exact ⟨fun ⟨w, hw⟩ => ⟨String.ofList w, by simpa using hw⟩, fun ⟨s, hs⟩ => ⟨s.toList, hs⟩⟩
  simp only [← String.toList_inj, String.toList_append, hcolon, List.append_assoc,
    List.singleton_append, append_cons_eq_iff, hexists]

/-! ## Lossy decoding -/

/-- The replacement character U+FFFD. -/
def replacement : Char := Char.ofNat 0xFFFD

def isContinuation (b : Nat) : Bool := 0x80 ≤ b && b ≤ 0xBF

/-- May `b` follow the lead byte `lead`? Rules out overlong forms, surrogates
and code points past U+10FFFF; no byte follows a byte that leads nothing. -/
def mayFollow (lead b : Nat) : Bool :=
  if 0xC2 ≤ lead && lead ≤ 0xDF then isContinuation b
  else if lead = 0xE0 then 0xA0 ≤ b && b ≤ 0xBF
  else if lead = 0xED then 0x80 ≤ b && b ≤ 0x9F
  else if 0xE1 ≤ lead && lead ≤ 0xEF then isContinuation b
  else if lead = 0xF0 then 0x90 ≤ b && b ≤ 0xBF
  else if lead = 0xF4 then 0x80 ≤ b && b ≤ 0x8F
  else if 0xF1 ≤ lead && lead ≤ 0xF3 then isContinuation b
  else false

/-- The first character of a byte string, a maximal invalid prefix counting
as one replacement character, and the bytes after it. -/
def nextLossy (lead : Nat) (rest : List Nat) : Char × List Nat :=
  if lead < 0x80 then (Char.ofNat lead, rest)
  else match rest with
    | [] => (replacement, [])
    | b₁ :: rest₁ =>
        if !mayFollow lead b₁ then (replacement, rest)
        else if lead < 0xE0 then
          (Char.ofNat ((lead - 0xC0) * 64 + (b₁ - 0x80)), rest₁)
        else match rest₁ with
          | [] => (replacement, [])
          | b₂ :: rest₂ =>
              if !isContinuation b₂ then (replacement, rest₁)
              else if lead < 0xF0 then
                (Char.ofNat ((lead - 0xE0) * 4096 + (b₁ - 0x80) * 64 + (b₂ - 0x80)), rest₂)
              else match rest₂ with
                | [] => (replacement, [])
                | b₃ :: rest₃ =>
                    if !isContinuation b₃ then (replacement, rest₂)
                    else
                      (Char.ofNat ((lead - 0xF0) * 262144 + (b₁ - 0x80) * 4096
                        + (b₂ - 0x80) * 64 + (b₃ - 0x80)), rest₃)

/-- The characters of a byte string, `fuel` bounding their number. -/
def lossyChars : Nat → List Nat → List Char
  | 0, _ => []
  | _, [] => []
  | fuel + 1, lead :: rest =>
      let (c, rest') := nextLossy lead rest
      c :: lossyChars fuel rest'

/-- `String::from_utf8_lossy`. -/
def fromUtf8Lossy (bytes : List UInt8) : String :=
  String.ofList (lossyChars bytes.length (bytes.map UInt8.toNat))

/-! ## White space -/

/-- The Unicode `White_Space` property (`char::is_whitespace`). -/
def isWhitespace (c : Char) : Bool :=
  let n := c.toNat
  (9 ≤ n && n ≤ 13) || n == 0x20 || n == 0x85 || n == 0xA0 || n == 0x1680
    || (0x2000 ≤ n && n ≤ 0x200A) || n == 0x2028 || n == 0x2029
    || n == 0x202F || n == 0x205F || n == 0x3000

/-- `str::trim`. -/
def trim (s : String) : String :=
  String.ofList
    (((s.toList.dropWhile isWhitespace).reverse.dropWhile isWhitespace).reverse)

/-! ## Lines and affixes -/

/-- A line without the carriage return that ends it. -/
def stripCarriageReturn (line : List Char) : List Char :=
  if line.getLast? = some '\r' then line.dropLast else line

/-- `str::lines`: what follows the last line feed is a line unless it is empty,
and a carriage return belongs to the line feed after it. -/
def lines (s : String) : List String :=
  let parts := s.toList.splitOn '\n'
  let terminated := parts.dropLast.map stripCarriageReturn
  let last := parts.getLast?.filter fun line => !line.isEmpty
  (terminated ++ last.toList).map String.ofList

/-- The lines of terminated lines. -/
theorem lines_joinLines {ls : List String} (hne : ls ≠ []) (h : ∀ l ∈ ls, OneLine l) :
    lines (joinLines (ls ++ [""]))
      = ls.map fun l => String.ofList (stripCarriageReturn l.toList) := by
  have hsplit : (joinLines (ls ++ [""])).toList.splitOn '\n'
      = ls.map String.toList ++ [[]] := by
    rw [toList_joinLines_terminated hne, List.splitOn_append_cons_self, List.splitOn_nil,
      splitOn_joinLines hne h]
  simp [lines, hsplit, Function.comp_def]

/-- `str::starts_with`. -/
def startsWith (s start : String) : Bool := start.toList.isPrefixOf s.toList

/-- `str::ends_with`. -/
def endsWith (s ending : String) : Bool := ending.toList.isSuffixOf s.toList

theorem endsWith_append (s ending : String) : endsWith (s ++ ending) ending = true := by
  rw [endsWith, List.isSuffixOf_iff_suffix, String.toList_append]
  exact List.suffix_append ..

/-- `str::strip_prefix`. -/
def stripPrefix (s start : String) : Option String :=
  (start.toList.isPrefixOf? s.toList).map String.ofList

/-- `str::strip_suffix`. -/
def stripSuffix (s ending : String) : Option String :=
  (ending.toList.isSuffixOf? s.toList).map String.ofList

theorem stripPrefix_eq_some {s start rest : String} :
    stripPrefix s start = some rest ↔ s = start ++ rest := by
  rw [stripPrefix, Option.map_eq_some_iff]
  constructor
  · rintro ⟨cs, hcs, rfl⟩
    rw [List.isPrefixOf?_eq_some_iff_append_eq] at hcs
    rw [← String.toList_inj, String.toList_append, String.toList_ofList, hcs]
  · rintro rfl
    refine ⟨rest.toList, ?_, String.ofList_toList⟩
    rw [List.isPrefixOf?_eq_some_iff_append_eq, String.toList_append]

theorem stripSuffix_eq_some {s ending rest : String} :
    stripSuffix s ending = some rest ↔ s = rest ++ ending := by
  rw [stripSuffix, Option.map_eq_some_iff]
  constructor
  · rintro ⟨cs, hcs, rfl⟩
    rw [List.isSuffixOf?_eq_some_iff_append_eq] at hcs
    rw [← String.toList_inj, String.toList_append, String.toList_ofList, hcs]
  · rintro rfl
    refine ⟨rest.toList, ?_, String.ofList_toList⟩
    rw [List.isSuffixOf?_eq_some_iff_append_eq, String.toList_append]

end Text

end Blob
