import Blob.Checks
import Blob.Numerals
import Blob.Process
import Blob.Utf8

/-!
# Free space

`df -Pk` prints a header and, for the file system of a path, one line of
columns: the name of the file system, the blocks, those used, those available,
the capacity used and the mount point. `parse_df_available_bytes` takes the
fourth word of the line. The name is free text, and the available blocks are
the fourth word when the name is one (`parse_eq`); what is read when it is not,
and when that does no harm, is `read_available_iff`.
-/

namespace Blob

open Text Checks

/-! ## What the probe does -/

def parseDfAvailableBytes (output : String) : Option Nat := do
  let dataLine ← ((lines output).filter fun line => !(trim line).isEmpty).getLast?
  let availableKib ← (splitWhitespace dataLine)[3]?.bind parseU64
  checkedMul availableKib 1024

/-- The output is parsed by its last line that is not blank. -/
theorem parse_of_getLast {output dataLine : String}
    (h : ((lines output).filter fun line => !(trim line).isEmpty).getLast? = some dataLine) :
    parseDfAvailableBytes output
      = ((splitWhitespace dataLine)[3]?.bind parseU64).bind fun availableKib =>
        checkedMul availableKib 1024 := by
  unfold parseDfAvailableBytes
  rw [h]
  rfl

/-- `probe_free_space_bytes`, of the answer to `df -Pk path`. -/
def probeFreeSpaceBytes (answer : Except String ProcessOutput) : Except String Nat := do
  let output ← answer
  reject (output.status.success = false) (trim (fromUtf8Lossy output.stderr))
  match parseDfAvailableBytes (fromUtf8Lossy output.stdout) with
  | some bytes => return bytes
  | none => .error "could not parse POSIX df output"

/-! ## What df prints -/

/-- What stands between two columns. -/
structure Gap where
  text : String
  nonempty : text.toList ≠ []
  blank : ∀ c ∈ text.toList, c = ' ' ∨ c = '\t'

namespace Gap

theorem whitespace (self : Gap) : Blank self.text.toList where
  nonempty := self.nonempty
  whitespace := by
    intro c hc
    rcases self.blank c hc with rfl | rfl <;> decide

theorem oneLine (self : Gap) : OneLine self.text := by
  intro h
  rcases self.blank '\n' h with h | h <;> exact absurd h (by decide)

def single : Gap := ⟨" ", by decide, fun _ h => Or.inl (List.mem_singleton.mp h)⟩

end Gap

/-- The output of `df -Pk` for one file system. -/
structure DfOutput where
  header : String
  fileSystem : String
  afterFileSystem : Gap
  blocks : UInt64
  afterBlocks : Gap
  used : UInt64
  afterUsed : Gap
  available : UInt64
  afterAvailable : Gap
  capacity : Nat
  afterCapacity : Gap
  mountPoint : String
  header_oneLine : OneLine header
  fileSystem_nonempty : fileSystem ≠ ""
  fileSystem_oneLine : OneLine fileSystem
  mountPoint_oneLine : OneLine mountPoint

namespace DfOutput

def capacityText (self : DfOutput) : String := toString self.capacity ++ "%"

def dataLine (self : DfOutput) : String :=
  self.fileSystem ++ self.afterFileSystem.text ++ toString self.blocks.toNat
    ++ self.afterBlocks.text ++ toString self.used.toNat ++ self.afterUsed.text
    ++ toString self.available.toNat ++ self.afterAvailable.text ++ self.capacityText
    ++ self.afterCapacity.text ++ self.mountPoint

def text (self : DfOutput) : String := joinLines [self.header, self.dataLine, ""]

variable (self : DfOutput)

theorem oneLine_capacityText : OneLine self.capacityText :=
  (oneLine_natText _).append (by decide)

theorem oneLine_dataLine : OneLine self.dataLine :=
  self.fileSystem_oneLine
    |>.append self.afterFileSystem.oneLine |>.append (oneLine_natText _)
    |>.append self.afterBlocks.oneLine |>.append (oneLine_natText _)
    |>.append self.afterUsed.oneLine |>.append (oneLine_natText _)
    |>.append self.afterAvailable.oneLine |>.append self.oneLine_capacityText
    |>.append self.afterCapacity.oneLine |>.append self.mountPoint_oneLine

theorem words_capacityText :
    words self.capacityText.toList = [self.capacityText.toList] := by
  refine words_of_solid (by simp [capacityText]) ?_
  intro c hc
  rw [capacityText, String.toList_append] at hc
  rcases List.mem_append.mp hc with hc | hc
  · exact isWhitespace_of_isDigit (isDigit_of_mem_natText hc)
  · obtain rfl : c = '%' := by simpa using hc
    decide

/-- The words of the data line: those of the two names around the four columns. -/
theorem words_dataLine : words self.dataLine.toList
    = words self.fileSystem.toList
      ++ [ (toString self.blocks.toNat).toList, (toString self.used.toNat).toList
         , (toString self.available.toNat).toList, self.capacityText.toList ]
      ++ words self.mountPoint.toList := by
  simp only [dataLine, String.toList_append, List.append_assoc]
  rw [words_append_blank self.afterFileSystem.whitespace,
    words_append_blank self.afterBlocks.whitespace, words_append_blank self.afterUsed.whitespace,
    words_append_blank self.afterAvailable.whitespace,
    words_append_blank self.afterCapacity.whitespace, words_natText, words_natText,
    words_natText, words_capacityText]
  rfl

/-- The data line is not blank. -/
theorem trim_dataLine : (trim (String.ofList (stripCarriageReturn self.dataLine.toList))).isEmpty
    = false := by
  have hword : (toString self.available.toNat).toList
      ∈ words (stripCarriageReturn self.dataLine.toList) := by
    rw [words_stripCarriageReturn, words_dataLine]
    simp
  obtain ⟨c, hc⟩ := List.exists_mem_of_ne_nil _ (natText_ne_nil self.available.toNat)
  refine trim_nonempty (c := c) ?_ (isWhitespace_of_isDigit (isDigit_of_mem_natText hc))
  rw [String.toList_ofList]
  exact mem_of_mem_words hword hc

/-- The data line is the last line of the output that is not blank. -/
theorem getLast_text :
    ((lines self.text).filter fun line => !(trim line).isEmpty).getLast?
      = some (String.ofList (stripCarriageReturn self.dataLine.toList)) := by
  have hone : ∀ line ∈ [self.header, self.dataLine], OneLine line := by
    intro line hline
    simp only [List.mem_cons, List.not_mem_nil, or_false] at hline
    rcases hline with rfl | rfl
    · exact self.header_oneLine
    · exact self.oneLine_dataLine
  have htext : self.text = joinLines ([self.header, self.dataLine] ++ [""]) := rfl
  have hlines : lines self.text = [String.ofList (stripCarriageReturn self.header.toList),
      String.ofList (stripCarriageReturn self.dataLine.toList)] := by
    rw [htext, lines_joinLines (by simp) hone, List.map_cons, List.map_singleton]
  rw [hlines, List.filter_cons, List.filter_singleton, self.trim_dataLine]
  split <;> rfl

/-- What the probe takes for the available blocks, by the number of words in the name
of the file system. -/
def takenKib : Option Nat :=
  match words self.fileSystem.toList with
  | [] => none
  | [_] => some self.available.toNat
  | [_, _] => some self.used.toNat
  | [_, _, _] => some self.blocks.toNat
  | _ :: _ :: _ :: word :: _ => parseU64 (String.ofList word)

theorem parseU64_ofList_natText (n : UInt64) :
    parseU64 (String.ofList (toString n.toNat).toList) = some n.toNat := by
  rw [String.ofList_toList]
  exact parseU64_natText n.toNat_lt

theorem parse_eq : parseDfAvailableBytes self.text = self.takenKib.bind (checkedMul · 1024) := by
  have hcapacity : parseU64 (String.ofList self.capacityText.toList) = none := by
    rw [String.ofList_toList]
    exact parseU64_eq_none (c := '%') (by simp [capacityText]) (by decide) (by decide)
  refine (parse_of_getLast self.getLast_text).trans ?_
  refine congrArg (fun taken : Option Nat => taken.bind (checkedMul · 1024)) ?_
  rw [splitWhitespace, String.toList_ofList, words_stripCarriageReturn, words_dataLine,
    List.getElem?_map, takenKib]
  -- the words of the name move the columns: the fourth word is one of them, or of the name
  rcases words self.fileSystem.toList with _ | ⟨_, _ | ⟨_, _ | ⟨_, _ | ⟨word, rest⟩⟩⟩⟩ <;>
    simp only [List.nil_append, List.cons_append, List.getElem?_cons_succ,
      List.getElem?_cons_zero, Option.map_some, Option.bind_some]
  · exact hcapacity
  · exact parseU64_ofList_natText _
  · exact parseU64_ofList_natText _
  · exact parseU64_ofList_natText _

/-! ## When it is right -/

/-- Numbers of blocks that come to the same number of bytes, or to too many. -/
def SameBytes (n m : Nat) : Prop := n = m ∨ (2 ^ 64 ≤ n * 1024 ∧ 2 ^ 64 ≤ m * 1024)

theorem checkedMul_eq_iff {n m : Nat} :
    checkedMul n 1024 = checkedMul m 1024 ↔ SameBytes n m := by
  unfold checkedMul SameBytes
  split <;> split
  · rw [Option.some.injEq]
    omega
  · simp
    omega
  · simp
    omega
  · simp
    omega

theorem checkedMul_eq_none_iff {n : Nat} : none = checkedMul n 1024 ↔ 2 ^ 64 ≤ n * 1024 := by
  unfold checkedMul
  split
  · simp
    omega
  · simp
    omega

/-- The name of the file system is one word; or what is taken instead of the available
blocks comes to the same, or is as little a number as they are. -/
def Aligned : Prop :=
  match words self.fileSystem.toList with
  | [] => 2 ^ 64 ≤ self.available.toNat * 1024
  | [_] => True
  | [_, _] => SameBytes self.used.toNat self.available.toNat
  | [_, _, _] => SameBytes self.blocks.toNat self.available.toNat
  | _ :: _ :: _ :: word :: _ =>
      match parseU64 (String.ofList word) with
      | some n => SameBytes n self.available.toNat
      | none => 2 ^ 64 ≤ self.available.toNat * 1024

/-- The available blocks are read, or found to be too many bytes, exactly when the
columns are where the probe takes them to be. -/
theorem read_available_iff :
    parseDfAvailableBytes self.text = checkedMul self.available.toNat 1024 ↔ self.Aligned := by
  rw [parse_eq, takenKib, Aligned]
  rcases words self.fileSystem.toList with _ | ⟨_, _ | ⟨_, _ | ⟨_, _ | ⟨word, rest⟩⟩⟩⟩
  · exact checkedMul_eq_none_iff
  · exact iff_of_true rfl trivial
  · exact checkedMul_eq_iff
  · exact checkedMul_eq_iff
  · dsimp only
    cases parseU64 (String.ofList word) with
    | none => exact checkedMul_eq_none_iff
    | some n => exact checkedMul_eq_iff

/-- The output for the store on a file system of some name. -/
def pilot (fileSystem : String) (hne : fileSystem ≠ "") (hone : OneLine fileSystem) : DfOutput where
  header := "Filesystem 1024-blocks Used Available Capacity Mounted on"
  fileSystem := fileSystem
  afterFileSystem := .single
  blocks := 100000
  afterBlocks := .single
  used := 25000
  afterUsed := .single
  available := 75000
  afterAvailable := .single
  capacity := 25
  afterCapacity := .single
  mountPoint := "/nix/store"
  header_oneLine := by decide
  fileSystem_nonempty := hne
  fileSystem_oneLine := hone
  mountPoint_oneLine := by decide

/-- The used blocks of a file system of two words are read as the available ones. -/
theorem used_read :
    (pilot "my disk" (by decide) (by decide)).text
        = "Filesystem 1024-blocks Used Available Capacity Mounted on\nmy disk 100000 25000 75000 25% /nix/store\n"
      ∧ parseDfAvailableBytes (pilot "my disk" (by decide) (by decide)).text
        = some (25000 * 1024)
      ∧ checkedMul (pilot "my disk" (by decide) (by decide)).available.toNat 1024
        = some (75000 * 1024) := by
  refine ⟨by decide, ?_, by decide⟩
  rw [parse_eq]
  decide

end DfOutput

end Blob
