import Blob.Text

/-!
# Unix paths

`std::path` on Unix: a path is a byte string, and what it means is its
list of components - separators collapse, `.` disappears except at the
start of a relative path, `..` stays. Two paths are equal when their
components are (`instBEqPathBuf`), which is coarser than equality of
their text.

`components_join` is the fact path checks rest on: joining a relative
name appends that name's components.
-/

namespace Blob

/-- A path: any byte string. -/
structure PathBuf where
  bytes : List UInt8
deriving Repr, DecidableEq

/-- A path component (`std::path::Component`, without the Windows prefix). -/
inductive Component where
  | rootDir
  | curDir
  | parentDir
  | normal (name : List UInt8)
deriving Repr, DecidableEq

namespace PathBuf

open Text

/-- The byte `/`. -/
def separator : UInt8 := 47

/-- `PathBuf::from(&str)`. -/
def ofString (s : String) : PathBuf := ⟨utf8Bytes s⟩

/-- `Path::display`. -/
def display (p : PathBuf) : String := fromUtf8Lossy p.bytes

def isAbsolute (p : PathBuf) : Bool := p.bytes.head? == some separator

/-- One part between separators, away from the start of a relative path. -/
def partComponent? (part : List UInt8) : Option Component :=
  if part = [] then none
  else if part = utf8Bytes "." then none
  else if part = utf8Bytes ".." then some .parentDir
  else some (.normal part)

/-- `Path::components`: the root, or the `.` that opens a relative path, and
then every part that is neither empty nor `.`. -/
def components (p : PathBuf) : List Component :=
  let parts := p.bytes.splitOn separator
  let start :=
    if p.isAbsolute then [.rootDir]
    else if parts.head? = some (utf8Bytes ".") then [.curDir]
    else []
  start ++ parts.filterMap partComponent?

/-- Paths are compared by their components. -/
instance instBEqPathBuf : BEq PathBuf where
  beq p q := p.components == q.components

instance : ReflBEq PathBuf where
  rfl {p} := beq_self_eq_true p.components

/-- `Path::join`. -/
def join (p : PathBuf) (name : String) : PathBuf :=
  let q := ofString name
  if q.isAbsolute then q
  else if p.bytes.getLast?.any (· != separator) then ⟨p.bytes ++ separator :: q.bytes⟩
  else ⟨p.bytes ++ q.bytes⟩

/-! ## Components of built paths -/

/-- Components are never empty names. -/
theorem normal_ne_nil {p : PathBuf} {name : List UInt8}
    (h : .normal name ∈ p.components) : name ≠ [] := by
  simp only [components, List.mem_append, List.mem_filterMap] at h
  rcases h with h | ⟨part, -, hpart⟩
  · split at h
    · simp at h
    · split at h <;> simp at h
  · simp only [partComponent?] at hpart
    split at hpart
    · cases hpart
    · rename_i hne
      split at hpart
      · cases hpart
      · split at hpart
        · cases hpart
        · obtain rfl := Component.normal.inj (Option.some.inj hpart)
          exact hne

/-- The components a relative name adds below a directory. -/
def below (name : String) : List Component :=
  ((utf8Bytes name).splitOn separator).filterMap partComponent?

/-- Appending `/` and a relative name to a non-empty text adds the
components of the name. -/
theorem components_append {bs : List UInt8} (hne : bs ≠ []) (name : String) :
    components ⟨bs ++ separator :: utf8Bytes name⟩
      = components ⟨bs⟩ ++ below name := by
  have hhead : (bs ++ separator :: utf8Bytes name).head? = bs.head? := by
    cases bs with
    | nil => exact absurd rfl hne
    | cons b rest => rfl
  have hsplit : ((bs.splitOn separator) ++ ((utf8Bytes name).splitOn separator)).head?
      = (bs.splitOn separator).head? := by
    cases hb : bs.splitOn separator with
    | nil => exact absurd hb (List.splitOn_ne_nil _ _)
    | cons part rest => rfl
  simp only [components, isAbsolute, hhead, List.splitOn_append_cons_self, hsplit,
    List.filterMap_append, below, List.append_assoc]
  rfl

/-- Joining a relative name below a non-empty path adds its components. -/
theorem components_join {p : PathBuf} (hne : p.bytes ≠ []) {name : String}
    (hrel : (ofString name).isAbsolute = false) :
    (p.join name).components = p.components ++ below name := by
  have happ := components_append hne name
  simp only [join, hrel, Bool.false_eq_true, if_false]
  split
  · exact happ
  · rename_i hlast
    obtain ⟨init, last, hp⟩ : ∃ init last, p.bytes = init ++ [last] :=
      ⟨_, _, (List.dropLast_append_getLast hne).symm⟩
    have hsep : last = separator := by
      rw [hp] at hlast
      simpa using hlast
    subst hsep
    -- the text already ends in a separator: no second one is put in
    have hbytes : p.bytes ++ (ofString name).bytes
        = init ++ separator :: utf8Bytes name := by
      rw [hp, List.append_assoc, List.singleton_append]; rfl
    have hsplit : (init ++ [separator]).splitOn separator
        = init.splitOn separator ++ [[]] := by
      rw [List.splitOn_append_cons_self, List.splitOn_nil]
    have hhead : ∀ xs : List (List UInt8),
        (init.splitOn separator ++ xs).head? = (init.splitOn separator).head? := by
      intro xs
      cases hb : init.splitOn separator with
      | nil => exact absurd hb (List.splitOn_ne_nil _ _)
      | cons part rest => rfl
    have habs : ∀ xs : List UInt8,
        (init ++ separator :: xs).head? = (init ++ [separator]).head? := by
      intro xs; cases init <;> rfl
    rw [hbytes]
    simp only [components, isAbsolute, hp, habs, List.splitOn_append_cons_self,
      hsplit, hhead, List.filterMap_append, below, List.append_assoc]
    simp [partComponent?]

/-- Different relative names below a directory are different paths. -/
theorem join_injective {p : PathBuf} {name name' : String}
    (hrel : (ofString name).isAbsolute = false) (hrel' : (ofString name').isAbsolute = false)
    (h : p.join name = p.join name') : name = name' := by
  simp only [join, hrel, hrel', Bool.false_eq_true, if_false] at h
  refine utf8Bytes_injective ?_
  split at h
  · exact (List.cons.inj (List.append_cancel_left (PathBuf.mk.inj h))).2
  · exact List.append_cancel_left (PathBuf.mk.inj h)

/-- A file whose name holds a text in hexadecimal is the file of that text. -/
theorem join_hexText_injective {p : PathBuf} {start ending s t : String}
    (hne : utf8Bytes start ≠ []) (hrel : (ofString start).isAbsolute = false)
    (h : p.join (start ++ hexText s ++ ending) = p.join (start ++ hexText t ++ ending)) :
    s = t := by
  have hname : ∀ s, (ofString (start ++ hexText s ++ ending)).isAbsolute = false := by
    intro s
    rw [← hrel]
    show ((utf8Bytes _).head? == _) = ((utf8Bytes start).head? == _)
    rw [utf8Bytes_append, utf8Bytes_append, List.append_assoc,
      List.head?_append_of_ne_nil _ hne]
  have heq := join_injective (hname s) (hname t) h
  exact hexText_injective ((String.append_right_inj _).mp ((String.append_left_inj _).mp heq))

/-- A joined path ends as the name does. -/
theorem getLast?_join (p : PathBuf) {name : String} (hne : utf8Bytes name ≠ []) :
    (p.join name).bytes.getLast? = (utf8Bytes name).getLast? := by
  have hlast : ∀ bs : List UInt8, (bs ++ utf8Bytes name).getLast? = (utf8Bytes name).getLast? :=
    fun bs => List.getLast?_append_of_ne_nil bs hne
  simp only [join]
  split
  · rfl
  · split
    · rw [List.append_cons]
      exact hlast _
    · exact hlast _

end PathBuf

end Blob
