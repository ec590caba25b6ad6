import Blob.Path
import Blob.Prog

/-!
# A file system

The file operations of `std::fs` that single-use markers are built from -
create-exclusive, write, sync, read, remove, stat - as a signature, and
the files they act on as a state (`Fs`) with the transitions each
operation and answer allows (`Fs.Step`).

The transitions are truthful but unreliable: any operation may fail
without effect, a failing write may have written a prefix, and what a
successful operation answers is what the state holds. A file is an
inode: removing a name and creating it again gives a different file,
and a handle keeps denoting the file it was opened on.
-/

namespace Blob

inductive ErrorKind where
  | alreadyExists
  | notFound
  | other
deriving Repr, DecidableEq

structure IoError where
  kind : ErrorKind
  text : String
deriving Repr, DecidableEq

structure Metadata where
  isSymlink : Bool
  isDir : Bool
  isFile : Bool
  uid : Nat
  mode : Nat
deriving Repr, DecidableEq

/-- An open file, or an open directory. -/
inductive Handle where
  | file (inode : Nat)
  | dir
deriving Repr, DecidableEq

inductive FsOp where
  | symlinkMetadata (path : PathBuf)
  | createNew (path : PathBuf) (mode : Nat)
  | openFile (path : PathBuf)
  | writeAll (file : Handle) (text : String)
  | syncAll (file : Handle)
  | readToString (file : Handle)
  | removeFile (path : PathBuf)
deriving Repr, DecidableEq

def FsOp.isRemove : FsOp → Bool
  | .removeFile _ => true
  | _ => false

abbrev FsOp.Ans : FsOp → Type
  | .symlinkMetadata _ => Except IoError Metadata
  | .createNew _ _ => Except IoError Handle
  | .openFile _ => Except IoError Handle
  | .writeAll _ _ => Except IoError Unit
  | .syncAll _ => Except IoError Unit
  | .readToString _ => Except IoError String
  | .removeFile _ => Except IoError Unit

abbrev FsSig : Sig where
  Op := FsOp
  Ans := FsOp.Ans

/-! ## The operations as programs -/

namespace File

/-- `fs::symlink_metadata(path)`. -/
def symlinkMetadata (path : PathBuf) : Prog FsSig IoError Metadata :=
  .call (.symlinkMetadata path) .ofExcept

/-- `OpenOptions::new().write(true).create_new(true).mode(mode).open(path)`. -/
def createNew (path : PathBuf) (mode : Nat) : Prog FsSig IoError Handle :=
  .call (.createNew path mode) .ofExcept

/-- `File::open(path)`. -/
def openFile (path : PathBuf) : Prog FsSig IoError Handle :=
  .call (.openFile path) .ofExcept

/-- `file.write_all(text.as_bytes())`. -/
def writeAll (file : Handle) (text : String) : Prog FsSig IoError Unit :=
  .call (.writeAll file text) .ofExcept

/-- `file.sync_all()`. -/
def syncAll (file : Handle) : Prog FsSig IoError Unit :=
  .call (.syncAll file) .ofExcept

/-- `file.read_to_string(..)` from the start of the file. -/
def readToString (file : Handle) : Prog FsSig IoError String :=
  .call (.readToString file) .ofExcept

/-- `fs::remove_file(path)`. -/
def removeFile (path : PathBuf) : Prog FsSig IoError Unit :=
  .call (.removeFile path) .ofExcept

/-- `File::open(dir).and_then(|directory| directory.sync_all())`. -/
def syncDirectory (dir : PathBuf) : Prog FsSig IoError Unit := do
  let directory ← openFile dir
  syncAll directory

end File

/-! ## The files -/

structure Inode where
  content : String
  metadata : Metadata
deriving Repr, DecidableEq

/-- Names of files, the files themselves, the first inode number not in
use, and the directories. -/
structure Fs where
  names : PathBuf → Option Nat
  inodes : Nat → Inode
  next : Nat
  dirs : PathBuf → Option Metadata

namespace Fs

/-- Nothing has this name. -/
def Free (fs : Fs) (path : PathBuf) : Prop :=
  fs.names path = none ∧ fs.dirs path = none

def content (fs : Fs) (i : Nat) : String := (fs.inodes i).content

/-- What the file of this name holds. -/
def text (fs : Fs) (path : PathBuf) : Option String := (fs.names path).map fs.content

/-- One empty directory, for its owner only. -/
def emptyDirectory (root : PathBuf) : Fs where
  names _ := none
  inodes _ := ⟨"", ⟨false, false, true, 0, 0o600⟩⟩
  next := 0
  dirs path := if path = root then some ⟨false, true, false, 0, 0o700⟩ else none

/-- The metadata a name shows. -/
def stat (fs : Fs) (path : PathBuf) : Option Metadata :=
  match fs.names path with
  | some i => some (fs.inodes i).metadata
  | none => fs.dirs path

/-- A new empty file under a free name. -/
def create (fs : Fs) (path : PathBuf) (metadata : Metadata) : Fs :=
  { fs with
    names := fun p => if p = path then some fs.next else fs.names p
    inodes := fun i => if i = fs.next then ⟨"", metadata⟩ else fs.inodes i
    next := fs.next + 1 }

/-- Write at the end of a file. -/
def append (fs : Fs) (i : Nat) (text : String) : Fs :=
  { fs with
    inodes := fun j => if j = i then
      ⟨(fs.inodes i).content ++ text, (fs.inodes i).metadata⟩ else fs.inodes j }

def remove (fs : Fs) (path : PathBuf) : Fs :=
  { fs with names := fun p => if p = path then none else fs.names p }

/-- What an operation with a given answer may do to the files. -/
def Step (fs : Fs) : Event FsSig → Fs → Prop
  | ⟨.symlinkMetadata path, .ok metadata⟩, fs' =>
      fs.stat path = some metadata ∧ fs' = fs
  | ⟨.symlinkMetadata path, .error e⟩, fs' =>
      (e.kind = .notFound → fs.Free path) ∧ fs' = fs
  | ⟨.createNew path _, .ok file⟩, fs' =>
      fs.Free path ∧ file = .file fs.next ∧ ∃ metadata, fs' = fs.create path metadata
  | ⟨.createNew path _, .error e⟩, fs' =>
      (e.kind = .alreadyExists → ¬ fs.Free path) ∧ fs' = fs
  | ⟨.openFile path, .ok (.file i)⟩, fs' => fs.names path = some i ∧ fs' = fs
  | ⟨.openFile path, .ok .dir⟩, fs' => fs.dirs path ≠ none ∧ fs' = fs
  | ⟨.openFile path, .error e⟩, fs' =>
      (e.kind = .notFound → fs.Free path) ∧ fs' = fs
  | ⟨.writeAll (.file i) text, .ok _⟩, fs' => fs' = fs.append i text
  | ⟨.writeAll (.file i) text, .error _⟩, fs' =>
      ∃ chunk : String, chunk.toList <+: text.toList ∧ fs' = fs.append i chunk
  | ⟨.writeAll .dir _, .ok _⟩, _ => False
  | ⟨.writeAll .dir _, .error _⟩, fs' => fs' = fs
  | ⟨.syncAll _, _⟩, fs' => fs' = fs
  | ⟨.readToString (.file i), .ok text⟩, fs' => text = fs.content i ∧ fs' = fs
  | ⟨.readToString .dir, .ok _⟩, _ => False
  | ⟨.readToString _, .error _⟩, fs' => fs' = fs
  | ⟨.removeFile path, .ok _⟩, fs' => fs.names path ≠ none ∧ fs' = fs.remove path
  | ⟨.removeFile path, .error e⟩, fs' =>
      (e.kind = .notFound → fs.names path = none) ∧ fs' = fs

/-! ## Files that never fail -/

instance (fs : Fs) (path : PathBuf) : Decidable (fs.Free path) :=
  inferInstanceAs (Decidable (_ ∧ _))

def notFound : IoError := ⟨.notFound, "No such file or directory (os error 2)"⟩

def fileExists : IoError := ⟨.alreadyExists, "File exists (os error 17)"⟩

def isADirectory : IoError := ⟨.other, "Is a directory (os error 21)"⟩

/-- The answers of files on which an operation fails only where it cannot succeed.
`created` is the metadata a new file gets for a mode: its owner is the process,
and the umask may take bits away. -/
def serve (created : Nat → Metadata) (fs : Fs) : (o : FsOp) → o.Ans × Fs
  | .symlinkMetadata path =>
      match fs.stat path with
      | some metadata => (.ok metadata, fs)
      | none => (.error notFound, fs)
  | .createNew path mode =>
      if fs.Free path then (.ok (.file fs.next), fs.create path (created mode))
      else (.error fileExists, fs)
  | .openFile path =>
      match fs.names path, fs.dirs path with
      | some i, _ => (.ok (.file i), fs)
      | none, some _ => (.ok .dir, fs)
      | none, none => (.error notFound, fs)
  | .writeAll (.file i) text => (.ok (), fs.append i text)
  | .writeAll .dir _ => (.error isADirectory, fs)
  | .syncAll _ => (.ok (), fs)
  | .readToString (.file i) => (.ok (fs.content i), fs)
  | .readToString .dir => (.error isADirectory, fs)
  | .removeFile path =>
      match fs.names path, fs.dirs path with
      | some _, _ => (.ok (), fs.remove path)
      | none, some _ => (.error isADirectory, fs)
      | none, none => (.error notFound, fs)

/-- They are files that may do what they do. -/
theorem serve_step (created : Nat → Metadata) (fs : Fs) (o : FsOp) :
    fs.Step ⟨o, (fs.serve created o).1⟩ (fs.serve created o).2 := by
  cases o with
  | symlinkMetadata path =>
      simp only [serve]
      cases hstat : fs.stat path with
      | some metadata => exact ⟨hstat, rfl⟩
      | none =>
          refine ⟨fun _ => ?_, rfl⟩
          cases hname : fs.names path with
          | some i => simp [stat, hname] at hstat
          | none => exact ⟨hname, by simpa [stat, hname] using hstat⟩
  | createNew path mode =>
      simp only [serve]
      split
      · rename_i hfree
        exact ⟨hfree, rfl, _, rfl⟩
      · rename_i htaken
        exact ⟨fun _ => htaken, rfl⟩
  | openFile path =>
      simp only [serve]
      cases hname : fs.names path with
      | some i => exact ⟨hname, rfl⟩
      | none =>
          cases hdir : fs.dirs path with
          | some metadata => exact ⟨by simp [hdir], rfl⟩
          | none => exact ⟨fun _ => ⟨hname, hdir⟩, rfl⟩
  | writeAll file text => cases file <;> rfl
  | syncAll file => rfl
  | readToString file =>
      cases file with
      | file i => exact ⟨rfl, rfl⟩
      | dir => rfl
  | removeFile path =>
      simp only [serve]
      cases hname : fs.names path with
      | some i => exact ⟨by simp [hname], rfl⟩
      | none => cases hdir : fs.dirs path <;> exact ⟨fun _ => hname, rfl⟩

theorem not_free_of_stat {fs : Fs} {path : PathBuf} {metadata : Metadata}
    (h : fs.stat path = some metadata) : ¬ fs.Free path := by
  rintro ⟨hname, hdir⟩
  rw [stat, hname, hdir] at h
  cases h

/-- What is there can be opened. -/
theorem serve_openFile (created : Nat → Metadata) {fs : Fs} {path : PathBuf}
    (h : ¬ fs.Free path) : ∃ file, fs.serve created (.openFile path) = (.ok file, fs) := by
  simp only [serve]
  cases hname : fs.names path with
  | some i => exact ⟨_, rfl⟩
  | none =>
      cases hdir : fs.dirs path with
      | some metadata => exact ⟨_, rfl⟩
      | none => exact absurd ⟨hname, hdir⟩ h

/-! ## What a step changes -/

/-- A name is given or removed in this event. -/
def changesNames : Event FsSig → Bool
  | ⟨.createNew _ _, .ok _⟩ => true
  | ⟨.removeFile _, .ok _⟩ => true
  | _ => false

/-- Every step leaves the files alone, creates one, writes to one, or removes
a name. -/
theorem step_cases {fs fs' : Fs} {e : Event FsSig} (h : fs.Step e fs') :
    (fs' = fs ∧ changesNames e = false)
      ∨ (∃ path mode metadata, e = ⟨.createNew path mode, .ok (.file fs.next)⟩
        ∧ fs.Free path ∧ fs' = fs.create path metadata)
      ∨ (∃ i text answer chunk, e = ⟨.writeAll (.file i) text, answer⟩
        ∧ chunk.toList <+: text.toList ∧ fs' = fs.append i chunk)
      ∨ (∃ path, e = ⟨.removeFile path, .ok ()⟩ ∧ fs' = fs.remove path) := by
  obtain ⟨op, ans⟩ := e
  cases op with
  | symlinkMetadata path =>
      rcases ans with e | metadata <;> exact Or.inl ⟨h.2, rfl⟩
  | createNew path mode =>
      rcases ans with e | file
      · exact Or.inl ⟨h.2, rfl⟩
      · obtain ⟨hfree, rfl, metadata, rfl⟩ := h
        exact Or.inr (Or.inl ⟨path, mode, metadata, rfl, hfree, rfl⟩)
  | openFile path =>
      rcases ans with e | (i | _) <;> exact Or.inl ⟨h.2, rfl⟩
  | writeAll file text =>
      rcases file with i | _
      · rcases ans with e | _
        · obtain ⟨chunk, hchunk, rfl⟩ := h
          exact Or.inr (Or.inr (Or.inl ⟨i, text, _, chunk, rfl, hchunk, rfl⟩))
        · exact Or.inr (Or.inr (Or.inl ⟨i, text, _, text, rfl, List.prefix_rfl, h⟩))
      · rcases ans with e | _
        · exact Or.inl ⟨h, rfl⟩
        · exact absurd h id
  | syncAll file => exact Or.inl ⟨h, rfl⟩
  | readToString file =>
      rcases file with i | _
      · rcases ans with e | text
        · exact Or.inl ⟨h, rfl⟩
        · exact Or.inl ⟨h.2, rfl⟩
      · rcases ans with e | text
        · exact Or.inl ⟨h, rfl⟩
        · exact absurd h id
  | removeFile path =>
      rcases ans with e | _
      · exact Or.inl ⟨h.2, rfl⟩
      · exact Or.inr (Or.inr (Or.inr ⟨path, rfl, h.2⟩))

@[simp] theorem create_names_self (fs : Fs) (path : PathBuf) (metadata : Metadata) :
    (fs.create path metadata).names path = some fs.next := by
  simp [create]

theorem create_names_ne {fs : Fs} {path path' : PathBuf} (hne : path' ≠ path)
    (metadata : Metadata) : (fs.create path metadata).names path' = fs.names path' := by
  simp [create, hne]

@[simp] theorem create_next (fs : Fs) (path : PathBuf) (metadata : Metadata) :
    (fs.create path metadata).next = fs.next + 1 := rfl

@[simp] theorem append_names (fs : Fs) (i : Nat) (text : String) :
    (fs.append i text).names = fs.names := rfl

@[simp] theorem append_next (fs : Fs) (i : Nat) (text : String) :
    (fs.append i text).next = fs.next := rfl

@[simp] theorem remove_names_self (fs : Fs) (path : PathBuf) :
    (fs.remove path).names path = none := by
  simp [remove]

theorem remove_names_ne {fs : Fs} {path path' : PathBuf} (hne : path' ≠ path) :
    (fs.remove path).names path' = fs.names path' := by
  simp [remove, hne]

@[simp] theorem remove_next (fs : Fs) (path : PathBuf) : (fs.remove path).next = fs.next :=
  rfl

theorem create_content_self (fs : Fs) (path : PathBuf) (metadata : Metadata) :
    (fs.create path metadata).content fs.next = "" := by
  simp [create, content]

theorem create_content_ne {fs : Fs} {i : Nat} (hne : i ≠ fs.next) (path : PathBuf)
    (metadata : Metadata) : (fs.create path metadata).content i = fs.content i := by
  simp [create, content, hne]

theorem append_content_self (fs : Fs) (i : Nat) (text : String) :
    (fs.append i text).content i = fs.content i ++ text := by
  simp [append, content]

theorem append_content_ne {fs : Fs} {i j : Nat} (hne : j ≠ i) (text : String) :
    (fs.append i text).content j = fs.content j := by
  simp [append, content, hne]

@[simp] theorem remove_content (fs : Fs) (path : PathBuf) :
    (fs.remove path).content = fs.content := rfl

/-- What a name denotes goes only by its removal. -/
theorem names_of_step {fs fs' : Fs} {e : Event FsSig} (h : fs.Step e fs')
    (hkeep : e.op.isRemove = false) {path : PathBuf} {i : Nat} (hname : fs.names path = some i) :
    fs'.names path = some i := by
  rcases step_cases h with ⟨rfl, -⟩ | ⟨path', mode, metadata, rfl, hfree, rfl⟩
      | ⟨j, text, answer, chunk, rfl, -, rfl⟩ | ⟨path', rfl, rfl⟩
  · exact hname
  · have hne : path ≠ path' := by
      rintro rfl
      rw [hfree.1] at hname
      cases hname
    rw [create_names_ne hne, hname]
  · exact hname
  · cases hkeep

theorem names_ne_none_of_step {fs fs' : Fs} {e : Event FsSig} (h : fs.Step e fs')
    (hkeep : e.op.isRemove = false) {path : PathBuf} (hnamed : fs.names path ≠ none) :
    fs'.names path ≠ none := by
  obtain ⟨i, hname⟩ := Option.ne_none_iff_exists'.mp hnamed
  rw [names_of_step h hkeep hname]
  exact Option.some_ne_none i

/-- A name is taken only by its creation. -/
theorem names_none_of_step {fs fs' : Fs} {e : Event FsSig} (h : fs.Step e fs')
    {path : PathBuf} (hnew : ∀ mode, e.op ≠ .createNew path mode)
    (hnone : fs.names path = none) : fs'.names path = none := by
  rcases step_cases h with ⟨rfl, -⟩ | ⟨path', mode, metadata, rfl, -, rfl⟩
      | ⟨j, text, answer, chunk, rfl, -, rfl⟩ | ⟨path', rfl, rfl⟩
  · exact hnone
  · have hne : path ≠ path' := by
      rintro rfl
      exact hnew mode rfl
    rw [create_names_ne hne, hnone]
  · exact hnone
  · by_cases hp : path = path'
    · rw [hp, remove_names_self]
    · rw [remove_names_ne hp, hnone]

/-- A path that is free stays free until a file is created there, and one that
is taken stays taken. -/
theorem free_of_step {fs fs' : Fs} {e : Event FsSig} (h : fs.Step e fs')
    (hkeep : e.op.isRemove = false) (path : PathBuf) :
    fs'.Free path ↔ fs.Free path ∧ ¬ ∃ mode file, e = ⟨.createNew path mode, .ok file⟩ := by
  rcases step_cases h with ⟨rfl, hsame⟩ | ⟨path', mode, metadata, rfl, -, rfl⟩
      | ⟨i, text, answer, chunk, rfl, -, rfl⟩ | ⟨path', rfl, -⟩
  · refine (and_iff_left ?_).symm
    rintro ⟨mode, file, rfl⟩
    cases hsame
  · by_cases hp : path = path'
    · subst hp
      refine iff_of_false (fun hfree => ?_) fun hfree => hfree.2 ⟨mode, _, rfl⟩
      have hnone := hfree.1
      rw [create_names_self] at hnone
      cases hnone
    · have hother : ¬ ∃ mode' file, (⟨.createNew path' mode, .ok (.file fs.next)⟩ : Event FsSig)
          = ⟨.createNew path mode', .ok file⟩ := by
        rintro ⟨mode', file, he⟩
        exact hp (FsOp.createNew.inj (congrArg Event.op he)).1.symm
      rw [and_iff_left hother, Free, create_names_ne hp]
      rfl
  · refine (and_iff_left ?_).symm
    rintro ⟨mode, file, he⟩
    cases congrArg Event.op he
  · cases hkeep

/-! ## Inode numbers -/

/-- Every inode number in use is below the first one not in use. -/
def Fresh (fs : Fs) : Prop := ∀ path i, fs.names path = some i → i < fs.next

theorem fresh_emptyDirectory (root : PathBuf) : (emptyDirectory root).Fresh := nofun

theorem Fresh.create {fs : Fs} (hfresh : fs.Fresh) (path : PathBuf) (metadata : Metadata) :
    (fs.create path metadata).Fresh := by
  intro path' i hname
  by_cases hp : path' = path
  · rw [hp, create_names_self] at hname
    exact Option.some.inj hname ▸ Nat.lt_succ_self _
  · rw [create_names_ne hp] at hname
    exact Nat.lt_succ_of_lt (hfresh path' i hname)

theorem Fresh.remove {fs : Fs} (hfresh : fs.Fresh) (path : PathBuf) :
    (fs.remove path).Fresh := by
  intro path' i hname
  by_cases hp : path' = path
  · rw [hp, remove_names_self] at hname
    cases hname
  · rw [remove_names_ne hp] at hname
    exact hfresh path' i hname

theorem Fresh.step {fs fs' : Fs} {e : Event FsSig} (hfresh : fs.Fresh) (h : fs.Step e fs') :
    fs'.Fresh := by
  rcases step_cases h with ⟨rfl, -⟩ | ⟨path, mode, metadata, rfl, -, rfl⟩
      | ⟨j, text, answer, chunk, rfl, -, rfl⟩ | ⟨path, rfl, rfl⟩
  · exact hfresh
  · exact hfresh.create path metadata
  · exact hfresh
  · exact hfresh.remove path

/-- A new file holds what is written to it. -/
theorem text_append_create (fs : Fs) (path : PathBuf) (metadata : Metadata) (text : String) :
    ((fs.create path metadata).append fs.next text).text path = some text := by
  unfold Fs.text
  rw [append_names, create_names_self, Option.map_some, append_content_self,
    create_content_self, String.empty_append]

/-- Creating, writing and removing a file leaves the others as they were. -/
theorem text_remove_append_create {fs : Fs} (hfresh : fs.Fresh) {path : PathBuf}
    (hfree : fs.names path = none) (metadata : Metadata) (text : String) :
    (((fs.create path metadata).append fs.next text).remove path).text = fs.text := by
  funext path'
  unfold Fs.text
  by_cases hp : path' = path
  · rw [hp, remove_names_self, hfree]
    rfl
  · rw [remove_names_ne hp, append_names, create_names_ne hp, remove_content]
    cases hname : fs.names path' with
    | none => rfl
    | some i =>
        have hne : i ≠ fs.next := Nat.ne_of_lt (hfresh path' i hname)
        rw [Option.map_some, Option.map_some, append_content_ne hne, create_content_ne hne]

/-- A new file does not show under another name. -/
theorem stat_create_ne {fs : Fs} (hfresh : fs.Fresh) {path path' : PathBuf}
    (hne : path' ≠ path) (metadata : Metadata) :
    (fs.create path metadata).stat path' = fs.stat path' := by
  unfold stat
  rw [create_names_ne hne]
  cases hname : fs.names path' with
  | none => rfl
  | some i => simp [create, Nat.ne_of_lt (hfresh path' i hname)]

/-- Writing to a file does not change what a name shows. -/
@[simp] theorem stat_append (fs : Fs) (i : Nat) (text : String) (path : PathBuf) :
    (fs.append i text).stat path = fs.stat path := by
  unfold stat
  rw [append_names]
  cases fs.names path with
  | none => rfl
  | some j =>
      by_cases hj : j = i
      · simp [append, hj]
      · simp [append, hj]

theorem stat_remove_ne {fs : Fs} {path path' : PathBuf} (hne : path' ≠ path) :
    (fs.remove path).stat path' = fs.stat path' := by
  simp only [stat, remove_names_ne hne]
  rfl

end Fs

end Blob
