import Blob.FileSystem

/-!
# Programs that keep to their own files

A program is *confined* to a set of names if it creates and removes files
under these names only, and reads and writes only files it was handed under
one of them, by a creation or by opening it. Looking at a name, opening it
and syncing are free.

`Confined` is checked along the program (`confined_bind`, `confined_ask`);
`Confined.of_steps` says what it means for an execution.
-/

namespace Blob

namespace Prog

variable {ε ε' α β : Type} {P : PathBuf → Prop} {held held' : Handle → Prop}

/-- The file was handed out in this event, under one of these names. -/
def Handed (P : PathBuf → Prop) (e : Event FsSig) (file : Handle) : Prop :=
  (∃ path mode, P path ∧ e = ⟨.createNew path mode, .ok file⟩)
    ∨ ∃ path, P path ∧ e = ⟨.openFile path, .ok file⟩

/-- The operations that are open to a holder of these files. -/
def Permits (P : PathBuf → Prop) (held : Handle → Prop) : FsOp → Prop
  | .createNew path _ => P path
  | .removeFile path => P path
  | .writeAll file _ => held file
  | .readToString file => held file
  | _ => True

theorem Permits.mono {o : FsOp} (ho : Permits P held o) (hheld : ∀ file, held file → held' file) :
    Permits P held' o := by
  cases o with
  | writeAll file text => exact hheld file ho
  | readToString file => exact hheld file ho
  | _ => exact ho

/-- The program keeps to these names, and to the files it holds. -/
def Confined (P : PathBuf → Prop) (held : Handle → Prop) : Prog FsSig ε α → Prop
  | .pure _ => True
  | .throw _ => True
  | .panic _ => True
  | .call o k => Permits P held o
      ∧ ∀ a, Confined P (fun file => held file ∨ Handed P ⟨o, a⟩ file) (k a)

theorem Confined.mono {p : Prog FsSig ε α} (hp : Confined P held p)
    (hheld : ∀ file, held file → held' file) : Confined P held' p := by
  induction p generalizing held held' with
  | pure a => trivial
  | throw e => trivial
  | panic msg => trivial
  | call o k ih =>
      exact ⟨hp.1.mono hheld, fun a => ih a (hp.2 a) fun file => Or.imp_left (hheld file)⟩

/-- Whatever a confined program does next, it does to its own files. -/
theorem Confined.of_steps {p q : Prog FsSig ε α} {tr : List (Event FsSig)} {e : Event FsSig}
    (hp : Confined P held p) (hs : Steps p (tr ++ [e]) q) :
    Permits P (fun file => held file ∨ ∃ e' ∈ tr, Handed P e' file) e.op := by
  induction tr generalizing p held with
  | nil =>
      cases hs with
      | call hs => exact hp.1.mono fun file hfile => Or.inl hfile
  | cons e' tr ih =>
      cases hs with
      | call hs =>
          refine (ih (hp.2 _) hs).mono fun file hfile => ?_
          rcases hfile with (hheld | hhanded) | ⟨e'', hmem, hhanded⟩
          · exact Or.inl hheld
          · exact Or.inr ⟨_, List.mem_cons_self .., hhanded⟩
          · exact Or.inr ⟨e'', List.mem_cons_of_mem _ hmem, hhanded⟩

theorem Confined.uses {p : Prog FsSig ε α} (hp : Confined P held p) :
    p.Uses (Permits P fun _ => True) := by
  induction p generalizing held with
  | pure a => trivial
  | throw e => trivial
  | panic msg => trivial
  | call o k ih => exact ⟨hp.1.mono fun _ _ => trivial, fun a => ih a (hp.2 a)⟩

/-! ## Confined programs -/

theorem confined_of_quiet [∀ o : FsOp, Nonempty (FsSig.Ans o)] {p : Prog FsSig ε α}
    (hp : ∀ tr q, Steps p tr q → tr = []) : Confined P held p := by
  cases p with
  | pure a => trivial
  | throw e => trivial
  | panic msg => trivial
  | call o k =>
      obtain ⟨a⟩ := ‹∀ o : FsOp, Nonempty (FsSig.Ans o)› o
      cases hp [⟨o, a⟩] (k a) (.call (.refl _))

theorem confined_ofExcept (x : Except ε α) : Confined P held (ofExcept x : Prog FsSig ε α) := by
  cases x <;> trivial

theorem confined_reject {c : Prop} [Decidable c] {e : ε} :
    Confined P held (reject c e : Prog FsSig ε Unit) := by
  unfold reject
  split <;> trivial

theorem confined_call {o : FsOp} (ho : Permits P held o)
    {out : FsSig.Ans o → Except ε α} :
    Confined P held (.call o fun ans => ofExcept (out ans) : Prog FsSig ε α) :=
  ⟨ho, fun ans => confined_ofExcept (out ans)⟩

theorem confined_mapErr {p : Prog FsSig ε α} {f : ε → ε'} (hp : Confined P held p) :
    Confined P held (p.mapErr f) := by
  induction p generalizing held with
  | pure a => trivial
  | throw e => trivial
  | panic msg => trivial
  | call o k ih => exact ⟨hp.1, fun a => ih a (hp.2 a)⟩

theorem confined_attempt {p : Prog FsSig ε α} (hp : Confined P held p) :
    Confined P held (p.attempt : Prog FsSig ε' (Except ε α)) := by
  induction p generalizing held with
  | pure a => trivial
  | throw e => trivial
  | panic msg => trivial
  | call o k ih => exact ⟨hp.1, fun a => ih a (hp.2 a)⟩

theorem confined_bind {p : Prog FsSig ε α} {f : α → Prog FsSig ε β} (hp : Confined P held p)
    (hf : ∀ a, Confined P held (f a)) : Confined P held (p >>= f) := by
  induction p generalizing held with
  | pure a => exact hf a
  | throw e => trivial
  | panic msg => trivial
  | call o k ih =>
      exact ⟨hp.1, fun a => ih a (hp.2 a) fun b => (hf b).mono fun _ => Or.inl⟩

/-- A file that is asked for is held from then on. -/
theorem confined_ask {o : FsOp} {out : FsSig.Ans o → Except ε α} {f : ε → ε'}
    {k : α → Prog FsSig ε' β} (ho : Permits P held o)
    (hk : ∀ ans a, out ans = .ok a →
      Confined P (fun file => held file ∨ Handed P ⟨o, ans⟩ file) (k a)) :
    Confined P held ((Prog.call o fun ans => ofExcept (out ans)).mapErr f >>= k) := by
  refine ⟨ho, fun ans => ?_⟩
  cases hout : out ans with
  | error e =>
      show Confined P _ ((ofExcept (out ans)).mapErr f >>= k)
      rw [hout]
      trivial
  | ok a =>
      show Confined P _ ((ofExcept (out ans)).mapErr f >>= k)
      rw [hout]
      exact hk ans a hout

/-! ## The file operations -/

theorem confined_symlinkMetadata (path : PathBuf) :
    Confined P held (File.symlinkMetadata path) :=
  confined_call (o := .symlinkMetadata path) trivial

theorem confined_removeFile {path : PathBuf} (hpath : P path) :
    Confined P held (File.removeFile path) :=
  confined_call (o := .removeFile path) hpath

theorem confined_writeAll {file : Handle} (hfile : held file) (text : String) :
    Confined P held (File.writeAll file text) :=
  confined_call (o := .writeAll file text) hfile

theorem confined_readToString {file : Handle} (hfile : held file) :
    Confined P held (File.readToString file) :=
  confined_call (o := .readToString file) hfile

theorem confined_syncAll (file : Handle) : Confined P held (File.syncAll file) :=
  confined_call (o := .syncAll file) trivial

theorem confined_syncDirectory (dir : PathBuf) : Confined P held (File.syncDirectory dir) :=
  confined_bind (confined_call (o := .openFile dir) trivial) fun _ => confined_syncAll _

end Prog

end Blob
