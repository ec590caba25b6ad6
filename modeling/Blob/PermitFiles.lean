import Mathlib.Data.List.Induction
import Blob.PermitRuns

/-!
# The permit directory along a run

The history determines what the permit names denote (`holder`), and every
file that was ever created there holds a beginning of the text its one
creator was allowed to write (`Inv`, `run_inv`). Whatever a consumer reads
under a permit's name is therefore a beginning of a text that an approved
issue call wrote there before (`matched_permit`).
-/

namespace Blob

namespace PermitRuns

open Pool

/-! ## What the permit names denote -/

/-- What a history entry makes of the call that created a name's file, and the
file. -/
def track (path : PathBuf) (held : Option (Nat × Nat)) :
    Act PermitsSig Call → Option (Nat × Nat)
  | .act k ⟨.inr (.inl (.createNew name _)), .ok (.file i)⟩ =>
      if name = path then some (k, i) else held
  | .act _ ⟨.inr (.inl (.removeFile name)), .ok _⟩ => if name = path then none else held
  | _ => held

/-- The call that created the file a name denotes, and that file. -/
def holder (path : PathBuf) (h : List (Act PermitsSig Call)) : Option (Nat × Nat) :=
  h.foldl (track path) none

/-- Call `k` created file `i` under this name. -/
def Created (h : List (Act PermitsSig Call)) (k : Nat) (path : PathBuf) (i : Nat) : Prop :=
  ∃ mode, .act k (fsEvent ⟨.createNew path mode, .ok (.file i)⟩) ∈ h

theorem Created.mono {h : List (Act PermitsSig Call)} {k i : Nat} {path : PathBuf}
    (hc : Created h k path i) (h' : List (Act PermitsSig Call)) :
    Created (h ++ h') k path i := by
  obtain ⟨mode, hmem⟩ := hc
  exact ⟨mode, List.mem_append_left _ hmem⟩

/-- Entries that create nothing. -/
theorem Created.of_append {h t : List (Act PermitsSig Call)} {k i : Nat} {path : PathBuf}
    (ht : ∀ k path mode file, .act k (fsEvent ⟨.createNew path mode, .ok file⟩) ∉ t)
    (hc : Created (h ++ t) k path i) : Created h k path i := by
  obtain ⟨mode, hmem⟩ := hc
  rcases List.mem_append.mp hmem with hmem | hmem
  · exact ⟨mode, hmem⟩
  · exact absurd hmem (ht k path mode _)

@[simp] theorem holder_concat (path : PathBuf) (h : List (Act PermitsSig Call))
    (a : Act PermitsSig Call) : holder path (h ++ [a]) = track path (holder path h) a := by
  simp [holder]

/-- Only what gives or removes names changes holders. -/
theorem track_eq {path : PathBuf} {held : Option (Nat × Nat)} {a : Act PermitsSig Call}
    (ha : ∀ k e, a = .act k (fsEvent e) → Fs.changesNames e = false) :
    track path held a = held := by
  rcases a with c | ⟨k, ⟨o | o | o, ans⟩⟩
  · rfl
  · rfl
  · have hquiet := ha k ⟨o, ans⟩ rfl
    cases o with
    | createNew name mode =>
        rcases ans with e | file
        · rfl
        · cases hquiet
    | removeFile name =>
        rcases ans with e | _
        · rfl
        · cases hquiet
    | _ => rfl
  · rfl

/-- A name gets a holder by the creation of its file. -/
theorem track_eq_some {path : PathBuf} {held : Option (Nat × Nat)} {a : Act PermitsSig Call}
    {k i : Nat} (ha : track path held a = some (k, i)) : held = some (k, i)
      ∨ ∃ mode, a = .act k (fsEvent ⟨.createNew path mode, .ok (.file i)⟩) := by
  rcases a with c | ⟨j, ⟨o | o | o, ans⟩⟩
  · exact Or.inl ha
  · exact Or.inl ha
  · cases o with
    | createNew name mode =>
        rcases ans with e | (i' | _)
        · exact Or.inl ha
        · simp only [track] at ha
          split at ha
          · rename_i hname
            obtain ⟨rfl, rfl⟩ := Prod.mk.inj (Option.some.inj ha)
            exact Or.inr ⟨mode, by rw [hname]; rfl⟩
          · exact Or.inl ha
        · exact Or.inl ha
    | removeFile name =>
        rcases ans with e | _
        · exact Or.inl ha
        · simp only [track] at ha
          split at ha
          · cases ha
          · exact Or.inl ha
    | _ => exact Or.inl ha
  · exact Or.inl ha

/-- Who holds a name that nobody held has created its file since. -/
theorem created_since {path : PathBuf} {h : List (Act PermitsSig Call)}
    (hfree : holder path h = none) {t : List (Act PermitsSig Call)} {k i : Nat}
    (hheld : holder path (h ++ t) = some (k, i)) :
    ∃ t₁ mode t₂, t = t₁ ++ .act k (fsEvent ⟨.createNew path mode, .ok (.file i)⟩) :: t₂ := by
  induction t using List.reverseRecOn with
  | nil =>
      rw [List.append_nil, hfree] at hheld
      cases hheld
  | append_singleton t a ih =>
      rw [← List.append_assoc, holder_concat] at hheld
      rcases track_eq_some hheld with hold | ⟨mode, rfl⟩
      · obtain ⟨t₁, mode, t₂, rfl⟩ := ih hold
        exact ⟨t₁, mode, t₂ ++ [a], by simp⟩
      · exact ⟨t, mode, [], rfl⟩

theorem created_of_holder {path : PathBuf} {h : List (Act PermitsSig Call)} {k i : Nat}
    (hheld : holder path h = some (k, i)) : Created h k path i := by
  obtain ⟨t₁, mode, t₂, rfl⟩ := created_since (h := []) rfl hheld
  exact ⟨mode, by simp⟩

/-! ## The invariant -/

/-- Call `k` has written to its file. -/
def Written (h : List (Act PermitsSig Call)) (k : Nat) : Prop :=
  ∃ file text answer, .act k (fsEvent ⟨.writeAll file text, answer⟩) ∈ h

theorem Written.mono {h : List (Act PermitsSig Call)} {k : Nat} (hw : Written h k)
    (h' : List (Act PermitsSig Call)) : Written (h ++ h') k := by
  obtain ⟨file, text, answer, hmem⟩ := hw
  exact ⟨file, text, answer, List.mem_append_left _ hmem⟩

/-- A call whose one write so far is a creation. -/
theorem created_of_writes {h : List (Act PermitsSig Call)} {k i : Nat} {path : PathBuf}
    {mode : Nat} (hwrites : (files (proj k h)).filter isWrite
      = [⟨.createNew path mode, .ok (.file i)⟩]) : Created h k path i ∧ ¬ Written h k := by
  have hfirst : ∀ e, .act k (fsEvent e) ∈ h → isWrite e = true →
      e = ⟨.createNew path mode, .ok (.file i)⟩ := by
    intro e he hwrite
    have hmem := List.mem_filter.mpr ⟨mem_files.mpr (mem_proj.mpr he), hwrite⟩
    rw [hwrites] at hmem
    exact List.mem_singleton.mp hmem
  constructor
  · have hmem : (⟨.createNew path mode, .ok (.file i)⟩ : Event FsSig)
        ∈ (files (proj k h)).filter isWrite := by
      rw [hwrites]
      exact List.mem_singleton_self _
    exact ⟨mode, mem_proj.mp (mem_files.mp (List.mem_of_mem_filter hmem))⟩
  · rintro ⟨file, text, answer, hmem⟩
    cases congrArg Event.op (hfirst _ hmem rfl)

/-- The permit names are as the history says, and every file ever created is
its creator's alone and holds a beginning of what that may write. -/
structure Inv (root : PathBuf) (h : (system root).History) (fs : Fs) : Prop where
  names : ∀ authorization, fs.names (permitPath root authorization)
    = (holder (permitPath root authorization) h).map Prod.snd
  fresh : ∀ {k path i}, Created h k path i → i < fs.next
  unique : ∀ {k k' path path' i}, Created h k path i → Created h k' path' i → k = k'
  content : ∀ {k path i}, Created h k path i → ∃ c text, (calls h)[k]? = some c
    ∧ Writer c path text ∧ (fs.content i).toList <+: text.toList
    ∧ (¬ Written h k → fs.content i = "")

/-- The start of a run: no permit exists. -/
theorem Inv.nil {root : PathBuf} {fs : Fs}
    (hempty : ∀ authorization, fs.names (permitPath root authorization) = none) :
    Inv root [] fs where
  names authorization := hempty authorization
  fresh := by rintro k path i ⟨mode, hmem⟩; cases hmem
  unique := by rintro k k' path path' i ⟨mode, hmem⟩; cases hmem
  content := by rintro k path i ⟨mode, hmem⟩; cases hmem

/-- Entries that give and remove no names, under which the world only drifts. -/
theorem Inv.quiet {root : PathBuf} {h t : (system root).History} {fs fs' : Fs}
    (hinv : Inv root h fs) (hdrift : Drift root fs fs')
    (ht : ∀ k e, .act k (fsEvent e) ∈ t → Fs.changesNames e = false) :
    Inv root (h ++ t) fs' := by
  obtain ⟨hnames, hcontent, hnext⟩ := hdrift
  have hholder : ∀ path, holder path (h ++ t) = holder path h := by
    intro path
    induction t using List.reverseRecOn with
    | nil => rw [List.append_nil]
    | append_singleton t a ih =>
        rw [← List.append_assoc, holder_concat, ih fun k e he => ht k e (by simp [he])]
        exact track_eq fun k e he => ht k e (by simp [he])
  have hcreated : ∀ {k path i}, Created (h ++ t) k path i → Created h k path i :=
    fun hc => hc.of_append fun k path mode file hmem => by cases ht _ _ hmem
  constructor
  · intro authorization
    rw [hnames, hholder]
    exact hinv.names authorization
  · intro k path i hc
    exact Nat.lt_of_lt_of_le (hinv.fresh (hcreated hc)) hnext
  · intro k k' path path' i hc hc'
    exact hinv.unique (hcreated hc) (hcreated hc')
  · intro k path i hc
    obtain ⟨c, text, hcall, hwriter, hprefix, hnot⟩ := hinv.content (hcreated hc)
    have hsame := hcontent i (hinv.fresh (hcreated hc))
    refine ⟨c, text, calls_mono t hcall, hwriter, hsame ▸ hprefix, ?_⟩
    intro hw
    rw [hsame]
    exact hnot fun hw' => hw (hw'.mono t)

theorem Drift.refl (root : PathBuf) (fs : Fs) : Drift root fs fs :=
  ⟨fun _ => rfl, fun _ _ => rfl, Nat.le_refl _⟩

/-- A writer creates its file, under a name that was free. -/
theorem Inv.create {root : PathBuf} {h : (system root).History} {fs : Fs}
    (hinv : Inv root h fs) {k : Nat} {c : Call} {path : PathBuf} {text : String} {mode : Nat}
    (hcall : (calls h)[k]? = some c) (hwriter : Writer c path text) (metadata : Metadata) :
    Inv root (h ++ [.act k (fsEvent ⟨.createNew path mode, .ok (.file fs.next)⟩)])
      (fs.create path metadata) := by
  have hcreated : ∀ {k' path' i}, Created (h ++ [.act k (fsEvent
      ⟨.createNew path mode, .ok (.file fs.next)⟩)]) k' path' i →
      Created h k' path' i ∨ (k' = k ∧ path' = path ∧ i = fs.next) := by
    rintro k' path' i ⟨mode', hmem⟩
    rcases List.mem_append.mp hmem with hmem | hmem
    · exact Or.inl ⟨mode', hmem⟩
    · obtain ⟨rfl, heq⟩ := Act.act.inj (List.mem_singleton.mp hmem)
      have heq := fsEvent_injective heq
      simp only [Event.mk.injEq, FsOp.createNew.injEq] at heq
      obtain ⟨⟨rfl, rfl⟩, heq⟩ := heq
      exact Or.inr ⟨rfl, rfl, by simpa using heq⟩
  constructor
  · intro authorization
    rw [holder_concat]
    by_cases hpath : permitPath root authorization = path
    · subst hpath
      simp [track, fsEvent, Event.inl, Event.inr]
    · rw [Fs.create_names_ne hpath, hinv.names]
      simp [track, fsEvent, Event.inl, Event.inr, Ne.symm hpath]
  · intro k' path' i hc
    rw [Fs.create_next]
    rcases hcreated hc with hold | ⟨-, -, rfl⟩
    · exact Nat.lt_succ_of_lt (hinv.fresh hold)
    · exact Nat.lt_succ_self _
  · intro k₁ k₂ path₁ path₂ i hc₁ hc₂
    rcases hcreated hc₁ with hold₁ | ⟨rfl, -, rfl⟩ <;>
      rcases hcreated hc₂ with hold₂ | ⟨rfl, -, hi⟩
    · exact hinv.unique hold₁ hold₂
    · exact absurd (hi ▸ hinv.fresh hold₁) (Nat.lt_irrefl _)
    · exact absurd (hinv.fresh hold₂) (Nat.lt_irrefl _)
    · rfl
  · intro k' path' i hc
    rcases hcreated hc with hold | ⟨rfl, rfl, rfl⟩
    · obtain ⟨c', text', hcall', hwriter', hprefix, hnot⟩ := hinv.content hold
      have hne : i ≠ fs.next := Nat.ne_of_lt (hinv.fresh hold)
      refine ⟨c', text', calls_mono _ hcall', hwriter', ?_, fun hw => ?_⟩
      · rw [Fs.create_content_ne hne]
        exact hprefix
      · rw [Fs.create_content_ne hne]
        exact hnot fun hw' => hw (hw'.mono _)
    · refine ⟨c, text, calls_mono _ hcall, hwriter, ?_, fun _ => ?_⟩
      · rw [Fs.create_content_self]
        exact List.nil_prefix
      · exact Fs.create_content_self ..

/-- A writer that has not written yet writes a part of its text to its file. -/
theorem Inv.write {root : PathBuf} {h : (system root).History} {fs : Fs}
    (hinv : Inv root h fs) {k i : Nat} {c : Call} {path : PathBuf} {text chunk : String}
    {answer : Except IoError Unit} (hcall : (calls h)[k]? = some c)
    (hwriter : Writer c path text) (hmine : Created h k path i) (hnew : ¬ Written h k)
    (hchunk : chunk.toList <+: text.toList) :
    Inv root (h ++ [.act k (fsEvent ⟨.writeAll (.file i) text, answer⟩)])
      (fs.append i chunk) := by
  have hcreated : ∀ {k' path' i'}, Created (h ++ [.act k (fsEvent
      ⟨.writeAll (.file i) text, answer⟩)]) k' path' i' → Created h k' path' i' := by
    refine fun hc => hc.of_append ?_
    intro k' path' mode file hmem
    obtain ⟨-, heq⟩ := Act.act.inj (List.mem_singleton.mp hmem)
    cases congrArg Event.op heq
  constructor
  · intro authorization
    rw [holder_concat, Fs.append_names]
    exact hinv.names authorization
  · intro k' path' i' hc
    exact hinv.fresh (hcreated hc)
  · intro k₁ k₂ path₁ path₂ i' hc₁ hc₂
    exact hinv.unique (hcreated hc₁) (hcreated hc₂)
  · intro k' path' i' hc
    obtain ⟨c', text', hcall', hwriter', hprefix, hnot⟩ := hinv.content (hcreated hc)
    by_cases hi : i' = i
    · subst hi
      obtain rfl := hinv.unique (hcreated hc) hmine
      obtain rfl := Option.some.inj (hcall'.symm.trans hcall)
      obtain ⟨rfl, rfl⟩ := hwriter'.unique hwriter
      refine ⟨c', text', calls_mono _ hcall', hwriter', ?_, fun hw => ?_⟩
      · rw [Fs.append_content_self, hnot hnew, String.empty_append]
        exact hchunk
      · exact absurd ⟨_, _, _, List.mem_append_right _ (List.mem_singleton_self _)⟩ hw
    · refine ⟨c', text', calls_mono _ hcall', hwriter', ?_, fun hw => ?_⟩
      · rw [Fs.append_content_ne hi]
        exact hprefix
      · rw [Fs.append_content_ne hi]
        exact hnot fun hw' => hw (hw'.mono _)

/-- A name is removed. -/
theorem Inv.remove {root : PathBuf} {h : (system root).History} {fs : Fs}
    (hinv : Inv root h fs) (k : Nat) (path : PathBuf) :
    Inv root (h ++ [.act k (fsEvent ⟨.removeFile path, .ok ()⟩)]) (fs.remove path) := by
  have hcreated : ∀ {k' path' i'}, Created (h ++ [.act k (fsEvent
      ⟨.removeFile path, .ok ()⟩)]) k' path' i' → Created h k' path' i' := by
    refine fun hc => hc.of_append ?_
    intro k' path' mode file hmem
    obtain ⟨-, heq⟩ := Act.act.inj (List.mem_singleton.mp hmem)
    cases congrArg Event.op heq
  constructor
  · intro authorization
    rw [holder_concat]
    by_cases hpath : permitPath root authorization = path
    · subst hpath
      simp [track, fsEvent, Event.inl, Event.inr]
    · rw [Fs.remove_names_ne hpath, hinv.names]
      simp [track, fsEvent, Event.inl, Event.inr, Ne.symm hpath]
  · intro k' path' i' hc
    exact hinv.fresh (hcreated hc)
  · intro k₁ k₂ path₁ path₂ i' hc₁ hc₂
    exact hinv.unique (hcreated hc₁) (hcreated hc₂)
  · intro k' path' i' hc
    obtain ⟨c', text', hcall', hwriter', hprefix, hnot⟩ := hinv.content (hcreated hc)
    exact ⟨c', text', calls_mono _ hcall', hwriter', hprefix,
      fun hw => hnot fun hw' => hw (hw'.mono _)⟩

/-- Along every run from an empty permit directory. -/
theorem run_inv {root : PathBuf} {fs₀ fs : Fs} {h : (system root).History}
    (hempty : ∀ authorization, fs₀.names (permitPath root authorization) = none)
    (hr : Run (system root) fs₀ h fs) : Inv root h fs := by
  induction hr with
  | nil => exact .nil hempty
  | @spawn h fs c _ _ ih =>
      exact ih.quiet (.refl root fs) fun k e he => by cases List.mem_singleton.mp he
  | @act h fs fs' k c e q hr hc hs hstep ih =>
      obtain ⟨o | o | o, ans⟩ := e
      · obtain rfl : fs' = fs := hstep
        exact ih.quiet (.refl root fs') fun k e he => by cases List.mem_singleton.mp he
      · rcases Fs.step_cases hstep with ⟨rfl, hquiet⟩ | ⟨path, mode, metadata, heq, -, rfl⟩
            | ⟨i, text, answer, chunk, heq, hchunk, rfl⟩ | ⟨path, heq, rfl⟩
        · refine ih.quiet (.refl root fs') ?_
          intro j e he
          obtain ⟨-, heq⟩ := Act.act.inj (List.mem_singleton.mp he)
          obtain rfl : e = ⟨o, ans⟩ := fsEvent_injective heq
          exact hquiet
        · obtain ⟨rfl, heq⟩ := Event.mk.inj heq
          obtain rfl := eq_of_heq heq
          obtain ⟨text, hwriter⟩ := writer_of_create hs
          exact ih.create hc hwriter metadata
        · obtain ⟨rfl, heq⟩ := Event.mk.inj heq
          obtain rfl := eq_of_heq heq
          obtain ⟨path, hwriter, hwrites⟩ := writer_of_write hs
          obtain ⟨hmine, hnew⟩ := created_of_writes hwrites
          exact ih.write hc hwriter hmine hnew hchunk
        · obtain ⟨rfl, heq⟩ := Event.mk.inj heq
          obtain rfl := eq_of_heq heq
          exact ih.remove k path
      · obtain rfl : fs' = fs := hstep
        exact ih.quiet (.refl root fs') fun k e he => by cases List.mem_singleton.mp he
  | drift _ hdrift ih =>
      have := ih.quiet hdrift (t := []) fun k e he => by cases he
      rwa [List.append_nil] at this

/-! ## What a consumer has matched -/

/-- A text that was read under a permit's name is a beginning of what the
creator of the file was allowed to write. -/
theorem matched_permit {root : PathBuf} {fs₀ fs : Fs} {h : (system root).History}
    (hempty : ∀ authorization, fs₀.names (permitPath root authorization) = none)
    (hr : Run (system root) fs₀ h fs) {x : Nat} {authorization : SystemAuthorizationId}
    {tr tr' : List (Event FsSig)} {file : Handle} {text : String}
    (hread : files (proj x h) = tr ++ ⟨.openFile (permitPath root authorization), .ok file⟩
      :: ⟨.readToString file, .ok text⟩ :: tr') :
    ∃ h₁ h₂ k i c text', h = h₁ ++ h₂ ∧ file = .file i
      ∧ Created h₁ k (permitPath root authorization) i ∧ (calls h₁)[k]? = some c
      ∧ Writer c (permitPath root authorization) text' ∧ text.toList <+: text'.toList := by
  rw [List.append_cons] at hread
  obtain ⟨h₁, h₂, rfl, hfiles, -⟩ := files_eq_append hread
  obtain ⟨g₁, g₂, rfl, -, -⟩ := files_eq_append hfiles
  -- the world the text was read in, and the one the file was opened in
  obtain ⟨_, fs₂, _, _, -, hr₂, -, hstep₂⟩ := hr.split
  obtain ⟨_, fs₁, _, _, -, hr₁, -, hstep₁⟩ := hr₂.split
  cases file with
  | dir => exact absurd hstep₂ id
  | file i =>
      obtain ⟨hname, -⟩ := hstep₁
      obtain ⟨htext, -⟩ := hstep₂
      have hheld := (run_inv hempty hr₁).names authorization
      rw [hname] at hheld
      obtain ⟨⟨k, i'⟩, hholder, rfl⟩ := Option.map_eq_some_iff.mp hheld.symm
      have hcreated := created_of_holder hholder
      obtain ⟨c, text', hcall, hwriter, hprefix, -⟩ :=
        (run_inv hempty hr₂).content (hcreated.mono _)
      exact ⟨_, _, k, i', c, text', rfl, rfl, hcreated.mono _, hcall, hwriter, htext ▸ hprefix⟩

end PermitRuns

end Blob
