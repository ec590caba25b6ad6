import Blob.Prog

/-!
# Interleaved calls on a shared world

Any number of calls, started at any time, whose programs take turns in
performing one operation each on a world they share. A *history* lists
what happened in order: a call was started, or a call performed an
operation and got its answer. A call that crashes is one that never acts
again; a restarted process is a new call.

`Run` is the set of histories a system allows, with the world each
leads to: every call follows its program (`Run.steps`), every answer is
one the world can give, and between two steps the environment may change
the world as far as `drift` lets it. An invariant over all interleavings
is an induction over `Run`. What is done once, whoever does it, is a
`Latch`: its induction is made here.
-/

namespace Blob

/-- One entry of a history. -/
inductive Act (S : Sig) (Call : Type) where
  | spawn (c : Call)
  | act (i : Nat) (e : Event S)

/-- The calls of a system, their programs, and the world they share. -/
structure System where
  S : Sig
  Call : Type
  Err : Call → Type
  Res : Call → Type
  prog : (c : Call) → Prog S (Err c) (Res c)
  World : Type
  /-- What an operation with a given answer may do to the world. -/
  step : World → Event S → World → Prop
  /-- What the environment may do to the world. -/
  drift : World → World → Prop
  /-- Which calls may be started after a history. -/
  admits : List (Act S Call) → Call → Prop

abbrev System.History (Y : System) : Type := List (Act Y.S Y.Call)

namespace Pool

variable {S : Sig} {Call : Type}

/-- The calls started in a history, in order; a call is known by its place. -/
def calls : List (Act S Call) → List Call
  | [] => []
  | .spawn c :: h => c :: calls h
  | .act _ _ :: h => calls h

/-- What call `i` has done. -/
def proj (i : Nat) : List (Act S Call) → List (Event S)
  | [] => []
  | .spawn _ :: h => proj i h
  | .act j e :: h => if j = i then e :: proj i h else proj i h

@[simp] theorem calls_append (h h' : List (Act S Call)) :
    calls (h ++ h') = calls h ++ calls h' := by
  induction h with
  | nil => rfl
  | cons a h ih => cases a <;> simp [calls, ih]

@[simp] theorem proj_append (i : Nat) (h h' : List (Act S Call)) :
    proj i (h ++ h') = proj i h ++ proj i h' := by
  induction h with
  | nil => rfl
  | cons a h ih =>
      cases a with
      | spawn c => simp [proj, ih]
      | act j e =>
          simp only [List.cons_append, proj, ih]
          split <;> rfl

@[simp] theorem calls_spawn (c : Call) : calls [(.spawn c : Act S Call)] = [c] := rfl

@[simp] theorem calls_act (i : Nat) (e : Event S) :
    calls [(.act i e : Act S Call)] = [] := rfl

@[simp] theorem proj_spawn (i : Nat) (c : Call) : proj i [(.spawn c : Act S Call)] = [] := rfl

@[simp] theorem proj_act_self (i : Nat) (e : Event S) :
    proj i [(.act i e : Act S Call)] = [e] := by
  simp [proj]

theorem proj_act_ne {i j : Nat} (hne : j ≠ i) (e : Event S) :
    proj i [(.act j e : Act S Call)] = [] := by
  simp [proj, hne]

theorem mem_proj {i : Nat} {e : Event S} {h : List (Act S Call)} :
    e ∈ proj i h ↔ .act i e ∈ h := by
  induction h with
  | nil => simp [proj]
  | cons a h ih =>
      cases a with
      | spawn c => simp [proj, ih]
      | act j e' =>
          by_cases hj : j = i
          · subst hj
            simp [proj, ih]
          · simp [proj, hj, ih, Ne.symm hj]

/-- A call keeps its place as the history grows. -/
theorem calls_mono {i : Nat} {c : Call} {h : List (Act S Call)} (h' : List (Act S Call))
    (hc : (calls h)[i]? = some c) : (calls (h ++ h'))[i]? = some c := by
  have hlt := (List.getElem?_eq_some_iff.mp hc).1
  rw [calls_append, List.getElem?_append_left hlt, hc]

/-- What a call has done, split, splits the history. -/
theorem proj_eq_append {i : Nat} {h : List (Act S Call)} {tr tr' : List (Event S)}
    {e : Event S} (hp : proj i h = tr ++ e :: tr') :
    ∃ h₁ h₂, h = h₁ ++ .act i e :: h₂ ∧ proj i h₁ = tr ∧ proj i h₂ = tr' := by
  induction h generalizing tr with
  | nil => simp [proj] at hp
  | cons a h ih =>
      cases a with
      | spawn c =>
          obtain ⟨h₁, h₂, rfl, h₁tr, h₂tr⟩ := ih hp
          exact ⟨.spawn c :: h₁, h₂, rfl, h₁tr, h₂tr⟩
      | act j e' =>
          by_cases hj : j = i
          · subst hj
            simp only [proj, if_true] at hp
            cases tr with
            | nil =>
                rw [List.nil_append, List.cons.injEq] at hp
                obtain ⟨rfl, rfl⟩ := hp
                exact ⟨[], h, rfl, rfl, rfl⟩
            | cons e'' tr =>
                rw [List.cons_append, List.cons.injEq] at hp
                obtain ⟨rfl, hrest⟩ := hp
                obtain ⟨h₁, h₂, rfl, rfl, h₂tr⟩ := ih hrest
                exact ⟨.act j e' :: h₁, h₂, rfl, by simp [proj], h₂tr⟩
          · simp only [proj, hj, if_false] at hp
            obtain ⟨h₁, h₂, rfl, h₁tr, h₂tr⟩ := ih hp
            exact ⟨.act j e' :: h₁, h₂, rfl, by simp [proj, hj, h₁tr], h₂tr⟩

/-- A call was started before anything it has done. -/
theorem calls_eq_some {i : Nat} {c : Call} {h : List (Act S Call)}
    (hc : (calls h)[i]? = some c) :
    ∃ h₁ h₂, h = h₁ ++ .spawn c :: h₂ ∧ (calls h₁).length = i := by
  induction h generalizing i with
  | nil => cases hc
  | cons a h ih =>
      cases a with
      | spawn c' =>
          cases i with
          | zero =>
              obtain rfl := Option.some.inj hc
              exact ⟨[], h, rfl, rfl⟩
          | succ i =>
              obtain ⟨h₁, h₂, rfl, rfl⟩ := ih hc
              exact ⟨.spawn c' :: h₁, h₂, rfl, rfl⟩
      | act j e =>
          obtain ⟨h₁, h₂, rfl, rfl⟩ := ih hc
          exact ⟨.act j e :: h₁, h₂, rfl, rfl⟩

/-- Two entries of a history are the same one, or one comes before the other. -/
theorem entries_ordered {h before after before' after' : List (Act S Call)}
    {a a' : Act S Call} (hsplit : h = before ++ a :: after)
    (hsplit' : h = before' ++ a' :: after') :
    a = a' ∨ (∃ since, before' = before ++ a :: since)
      ∨ ∃ since, before = before' ++ a' :: since := by
  rcases List.append_eq_append_iff.mp (hsplit.symm.trans hsplit') with
    ⟨since, rfl, htail⟩ | ⟨since, rfl, htail⟩
  · cases since with
    | nil =>
        rw [List.nil_append, List.cons.injEq] at htail
        exact Or.inl htail.1
    | cons b since =>
        rw [List.cons_append, List.cons.injEq] at htail
        exact Or.inr (Or.inl ⟨since, by rw [htail.1]⟩)
  · cases since with
    | nil =>
        rw [List.nil_append, List.cons.injEq] at htail
        exact Or.inl htail.1.symm
    | cons b since =>
        rw [List.cons_append, List.cons.injEq] at htail
        exact Or.inr (Or.inr ⟨since, by rw [htail.1]⟩)

/-! ## Runs -/

/-- The histories of a system from world `w₀`, and the world they lead to. -/
inductive Run (Y : System) (w₀ : Y.World) : Y.History → Y.World → Prop
  | nil : Run Y w₀ [] w₀
  | spawn {h : Y.History} {w : Y.World} (c : Y.Call) :
      Run Y w₀ h w → Y.admits h c → Run Y w₀ (h ++ [.spawn c]) w
  | act {h : Y.History} {w w' : Y.World} {i : Nat} {c : Y.Call}
      {e : Event Y.S} {q : Prog Y.S (Y.Err c) (Y.Res c)} :
      Run Y w₀ h w → (calls h)[i]? = some c → (Y.prog c).Steps (proj i h ++ [e]) q →
      Y.step w e w' → Run Y w₀ (h ++ [.act i e]) w'
  | drift {h : Y.History} {w w' : Y.World} :
      Run Y w₀ h w → Y.drift w w' → Run Y w₀ h w'

variable {Y : System} {w₀ : Y.World}

/-- A place nobody was started at has done nothing. -/
theorem Run.proj_eq_nil {h : Y.History} {w : Y.World} (hr : Run Y w₀ h w)
    {i : Nat} (hi : (calls h)[i]? = none) : proj i h = [] := by
  induction hr with
  | nil => rfl
  | spawn c _ _ ih =>
      rw [calls_append] at hi
      rw [proj_append, proj_spawn, List.append_nil]
      refine ih (List.getElem?_eq_none_iff.mpr ?_)
      have := List.getElem?_eq_none_iff.mp hi
      rw [List.length_append] at this
      omega
  | @act h w w' j c e q _ hc _ _ ih =>
      rw [calls_append, calls_act, List.append_nil] at hi
      have hne : j ≠ i := fun heq => by rw [← heq, hc] at hi; cases hi
      rw [proj_append, proj_act_ne hne, List.append_nil, ih hi]
  | drift _ _ ih => exact ih hi

/-- Every call follows its program. -/
theorem Run.steps {h : Y.History} {w : Y.World} (hr : Run Y w₀ h w)
    {i : Nat} {c : Y.Call} (hc : (calls h)[i]? = some c) :
    ∃ q, (Y.prog c).Steps (proj i h) q := by
  induction hr with
  | nil => cases hc
  | @spawn h w c' hr _ ih =>
      rw [proj_append, proj_spawn, List.append_nil]
      cases hold : (calls h)[i]? with
      | some c₀ =>
          have hsame := calls_mono [.spawn c'] hold
          rw [hc] at hsame
          exact ih (by rw [hold, ← Option.some.inj hsame])
      | none =>
          rw [hr.proj_eq_nil hold]
          exact ⟨_, .refl _⟩
  | @act h w w' j c' e q hr hc' hs _ ih =>
      rw [calls_append, calls_act, List.append_nil] at hc
      by_cases hj : j = i
      · subst hj
        obtain rfl := Option.some.inj (hc'.symm.trans hc)
        exact ⟨q, by rw [proj_append, proj_act_self]; exact hs⟩
      · rw [proj_append, proj_act_ne hj, List.append_nil]
        exact ih hc
  | drift _ _ ih => exact ih hc

/-- One call may perform several operations in a row. -/
theorem Run.acts {h : Y.History} {w w' : Y.World} {i : Nat} {c : Y.Call}
    {tr : List (Event Y.S)} {q : Prog Y.S (Y.Err c) (Y.Res c)} (hr : Run Y w₀ h w)
    (hc : (calls h)[i]? = some c) (hs : (Y.prog c).Steps (proj i h ++ tr) q)
    (hx : Prog.Exec Y.step w tr w') : Run Y w₀ (h ++ tr.map (.act i)) w' := by
  induction hx generalizing h with
  | nil => rwa [List.map_nil, List.append_nil]
  | @cons w w₁ w' e tr hstep _ ih =>
      have hone : (Y.prog c).Steps ((proj i h ++ [e]) ++ tr) q := by
        rw [List.append_assoc]
        exact hs
      obtain ⟨q', hq', -⟩ := hone.split
      have hnext := ih (hr.act hc hq' hstep) (calls_mono _ hc)
        (by rw [proj_append, proj_act_self]; exact hone)
      rwa [List.append_assoc] at hnext

/-- A new call may be started and perform its first operations in a row. -/
theorem Run.call {h : Y.History} {w w' : Y.World} (hr : Run Y w₀ h w) {c : Y.Call}
    (hadm : Y.admits h c) {tr : List (Event Y.S)} {q : Prog Y.S (Y.Err c) (Y.Res c)}
    (hs : (Y.prog c).Steps tr q) (hx : Prog.Exec Y.step w tr w') :
    Run Y w₀ (h ++ .spawn c :: tr.map (.act (calls h).length)) w' := by
  have hcall : (calls (h ++ [.spawn c]))[(calls h).length]? = some c := by simp
  have hnew : proj (calls h).length (h ++ [.spawn c]) = [] := by
    rw [proj_append, hr.proj_eq_nil (List.getElem?_eq_none (Nat.le_refl _))]
    rfl
  rw [List.append_cons]
  exact (hr.spawn c hadm).acts hcall (by rwa [hnew, List.nil_append]) hx

/-- A beginning of a run is a run. -/
theorem Run.prefix {h h' : Y.History} {w : Y.World}
    (hr : Run Y w₀ (h ++ h') w) : ∃ w', Run Y w₀ h w' := by
  generalize hg : h ++ h' = g at hr
  induction hr generalizing h' with
  | nil =>
      obtain ⟨rfl, -⟩ := List.append_eq_nil_iff.mp hg
      exact ⟨w₀, .nil⟩
  | @spawn g w c hr hadm ih =>
      rcases List.eq_nil_or_concat h' with rfl | ⟨h'', a, rfl⟩
      · rw [List.append_nil] at hg
        exact ⟨w, hg ▸ .spawn c hr hadm⟩
      · rw [List.concat_eq_append, ← List.append_assoc] at hg
        exact ih (List.append_inj' hg rfl).1
  | @act g w w' j c e q hr hc hs hw ih =>
      rcases List.eq_nil_or_concat h' with rfl | ⟨h'', a, rfl⟩
      · rw [List.append_nil] at hg
        exact ⟨w', hg ▸ .act hr hc hs hw⟩
      · rw [List.concat_eq_append, ← List.append_assoc] at hg
        exact ih (List.append_inj' hg rfl).1
  | drift _ _ ih => exact ih hg

/-- The last step of a run that ends in an operation: the call that performed
it, and the world it was performed in. -/
theorem Run.act_inv {h : Y.History} {w' : Y.World} {i : Nat} {e : Event Y.S}
    (hr : Run Y w₀ (h ++ [.act i e]) w') :
    ∃ c w w'' q, (calls h)[i]? = some c ∧ Run Y w₀ h w
      ∧ (Y.prog c).Steps (proj i h ++ [e]) q ∧ Y.step w e w'' := by
  generalize hg : h ++ [.act i e] = g at hr
  induction hr with
  | nil => simp at hg
  | spawn c _ _ => cases (List.append_inj' hg rfl).2
  | @act g w w'' j c e' q hr hc hs hw =>
      obtain ⟨rfl, hlast⟩ := List.append_inj' hg rfl
      obtain ⟨rfl, rfl⟩ := Act.act.inj (List.singleton_inj.mp hlast)
      exact ⟨c, w, w'', q, hc, hr, hs, hw⟩
  | drift _ _ ih => exact ih hg

/-- The last step of a run that ends with a new call. -/
theorem Run.spawn_inv {h : Y.History} {w' : Y.World} {c : Y.Call}
    (hr : Run Y w₀ (h ++ [.spawn c]) w') : Y.admits h c ∧ ∃ w, Run Y w₀ h w := by
  generalize hg : h ++ [.spawn c] = g at hr
  induction hr with
  | nil => simp at hg
  | @spawn g w c' hr hadm =>
      obtain ⟨rfl, hlast⟩ := List.append_inj' hg rfl
      obtain rfl := Act.spawn.inj (List.singleton_inj.mp hlast)
      exact ⟨hadm, w, hr⟩
  | act _ _ _ _ => cases (List.append_inj' hg rfl).2
  | drift _ _ ih => exact ih hg

/-- Where a call was started, and that it was admitted there. -/
theorem Run.admitted {h : Y.History} {w : Y.World} (hr : Run Y w₀ h w) {i : Nat} {c : Y.Call}
    (hc : (calls h)[i]? = some c) :
    ∃ h₁ h₂, h = h₁ ++ .spawn c :: h₂ ∧ Y.admits h₁ c := by
  obtain ⟨h₁, h₂, rfl, -⟩ := calls_eq_some hc
  rw [List.append_cons] at hr
  obtain ⟨w', hr'⟩ := hr.prefix
  exact ⟨h₁, h₂, rfl, hr'.spawn_inv.1⟩

/-- An operation in the middle of a run: the world it was performed in. -/
theorem Run.split {h₁ h₂ : Y.History} {w : Y.World} {i : Nat} {e : Event Y.S}
    (hr : Run Y w₀ (h₁ ++ .act i e :: h₂) w) :
    ∃ c w₁ w₂ q, (calls h₁)[i]? = some c ∧ Run Y w₀ h₁ w₁
      ∧ (Y.prog c).Steps (proj i h₁ ++ [e]) q ∧ Y.step w₁ e w₂ := by
  rw [List.append_cons] at hr
  obtain ⟨w', hr'⟩ := hr.prefix
  exact hr'.act_inv

/-! ## Latches -/

/-- A condition of the world that nothing undoes, and the events that bring it
about: each finds it false and makes it true. -/
structure Latch (Y : System) where
  closed : Y.World → Prop
  closes : Event Y.S → Prop
  keeps {c : Y.Call} {tr : List (Event Y.S)} {e : Event Y.S}
    {q : Prog Y.S (Y.Err c) (Y.Res c)} {w w' : Y.World} :
    (Y.prog c).Steps (tr ++ [e]) q → Y.step w e w' → closed w → closed w'
  shuts {w w' : Y.World} {e : Event Y.S} :
    Y.step w e w' → closes e → ¬ closed w ∧ closed w'
  drift {w w' : Y.World} : Y.drift w w' → closed w → closed w'

/-- Nothing but these events brings the condition about. -/
structure Latch.Tight (L : Latch Y) : Prop where
  only {c : Y.Call} {tr : List (Event Y.S)} {e : Event Y.S}
    {q : Prog Y.S (Y.Err c) (Y.Res c)} {w w' : Y.World} :
    (Y.prog c).Steps (tr ++ [e]) q → Y.step w e w' → L.closed w' → L.closed w ∨ L.closes e
  drift {w w' : Y.World} : Y.drift w w' → L.closed w' → L.closed w

/-- A call has closed the latch. -/
def Latch.ClosedIn (L : Latch Y) (h : Y.History) : Prop :=
  ∃ i e, .act i e ∈ h ∧ L.closes e

namespace Latch

variable {L : Latch Y} {h : Y.History} {w : Y.World}

theorem ClosedIn.append (hin : L.ClosedIn h) (h' : Y.History) : L.ClosedIn (h ++ h') := by
  obtain ⟨i, e, hmem, he⟩ := hin
  exact ⟨i, e, List.mem_append_left h' hmem, he⟩

/-- A latch that is closed by the last step, or was before. -/
theorem closedIn_act {i : Nat} {e : Event Y.S} :
    L.ClosedIn (h ++ [.act i e]) ↔ L.ClosedIn h ∨ L.closes e := by
  constructor
  · rintro ⟨j, e', hmem, he'⟩
    rcases List.mem_append.mp hmem with hold | hnew
    · exact Or.inl ⟨j, e', hold, he'⟩
    · obtain ⟨-, rfl⟩ := Act.act.inj (List.mem_singleton.mp hnew)
      exact Or.inr he'
  · rintro (hold | he)
    · exact hold.append _
    · exact ⟨i, e, List.mem_append_right _ (List.mem_singleton_self _), he⟩

theorem closedIn_spawn {c : Y.Call} : L.ClosedIn (h ++ [.spawn c]) ↔ L.ClosedIn h := by
  constructor
  · rintro ⟨j, e', hmem, he'⟩
    rcases List.mem_append.mp hmem with hold | hnew
    · exact ⟨j, e', hold, he'⟩
    · cases List.mem_singleton.mp hnew
  · exact fun hold => hold.append _

/-- Once closed, a latch is closed along the rest of the run. -/
theorem closed_of (hr : Run Y w₀ h w) (hin : L.closed w₀ ∨ L.ClosedIn h) : L.closed w := by
  induction hr with
  | nil =>
      rcases hin with hstart | ⟨i, e, hmem, -⟩
      · exact hstart
      · cases hmem
  | spawn c _ _ ih =>
      rw [closedIn_spawn] at hin
      exact ih hin
  | act _ _ hs hstep ih =>
      rw [closedIn_act, ← or_assoc] at hin
      rcases hin with hold | he
      · exact L.keeps hs hstep (ih hold)
      · exact (L.shuts hstep he).2
  | drift _ hdrift ih => exact L.drift hdrift (ih hin)

/-- A tight latch is closed just where it was from the start or a call has
closed it. -/
theorem Tight.closed_iff (htight : L.Tight) (hr : Run Y w₀ h w) :
    L.closed w ↔ L.closed w₀ ∨ L.ClosedIn h := by
  refine ⟨?_, closed_of hr⟩
  induction hr with
  | nil => exact Or.inl
  | spawn c _ _ ih =>
      rw [closedIn_spawn]
      exact ih
  | act _ _ hs hstep ih =>
      intro hclosed
      rw [closedIn_act, ← or_assoc]
      exact (htight.only hs hstep hclosed).imp_left ih
  | drift _ hdrift ih => exact fun hclosed => ih (htight.drift hdrift hclosed)

/-- What closes a latch comes first. -/
theorem open_before {before after : Y.History} {i : Nat} {e : Event Y.S}
    (hr : Run Y w₀ (before ++ .act i e :: after) w) (he : L.closes e) :
    ¬ L.closed w₀ ∧ ¬ L.ClosedIn before := by
  obtain ⟨c, w₁, w₂, q, -, hr₁, -, hstep⟩ := hr.split
  have hopen := (L.shuts hstep he).1
  exact ⟨fun hstart => hopen (closed_of hr₁ (Or.inl hstart)),
    fun hin => hopen (closed_of hr₁ (Or.inr hin))⟩

/-- One call closes a latch. -/
theorem unique (hr : Run Y w₀ h w) {i j : Nat} {e e' : Event Y.S} (hi : .act i e ∈ h)
    (hj : .act j e' ∈ h) (he : L.closes e) (he' : L.closes e') : i = j := by
  obtain ⟨before, after, hsplit⟩ := List.append_of_mem hi
  obtain ⟨before', after', hsplit'⟩ := List.append_of_mem hj
  rcases entries_ordered hsplit hsplit' with hsame | ⟨since, hlater⟩ | ⟨since, hlater⟩
  · exact (Act.act.inj hsame).1
  · refine absurd ⟨i, e, ?_, he⟩ (open_before (hsplit' ▸ hr) he').2
    simp [hlater]
  · refine absurd ⟨j, e', ?_, he'⟩ (open_before (hsplit ▸ hr) he).2
    simp [hlater]

end Latch

end Pool

end Blob
