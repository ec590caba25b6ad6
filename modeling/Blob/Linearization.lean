import Mathlib.Data.List.Induction
import Mathlib.Data.List.Nodup
import Blob.Pool

/-!
# Linearization

A call takes many operations, and others come in between. Where each call
decides its answer in one of its operations - the others only read, or touch
nothing the answer depends on - an interleaving amounts to using a
sequential object (`Atomic`), each call at once, in the order of their
decisions: every call is answered as the object answers it, a call decides
at most once, and a call that has decided before another is started comes
before it (`Atomic.linearized`).
-/

namespace Blob

namespace Pool

variable {Y : System}

/-- A sequential object, what a call of the system does to it, what answer a call decides
on in an event, and which state of the object a world stands for. -/
structure Atomic (Y : System) where
  State : Type
  Answer : Type
  apply : Y.Call → State → Answer × State
  decides : Y.Call → Event Y.S → Option Answer
  stands : Y.World → State → Prop
  once {c : Y.Call} {tr : List (Event Y.S)} {q : Prog Y.S (Y.Err c) (Y.Res c)} :
    (Y.prog c).Steps tr q → (tr.filterMap (decides c)).length ≤ 1
  decided {c : Y.Call} {tr : List (Event Y.S)} {e : Event Y.S}
    {q : Prog Y.S (Y.Err c) (Y.Res c)} {w w' : Y.World} {s : State} {r : Answer} :
    (Y.prog c).Steps (tr ++ [e]) q → Y.step w e w' → stands w s → decides c e = some r →
      (apply c s).1 = r ∧ stands w' (apply c s).2
  undecided {c : Y.Call} {tr : List (Event Y.S)} {e : Event Y.S}
    {q : Prog Y.S (Y.Err c) (Y.Res c)} {w w' : Y.World} {s : State} :
    (Y.prog c).Steps (tr ++ [e]) q → Y.step w e w' → stands w s → decides c e = none → stands w' s
  drift {w w' : Y.World} {s : State} : Y.drift w w' → stands w s → stands w' s

namespace Atomic

/-- A call that has decided, and on what. -/
structure Decision (A : Atomic Y) where
  call : Nat
  args : Y.Call
  answer : A.Answer

/-- The decision of an event, if it is one. -/
def decision (A : Atomic Y) (cs : List Y.Call) (i : Nat) (e : Event Y.S) : Option A.Decision :=
  cs[i]?.bind fun c => (A.decides c e).map fun r => ⟨i, c, r⟩

/-- The decisions along a history, after these calls were started. -/
def decisionsFrom (A : Atomic Y) : List Y.Call → Y.History → List A.Decision
  | _, [] => []
  | cs, .spawn c :: h => A.decisionsFrom (cs ++ [c]) h
  | cs, .act i e :: h => (A.decision cs i e).toList ++ A.decisionsFrom cs h

/-- The decisions of a history, in order. -/
def decisions (A : Atomic Y) (h : Y.History) : List A.Decision := A.decisionsFrom [] h

/-- The object, used by one call after the other. -/
def sequential (A : Atomic Y) : List Y.Call → A.State → List A.Answer × A.State
  | [], s => ([], s)
  | c :: cs, s =>
      ((A.apply c s).1 :: (A.sequential cs (A.apply c s).2).1,
        (A.sequential cs (A.apply c s).2).2)

/-! ## Histories and their decisions -/

variable {A : Atomic Y}

theorem decisionsFrom_append (cs : List Y.Call) (h h' : Y.History) :
    A.decisionsFrom cs (h ++ h') = A.decisionsFrom cs h ++ A.decisionsFrom (cs ++ calls h) h' := by
  induction h generalizing cs with
  | nil => simp [decisionsFrom, calls]
  | cons a h ih =>
      cases a with
      | spawn c => simp [decisionsFrom, calls, ih]
      | act i e => simp [decisionsFrom, calls, ih]

/-- As a history grows, decisions are added at the end. -/
theorem decisions_append (h h' : Y.History) :
    A.decisions (h ++ h') = A.decisions h ++ A.decisionsFrom (calls h) h' :=
  decisionsFrom_append [] h h'

theorem decisions_spawn (h : Y.History) (c : Y.Call) :
    A.decisions (h ++ [.spawn c]) = A.decisions h := by
  rw [decisions_append]
  exact List.append_nil _

theorem decisions_act (h : Y.History) (i : Nat) (e : Event Y.S) :
    A.decisions (h ++ [.act i e]) = A.decisions h ++ (A.decision (calls h) i e).toList := by
  rw [decisions_append]
  exact congrArg _ (List.append_nil _)

theorem decision_eq_some {cs : List Y.Call} {i : Nat} {e : Event Y.S} {d : A.Decision} :
    A.decision cs i e = some d
      ↔ d.call = i ∧ cs[i]? = some d.args ∧ A.decides d.args e = some d.answer := by
  simp only [decision, Option.bind_eq_some_iff, Option.map_eq_some_iff]
  constructor
  · rintro ⟨c, hc, r, hr, rfl⟩
    exact ⟨rfl, hc, hr⟩
  · rintro ⟨rfl, hc, hr⟩
    exact ⟨d.args, hc, d.answer, hr, rfl⟩

/-- A decision is made by a call, in one of its events. -/
theorem mem_decisions {h : Y.History} {d : A.Decision} (hd : d ∈ A.decisions h) :
    (calls h)[d.call]? = some d.args
      ∧ ∃ e, .act d.call e ∈ h ∧ A.decides d.args e = some d.answer := by
  induction h using List.reverseRecOn with
  | nil => cases hd
  | append_singleton h a ih =>
      cases a with
      | spawn c =>
          rw [decisions_spawn] at hd
          obtain ⟨hcall, e, hmem, hdecides⟩ := ih hd
          exact ⟨calls_mono _ hcall, e, List.mem_append_left _ hmem, hdecides⟩
      | act i e =>
          rw [decisions_act, List.mem_append, Option.mem_toList] at hd
          rcases hd with hold | hnew
          · obtain ⟨hcall, e', hmem, hdecides⟩ := ih hold
            exact ⟨calls_mono _ hcall, e', List.mem_append_left _ hmem, hdecides⟩
          · obtain ⟨rfl, hcall, hdecides⟩ := decision_eq_some.mp hnew
            exact ⟨calls_mono _ hcall, e, by simp, hdecides⟩

/-- And each event of a run that decides is one. -/
theorem mem_decisions_of_act {h : Y.History} {w₀ w : Y.World} (hr : Run Y w₀ h w) {i : Nat}
    {c : Y.Call} (hc : (calls h)[i]? = some c) {e : Event Y.S} (hmem : .act i e ∈ h)
    {r : A.Answer} (hdecides : A.decides c e = some r) : ⟨i, c, r⟩ ∈ A.decisions h := by
  obtain ⟨before, after, rfl⟩ := List.append_of_mem hmem
  obtain ⟨c', w₁, w₂, q, hc', -⟩ := hr.split
  obtain rfl := Option.some.inj ((calls_mono _ hc').symm.trans hc)
  have hdecision : A.decision (calls before) i e = some ⟨i, c', r⟩ :=
    decision_eq_some.mpr ⟨rfl, hc', hdecides⟩
  rw [decisions_append, decisionsFrom, hdecision]
  simp

/-- What a call has decided is to be read off what it has done. -/
theorem mem_decisions_iff {h : Y.History} {w₀ w : Y.World} (hr : Run Y w₀ h w) {i : Nat}
    {c : Y.Call} (hc : (calls h)[i]? = some c) {r : A.Answer} :
    ⟨i, c, r⟩ ∈ A.decisions h ↔ r ∈ (proj i h).filterMap (A.decides c) := by
  rw [List.mem_filterMap]
  constructor
  · intro hd
    obtain ⟨-, e, hmem, hdecides⟩ := mem_decisions hd
    exact ⟨e, mem_proj.mpr hmem, hdecides⟩
  · rintro ⟨e, hmem, hdecides⟩
    exact mem_decisions_of_act hr hc (mem_proj.mp hmem) hdecides

theorem sequential_append (cs cs' : List Y.Call) (s : A.State) :
    A.sequential (cs ++ cs') s
      = ((A.sequential cs s).1 ++ (A.sequential cs' (A.sequential cs s).2).1,
        (A.sequential cs' (A.sequential cs s).2).2) := by
  induction cs generalizing s with
  | nil => rfl
  | cons c cs ih => simp only [List.cons_append, sequential, ih]

/-! ## Every run is sequential -/

section Runs

variable {w₀ w : Y.World} {h : Y.History} {s₀ : A.State}

/-- The answers decided on are those of the object, used in the order of the decisions. -/
theorem sequential_of_run (hr : Run Y w₀ h w) (hstart : A.stands w₀ s₀) :
    (A.sequential ((A.decisions h).map Decision.args) s₀).1
        = (A.decisions h).map Decision.answer
      ∧ A.stands w (A.sequential ((A.decisions h).map Decision.args) s₀).2 := by
  induction hr with
  | nil => exact ⟨rfl, hstart⟩
  | spawn c _ _ ih => rwa [decisions_spawn]
  | @act h w w' i c e q hr hc hs hstep ih =>
      obtain ⟨hanswers, hstands⟩ := ih
      rw [decisions_act, decision, hc, Option.bind_some]
      cases hdecides : A.decides c e with
      | none =>
          rw [Option.map_none, Option.toList_none, List.append_nil]
          exact ⟨hanswers, A.undecided hs hstep hstands hdecides⟩
      | some r =>
          obtain ⟨hanswer, hafter⟩ := A.decided hs hstep hstands hdecides
          rw [Option.map_some, Option.toList_some, List.map_append, List.map_append,
            sequential_append, hanswers]
          exact ⟨congrArg (_ ++ [·]) hanswer, hafter⟩
  | drift _ hdrift ih => exact ⟨ih.1, A.drift hdrift ih.2⟩

theorem two_le_length_filterMap {α β : Type} {f : α → Option β} {xs : List α} {x y : α}
    (hx : x ∈ xs) {b c : β} (hfx : f x = some b) (hfy : f y = some c) :
    2 ≤ ((xs ++ [y]).filterMap f).length := by
  have hmem : b ∈ xs.filterMap f := List.mem_filterMap.mpr ⟨x, hx, hfx⟩
  have hone : 0 < (xs.filterMap f).length := List.length_pos_of_mem hmem
  rw [List.filterMap_append, List.length_append, List.filterMap_cons, hfy]
  simp only [List.filterMap_nil, List.length_singleton]
  omega

/-- A call decides once. -/
theorem nodup_of_run (hr : Run Y w₀ h w) : ((A.decisions h).map Decision.call).Nodup := by
  induction hr with
  | nil => exact List.nodup_nil
  | spawn c _ _ ih => rwa [decisions_spawn]
  | @act h w w' i c e q hr hc hs hstep ih =>
      rw [decisions_act, decision, hc, Option.bind_some]
      cases hdecides : A.decides c e with
      | none => rwa [Option.map_none, Option.toList_none, List.append_nil]
      | some r =>
          rw [Option.map_some, Option.toList_some, List.map_append, List.nodup_append]
          refine ⟨ih, List.nodup_singleton _, ?_⟩
          rintro _ hold _ hnew rfl
          -- two decisions of one call
          obtain ⟨d, hd, hsame⟩ := List.mem_map.mp hold
          obtain ⟨hcall, e', hmem, hdecided⟩ := mem_decisions hd
          obtain rfl : d.call = i := hsame.trans (List.mem_singleton.mp hnew)
          obtain rfl := Option.some.inj (hcall.symm.trans hc)
          have htwo := two_le_length_filterMap (mem_proj.mpr hmem) hdecided hdecides
          have hone := A.once hs
          omega
  | drift _ _ ih => exact ih

/-- A run that is as using the object, one call after the other. -/
structure Linearized (A : Atomic Y) (s₀ : A.State) (h : Y.History) (w : Y.World) : Prop where
  answers : (A.sequential ((A.decisions h).map Decision.args) s₀).1
    = (A.decisions h).map Decision.answer
  stands : A.stands w (A.sequential ((A.decisions h).map Decision.args) s₀).2
  once : ((A.decisions h).map Decision.call).Nodup
  /-- Later decisions come after the earlier ones, whose calls were started by then. -/
  ordered : ∀ h₁ h₂, h = h₁ ++ h₂ → A.decisions h₁ <+: A.decisions h
    ∧ ∀ d ∈ A.decisions h₁, (calls h₁)[d.call]? = some d.args

theorem linearized (hr : Run Y w₀ h w) (hstart : A.stands w₀ s₀) : A.Linearized s₀ h w where
  answers := (sequential_of_run hr hstart).1
  stands := (sequential_of_run hr hstart).2
  once := nodup_of_run hr
  ordered := by
    rintro h₁ h₂ rfl
    exact ⟨⟨_, (decisions_append h₁ h₂).symm⟩, fun d hd => (mem_decisions hd).1⟩

end Runs

end Atomic

end Pool

end Blob
