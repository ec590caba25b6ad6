import Blob.Pool

/-!
# Systems with their operations implemented

The calls of a system, each of whose operations is implemented by a program
over other operations: what was one step of a call is now many, and other
calls get in between. An operation counts as performed where its
implementation ends, so a history of the implemented system `Matches` the
one that has each operation in the place of the event that finished it.

If the steps within an implementation look like drifts of the abstract
world, and the last one like the operation itself (`Simulation`), every run
of the implemented system matches a run of the system (`Simulation.run`).
A safety property of all interleavings of operations is then one of all
interleavings of their implementations.
-/

namespace Blob

namespace Prog

variable {S T : Sig} {ε α : Type} {impl : (o : S.Op) → Prog T Empty (S.Ans o)}

/-- Where the implementation of `p` stands that has done `tr`: it has performed
the operations `ops`, and is between two operations or within the next one. -/
inductive Stands (impl : (o : S.Op) → Prog T Empty (S.Ans o)) (p : Prog S ε α)
    (ops : List (Event S)) : List (Event T) → Prop
  | between {tr : List (Event T)} {q : Prog S ε α} (steps : Steps p ops q)
      (expands : Expands impl ops tr) : Stands impl p ops tr
  | within {done rest : List (Event T)} {o : S.Op} {k : S.Ans o → Prog S ε α}
      {q : Prog T Empty (S.Ans o)} (steps : Steps p ops (.call o k))
      (expands : Expands impl ops done) (under : Steps (impl o) rest q)
      (unfinished : ∀ a, q ≠ .pure a) : Stands impl p ops (done ++ rest)

/-- A step of an operation under way is one of its implementation. -/
theorem steps_bind_one {p : Prog T Empty α} {β : Type} {f : α → Prog T ε β} {e : Event T}
    {r : Prog T ε β} (hp : ∀ a, p ≠ .pure a)
    (hs : Steps (p.mapErr Empty.elim >>= f) [e] r) : ∃ q, Steps p [e] q := by
  cases p with
  | pure a => exact absurd rfl (hp a)
  | throw e => exact e.elim
  | panic msg => cases hs
  | call o k =>
      cases hs with
      | call hs => exact ⟨_, .call (.refl _)⟩

/-- An operation that is passed on is performed in one event. -/
theorem steps_pass {o : T.Op} {tr : List (Event T)} {e : Event T} {q : Prog T ε (T.Ans o)}
    (hs : Steps (.call o .pure) (tr ++ [e]) q) : tr = [] ∧ ∃ a, e = ⟨o, a⟩ ∧ q = .pure a := by
  cases tr with
  | nil =>
      cases hs with
      | call hs =>
          cases hs
          exact ⟨rfl, _, rfl, rfl⟩
  | cons e' tr =>
      have hsplit : Steps (.call o .pure) ([e'] ++ (tr ++ [e])) q := hs
      obtain ⟨_, hs₁, hs₂⟩ := hsplit.split
      cases hs₁ with
      | call hs₁ =>
          cases hs₁
          cases tr <;> cases hs₂

section Passed

/-! ### Operations that are passed on -/

variable {pass : (o : S.Op) → Prog S Empty (S.Ans o)}

theorem expands_of_passed {tr : List (Event S)} (hpass : ∀ e ∈ tr, pass e.op = .call e.op .pure) :
    Expands pass tr tr := by
  induction tr with
  | nil => exact .nil
  | cons e tr ih =>
      have hone : (pass e.op).Steps [e] (.pure e.ans) := by
        rw [hpass e (List.mem_cons_self ..)]
        exact .call (.refl _)
      exact .cons hone (ih fun e' he' => hpass e' (List.mem_cons_of_mem _ he'))

theorem expands_passed {ops done : List (Event S)} (hx : Expands pass ops done)
    (hpass : ∀ e ∈ ops, pass e.op = .call e.op .pure) : done = ops := by
  induction hx with
  | nil => rfl
  | @cons o a seg tr done hseg _ ih =>
      have ho : pass o = .call o .pure := hpass ⟨o, a⟩ (List.mem_cons_self ..)
      rw [ho] at hseg
      cases hseg with
      | call hseg =>
          cases hseg
          rw [ih fun e he => hpass e (List.mem_cons_of_mem _ he)]
          rfl

theorem segment_passed {o : S.Op} {a : S.Ans o} {seg : List (Event S)}
    (hseg : Steps (pass o) seg (.pure a)) (hpass : pass o = .call o .pure) : seg = [⟨o, a⟩] := by
  rw [hpass] at hseg
  cases hseg with
  | call hseg =>
      cases hseg
      rfl

/-- A program of which everything is passed on has done what it has performed. -/
theorem Stands.eq_of_passed {p : Prog S ε α} {ops tr : List (Event S)}
    (hst : Stands pass p ops tr) (hpass : p.Uses fun o => pass o = .call o .pure) :
    tr = ops := by
  cases hst with
  | between hs hx => exact expands_passed hx (hpass.of_steps hs)
  | @within done rest o k q hs hx hunder hunfinished =>
      have ho : pass o = .call o .pure := (hpass.rest hs).1
      rw [ho] at hunder
      cases hunder with
      | refl =>
          rw [List.append_nil]
          exact expands_passed hx (hpass.of_steps hs)
      | call hunder =>
          cases hunder
          exact absurd rfl (hunfinished _)

end Passed

/-- What has been performed has been implemented. -/
theorem Stands.segment_of_mem {p : Prog S ε α} {ops : List (Event S)} {tr : List (Event T)}
    (hst : Stands impl p ops tr) {o : S.Op} {a : S.Ans o} (hmem : ⟨o, a⟩ ∈ ops) :
    ∃ seg, Steps (impl o) seg (.pure a) ∧ ∀ e ∈ seg, e ∈ tr := by
  cases hst with
  | between _ hx => exact hx.segment_of_mem hmem
  | within _ hx _ _ =>
      obtain ⟨seg, hseg, hall⟩ := hx.segment_of_mem hmem
      exact ⟨seg, hseg, fun e he => List.mem_append_left _ (hall e he)⟩

/-- The next event of an implemented program belongs to the next operation of
the program. -/
theorem Stands.next {p : Prog S ε α} {ops : List (Event S)} {tr : List (Event T)}
    (hbusy : ∀ o a, impl o ≠ .pure a) (hst : Stands impl p ops tr) {e : Event T}
    {r : Prog T ε α} (hs : Steps (handle impl p) (tr ++ [e]) r) :
    ∃ o k done rest q, Steps p ops (.call o k) ∧ Expands impl ops done ∧ tr = done ++ rest
      ∧ Steps (impl o) (rest ++ [e]) q := by
  obtain ⟨s, hs₁, hs₂⟩ := hs.split
  cases hst with
  | @between _ q hp hx =>
      obtain rfl := hs₁.unique (steps_of_expands hp hx)
      cases q with
      | pure a => cases hs₂
      | throw e => cases hs₂
      | panic msg => cases hs₂
      | call o k =>
          obtain ⟨q, hq⟩ := steps_bind_one (hbusy o) hs₂
          exact ⟨o, k, tr, [], q, hp, hx, (List.append_nil tr).symm, hq⟩
  | @within done rest o k q hp hx hrest hunfinished =>
      have hnow : Steps (handle impl p) (done ++ rest)
          (q.mapErr Empty.elim >>= fun a => handle impl (k a)) :=
        (steps_of_expands hp hx).trans ((hrest.mapErr Empty.elim).bind_left _)
      obtain rfl := hs₁.unique hnow
      obtain ⟨q', hq'⟩ := steps_bind_one hunfinished hs₂
      exact ⟨o, k, done, rest, q', hp, hx, rfl, hrest.trans hq'⟩

end Prog

open Prog

/-- An implementation of the operations of a system, on a world of its own. -/
structure Implementation (Y : System) where
  T : Sig
  impl : (o : Y.S.Op) → Prog T Empty (Y.S.Ans o)
  /-- An implementation asks for something before it answers. -/
  busy : ∀ o a, impl o ≠ .pure a
  World : Type
  step : World → Event T → World → Prop
  drift : World → World → Prop
  admits : List (Act T Y.Call) → Y.Call → Prop

namespace Implementation

open Pool

variable {Y : System}

/-- The system with its operations implemented. -/
abbrev system (I : Implementation Y) : System where
  S := I.T
  Call := Y.Call
  Err := Y.Err
  Res := Y.Res
  prog c := (Y.prog c).handle I.impl
  World := I.World
  step := I.step
  drift := I.drift
  admits := I.admits

variable {I : Implementation Y}

/-! ## Matching histories -/

/-- An entry of an implemented history that finishes one of an abstract history. -/
inductive Finishes (I : Implementation Y) : Act I.T Y.Call → Act Y.S Y.Call → Prop
  | spawn (c : Y.Call) : Finishes I (.spawn c) (.spawn c)
  | act (i : Nat) {o : Y.S.Op} {a : Y.S.Ans o} {seg : List (Event I.T)} {e : Event I.T}
      (steps : (I.impl o).Steps (seg ++ [e]) (.pure a)) :
      Finishes I (.act i e) (.act i ⟨o, a⟩)

/-- An implemented history, and the abstract one with each operation in the place
of the event that finished it. -/
inductive Matches (I : Implementation Y) : I.system.History → Y.History → Prop
  | nil : Matches I [] []
  | finish {h : I.system.History} {g : Y.History} {x : Act I.T Y.Call} {y : Act Y.S Y.Call}
      (before : Matches I h g) (last : Finishes I x y) : Matches I (h ++ [x]) (g ++ [y])
  | within {h : I.system.History} {g : Y.History} (before : Matches I h g) (i : Nat)
      (e : Event I.T) : Matches I (h ++ [.act i e]) g

/-- What an abstract history has in a place, the matching one has finished there. -/
theorem Matches.split {h : I.system.History} {g g₁ g₂ : Y.History} {y : Act Y.S Y.Call}
    (hm : Matches I h g) (hg : g = g₁ ++ y :: g₂) :
    ∃ h₁ x h₂, h = h₁ ++ x :: h₂ ∧ Matches I h₁ g₁ ∧ Finishes I x y := by
  induction hm generalizing g₂ with
  | nil => simp at hg
  | @finish h g x y' hbefore hlast ih =>
      rcases List.eq_nil_or_concat g₂ with rfl | ⟨g₂, y'', rfl⟩
      · obtain ⟨rfl, heq⟩ := List.append_inj' hg rfl
        obtain rfl := List.singleton_inj.mp heq
        exact ⟨h, x, [], rfl, hbefore, hlast⟩
      · rw [List.concat_eq_append, ← List.cons_append, ← List.append_assoc] at hg
        obtain ⟨h₁, x', h₂, rfl, hrest⟩ := ih (List.append_inj' hg rfl).1
        exact ⟨h₁, x', h₂ ++ [x], by simp, hrest⟩
  | within hbefore i e ih =>
      obtain ⟨h₁, x, h₂, rfl, hrest⟩ := ih hg
      exact ⟨h₁, x, h₂ ++ [.act i e], by simp, hrest⟩

theorem Matches.calls_eq {h : I.system.History} {g : Y.History} (hm : Matches I h g) :
    calls g = calls h := by
  induction hm with
  | nil => rfl
  | finish _ hlast ih =>
      cases hlast with
      | spawn c => simp [ih]
      | act i hs => simp [ih]
  | within _ i e ih => simp [ih]

/-- The histories match, and every call stands in the one where it stands in the
other. -/
structure Refines (I : Implementation Y) (h : I.system.History) (g : Y.History) : Prop where
  matching : Matches I h g
  stands : ∀ {i c}, (calls h)[i]? = some c → Stands I.impl (Y.prog c) (proj i g) (proj i h)

/-! ## Simulation -/

/-- In a run from `w₀`, call `i` performs the event `e` of its operation `o`, and
comes to `q` in its implementation. Before, it has performed the operations
`ops`, and `rest` of this one. -/
structure Move (I : Implementation Y) (w₀ : I.World) (h : I.system.History) (w w' : I.World)
    (i : Nat) (c : Y.Call) (ops : List (Event Y.S)) (o : Y.S.Op)
    (k : Y.S.Ans o → Prog Y.S (Y.Err c) (Y.Res c)) (done rest : List (Event I.T))
    (e : Event I.T) (q : Prog I.T Empty (Y.S.Ans o)) : Prop where
  run : Run I.system w₀ h w
  step : I.step w e w'
  call : (calls h)[i]? = some c
  performed : (Y.prog c).Steps ops (.call o k)
  expands : Expands I.impl ops done
  did : proj i h = done ++ rest
  steps : (I.impl o).Steps (rest ++ [e]) q

/-- The abstract world a world stands for, along all runs from `w₀`. -/
structure Simulation (I : Implementation Y) (w₀ : I.World) where
  abs : I.World → Y.World
  /-- A step within an implementation is none of the abstract world's. -/
  within {h w w' i c ops o k done rest e q} : I.Move w₀ h w w' i c ops o k done rest e q →
    (∀ a, q ≠ .pure a) → Y.drift (abs w) (abs w')
  /-- The last step of an implementation performs the operation. -/
  finish {h w w' i c ops o k done rest e a} :
    I.Move w₀ h w w' i c ops o k done rest e (.pure a) →
    ∃ v, Y.drift (abs w) v ∧ Y.step v ⟨o, a⟩ (abs w')
  drift {h w w'} : Run I.system w₀ h w → I.drift w w' → Y.drift (abs w) (abs w')
  admits {h w g c} : Run I.system w₀ h w → Refines I h g → I.admits h c → Y.admits g c

/-- A call that has done nothing is at its start. -/
theorem Refines.spawn {h : I.system.History} {g : Y.History} (href : Refines I h g)
    (hh : proj (calls h).length h = []) (hg : proj (calls h).length g = []) (c : Y.Call) :
    Refines I (h ++ [.spawn c]) (g ++ [.spawn c]) where
  matching := .finish href.matching (.spawn c)
  stands := by
    intro i c' hc'
    rw [proj_append, proj_append, proj_spawn, proj_spawn, List.append_nil, List.append_nil]
    cases hold : (calls h)[i]? with
    | some c₀ =>
        rw [calls_mono _ hold, Option.some.injEq] at hc'
        exact hc' ▸ href.stands hold
    | none =>
        -- the new call is the last one
        have hlt := (List.getElem?_eq_some_iff.mp hc').1
        have hle := List.getElem?_eq_none_iff.mp hold
        obtain rfl : i = (calls h).length := by
          rw [calls_append, List.length_append, calls_spawn, List.length_singleton] at hlt
          omega
        rw [hh, hg]
        exact .between (.refl _) .nil

/-- A call has moved; the others stand where they stood. -/
theorem Refines.act {h : I.system.History} {g g' : Y.History} (href : Refines I h g) {i : Nat}
    {e : Event I.T} (hm : Matches I (h ++ [.act i e]) (g ++ g'))
    (hother : ∀ j ≠ i, proj j g' = [])
    (hstands : ∀ c, (calls h)[i]? = some c →
      Stands I.impl (Y.prog c) (proj i (g ++ g')) (proj i h ++ [e])) :
    Refines I (h ++ [.act i e]) (g ++ g') where
  matching := hm
  stands := by
    intro j c hc
    rw [calls_append, calls_act, List.append_nil] at hc
    by_cases hj : j = i
    · subst hj
      rw [proj_append j h, proj_act_self]
      exact hstands c hc
    · rw [proj_append j h, proj_append, proj_act_ne (Ne.symm hj), hother j hj, List.append_nil,
        List.append_nil]
      exact href.stands hc

variable {w₀ : I.World} {h : I.system.History} {g : Y.History} {w w' : I.World} {i : Nat}
  {c : Y.Call} {o : Y.S.Op} {k : Y.S.Ans o → Prog Y.S (Y.Err c) (Y.Res c)}
  {done rest : List (Event I.T)} {e : Event I.T}

theorem Refines.within {q : Prog I.T Empty (Y.S.Ans o)} (href : Refines I h g)
    (hmove : I.Move w₀ h w w' i c (proj i g) o k done rest e q)
    (hunfinished : ∀ a, q ≠ .pure a) : Refines I (h ++ [.act i e]) g := by
  have hnew : Refines I (h ++ [.act i e]) (g ++ []) := by
    refine href.act ?_ (fun _ _ => rfl) fun c' hc' => ?_
    · rw [List.append_nil]
      exact .within href.matching i e
    · obtain rfl := Option.some.inj (hc'.symm.trans hmove.call)
      rw [hmove.did, List.append_assoc, List.append_nil]
      exact .within hmove.performed hmove.expands hmove.steps hunfinished
  rwa [List.append_nil] at hnew

theorem Move.performs {a : Y.S.Ans o} {ops : List (Event Y.S)}
    (hmove : I.Move w₀ h w w' i c ops o k done rest e (.pure a)) :
    (Y.prog c).Steps (ops ++ [⟨o, a⟩]) (k a) :=
  hmove.performed.trans (.call (.refl _))

theorem Refines.finish {a : Y.S.Ans o} (href : Refines I h g)
    (hmove : I.Move w₀ h w w' i c (proj i g) o k done rest e (.pure a)) :
    Refines I (h ++ [.act i e]) (g ++ [.act i ⟨o, a⟩]) := by
  refine href.act (.finish href.matching (.act i hmove.steps))
    (fun j hj => proj_act_ne (Ne.symm hj) _) fun c' hc' => ?_
  obtain rfl := Option.some.inj (hc'.symm.trans hmove.call)
  have hlast : Expands I.impl [⟨o, a⟩] (rest ++ [e]) := by
    simpa using Expands.cons hmove.steps .nil
  rw [hmove.did, List.append_assoc, proj_append, proj_act_self]
  exact .between hmove.performs (hmove.expands.append hlast)

/-- **Interleaved implementations refine interleaved operations.** Every run of the
implemented system matches a run of the system, which leads to the world the
implemented one stands for. -/
theorem Simulation.run (sim : Simulation I w₀) (hr : Run I.system w₀ h w) :
    ∃ g, Run Y (sim.abs w₀) g (sim.abs w) ∧ Refines I h g := by
  induction hr with
  | nil => exact ⟨[], .nil, .nil, fun hc => by cases hc⟩
  | @spawn h w c hr hadm ih =>
      obtain ⟨g, hg, href⟩ := ih
      have hlast : ∀ {l : List Y.Call}, l[l.length]? = none :=
        List.getElem?_eq_none (Nat.le_refl _)
      refine ⟨g ++ [.spawn c], Run.spawn (Y := Y) c hg (sim.admits hr href hadm),
        href.spawn (hr.proj_eq_nil hlast) ?_ c⟩
      rw [← href.matching.calls_eq]
      exact hg.proj_eq_nil hlast
  | @act h w w' i c e r hr hc hs hstep ih =>
      obtain ⟨g, hg, href⟩ := ih
      obtain ⟨o, k, done, rest, q, hops, hexpands, hdid, hsteps⟩ :=
        (href.stands hc).next I.busy hs
      have hmove : I.Move w₀ h w w' i c (proj i g) o k done rest e q :=
        ⟨hr, hstep, hc, hops, hexpands, hdid, hsteps⟩
      by_cases hdone : ∃ a, q = .pure a
      · obtain ⟨a, rfl⟩ := hdone
        obtain ⟨v, hdrift, hperform⟩ := sim.finish hmove
        have hcall : (calls g)[i]? = some c := by rw [href.matching.calls_eq, hc]
        exact ⟨_, (hg.drift hdrift).act hcall hmove.performs hperform, href.finish hmove⟩
      · have hunfinished : ∀ a, q ≠ .pure a := fun a ha => hdone ⟨a, ha⟩
        exact ⟨g, hg.drift (sim.within hmove hunfinished), href.within hmove hunfinished⟩
  | drift hr hdrift ih =>
      obtain ⟨g, hg, href⟩ := ih
      exact ⟨g, hg.drift (sim.drift hr hdrift), href⟩

end Implementation

end Blob
