import Mathlib.Logic.Function.Basic
import Mathlib.Data.List.Basic

/-!
# Effectful programs and their executions

A program over a signature of operations: it performs an operation and
goes on with the answer, returns, fails with an error, or panics. What
answers an operation is not part of a program - a host may answer
anything - so an *execution* is a list of (operation, answer) events
that the program follows (`Steps`), complete or cut off anywhere.

`All Q p` says that `Q` holds of every execution of `p`, cut off or
complete; its rules (`all_call`, `all_bind`, `all_ask`) are the
rules of pre- and postconditions that every trace property is proved
with. `handle` implements the operations of one signature by programs
over another; `steps_handle` cuts an execution of the implementation
into executions of its operations, so a fact about the abstract trace
is inherited by the concrete one.
-/

namespace Blob

/-- Operations, and the type of the answers to each. -/
structure Sig where
  Op : Type
  Ans : Op → Type

/-- An operation together with the answer it got. -/
structure Event (S : Sig) where
  op : S.Op
  ans : S.Ans op

/-- The operations of two signatures. -/
abbrev Sig.sum (S T : Sig) : Sig where
  Op := S.Op ⊕ T.Op
  Ans
    | .inl o => S.Ans o
    | .inr o => T.Ans o

namespace Event

variable {S T : Sig}

def inl (e : Event S) : Event (S.sum T) := ⟨.inl e.op, e.ans⟩

def inr (e : Event T) : Event (S.sum T) := ⟨.inr e.op, e.ans⟩

theorem inl_injective : Function.Injective (inl : Event S → Event (S.sum T)) := by
  rintro ⟨o, a⟩ ⟨o', a'⟩ h
  simp only [inl, Event.mk.injEq, Sum.inl.injEq] at h
  obtain ⟨rfl, h⟩ := h
  rw [eq_of_heq h]

theorem inr_injective : Function.Injective (inr : Event T → Event (S.sum T)) := by
  rintro ⟨o, a⟩ ⟨o', a'⟩ h
  simp only [inr, Event.mk.injEq, Sum.inr.injEq] at h
  obtain ⟨rfl, h⟩ := h
  rw [eq_of_heq h]

end Event

/-- A program that may perform operations, return, fail or panic. -/
inductive Prog (S : Sig) (ε α : Type) where
  | pure (a : α)
  | throw (e : ε)
  | panic (msg : String)
  | call (o : S.Op) (k : S.Ans o → Prog S ε α)

namespace Prog

variable {S T : Sig} {ε ε' α β : Type}

/-! ## Sequencing -/

def bind (p : Prog S ε α) (f : α → Prog S ε β) : Prog S ε β :=
  match p with
  | .pure a => f a
  | .throw e => .throw e
  | .panic msg => .panic msg
  | .call o k => .call o fun a => (k a).bind f

instance : Monad (Prog S ε) where
  pure := .pure
  bind := .bind

instance : MonadExceptOf ε (Prog S ε) where
  throw := .throw
  tryCatch p h :=
    let rec go : Prog S ε _ → Prog S ε _
      | .pure a => .pure a
      | .throw e => h e
      | .panic msg => .panic msg
      | .call o k => .call o fun a => go (k a)
    go p

/-- A computed `Result`, as a program. -/
def ofExcept : Except ε α → Prog S ε α
  | .ok a => .pure a
  | .error e => .throw e

/-- `if c { return Err(e) }`. -/
def reject (c : Prop) [Decidable c] (e : ε) : Prog S ε Unit :=
  if c then .throw e else .pure ()

/-- `Result::map_err`. -/
def mapErr (f : ε → ε') : Prog S ε α → Prog S ε' α
  | .pure a => .pure a
  | .throw e => .throw (f e)
  | .panic msg => .panic msg
  | .call o k => .call o fun a => (k a).mapErr f

/-- The `Result` a program ends with, as a value to match on. -/
def attempt : Prog S ε α → Prog S ε' (Except ε α)
  | .pure a => .pure (.ok a)
  | .throw e => .pure (.error e)
  | .panic msg => .panic msg
  | .call o k => .call o fun a => (k a).attempt

@[simp] theorem pure_eq (a : α) : (Pure.pure a : Prog S ε α) = .pure a := rfl

@[simp] theorem throw_eq (e : ε) :
    (MonadExcept.throw e : Prog S ε α) = .throw e := rfl

@[simp] theorem bind_pure (a : α) (f : α → Prog S ε β) :
    (Prog.pure a >>= f) = f a := rfl

@[simp] theorem bind_throw (e : ε) (f : α → Prog S ε β) :
    ((Prog.throw e : Prog S ε α) >>= f) = .throw e := rfl

@[simp] theorem bind_panic (msg : String) (f : α → Prog S ε β) :
    ((Prog.panic msg : Prog S ε α) >>= f) = .panic msg := rfl

@[simp] theorem bind_call (o : S.Op) (k : S.Ans o → Prog S ε α)
    (f : α → Prog S ε β) : (Prog.call o k >>= f) = .call o fun a => k a >>= f := rfl

@[simp] theorem ofExcept_ok (a : α) :
    (ofExcept (.ok a) : Prog S ε α) = .pure a := rfl

@[simp] theorem ofExcept_error (e : ε) :
    (ofExcept (.error e) : Prog S ε α) = .throw e := rfl

@[simp] theorem mapErr_pure (f : ε → ε') (a : α) :
    (Prog.pure a : Prog S ε α).mapErr f = .pure a := rfl

@[simp] theorem mapErr_throw (f : ε → ε') (e : ε) :
    (Prog.throw e : Prog S ε α).mapErr f = .throw (f e) := rfl

@[simp] theorem mapErr_call (f : ε → ε') (o : S.Op) (k : S.Ans o → Prog S ε α) :
    (Prog.call o k).mapErr f = .call o fun a => (k a).mapErr f := rfl

@[simp] theorem attempt_pure (a : α) :
    ((Prog.pure a : Prog S ε α).attempt : Prog S ε' _) = .pure (.ok a) := rfl

@[simp] theorem attempt_throw (e : ε) :
    ((Prog.throw e : Prog S ε α).attempt : Prog S ε' _) = .pure (.error e) := rfl

@[simp] theorem attempt_call (o : S.Op) (k : S.Ans o → Prog S ε α) :
    ((Prog.call o k).attempt : Prog S ε' _) = .call o fun a => (k a).attempt := rfl

/-! ## Executions -/

/-- `Steps p tr q`: performing the operations of `tr` with the answers
recorded there turns `p` into `q`. -/
inductive Steps : Prog S ε α → List (Event S) → Prog S ε α → Prop
  | refl (p : Prog S ε α) : Steps p [] p
  | call {o : S.Op} {k : S.Ans o → Prog S ε α} {a : S.Ans o}
      {tr : List (Event S)} {q : Prog S ε α} :
      Steps (k a) tr q → Steps (.call o k) (⟨o, a⟩ :: tr) q

theorem Steps.trans {p q r : Prog S ε α} {tr₁ tr₂ : List (Event S)}
    (h₁ : Steps p tr₁ q) (h₂ : Steps q tr₂ r) : Steps p (tr₁ ++ tr₂) r := by
  induction h₁ with
  | refl => exact h₂
  | call _ ih => exact .call (ih h₂)

/-- An execution of `p` cut after `tr₁` is an execution of `p`. -/
theorem Steps.split {p r : Prog S ε α} {tr₁ tr₂ : List (Event S)}
    (h : Steps p (tr₁ ++ tr₂) r) : ∃ q, Steps p tr₁ q ∧ Steps q tr₂ r := by
  induction tr₁ generalizing p with
  | nil => exact ⟨p, .refl p, h⟩
  | cons e tr₁ ih =>
      cases h with
      | call h' =>
          obtain ⟨q, hq, hr⟩ := ih h'
          exact ⟨q, .call hq, hr⟩

/-- The operations and their answers determine where a program comes to stand. -/
theorem Steps.unique {p q q' : Prog S ε α} {tr : List (Event S)} (h : Steps p tr q)
    (h' : Steps p tr q') : q = q' := by
  induction h with
  | refl p =>
      cases h'
      rfl
  | call _ ih =>
      cases h' with
      | call h' => exact ih h'

theorem Steps.bind {p : Prog S ε α} {f : α → Prog S ε β} {tr₁ tr₂ : List (Event S)} {a : α}
    {r : Prog S ε β} (hp : Steps p tr₁ (.pure a)) (hf : Steps (f a) tr₂ r) :
    Steps (p >>= f) (tr₁ ++ tr₂) r := by
  induction p generalizing tr₁ with
  | pure b => cases hp; exact hf
  | throw e => cases hp
  | panic msg => cases hp
  | call o k ih =>
      cases hp with
      | call hp' => exact .call (ih _ hp')

theorem Steps.bind_throw {p : Prog S ε α} {f : α → Prog S ε β} {tr : List (Event S)} {e : ε}
    (hp : Steps p tr (.throw e)) : Steps (p >>= f) tr (.throw e) := by
  induction p generalizing tr with
  | pure b => cases hp
  | throw e' => cases hp; exact .refl _
  | panic msg => cases hp
  | call o k ih =>
      cases hp with
      | call hp' => exact .call (ih _ hp')

/-- A sequence whose first part is still at work. -/
theorem Steps.bind_left {p q : Prog S ε α} {tr : List (Event S)} (h : Steps p tr q)
    (f : α → Prog S ε β) : Steps (p >>= f) tr (q >>= f) := by
  induction h with
  | refl p => exact .refl _
  | call _ ih => exact .call ih

theorem Steps.mapErr {p q : Prog S ε α} {tr : List (Event S)} (h : Steps p tr q)
    (f : ε → ε') : Steps (p.mapErr f) tr (q.mapErr f) := by
  induction h with
  | refl p => exact .refl _
  | call _ ih => exact .call ih

theorem Steps.attempt {p q : Prog S ε α} {tr : List (Event S)} (h : Steps p tr q) :
    Steps (p.attempt : Prog S ε' (Except ε α)) tr q.attempt := by
  induction h with
  | refl p => exact .refl _
  | call _ ih => exact .call ih

theorem reject_neg {c : Prop} [Decidable c] (h : ¬ c) (e : ε) :
    (reject c e : Prog S ε Unit) = .pure () :=
  if_neg h

theorem steps_reject {c : Prop} [Decidable c] (h : ¬ c) (e : ε) :
    Steps (reject c e : Prog S ε Unit) [] (.pure ()) := by
  rw [reject_neg h]
  exact .refl _

/-- Follow the recorded answers, checking that the recorded operations
are the ones performed. -/
def follow [DecidableEq S.Op] : Prog S ε α → List (Event S) → Option (Prog S ε α)
  | p, [] => some p
  | .call o k, e :: tr => if h : e.op = o then (k (h ▸ e.ans)).follow tr else none
  | _, _ :: _ => none

theorem steps_of_follow [DecidableEq S.Op] {p q : Prog S ε α}
    {tr : List (Event S)} (h : p.follow tr = some q) : Steps p tr q := by
  induction tr generalizing p with
  | nil =>
      simp only [follow, Option.some.injEq] at h
      exact h ▸ .refl p
  | cons e tr ih =>
      cases p with
      | call o k =>
          simp only [follow] at h
          split at h
          · rename_i heq
            obtain ⟨o', a⟩ := e
            subst heq
            exact .call (ih h)
          · cases h
      | pure _ => simp [follow] at h
      | throw _ => simp [follow] at h
      | panic _ => simp [follow] at h

/-- Following the answers is the one execution with them. -/
theorem follow_of_steps [DecidableEq S.Op] {p q : Prog S ε α} {tr : List (Event S)}
    (h : Steps p tr q) : p.follow tr = some q := by
  induction h with
  | refl p => cases p <;> rfl
  | call _ ih => simpa only [follow, dite_true] using ih

/-- Where a program stands: still running, or how it ended. -/
inductive Status (ε α : Type) where
  | running
  | returned (a : α)
  | failed (e : ε)
  | panicked (msg : String)
deriving Repr, DecidableEq

def Status.mapErr (f : ε → ε') : Status ε α → Status ε' α
  | .running => .running
  | .returned a => .returned a
  | .failed e => .failed (f e)
  | .panicked msg => .panicked msg

def status : Prog S ε α → Status ε α
  | .pure a => .returned a
  | .throw e => .failed e
  | .panic msg => .panicked msg
  | .call _ _ => .running

/-- The states an execution takes a world through, when the world's
transitions are `step`. -/
inductive Exec {W : Type} (step : W → Event S → W → Prop) :
    W → List (Event S) → W → Prop
  | nil {w : W} : Exec step w [] w
  | cons {w w' w'' : W} {e : Event S} {tr : List (Event S)} :
      step w e w' → Exec step w' tr w'' → Exec step w (e :: tr) w''

theorem exec_nil {W : Type} {step : W → Event S → W → Prop} {w w' : W} :
    Exec step w [] w' ↔ w' = w := by
  constructor
  · rintro ⟨⟩
    rfl
  · rintro rfl
    exact .nil

theorem exec_cons {W : Type} {step : W → Event S → W → Prop} {w w'' : W} {e : Event S}
    {tr : List (Event S)} :
    Exec step w (e :: tr) w'' ↔ ∃ w', step w e w' ∧ Exec step w' tr w'' := by
  constructor
  · rintro (_ | ⟨hstep, hx⟩)
    exact ⟨_, hstep, hx⟩
  · rintro ⟨w', hstep, hx⟩
    exact .cons hstep hx

theorem Exec.append {W : Type} {step : W → Event S → W → Prop} {w w' w'' : W}
    {tr tr' : List (Event S)} (h : Exec step w tr w') (h' : Exec step w' tr' w'') :
    Exec step w (tr ++ tr') w'' := by
  induction h with
  | nil => exact h'
  | cons hstep _ ih => exact .cons hstep (ih h')

theorem Exec.split {W : Type} {step : W → Event S → W → Prop} {w w'' : W}
    {tr tr' : List (Event S)} (h : Exec step w (tr ++ tr') w'') :
    ∃ w', Exec step w tr w' ∧ Exec step w' tr' w'' := by
  induction tr generalizing w with
  | nil => exact ⟨w, .nil, h⟩
  | cons e tr ih =>
      cases h with
      | cons hstep hx =>
          obtain ⟨w', hw', hrest⟩ := ih hx
          exact ⟨w', .cons hstep hw', hrest⟩

/-- What there is to see of an execution: its events, how far it came, and the
world it left. -/
def Behaves {W : Type} (step : W → Event S → W → Prop) (p : Prog S ε α) (w : W)
    (tr : List (Event S)) (st : Status ε α) (w' : W) : Prop :=
  ∃ q, Steps p tr q ∧ q.status = st ∧ Exec step w tr w'

/-! ## Running a program -/

/-- Run a program against a world that answers its operations. -/
def run {W : Type} (serve : W → (o : S.Op) → S.Ans o × W) :
    Prog S ε α → W → Status ε α × W
  | .pure a, w => (.returned a, w)
  | .throw e, w => (.failed e, w)
  | .panic msg, w => (.panicked msg, w)
  | .call o k, w => (k (serve w o).1).run serve (serve w o).2

section Run

variable {W : Type} {serve : W → (o : S.Op) → S.Ans o × W}

@[simp] theorem run_pure (a : α) (w : W) :
    (Prog.pure a : Prog S ε α).run serve w = (.returned a, w) := rfl

@[simp] theorem run_throw (e : ε) (w : W) :
    (Prog.throw e : Prog S ε α).run serve w = (.failed e, w) := rfl

theorem run_call (o : S.Op) (k : S.Ans o → Prog S ε α) (w : W) :
    (Prog.call o k).run serve w = (k (serve w o).1).run serve (serve w o).2 := rfl

/-- A run is a complete execution, through states the served answers lead to. -/
theorem run_exec {step : W → Event S → W → Prop}
    (hserve : ∀ w o, step w ⟨o, (serve w o).1⟩ (serve w o).2) (p : Prog S ε α) (w : W) :
    ∃ tr q, p.Steps tr q ∧ q.status = (p.run serve w).1
      ∧ Exec step w tr (p.run serve w).2 := by
  induction p generalizing w with
  | pure a => exact ⟨[], _, .refl _, rfl, .nil⟩
  | throw e => exact ⟨[], _, .refl _, rfl, .nil⟩
  | panic msg => exact ⟨[], _, .refl _, rfl, .nil⟩
  | call o k ih =>
      obtain ⟨tr, q, hs, hstatus, hx⟩ := ih (serve w o).1 (serve w o).2
      exact ⟨_ :: tr, q, .call hs, hstatus, .cons (hserve w o) hx⟩

/-- The one answer of the world to an operation, and the world after it. -/
def Serves (serve : W → (o : S.Op) → S.Ans o × W) (w : W) (e : Event S) (w' : W) : Prop :=
  serve w e.op = (e.ans, w')

/-- An execution with the served answers is a beginning of the run. -/
theorem run_of_steps {p q : Prog S ε α} {tr : List (Event S)} {w w' : W} (hs : p.Steps tr q)
    (hx : Exec (Serves serve) w tr w') : p.run serve w = q.run serve w' := by
  induction hs generalizing w with
  | refl =>
      cases hx
      rfl
  | call _ ih =>
      cases hx with
      | cons hserved hx =>
          rw [run_call, show serve w _ = _ from hserved]
          exact ih hx

theorem run_bind_returned {p : Prog S ε α} {f : α → Prog S ε β} {w w' : W} {a : α}
    (h : p.run serve w = (.returned a, w')) :
    (p >>= f).run serve w = (f a).run serve w' := by
  induction p generalizing w with
  | pure b =>
      obtain ⟨hb, rfl⟩ := Prod.mk.inj h
      obtain rfl := Status.returned.inj hb
      rfl
  | throw e => cases (Prod.mk.inj h).1
  | panic msg => cases (Prod.mk.inj h).1
  | call o k ih => exact ih _ h

theorem run_bind_failed {p : Prog S ε α} {f : α → Prog S ε β} {w w' : W} {e : ε}
    (h : p.run serve w = (.failed e, w')) : (p >>= f).run serve w = (.failed e, w') := by
  induction p generalizing w with
  | pure b => cases (Prod.mk.inj h).1
  | throw e' =>
      obtain ⟨he, rfl⟩ := Prod.mk.inj h
      obtain rfl := Status.failed.inj he
      rfl
  | panic msg => cases (Prod.mk.inj h).1
  | call o k ih => exact ih _ h

end Run

/-! ## Properties of every execution -/

/-- `Q` holds of every execution of `p`, cut off or complete. -/
def All (Q : List (Event S) → Status ε α → Prop) : Prog S ε α → Prop
  | .pure a => Q [] (.returned a)
  | .throw e => Q [] (.failed e)
  | .panic msg => Q [] (.panicked msg)
  | .call o k => Q [] .running ∧ ∀ a, All (fun tr => Q (⟨o, a⟩ :: tr)) (k a)

theorem All.of_steps {Q : List (Event S) → Status ε α → Prop} {p q : Prog S ε α}
    {tr : List (Event S)} (h : All Q p) (hs : Steps p tr q) : Q tr q.status := by
  induction hs generalizing Q with
  | refl p =>
      cases p with
      | call o k => exact h.1
      | pure _ => exact h
      | throw _ => exact h
      | panic _ => exact h
  | call _ ih => exact ih (h.2 _)

theorem all_of_forall {Q : List (Event S) → Status ε α → Prop} {p : Prog S ε α}
    (h : ∀ tr q, Steps p tr q → Q tr q.status) : All Q p := by
  induction p generalizing Q with
  | pure a => exact h [] _ (.refl _)
  | throw e => exact h [] _ (.refl _)
  | panic msg => exact h [] _ (.refl _)
  | call o k ih =>
      exact ⟨h [] _ (.refl _), fun a => ih a fun tr q hs => h _ q (.call hs)⟩

theorem All.imp {Q Q' : List (Event S) → Status ε α → Prop} {p : Prog S ε α}
    (h : All Q p) (himp : ∀ tr st, Q tr st → Q' tr st) : All Q' p :=
  all_of_forall fun tr _ hs => himp tr _ (h.of_steps hs)

@[simp] theorem all_pure {Q : List (Event S) → Status ε α → Prop} {a : α} :
    All Q (.pure a) ↔ Q [] (.returned a) := Iff.rfl

@[simp] theorem all_throw {Q : List (Event S) → Status ε α → Prop} {e : ε} :
    All Q (.throw e) ↔ Q [] (.failed e) := Iff.rfl

@[simp] theorem all_panic {Q : List (Event S) → Status ε α → Prop} {msg : String} :
    All Q (.panic msg) ↔ Q [] (.panicked msg) := Iff.rfl

theorem all_call {Q : List (Event S) → Status ε α → Prop} {o : S.Op}
    {k : S.Ans o → Prog S ε α} :
    All Q (.call o k) ↔ Q [] .running ∧ ∀ a, All (fun tr => Q (⟨o, a⟩ :: tr)) (k a) :=
  Iff.rfl

theorem all_reject {Q : List (Event S) → Status ε α → Prop} {c : Prop} [Decidable c]
    {e : ε} {f : Unit → Prog S ε α} :
    All Q (reject c e >>= f) ↔ (c → Q [] (.failed e)) ∧ (¬ c → All Q (f ())) := by
  unfold reject
  split <;> simp_all

theorem all_reject_last {Q : List (Event S) → Status ε Unit → Prop} {c : Prop}
    [Decidable c] {e : ε} :
    All Q (reject c e) ↔ (c → Q [] (.failed e)) ∧ (¬ c → Q [] (.returned ())) := by
  unfold reject
  split <;> simp_all

/-- An execution of a sequence is one of its first part, and once that has
returned one of the second. -/
theorem all_bind {Q : List (Event S) → Status ε β → Prop} {p : Prog S ε α}
    {f : α → Prog S ε β} :
    All Q (p >>= f) ↔ All (fun tr st => match st with
      | .running => Q tr .running
      | .failed e => Q tr (.failed e)
      | .panicked msg => Q tr (.panicked msg)
      | .returned a => All (fun tr' => Q (tr ++ tr')) (f a)) p := by
  induction p generalizing Q with
  | pure a => rfl
  | throw e => rfl
  | panic msg => rfl
  | call o k ih =>
      rw [bind_call, all_call, all_call]
      exact and_congr Iff.rfl (forall_congr' fun a => ih a)

theorem all_mapErr {Q : List (Event S) → Status ε' α → Prop} {f : ε → ε'}
    {p : Prog S ε α} :
    All Q (p.mapErr f) ↔ All (fun tr st => Q tr (st.mapErr f)) p := by
  induction p generalizing Q with
  | pure a => rfl
  | throw e => rfl
  | panic msg => rfl
  | call o k ih =>
      rw [mapErr_call, all_call, all_call]
      exact and_congr Iff.rfl (forall_congr' fun a => ih a)

/-- A call whose answer is a `Result` that is passed on with `?`. -/
theorem all_ask {Q : List (Event S) → Status ε' β → Prop} {o : S.Op}
    {out : S.Ans o → Except ε α} {f : ε → ε'} {k : α → Prog S ε' β} :
    All Q ((Prog.call o fun ans => ofExcept (out ans)).mapErr f >>= k)
      ↔ Q [] .running ∧ ∀ ans, match out ans with
        | .error e => Q [⟨o, ans⟩] (.failed (f e))
        | .ok a => All (fun tr => Q (⟨o, ans⟩ :: tr)) (k a) := by
  rw [mapErr_call, bind_call, all_call]
  refine and_congr Iff.rfl (forall_congr' ?_)
  intro ans
  cases out ans with
  | error e => rfl
  | ok a => rfl

/-! ## Complete executions -/

section Complete

variable [∀ o, Nonempty (S.Ans o)]

theorem exists_complete (p : Prog S ε α) : ∃ tr q, Steps p tr q ∧ q.status ≠ .running := by
  induction p with
  | pure a => exact ⟨[], _, .refl _, nofun⟩
  | throw e => exact ⟨[], _, .refl _, nofun⟩
  | panic msg => exact ⟨[], _, .refl _, nofun⟩
  | call o k ih =>
      obtain ⟨a⟩ := ‹∀ o, Nonempty (S.Ans o)› o
      obtain ⟨tr, q, hs, hdone⟩ := ih a
      exact ⟨⟨o, a⟩ :: tr, q, .call hs, hdone⟩

/-- An execution cut off anywhere is the beginning of a complete one, so what complete
executions pass on to their beginnings holds of every execution. -/
theorem all_of_complete {Q R : List (Event S) → Status ε α → Prop} {p : Prog S ε α}
    (h : p.All fun tr st => st ≠ .running → R tr st) (hdone : ∀ tr st, R tr st → Q tr st)
    (hcut : ∀ tr tr' st, R (tr ++ tr') st → Q tr .running) : p.All Q := by
  refine all_of_forall ?_
  intro tr q hs
  by_cases hrunning : q.status = .running
  · obtain ⟨tr', q', hs', hq'⟩ := exists_complete q
    rw [hrunning]
    exact hcut tr tr' _ (h.of_steps (hs.trans hs') hq')
  · exact hdone tr _ (h.of_steps hs hrunning)

end Complete

/-! ## The operations a program uses -/

/-- Every operation `p` can perform satisfies `P`. -/
def Uses (P : S.Op → Prop) : Prog S ε α → Prop
  | .pure _ => True
  | .throw _ => True
  | .panic _ => True
  | .call o k => P o ∧ ∀ a, Uses P (k a)

theorem Uses.of_steps {P : S.Op → Prop} {p q : Prog S ε α} {tr : List (Event S)}
    (h : Uses P p) (hs : Steps p tr q) : ∀ e ∈ tr, P e.op := by
  induction hs with
  | refl => nofun
  | call _ ih => exact List.forall_mem_cons.mpr ⟨h.1, ih (h.2 _)⟩

/-- What is left of a program performs nothing else. -/
theorem Uses.rest {P : S.Op → Prop} {p q : Prog S ε α} {tr : List (Event S)}
    (h : Uses P p) (hs : Steps p tr q) : Uses P q := by
  induction hs with
  | refl => exact h
  | call _ ih => exact ih (h.2 _)

theorem Uses.imp {P P' : S.Op → Prop} {p : Prog S ε α} (h : Uses P p)
    (himp : ∀ o, P o → P' o) : Uses P' p := by
  induction p with
  | pure a => trivial
  | throw e => trivial
  | panic msg => trivial
  | call o k ih => exact ⟨himp o h.1, fun a => ih a (h.2 a)⟩

theorem uses_of_forall {P : S.Op → Prop} (hP : ∀ o, P o) (p : Prog S ε α) : Uses P p := by
  induction p with
  | pure a => trivial
  | throw e => trivial
  | panic msg => trivial
  | call o k ih => exact ⟨hP o, ih⟩

/-- A kind of event that no operation of the program causes. -/
theorem filter_eq_nil {P : S.Op → Prop} {f : Event S → Bool}
    (hf : ∀ e : Event S, P e.op → f e = false) {p q : Prog S ε α} (huses : Uses P p)
    {tr : List (Event S)} (hs : Steps p tr q) : tr.filter f = [] := by
  rw [List.filter_eq_nil_iff]
  intro e he
  rw [hf e (huses.of_steps hs e he)]
  exact Bool.false_ne_true

theorem uses_bind {P : S.Op → Prop} {p : Prog S ε α} {f : α → Prog S ε β}
    (hp : Uses P p) (hf : ∀ a, Uses P (f a)) : Uses P (p >>= f) := by
  induction p with
  | pure a => exact hf a
  | throw e => trivial
  | panic msg => trivial
  | call o k ih => exact ⟨hp.1, fun a => ih a (hp.2 a)⟩

theorem uses_reject {P : S.Op → Prop} {c : Prop} [Decidable c] {e : ε} :
    Uses P (reject c e : Prog S ε Unit) := by
  unfold reject
  split <;> trivial

theorem uses_ofExcept {P : S.Op → Prop} (x : Except ε α) :
    Uses P (ofExcept x : Prog S ε α) := by
  cases x <;> trivial

theorem uses_call {P : S.Op → Prop} {o : S.Op} (ho : P o) {out : S.Ans o → Except ε α} :
    Uses P (.call o fun ans => ofExcept (out ans) : Prog S ε α) :=
  ⟨ho, fun ans => uses_ofExcept (out ans)⟩

theorem uses_mapErr {P : S.Op → Prop} {p : Prog S ε α} {f : ε → ε'} (hp : Uses P p) :
    Uses P (p.mapErr f) := by
  induction p with
  | pure a => trivial
  | throw e => trivial
  | panic msg => trivial
  | call o k ih => exact ⟨hp.1, fun a => ih a (hp.2 a)⟩

theorem uses_attempt {P : S.Op → Prop} {p : Prog S ε α} (hp : Uses P p) :
    Uses P (p.attempt : Prog S ε' (Except ε α)) := by
  induction p with
  | pure a => trivial
  | throw e => trivial
  | panic msg => trivial
  | call o k ih => exact ⟨hp.1, fun a => ih a (hp.2 a)⟩

/-! ## Executions of a sequence -/

/-- The executions of `p >>= f`: still inside `p`, or past a returned `p`. -/
theorem steps_bind {p : Prog S ε α} {f : α → Prog S ε β} {tr : List (Event S)}
    {r : Prog S ε β} (h : Steps (p >>= f) tr r) :
    (∃ q, Steps p tr q ∧ r = (q >>= f) ∧ ∀ a, q ≠ .pure a)
      ∨ ∃ a tr₁ tr₂, tr = tr₁ ++ tr₂ ∧ Steps p tr₁ (.pure a) ∧ Steps (f a) tr₂ r := by
  induction p generalizing tr with
  | pure a => exact Or.inr ⟨a, [], tr, rfl, .refl _, h⟩
  | throw e =>
      cases h
      exact Or.inl ⟨.throw e, .refl _, rfl, fun _ => by simp⟩
  | panic msg =>
      cases h
      exact Or.inl ⟨.panic msg, .refl _, rfl, fun _ => by simp⟩
  | call o k ih =>
      cases h with
      | refl => exact Or.inl ⟨.call o k, .refl _, rfl, fun _ => by simp⟩
      | call h' =>
          rcases ih _ h' with ⟨q, hq, hr, hne⟩ | ⟨a, tr₁, tr₂, rfl, hp, hf⟩
          · exact Or.inl ⟨q, .call hq, hr, hne⟩
          · exact Or.inr ⟨a, _ :: tr₁, tr₂, rfl, .call hp, hf⟩

/-- A sequence that returned has returned from both parts. -/
theorem steps_bind_pure {p : Prog S ε α} {f : α → Prog S ε β} {tr : List (Event S)} {b : β}
    (h : Steps (p >>= f) tr (.pure b)) :
    ∃ a tr₁ tr₂, tr = tr₁ ++ tr₂ ∧ Steps p tr₁ (.pure a) ∧ Steps (f a) tr₂ (.pure b) := by
  rcases steps_bind h with ⟨q, -, hr, hne⟩ | hdone
  · cases q with
    | pure a => exact absurd rfl (hne a)
    | throw e => cases hr
    | panic msg => cases hr
    | call o k => cases hr
  · exact hdone

/-! ## Programs over part of a signature -/

/-- A program over the left operations. -/
def inl : Prog S ε α → Prog (S.sum T) ε α
  | .pure a => .pure a
  | .throw e => .throw e
  | .panic msg => .panic msg
  | .call o k => .call (.inl o) fun a => (k a).inl

/-- A program over the right operations. -/
def inr : Prog T ε α → Prog (S.sum T) ε α
  | .pure a => .pure a
  | .throw e => .throw e
  | .panic msg => .panic msg
  | .call o k => .call (.inr o) fun a => (k a).inr

theorem Steps.inl {p q : Prog S ε α} {tr : List (Event S)} (h : Steps p tr q) :
    Steps (p.inl : Prog (S.sum T) ε α) (tr.map .inl) q.inl := by
  induction h with
  | refl p => exact .refl _
  | call _ ih => exact .call ih

theorem Steps.inr {p q : Prog T ε α} {tr : List (Event T)} (h : Steps p tr q) :
    Steps (p.inr : Prog (S.sum T) ε α) (tr.map .inr) q.inr := by
  induction h with
  | refl p => exact .refl _
  | call _ ih => exact .call ih

theorem steps_inl {p : Prog S ε α} {tr : List (Event (S.sum T))} {r : Prog (S.sum T) ε α}
    (hs : Steps p.inl tr r) :
    ∃ tr' q, tr = tr'.map .inl ∧ Steps p tr' q ∧ r = q.inl := by
  induction p generalizing tr with
  | pure a => cases hs; exact ⟨[], _, rfl, .refl _, rfl⟩
  | throw e => cases hs; exact ⟨[], _, rfl, .refl _, rfl⟩
  | panic msg => cases hs; exact ⟨[], _, rfl, .refl _, rfl⟩
  | call o k ih =>
      cases hs with
      | refl => exact ⟨[], _, rfl, .refl _, rfl⟩
      | @call _ _ a tr _ hs' =>
          obtain ⟨tr', q, rfl, hq, hr⟩ := ih a hs'
          exact ⟨⟨o, a⟩ :: tr', q, rfl, .call hq, hr⟩

theorem steps_inr {p : Prog T ε α} {tr : List (Event (S.sum T))} {r : Prog (S.sum T) ε α}
    (hs : Steps p.inr tr r) :
    ∃ tr' q, tr = tr'.map .inr ∧ Steps p tr' q ∧ r = q.inr := by
  induction p generalizing tr with
  | pure a => cases hs; exact ⟨[], _, rfl, .refl _, rfl⟩
  | throw e => cases hs; exact ⟨[], _, rfl, .refl _, rfl⟩
  | panic msg => cases hs; exact ⟨[], _, rfl, .refl _, rfl⟩
  | call o k ih =>
      cases hs with
      | refl => exact ⟨[], _, rfl, .refl _, rfl⟩
      | @call _ _ a tr _ hs' =>
          obtain ⟨tr', q, rfl, hq, hr⟩ := ih a hs'
          exact ⟨⟨o, a⟩ :: tr', q, rfl, .call hq, hr⟩

theorem inl_eq_pure {p : Prog S ε α} {a : α}
    (he : (p.inl : Prog (S.sum T) ε α) = .pure a) : p = .pure a := by
  cases p with
  | pure b => cases he; rfl
  | throw e => cases he
  | panic msg => cases he
  | call o k => cases he

theorem inr_eq_pure {p : Prog T ε α} {a : α}
    (he : (p.inr : Prog (S.sum T) ε α) = .pure a) : p = .pure a := by
  cases p with
  | pure b => cases he; rfl
  | throw e => cases he
  | panic msg => cases he
  | call o k => cases he

theorem uses_inl {P : (S.sum T).Op → Prop} {p : Prog S ε α}
    (hp : Uses (fun o => P (.inl o)) p) : Uses P (p.inl : Prog (S.sum T) ε α) := by
  induction p with
  | pure a => trivial
  | throw e => trivial
  | panic msg => trivial
  | call o k ih => exact ⟨hp.1, fun a => ih a (hp.2 a)⟩

theorem uses_inr {P : (S.sum T).Op → Prop} {p : Prog T ε α}
    (hp : Uses (fun o => P (.inr o)) p) : Uses P (p.inr : Prog (S.sum T) ε α) := by
  induction p with
  | pure a => trivial
  | throw e => trivial
  | panic msg => trivial
  | call o k ih => exact ⟨hp.1, fun a => ih a (hp.2 a)⟩

/-! ## Implementing one signature by another -/

/-- Implement every operation of `S` by a program over `T`. -/
def handle (h : (o : S.Op) → Prog T Empty (S.Ans o)) : Prog S ε α → Prog T ε α
  | .pure a => .pure a
  | .throw e => .throw e
  | .panic msg => .panic msg
  | .call o k => (h o).mapErr Empty.elim >>= fun a => handle h (k a)

theorem bind_assoc {γ : Type} (p : Prog S ε α) (f : α → Prog S ε β) (g : β → Prog S ε γ) :
    (p >>= f) >>= g = p >>= fun a => f a >>= g := by
  induction p with
  | pure a => rfl
  | throw e => rfl
  | panic msg => rfl
  | call o k ih => exact congrArg (Prog.call o) (funext ih)

theorem mapErr_bind (p : Prog S ε α) (f : α → Prog S ε β) (g : ε → ε') :
    (p >>= f).mapErr g = p.mapErr g >>= fun a => (f a).mapErr g := by
  induction p with
  | pure a => rfl
  | throw e => rfl
  | panic msg => rfl
  | call o k ih => exact congrArg (Prog.call o) (funext ih)

/-- A program that never fails has no error to map. -/
theorem mapErr_elim (p : Prog S Empty α) (g : ε → ε') :
    ((p.mapErr Empty.elim : Prog S ε α).mapErr g) = p.mapErr Empty.elim := by
  induction p with
  | pure a => rfl
  | throw e => exact e.elim
  | panic msg => rfl
  | call o k ih => exact congrArg (Prog.call o) (funext ih)

/-- Implementing a sequence implements its parts. -/
theorem handle_bind (h : (o : S.Op) → Prog T Empty (S.Ans o)) (p : Prog S ε α)
    (f : α → Prog S ε β) : handle h (p >>= f) = handle h p >>= fun a => handle h (f a) := by
  induction p with
  | pure a => rfl
  | throw e => rfl
  | panic msg => rfl
  | call o k ih =>
      show (h o).mapErr Empty.elim >>= (fun a => handle h (k a >>= f)) = _ >>= _
      rw [funext ih]
      exact (bind_assoc ..).symm

theorem handle_mapErr (h : (o : S.Op) → Prog T Empty (S.Ans o)) (p : Prog S ε α) (g : ε → ε') :
    handle h (p.mapErr g) = (handle h p).mapErr g := by
  induction p with
  | pure a => rfl
  | throw e => rfl
  | panic msg => rfl
  | call o k ih =>
      show (h o).mapErr Empty.elim >>= (fun a => handle h ((k a).mapErr g))
        = Prog.mapErr g (_ >>= _)
      rw [funext ih, mapErr_bind, mapErr_elim]

/-- Operations that are passed on are not implemented. -/
theorem handle_inl {U : Sig} (h : (o : (S.sum T).Op) → Prog (S.sum U) Empty ((S.sum T).Ans o))
    (hpass : ∀ o, h (.inl o) = .call (.inl o) .pure) (p : Prog S ε α) :
    handle h (p.inl : Prog (S.sum T) ε α) = p.inl := by
  induction p with
  | pure a => rfl
  | throw e => rfl
  | panic msg => rfl
  | call o k ih =>
      show (h (.inl o)).mapErr Empty.elim >>= (fun a => handle h (k a).inl) = _
      rw [hpass, funext ih]
      rfl

/-- However their operations are implemented, and whatever world they run in, the two
programs have the same executions. -/
def Indistinguishable (p p' : Prog S ε α) : Prop :=
  ∀ (T : Sig) (h : (o : S.Op) → Prog T Empty (S.Ans o)) (W : Type)
    (step : W → Event T → W → Prop) (w w' : W) (tr : List (Event T)) (st : Status ε α),
    Behaves step (handle h p) w tr st w' ↔ Behaves step (handle h p') w tr st w'

theorem Indistinguishable.of_eq {p p' : Prog S ε α} (h : p = p') : Indistinguishable p p' := by
  subst h
  exact fun _ _ _ _ _ _ _ _ => Iff.rfl

/-- An implementation uses what the implementations of its operations use. -/
theorem uses_handle {P : S.Op → Prop} {Q : T.Op → Prop}
    {h : (o : S.Op) → Prog T Empty (S.Ans o)} (hh : ∀ o, P o → Uses Q (h o)) {p : Prog S ε α}
    (hp : Uses P p) : Uses Q (handle h p) := by
  induction p with
  | pure a => trivial
  | throw e => trivial
  | panic msg => trivial
  | call o k ih => exact uses_bind (uses_mapErr (hh o hp.1)) fun a => ih a (hp.2 a)

/-- A handler that implements the operations `mine` by `inner` ones, and passes on every
other as the one operation `next`. -/
structure Overlays (h : (o : S.Op) → Prog T Empty (S.Ans o)) (mine : S.Op → Prop)
    (inner : T.Op → Prop) (next : S.Op → T.Op) (out : (o : S.Op) → T.Ans (next o) → S.Ans o) :
    Prop where
  uses : ∀ o, mine o → Uses inner (h o)
  cases : ∀ o, mine o ∨ h o = .call (next o) fun a => .pure (out o a)

section Overlays

variable {h : (o : S.Op) → Prog T Empty (S.Ans o)} {mine : S.Op → Prop} {inner : T.Op → Prop}
  {next : S.Op → T.Op} {out : (o : S.Op) → T.Ans (next o) → S.Ans o}

theorem Overlays.busy (hov : Overlays h mine inner next out)
    (hmine : ∀ o, mine o → ∀ a, h o ≠ .pure a) (o : S.Op) (a : S.Ans o) : h o ≠ .pure a := by
  rcases hov.cases o with ho | hpass
  · exact hmine o ho a
  · rw [hpass]
    exact nofun

/-- It does nothing but `inner` operations and what it passes on, which it does as a
whole. -/
theorem Overlays.op_of_mem (hov : Overlays h mine inner next out) {o : S.Op}
    {tr : List (Event T)} {q : Prog T Empty (S.Ans o)} (hs : Steps (h o) tr q) {e : Event T}
    (he : e ∈ tr) (houter : ¬ inner e.op) : e.op = next o ∧ ∃ a, q = .pure a := by
  rcases hov.cases o with ho | hpass
  · exact absurd ((hov.uses o ho).of_steps hs e he) houter
  · rw [hpass] at hs
    cases hs with
    | refl => cases he
    | call hs =>
        cases hs
        obtain rfl := List.mem_singleton.mp he
        exact ⟨rfl, _, rfl⟩

end Overlays

/-- `done` performs the operations of `tr`, each by a complete execution of
its implementation. -/
inductive Expands (h : (o : S.Op) → Prog T Empty (S.Ans o)) :
    List (Event S) → List (Event T) → Prop
  | nil : Expands h [] []
  | cons {o : S.Op} {a : S.Ans o} {seg : List (Event T)} {tr : List (Event S)}
      {done : List (Event T)} : Steps (h o) seg (.pure a) → Expands h tr done →
      Expands h (⟨o, a⟩ :: tr) (seg ++ done)

variable {h : (o : S.Op) → Prog T Empty (S.Ans o)}

/-- The finished part of an implemented execution. -/
theorem steps_of_expands {p q : Prog S ε α} {tr : List (Event S)} {done : List (Event T)}
    (hs : Steps p tr q) (hx : Expands h tr done) : Steps (handle h p) done (handle h q) := by
  induction hs generalizing done with
  | refl p =>
      cases hx
      exact .refl _
  | call _ ih =>
      cases hx with
      | cons hseg hrest => exact (hseg.mapErr Empty.elim).bind (ih hrest)

theorem Expands.append {tr tr' : List (Event S)} {done done' : List (Event T)}
    (hx : Expands h tr done) (hx' : Expands h tr' done') :
    Expands h (tr ++ tr') (done ++ done') := by
  induction hx with
  | nil => exact hx'
  | cons hseg _ ih =>
      rw [List.append_assoc]
      exact .cons hseg ih

/-- A concrete event belongs to the execution of one abstract event. -/
theorem Expands.exists_of_mem {tr : List (Event S)} {done : List (Event T)}
    (hx : Expands h tr done) {e : Event T} (he : e ∈ done) :
    ∃ o a seg, ⟨o, a⟩ ∈ tr ∧ Steps (h o) seg (.pure a) ∧ e ∈ seg := by
  induction hx with
  | nil => cases he
  | @cons o a seg tr done hseg _ ih =>
      rcases List.mem_append.mp he with he | he
      · exact ⟨o, a, seg, List.mem_cons_self .., hseg, he⟩
      · obtain ⟨o', a', seg', hmem, hs, he'⟩ := ih he
        exact ⟨o', a', seg', List.mem_cons_of_mem _ hmem, hs, he'⟩

/-- An abstract event was expanded into a complete execution. -/
theorem Expands.segment_of_mem {tr : List (Event S)} {done : List (Event T)}
    (hx : Expands h tr done) {o : S.Op} {a : S.Ans o} (hmem : ⟨o, a⟩ ∈ tr) :
    ∃ seg, Steps (h o) seg (.pure a) ∧ ∀ e ∈ seg, e ∈ done := by
  induction hx with
  | nil => cases hmem
  | @cons o' a' seg tr done hseg _ ih =>
      rcases List.mem_cons.mp hmem with heq | hmem
      · cases heq
        exact ⟨seg, hseg, fun e he => List.mem_append_left _ he⟩
      · obtain ⟨seg', hs, hall⟩ := ih hmem
        exact ⟨seg', hs, fun e he => List.mem_append_right _ (hall e he)⟩

theorem steps_mapErr {p : Prog S ε α} {f : ε → ε'} {tr : List (Event S)}
    {r : Prog S ε' α} (hs : Steps (p.mapErr f) tr r) :
    ∃ q, Steps p tr q ∧ r = q.mapErr f := by
  induction p generalizing tr with
  | pure a => cases hs; exact ⟨_, .refl _, rfl⟩
  | throw e => cases hs; exact ⟨_, .refl _, rfl⟩
  | panic msg => cases hs; exact ⟨_, .refl _, rfl⟩
  | call o k ih =>
      cases hs with
      | refl => exact ⟨_, .refl _, rfl⟩
      | call hs' =>
          obtain ⟨q, hq, hr⟩ := ih _ hs'
          exact ⟨q, .call hq, hr⟩

theorem mapErr_eq_pure {p : Prog S ε α} {f : ε → ε'} {a : α}
    (he : p.mapErr f = .pure a) : p = .pure a := by
  cases p with
  | pure b => simpa using he
  | throw e => cases he
  | panic msg => cases he
  | call o k => cases he

theorem steps_attempt {p : Prog S ε α} {tr : List (Event S)}
    {r : Prog S ε' (Except ε α)} (hs : Steps p.attempt tr r) :
    ∃ q, Steps p tr q ∧ r = q.attempt := by
  induction p generalizing tr with
  | pure a => cases hs; exact ⟨_, .refl _, rfl⟩
  | throw e => cases hs; exact ⟨_, .refl _, rfl⟩
  | panic msg => cases hs; exact ⟨_, .refl _, rfl⟩
  | call o k ih =>
      cases hs with
      | refl => exact ⟨_, .refl _, rfl⟩
      | call hs' =>
          obtain ⟨q, hq, hr⟩ := ih _ hs'
          exact ⟨q, .call hq, hr⟩

theorem attempt_eq_ok {p : Prog S ε α} {a : α}
    (he : (p.attempt : Prog S ε' (Except ε α)) = .pure (.ok a)) : p = .pure a := by
  cases p with
  | pure b => cases he; rfl
  | throw e => cases he
  | panic msg => cases he
  | call o k => cases he

/-- A failure with a mapped error. -/
theorem status_mapErr_failed {p : Prog S ε α} {f : ε → ε'} {e : ε'}
    (he : (p.mapErr f).status = .failed e) : ∃ e', e = f e' := by
  cases p with
  | pure a => cases he
  | throw e' => exact ⟨e', (Status.failed.inj he).symm⟩
  | panic msg => cases he
  | call o k => cases he

/-- **Refinement by implementation.** An execution of the implemented
program is an execution of the abstract one: its finished part performs
the abstract operations one by one, and what is left is the cut-off
execution of the operation the abstract program is at. -/
theorem steps_handle {p : Prog S ε α} {tr : List (Event T)} {r : Prog T ε α}
    (hs : Steps (handle h p) tr r) :
    ∃ tr' p' done rest, Steps p tr' p' ∧ Expands h tr' done ∧ tr = done ++ rest
      ∧ ((rest = [] ∧ r = handle h p')
        ∨ ∃ o k q, p' = .call o k ∧ Steps (h o) rest q ∧ (∀ a, q ≠ .pure a)
          ∧ r = (q.mapErr Empty.elim >>= fun a => handle h (k a))) := by
  induction p generalizing tr with
  | pure a => cases hs; exact ⟨[], _, [], [], .refl _, .nil, rfl, Or.inl ⟨rfl, rfl⟩⟩
  | throw e => cases hs; exact ⟨[], _, [], [], .refl _, .nil, rfl, Or.inl ⟨rfl, rfl⟩⟩
  | panic msg =>
      cases hs
      exact ⟨[], _, [], [], .refl _, .nil, rfl, Or.inl ⟨rfl, rfl⟩⟩
  | call o k ih =>
      rcases steps_bind hs with ⟨q, hq, hr, hne⟩ | ⟨a, seg, tr₂, rfl, hseg, hrest⟩
      · obtain ⟨q', hq', rfl⟩ := steps_mapErr hq
        refine ⟨[], _, [], tr, .refl _, .nil, rfl,
          Or.inr ⟨o, k, q', rfl, hq', fun a ha => ?_, hr⟩⟩
        exact hne a (by rw [ha, mapErr_pure])
      · obtain ⟨q', hq', heq⟩ := steps_mapErr hseg
        obtain rfl := mapErr_eq_pure heq.symm
        obtain ⟨tr', p', done, rest, hp', hx, rfl, hend⟩ := ih a hrest
        exact ⟨⟨o, a⟩ :: tr', p', seg ++ done, rest, .call hp', .cons hq' hx,
          (List.append_assoc ..).symm, hend⟩

/-- An event with which its operation ends is in the finished part. -/
theorem steps_handle_of_last {p : Prog S ε α} {tr : List (Event T)} {r : Prog T ε α}
    (hs : Steps (handle h p) tr r) {e : Event T} (he : e ∈ tr)
    (hlast : ∀ {o seg q}, Steps (h o) seg q → e ∈ seg → ∃ a, q = .pure a) :
    ∃ tr' p' done rest, Steps p tr' p' ∧ Expands h tr' done ∧ tr = done ++ rest ∧ e ∈ done := by
  obtain ⟨tr', p', done, rest, hp', hx, rfl, hend⟩ := steps_handle hs
  refine ⟨tr', p', done, rest, hp', hx, rfl, ?_⟩
  rcases List.mem_append.mp he with hdone | hrest
  · exact hdone
  · rcases hend with ⟨rfl, -⟩ | ⟨o, k, q, -, hq, hne, -⟩
    · cases hrest
    · obtain ⟨a, ha⟩ := hlast hq hrest
      exact absurd ha (hne a)

end Prog

end Blob
