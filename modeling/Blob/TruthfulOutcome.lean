import Blob.Recovery
import Blob.Stacking

/-!
# What an outcome says of the node

A helper call alone on its node. The live closure moves only when a
command is handed over, and then anywhere, whatever the runner answers;
the boot default stays; a read that is answered is answered with what is
there. On such a node the outcome of a call can be believed
(`outcome_truthful`): a report names the live closures before the
candidate command and at return, with the rollback it claims, and the two
errors that claim a restored baseline are right about it.
-/

namespace Blob

namespace PrivilegedNixOsActivationHelper

open Stacking (Node)

/-! ## The node -/

/-- A node nobody else changes. -/
def hostStep (node : Node) (e : Event HelperSig) (node' : Node) : Prop :=
  match e with
  | ⟨.currentSystemClosure, .ok path⟩ => path = node.live ∧ node' = node
  | ⟨.bootDefaultClosure, .ok path⟩ => path = node.bootDefault ∧ node' = node
  | ⟨.run _ _, _⟩ => node'.bootDefault = node.bootDefault
  | _ => node' = node

theorem hostStep_quiet {node node' : Node} {e : Event HelperSig}
    (h : hostStep node e node') (hquiet : commands [e] = []) : node' = node := by
  obtain ⟨op, ans⟩ := e
  cases op with
  | run program argument => cases hquiet
  | currentSystemClosure =>
      rcases ans with e | path
      · exact h
      · exact h.2
  | bootDefaultClosure =>
      rcases ans with e | path
      · exact h
      · exact h.2
  | canonicalizePath path => exact h
  | executableExists path => exact h
  | consumeOnce authorization preparedAtUnixMs => exact h

/-- Nothing but a command moves the node. -/
theorem exec_quiet {node node' : Node} {tr : List (Event HelperSig)}
    (hx : Prog.Exec hostStep node tr node') (hquiet : commands tr = []) : node' = node := by
  induction hx with
  | nil => rfl
  | @cons node node₁ node' e tr hstep _ ih =>
      rw [← List.singleton_append, commands_append, List.append_eq_nil_iff] at hquiet
      rw [ih hquiet.2, hostStep_quiet hstep hquiet.1]

/-- While nothing moves it, what is read is what is live at the end. -/
theorem live_of_quiet {node node' : Node} {tr : List (Event HelperSig)} {live : PathBuf}
    (hx : Prog.Exec hostStep node (⟨.currentSystemClosure, .ok live⟩ :: tr) node')
    (hquiet : commands tr = []) : live = node'.live := by
  obtain ⟨node₁, ⟨hlive, rfl⟩, hx⟩ := Prog.exec_cons.mp hx
  rw [hlive, exec_quiet hx hquiet]

/-! ## Outcomes -/

/-- A report that is right about the live closures before the candidate command
and at return. -/
structure TruthfulReport (p : PreparedPrivilegedActivation) (before after : PathBuf)
    (outcome : PrivilegedActivationExecution) : Prop where
  beforeText : outcome.beforeSystemClosure = pathText before
  afterText : outcome.afterSystemClosure = pathText after
  preview : p.plan.action = .previewActivation → (after == before) = true
  test : p.plan.action = .testActivation → outcome.rollbackAttempted = false →
    outcome.command.succeeded = true ∧ (after == .ofString p.plan.systemClosure) = true
  rolledBack : outcome.rollbackAttempted = true →
    outcome.command.succeeded = false ∧ outcome.rollbackSucceeded = true
      ∧ (after == before) = true

/-- A restoration that returned has the baseline live. -/
theorem Restored.live {baseline rollbackProgram : PathBuf} {tr : List (Event HelperSig)}
    (h : Restored baseline rollbackProgram tr (.returned ())) {node node' : Node}
    (hx : Prog.Exec hostStep node tr node') : (node'.live == baseline) = true := by
  cases h with
  | restored rollback hback =>
      obtain ⟨node₁, -, hx⟩ := Prog.exec_cons.mp hx
      rw [← live_of_quiet hx rfl]
      exact hback

theorem Settled.report_truthful {p : PreparedPrivilegedActivation} {obs : Observed}
    {canonical bootDefault : PathBuf} (hready : Ready p obs canonical bootDefault)
    {command : PrivilegedCommandOutcome} {after : List (Event HelperSig)}
    {outcome : PrivilegedActivationExecution}
    (h : Settled p obs command after (.returned outcome)) {node node' : Node}
    (hx : Prog.Exec hostStep node after node') :
    outcome.command = command ∧ TruthfulReport p obs.before node'.live outcome := by
  cases h with
  | @kept live _ hpromised =>
      obtain rfl := live_of_quiet hx rfl
      refine ⟨rfl, rfl, rfl, ?_, ?_, nofun⟩
      · intro haction
        rcases hpromised with ⟨-, hbaseline⟩ | ⟨htest, -⟩
        · exact hbaseline
        · rw [haction] at htest
          cases htest
      · intro haction _
        rcases hpromised with ⟨hpreview, -⟩ | ⟨-, hsucceeded, hcandidate⟩
        · rw [haction] at hpreview
          cases hpreview
        · rw [hready.candidate] at hcandidate
          exact ⟨hsucceeded, hcandidate⟩
  | @rolledBack live _ htest hfailed restore hrestored last =>
      obtain ⟨node₁, hread, hx⟩ := Prog.exec_cons.mp hx
      obtain ⟨node₂, hrestore, hlast⟩ := hx.split
      obtain rfl := live_of_quiet hlast rfl
      have hbaseline := hrestored.live hrestore
      rw [← exec_quiet hlast rfl] at hbaseline
      refine ⟨rfl, rfl, rfl, ?_, nofun, fun _ => ⟨hfailed, rfl, hbaseline⟩⟩
      intro haction
      rw [haction] at htest
      cases htest

/-- What was observed as the baseline is what was live, and still is when the
candidate command is handed over. -/
theorem before_live {obs : Observed} {canonical bootDefault : PathBuf}
    {authorization : SystemAuthorizationId} {preparedAtUnixMs : Nat} {node node' : Node}
    (hx : Prog.Exec hostStep node (observations obs canonical bootDefault
      ++ [⟨.consumeOnce authorization preparedAtUnixMs, .ok ()⟩]) node') :
    node' = node ∧ obs.before = node'.live := by
  refine ⟨exec_quiet hx rfl, ?_⟩
  obtain ⟨_, -, hx⟩ := Prog.exec_cons.mp hx
  obtain ⟨_, -, hx⟩ := Prog.exec_cons.mp hx
  exact live_of_quiet hx rfl

/-- The two errors that claim that the baseline is live again. -/
def ClaimsBaseline (e : PrivilegedActivationError) : Prop :=
  e = .unexpectedLiveSystemChange ∨ e = .testActivationPostconditionFailed

theorem Restored.not_claimsBaseline {baseline rollbackProgram : PathBuf}
    {tr : List (Event HelperSig)} {e : PrivilegedActivationError}
    (h : Restored baseline rollbackProgram tr (.failed e)) : ¬ ClaimsBaseline e := by
  cases h <;> simp [ClaimsBaseline]

theorem Settled.baseline_live {p : PreparedPrivilegedActivation} {obs : Observed}
    {command : PrivilegedCommandOutcome} {after : List (Event HelperSig)}
    {e : PrivilegedActivationError} (h : Settled p obs command after (.failed e))
    (hclaims : ClaimsBaseline e) {node node' : Node}
    (hx : Prog.Exec hostStep node after node') : (node'.live == obs.before) = true := by
  cases h with
  | undone _ hrestored _ =>
      obtain ⟨node₁, -, hx⟩ := Prog.exec_cons.mp hx
      exact hrestored.live hx
  | unrestored _ hfailed => exact absurd hclaims hfailed.not_claimsBaseline
  | unread e => simp [ClaimsBaseline] at hclaims
  | malformed _ => simp [ClaimsBaseline] at hclaims
  | unreported _ _ e => simp [ClaimsBaseline] at hclaims

/-! ## The whole call -/

theorem Completed.report_truthful {self : PrivilegedNixOsActivationHelper}
    {p : PreparedPrivilegedActivation} {now : Nat} {tr : List (Event HelperSig)}
    {outcome : PrivilegedActivationExecution} (h : Completed self p now tr (.returned outcome))
    {node node' : Node} (hx : Prog.Exec hostStep node tr node') :
    ∃ (pre post : List (Event HelperSig)) (program : PathBuf) (argument : String)
        (before : Node),
      tr = pre ++ ⟨.run program argument, .ok outcome.command⟩ :: post
        ∧ commands pre = [] ∧ Prog.Exec hostStep node pre before
        ∧ TruthfulReport p before.live node'.live outcome := by
  cases h with
  | @settled obs canonical bootDefault argument hready command after _ hsettled =>
      rw [List.append_cons] at hx ⊢
      obtain ⟨before, hbefore, hx⟩ := hx.split
      obtain ⟨launched, -, hx⟩ := Prog.exec_cons.mp hx
      obtain ⟨rfl, htruthful⟩ := hsettled.report_truthful hready hx
      rw [(before_live hbefore).2] at htruthful
      exact ⟨_, _, _, argument, before, rfl, rfl, hbefore, htruthful⟩

theorem Completed.baseline_live {self : PrivilegedNixOsActivationHelper}
    {p : PreparedPrivilegedActivation} {now : Nat} {tr : List (Event HelperSig)}
    {e : PrivilegedActivationError} (h : Completed self p now tr (.failed e))
    (hclaims : ClaimsBaseline e) {node node' : Node}
    (hx : Prog.Exec hostStep node tr node') : (node'.live == node.live) = true := by
  cases h with
  | stopped hquiet e =>
      rw [exec_quiet hx hquiet]
      exact BEq.rfl
  | notRun _ e => simp [ClaimsBaseline] at hclaims
  | @settled obs canonical bootDefault argument hready command after _ hsettled =>
      rw [List.append_cons] at hx
      obtain ⟨before, hbefore, hx⟩ := hx.split
      obtain ⟨launched, -, hx⟩ := Prog.exec_cons.mp hx
      obtain ⟨hsame, hlive⟩ := before_live hbefore
      rw [← hsame, ← hlive]
      exact hsettled.baseline_live hclaims hx

/-- On a node whose live closure only commands move: every report of a call is right
about the live closures before its candidate command and at return, about the
command and about the rollback, and a call that claims to have undone what its
command did has the baseline live again. -/
theorem outcome_truthful {self : PrivilegedNixOsActivationHelper}
    {p : PreparedPrivilegedActivation} {now : Nat} {tr : List (Event HelperSig)}
    {q : Prog HelperSig PrivilegedActivationError PrivilegedActivationExecution}
    {node node' : Node} (hs : (self.execute p now).Steps tr q)
    (hx : Prog.Exec hostStep node tr node') :
    (∀ outcome, q = .pure outcome →
      ∃ (pre post : List (Event HelperSig)) (program : PathBuf) (argument : String)
          (before : Node),
        tr = pre ++ ⟨.run program argument, .ok outcome.command⟩ :: post
          ∧ commands pre = [] ∧ Prog.Exec hostStep node pre before
          ∧ TruthfulReport p before.live node'.live outcome)
    ∧ (q = .throw .unexpectedLiveSystemChange ∨ q = .throw .testActivationPostconditionFailed →
        (node'.live == node.live) = true) := by
  have hcompleted := (execute_complete self p now).of_steps hs
  refine ⟨?_, ?_⟩
  · rintro outcome rfl
    exact (hcompleted nofun).report_truthful hx
  · rintro (rfl | rfl)
    · exact (hcompleted nofun).baseline_live (Or.inl rfl) hx
    · exact (hcompleted nofun).baseline_live (Or.inr rfl) hx

/-- The pilot's failed command: it leaves the candidate live, the rollback restores the
baseline, and the report says so. -/
theorem pilotRollback_truthful :
    ∃ (before : Node) (outcome : PrivilegedActivationExecution),
      outcome.rollbackAttempted = true
        ∧ TruthfulReport (Pilot.prepared ⟨"auth:one"⟩) before.live pilotObserved.before
            outcome := by
  have hs : (pilotHelper.execute (Pilot.prepared ⟨"auth:one"⟩) 2500).Steps pilotRollback
      (.pure (report (Pilot.prepared ⟨"auth:one"⟩) pilotObserved.before pilotObserved.before
        ⟨.failed, some 4, "", "unit failed", 7⟩ true)) :=
    Prog.steps_of_follow rfl
  let baseline : Node := ⟨pilotObserved.before, pilotObserved.before⟩
  let candidate : Node := ⟨pilotObserved.candidate, pilotObserved.before⟩
  have hmoved : hostStep baseline ⟨.run pilotObserved.candidateProgram "test", failedCommand⟩
      candidate := rfl
  have hrestored : hostStep candidate
      ⟨.run pilotObserved.rollbackProgram "test", .ok ⟨.succeeded, some 0, "", "", 5⟩⟩
      baseline := rfl
  have hread : Prog.Exec hostStep baseline (pilotObservations ++ [consumption ⟨"auth:one"⟩])
      baseline :=
    .cons rfl (.cons rfl (.cons ⟨rfl, rfl⟩ (.cons ⟨rfl, rfl⟩ (.cons rfl (.cons rfl .nil)))))
  have hx : Prog.Exec hostStep baseline pilotRollback baseline :=
    hread.append (.cons hmoved (.cons ⟨rfl, rfl⟩ (.cons hrestored
      (.cons ⟨rfl, rfl⟩ (.cons ⟨rfl, rfl⟩ .nil)))))
  obtain ⟨_, _, _, _, before, -, -, -, htruthful⟩ := (outcome_truthful hs hx).1 _ rfl
  exact ⟨before, _, rfl, htruthful⟩

end PrivilegedNixOsActivationHelper

end Blob
