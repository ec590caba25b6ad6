import Blob.PermitFiles

/-!
# No privileged command without an exact approval

Whatever a boundary call hands to the command runner for a request, the
authority has approved exactly that request before: the call has matched a
permit file, the file's creator was an issue call whose grant carries the
text it wrote, and the grant came from a check of a permit with that very
text (`command_approved`). The canonical text determines the permit, so
all fifteen fields agree along the way.
-/

namespace Blob

namespace PermitRuns

open Pool PkcheckAuthorizationChecker PrivilegedNixOsActivationHelper

theorem PolkitAuthorizationRequest.approvedPermit_eq {name : String}
    {prepared : PreparedPrivilegedActivation} {request : PolkitAuthorizationRequest}
    (h : PolkitAuthorizationRequest.forPrepared name prepared = .ok request) :
    request.approvedPermit = .fromPrepared prepared := by
  obtain ⟨-, h⟩ := Checks.reject_bind_ok h
  obtain ⟨action, -, h⟩ := Checks.bind_eq_ok.mp h
  rw [← Except.ok.inj h]

/-- A check of exactly this request was granted, and later an issue call was
started with that grant for it: `request` is what was checked and `source`
the checking call. -/
def ExactlyApproved (h : List (Act PermitsSig Call)) (prepared : PreparedPrivilegedActivation) :
    Prop :=
  ∃ before between after source checker request checkedAt plan outcome grant issuer issued
      issuedAt,
    h = before ++ .act source (.inl (pkcheckRun plan outcome)) :: between
      ++ .spawn (.issue issuer issued source grant issuedAt) :: after
    ∧ (calls before)[source]? = some (.check checker request checkedAt)
    ∧ outcome.exitCode = some 0
    ∧ (checker.checkUserInitiated request checkedAt).Steps [pkcheckRun plan outcome]
        (.pure grant)
    ∧ (∃ name checked, PolkitAuthorizationRequest.forPrepared name checked = .ok request
      ∧ TrustedActivationPermit.fromPrepared checked = .fromPrepared prepared)
    ∧ TrustedActivationPermit.fromPrepared issued = .fromPrepared prepared
    ∧ prepared.preparedAtUnixMs ≤ checkedAt ∧ checkedAt ≤ issuedAt

/-- An approved issue call was preceded by a granted check of the same permit. -/
theorem exactlyApproved_of_issue {root : PathBuf} {fs₀ fs : Fs} {h : (system root).History}
    (hr : Run (system root) fs₀ h fs) {k source : Nat}
    {issuer : RootOwnedActivationPermitIssuer} {issued : PreparedPrivilegedActivation}
    {grant : OsAuthorizationGrant} {issuedAt : Nat}
    (hcall : (calls h)[k]? = some (.issue issuer issued source grant issuedAt))
    (happroved : issuer.Approved issued grant issuedAt) : ExactlyApproved h issued := by
  obtain ⟨h₁, after, rfl, -, hgranted⟩ := hr.admitted hcall
  obtain ⟨checker, request, checkedAt, tr, hcheck, hproj, hsteps⟩ := hgranted
  obtain ⟨plan, outcome, rfl, hcode, rfl⟩ := steps_checkUserInitiated hsteps
  obtain ⟨fs₁, hr₁⟩ := hr.prefix
  obtain ⟨_, _, -, name, checked, hrequest⟩ := hr₁.admitted hcheck
  obtain ⟨before, between, rfl, -, -⟩ :=
    proj_eq_append (hproj : _ = [] ++ .inl (pkcheckRun plan outcome) :: [])
  obtain ⟨c, _, _, _, hc, -, -, -⟩ := hr₁.split
  obtain rfl := Option.some.inj ((calls_mono _ hc).symm.trans hcheck)
  -- the text in the grant is the checked permit's, and the issued one's
  have htext := happroved.exact_binding
  simp only [grantFor] at htext
  rw [PolkitAuthorizationRequest.approvedPermit_eq hrequest] at htext
  have hpermit := TrustedActivationPermit.eq_of_canonicalText_eq htext
  exact ⟨before, between, after, source, checker, request, checkedAt, plan, outcome, _, issuer,
    issued, issuedAt, rfl, hc, hcode, hsteps, ⟨name, checked, hrequest, hpermit⟩, rfl,
    happroved.prepared_le, happroved.checked_le⟩

/-- Whatever was approved stays approved. -/
theorem ExactlyApproved.mono {h : List (Act PermitsSig Call)}
    {prepared prepared' : PreparedPrivilegedActivation} (ha : ExactlyApproved h prepared)
    (hsame : TrustedActivationPermit.fromPrepared prepared = .fromPrepared prepared')
    (h' : List (Act PermitsSig Call)) : ExactlyApproved (h ++ h') prepared' := by
  obtain ⟨before, between, after, source, checker, request, checkedAt, plan, outcome, grant,
    issuer, issued, issuedAt, rfl, hc, hcode, hsteps, ⟨name, checked, hrequest, hpermit⟩,
    hissued, hle, hle'⟩ := ha
  refine ⟨before, between, after ++ h', source, checker, request, checkedAt, plan, outcome,
    grant, issuer, issued, issuedAt, by simp, hc, hcode, hsteps,
    ⟨name, checked, hrequest, hpermit.trans hsame⟩, hissued.trans hsame, ?_, hle'⟩
  have htime := congrArg TrustedActivationPermit.preparedAtUnixMs hsame
  exact Nat.le_trans (Nat.le_of_eq htime.symm) hle

/-- The event of handing a command to the runner. -/
def launch (program : PathBuf) (argument : String)
    (answer : Except String PrivilegedCommandOutcome) : Event PermitsSig :=
  helperEvent ⟨.run program argument, answer⟩

/-- In every run from an empty permit directory, of any number of calls in any
interleaving: before a boundary call hands over a command for a request, a
check of exactly that request has succeeded and an issue call was made with
its grant for that same permit. -/
theorem command_approved {root : PathBuf} {fs₀ fs : Fs} {h : (system root).History}
    (hempty : ∀ authorization, fs₀.names (permitPath root authorization) = none)
    (hr : Run (system root) fs₀ h fs) {x : Nat} {self : RootOwnedNixOsActivationBoundary}
    {permits : FileTrustedActivationPermitStore} {prepared : PreparedPrivilegedActivation}
    {now : Nat} (hcall : (calls h)[x]? = some (.execute self permits prepared now))
    {before after : (system root).History} {program : PathBuf} {argument : String}
    {answer : Except String PrivilegedCommandOutcome}
    (hlaunch : h = before ++ .act x (launch program argument answer) :: after) :
    ExactlyApproved before prepared := by
  subst hlaunch
  obtain ⟨c, fs₁, _, _, hc, hr₁, hs, -⟩ := hr.split
  obtain rfl := Option.some.inj ((calls_mono _ hc).symm.trans hcall)
  -- a command comes after a consumption that succeeded
  have hconsumed := (steps_execute hs).2 ⟨.run program argument, answer⟩
    (List.mem_append_right _ (List.mem_singleton_self _))
  rw [files_append] at hconsumed
  obtain ⟨file, rootMetadata, metadata, post, htrace, -⟩ :=
    FileTrustedActivationPermitStore.steps_consumeMatching hconsumed
  obtain ⟨_, _, -, hroot⟩ := hr₁.admitted hc
  have hpath : permits.permitPath prepared.authorization
      = permitPath root prepared.authorization := by
    rw [← hroot]; rfl
  rw [show files [launch program argument answer] = [] from rfl, List.append_nil, hpath]
    at htrace
  obtain ⟨h₁, h₂, k, i, c, text, rfl, -, -, hissue, hwriter, hprefix⟩ :=
    matched_permit hempty hr₁ htrace
  obtain ⟨issuer, issued, source, grant, issuedAt, rfl, happroved, -, rfl⟩ := hwriter
  obtain ⟨fs₂, hr₂⟩ := hr₁.prefix
  exact (exactlyApproved_of_issue hr₂ hissue happroved).mono
    (TrustedActivationPermit.canonicalText_prefix hprefix).symm h₂

/-- The pilot request, from its check to what the helper does. -/
def pilotHistory (helper : List (Event HelperSig)) : (system pilotRoot).History :=
  checking ++ issuing 1 0 ++ .spawn pilotExecuteCall
    :: ((pilotConsume 0).map fsEvent ++ helper.map helperEvent).map (.act 2)

theorem pilot_run : ∃ fs, Run (system pilotRoot) (.emptyDirectory pilotRoot)
    (pilotHistory (pilotObservations ++ [consumption ⟨"auth:one"⟩])
      ++ [.act 2 (helperEvent testCommand)]) fs := by
  have hempty : Empty (.emptyDirectory pilotRoot) := ⟨fun _ => rfl, rfl⟩
  have hissued := run_issuing run_checking hempty (granted_pilot rfl) rfl rfl
  have hhelper : ∃ q, (pilotHelper.execute pilotPrepared 2500).Steps
      (pilotObservations ++ [consumption ⟨"auth:one"⟩] ++ [testCommand]) q :=
    ⟨_, Prog.steps_of_follow rfl⟩
  obtain ⟨q, hhelper⟩ := hhelper
  have hconsume : (pilotPermits.consumeMatching pilotPrepared).Steps (pilotConsume 0) _ :=
    FileTrustedActivationPermitStore.consumeMatching_of_match pilotPrepared
      rootMetadata_safe permitMetadata_safe (.file 0) .dir
  have hrun := run_execute hissued ⟨pilotHelper⟩ rfl rfl hconsume (exec_pilotConsume hempty)
    hhelper
  exact ⟨_, hrun⟩

/-- The pilot's command was launched on an exact approval. -/
theorem pilot_approved :
    ExactlyApproved (pilotHistory (pilotObservations ++ [consumption ⟨"auth:one"⟩]))
      pilotPrepared := by
  obtain ⟨fs, hr⟩ := pilot_run
  exact command_approved (fun _ => rfl) hr (x := 2) rfl rfl

end PermitRuns

end Blob
