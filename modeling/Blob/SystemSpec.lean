import Blob.Checks
import Blob.Ids
import Blob.System
import Blob.Utf8

/-!
# System specifications

What a system is to be, in terms that no backend has a part in, and the
check it must pass before a backend looks at it. A specification that passes
has a host name of lower-case letters, digits and `-`, and names each feature
and each priority at most once (`validate_eq_ok`).
-/

namespace Blob

open Text Checks

inductive SystemConstructionMode where
  | ready
  | aiDesigned
  | expert
deriving Repr, DecidableEq

inductive SystemChannel where
  | stable
  | testing
  | edge
deriving Repr, DecidableEq

inductive KernelPolicy where
  | distributionDefault
  | latestSupported
deriving Repr, DecidableEq

inductive SystemPriority where
  | reliability
  | security
  | latency
  | energy
  | memory
  | buildTime
deriving Repr, DecidableEq

inductive FeatureState where
  | enabled
  | disabled
deriving Repr, DecidableEq

structure SystemFeatureSelection where
  feature : SystemFeatureId
  state : FeatureState
deriving Repr, DecidableEq

structure SemanticBuildProfile where
  id : SystemProfileId
  constructionMode : SystemConstructionMode
  priorities : List SystemPriority
  features : List SystemFeatureSelection
deriving Repr, DecidableEq

structure SystemSpec where
  id : SystemSpecId
  hostname : String
  architecture : SystemArchitecture
  baseChannel : SystemChannel
  kernelPolicy : KernelPolicy
  profile : SemanticBuildProfile
  experienceProfile : Option ExperienceProfileId
deriving Repr, DecidableEq

inductive SystemSpecViolation where
  | invalidHostname
  | duplicateFeature (feature : SystemFeatureId)
  | duplicatePriority (priority : SystemPriority)
deriving Repr, DecidableEq

/-! ## Validation -/

/-- A lower-case letter, a digit or `-`. -/
def hostnameByte (byte : UInt8) : Bool :=
  (97 ≤ byte && byte ≤ 122) || (48 ≤ byte && byte ≤ 57) || byte == 45

def validHostname (hostname : String) : Bool :=
  let bytes := utf8Bytes hostname
  if bytes.isEmpty || 63 < bytes.length then false
  else if bytes.head? == some 45 || bytes.getLast? == some 45 then false
  else bytes.all hostnameByte

/-- The elements that were inserted into a set that held them already. -/
def reinserted {α : Type} [DecidableEq α] (inserted : List α) : List α → List α
  | [] => []
  | x :: xs =>
      if x ∈ inserted then x :: reinserted inserted xs else reinserted (x :: inserted) xs

namespace SystemSpec

def validate (self : SystemSpec) : Except (List SystemSpecViolation) Unit :=
  verdict
    [ violation (validHostname self.hostname = false) .invalidHostname
    , (reinserted [] (self.profile.features.map (·.feature))).map .duplicateFeature
    , (reinserted [] self.profile.priorities).map .duplicatePriority ]

end SystemSpec

/-! ## What is valid -/

theorem reinserted_eq_nil {α : Type} [DecidableEq α] {inserted xs : List α} :
    reinserted inserted xs = [] ↔ xs.Nodup ∧ ∀ x ∈ xs, x ∉ inserted := by
  induction xs generalizing inserted with
  | nil => simp [reinserted]
  | cons x xs ih =>
      rw [reinserted]
      split
      · rename_i hmem
        simp [hmem]
      · rename_i hnew
        rw [ih, List.nodup_cons]
        constructor
        · rintro ⟨hnodup, hrest⟩
          refine ⟨⟨fun hx => hrest x hx (List.mem_cons_self ..), hnodup⟩, ?_⟩
          rintro y hy
          rcases List.mem_cons.mp hy with rfl | hy
          · exact hnew
          · exact fun hmem => hrest y hy (List.mem_cons_of_mem _ hmem)
        · rintro ⟨⟨hx, hnodup⟩, hall⟩
          refine ⟨hnodup, ?_⟩
          intro y hy hmem
          rcases List.mem_cons.mp hmem with rfl | hmem
          · exact hx hy
          · exact hall y (List.mem_cons_of_mem _ hy) hmem

/-- What a specification that passes is known to be. -/
structure SystemSpec.Valid (spec : SystemSpec) : Prop where
  hostname : validHostname spec.hostname = true
  features : (spec.profile.features.map (·.feature)).Nodup
  priorities : spec.profile.priorities.Nodup

theorem SystemSpec.validate_eq_ok {spec : SystemSpec} :
    spec.validate = .ok () ↔ spec.Valid := by
  simp only [validate, verdict_eq_ok, List.forall_mem_cons, violation_eq_nil, Bool.not_eq_false,
    List.map_eq_nil_iff, reinserted_eq_nil, List.not_mem_nil, not_false_eq_true, implies_true,
    and_true]
  constructor
  · rintro ⟨hhost, hfeatures, hpriorities, -⟩
    exact ⟨hhost, hfeatures, hpriorities⟩
  · rintro ⟨hhost, hfeatures, hpriorities⟩
    exact ⟨hhost, hfeatures, hpriorities, fun _ hmem => hmem.elim⟩

/-- A host name that is valid holds no ASCII character but letters, digits and `-`. -/
theorem notMem_of_validHostname {hostname : String} (h : validHostname hostname = true)
    {c : Char} (hascii : c.toNat < 0x80) (hother : hostnameByte (UInt8.ofNat c.toNat) = false) :
    c ∉ hostname.toList := by
  intro hc
  have hbytes : ∀ byte ∈ utf8Bytes hostname, hostnameByte byte = true := by
    unfold validHostname at h
    dsimp only at h
    split at h
    · cases h
    · split at h
      · cases h
      · exact List.all_eq_true.mp h
  have hnat : (UInt8.ofNat c.toNat).toNat = c.toNat :=
    UInt8.toNat_ofNat_of_lt' (Nat.lt_of_lt_of_le hascii (by decide))
  have hmem : UInt8.ofNat c.toNat ∈ utf8Bytes hostname :=
    (mem_utf8Bytes (by omega)).mpr ⟨c, hc, hnat.symm⟩
  rw [hbytes _ hmem] at hother
  cases hother

end Blob
