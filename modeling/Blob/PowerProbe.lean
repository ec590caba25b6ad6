import Mathlib.Data.List.Perm.Basic
import Blob.Checks
import Blob.PhysicalNode
import Blob.Text

/-!
# The power probe

The loop of `probe_external_power` over the entries of the power supply
directory: three flags and a list of evidence. The flags do not depend on
the order of the entries (`flags_eq`). A file that cannot be read counts as
an empty one, so an entry whose type cannot be read is of no kind - neither
external nor a battery - and a directory of such entries looks like one
without a battery: `conservative_iff`.
-/

namespace Blob

open Text

/-- An entry of the directory: its name, and its two files or why they cannot be read. -/
structure PowerSupply where
  fileName : List UInt8
  type : Except String String
  online : Except String String
deriving DecidableEq

structure PowerObservation where
  onExternalPower : Option Bool
  evidence : List String
deriving Repr, DecidableEq

namespace PowerSupply

/-- `fs::read_to_string(..).unwrap_or_default().trim()`. -/
def fileText (contents : Except String String) : String := trim (contents.toOption.getD "")

def supplyType (self : PowerSupply) : String := fileText self.type

def isBattery (self : PowerSupply) : Bool := self.supplyType == "Battery"

def isExternal (self : PowerSupply) : Bool :=
  ["Mains", "USB", "USB_C", "USB_PD", "USB_DCP", "USB_CDP", "USB_ACA"].contains self.supplyType

def isOnline (self : PowerSupply) : Bool := fileText self.online == "1"

end PowerSupply

/-! ## The loop -/

/-- The variables of the loop. -/
structure PowerScan where
  sawBattery : Bool := false
  sawExternalSource : Bool := false
  externalOnline : Bool := false
  evidence : List String := []
deriving Repr, DecidableEq

namespace PowerScan

/-- One pass of the loop, for an entry that could be listed. -/
def observe (self : PowerScan) (entry : PowerSupply) : PowerScan :=
  if entry.isBattery then
    { self with
      sawBattery := true
      evidence := self.evidence
        ++ ["power-supply:" ++ fromUtf8Lossy entry.fileName ++ ":type=Battery"] }
  else if entry.isExternal then
    { self with
      sawExternalSource := true
      externalOnline := self.externalOnline || entry.isOnline
      evidence := self.evidence
        ++ ["power-supply:" ++ fromUtf8Lossy entry.fileName ++ ":type=" ++ entry.supplyType
          ++ ":online=" ++ boolText entry.isOnline] }
  -- an entry of another kind, or of which no kind could be read
  else self

/-- The loop: it ends at the first entry that cannot be listed. -/
def scan (self : PowerScan) : List (Except String PowerSupply) → Except String PowerScan
  | [] => .ok self
  | .error message :: _ => .error message
  | .ok entry :: rest => (self.observe entry).scan rest

/-- What is concluded after the loop. -/
def conclude (self : PowerScan) : PowerObservation :=
  if self.sawExternalSource then
    { onExternalPower := some self.externalOnline, evidence := self.evidence }
  else if !self.sawBattery then
    { onExternalPower := some true
      evidence := self.evidence
        ++ ["power-supply:no-battery-detected:treat-as-external-power"] }
  else { onExternalPower := none, evidence := self.evidence }

end PowerScan

/-- `probe_external_power`, of what the directory lists. -/
def probeExternalPower (directory : Except String (List (Except String PowerSupply))) :
    Except String PowerObservation := do
  let entries ← directory
  let scanned ← PowerScan.scan {} entries
  return scanned.conclude

/-! ## What the loop has seen -/

namespace PowerScan

/-- No kind of battery is a kind of external source. -/
theorem isExternal_of_isBattery {entry : PowerSupply} (h : entry.isBattery = true) :
    entry.isExternal = false := by
  rw [PowerSupply.isExternal, eq_of_beq h]
  decide

/-- The flags of the loop, entry by entry. -/
theorem flags_eq (self : PowerScan) (entries : List PowerSupply) :
    (entries.foldl observe self).sawBattery
        = (self.sawBattery || entries.any (·.isBattery))
      ∧ (entries.foldl observe self).sawExternalSource
        = (self.sawExternalSource || entries.any (·.isExternal))
      ∧ (entries.foldl observe self).externalOnline
        = (self.externalOnline || entries.any fun entry => entry.isExternal && entry.isOnline) := by
  induction entries generalizing self with
  | nil => simp
  | cons entry entries ih =>
      obtain ⟨hbattery, hexternal, honline⟩ := ih (self.observe entry)
      rw [List.foldl_cons, hbattery, hexternal, honline]
      unfold observe
      split
      · rename_i h
        simp [h, isExternal_of_isBattery h]
      split
      · rename_i h h'
        simp [h, h', Bool.or_assoc]
      · rename_i h h'
        simp [h, h']

/-- The loop runs over every entry, or stops at one that cannot be listed. -/
theorem scan_eq_ok {self scanned : PowerScan} {entries : List (Except String PowerSupply)} :
    self.scan entries = .ok scanned
      ↔ ∃ listed : List PowerSupply, entries = listed.map .ok
        ∧ scanned = listed.foldl observe self := by
  induction entries generalizing self with
  | nil =>
      constructor
      · intro h
        exact ⟨[], rfl, (Except.ok.inj h).symm⟩
      · rintro ⟨listed, hlisted, rfl⟩
        rw [List.map_eq_nil_iff.mp hlisted.symm]
        rfl
  | cons entry entries ih =>
      rcases entry with message | entry
      · constructor
        · intro h
          cases h
        · rintro ⟨_ | ⟨_, _⟩, hlisted, -⟩ <;> cases hlisted
      · rw [scan, ih]
        constructor
        · rintro ⟨listed, rfl, rfl⟩
          exact ⟨entry :: listed, rfl, List.foldl_cons.symm⟩
        · rintro ⟨_ | ⟨first, listed⟩, hlisted, rfl⟩
          · cases hlisted
          · obtain ⟨hfirst, hrest⟩ := List.cons.inj hlisted
            obtain rfl := Except.ok.inj hfirst
            exact ⟨listed, hrest, List.foldl_cons⟩

end PowerScan

/-! ## The probe -/

/-- The power state of a directory whose entries are listed, and nothing else. -/
def powerState (entries : List PowerSupply) : Option Bool :=
  if entries.any (·.isExternal) then
    some (entries.any fun entry => entry.isExternal && entry.isOnline)
  else if entries.any (·.isBattery) then none
  else some true

theorem probeExternalPower_eq_ok {entries : List (Except String PowerSupply)}
    {observation : PowerObservation} (h : probeExternalPower (.ok entries) = .ok observation) :
    ∃ listed : List PowerSupply, entries = listed.map .ok
      ∧ observation.onExternalPower = powerState listed := by
  simp only [probeExternalPower, Checks.bind_eq_ok, Checks.pure_eq_ok] at h
  obtain ⟨_, hentries, scanned, hscan, rfl⟩ := h
  obtain rfl := Except.ok.inj hentries
  obtain ⟨listed, rfl, rfl⟩ := PowerScan.scan_eq_ok.mp hscan
  refine ⟨listed, rfl, ?_⟩
  obtain ⟨hbattery, hexternal, honline⟩ := PowerScan.flags_eq {} listed
  rw [Bool.false_or] at hbattery hexternal honline
  unfold PowerScan.conclude powerState
  rw [hbattery, hexternal, honline]
  cases listed.any (·.isExternal) <;> cases listed.any (·.isBattery) <;> rfl

theorem exists_observation (listed : List PowerSupply) :
    ∃ observation, probeExternalPower (.ok (listed.map .ok)) = .ok observation
      ∧ observation.onExternalPower = powerState listed := by
  have hscan : PowerScan.scan {} (listed.map .ok) = .ok (listed.foldl PowerScan.observe {}) :=
    PowerScan.scan_eq_ok.mpr ⟨listed, rfl, rfl⟩
  have hprobe : probeExternalPower (.ok (listed.map .ok))
      = .ok (listed.foldl PowerScan.observe {}).conclude := by
    rw [probeExternalPower]
    show (PowerScan.scan {} (listed.map .ok) >>= _) = _
    rw [hscan]
    rfl
  obtain ⟨listed', hlisted, hstate⟩ := probeExternalPower_eq_ok hprobe
  obtain rfl := List.map_injective_iff.mpr (fun _ _ => Except.ok.inj) hlisted
  exact ⟨_, hprobe, hstate⟩

/-! ## What may be concluded -/

/-- External power is confirmed by an external source that is online, or by entries that
all could be identified and are neither external nor a battery. -/
def Confirmed (entries : List PowerSupply) : Prop :=
  (∃ entry ∈ entries, entry.isExternal = true ∧ entry.isOnline = true)
    ∨ ∀ entry ∈ entries, entry.isExternal = false ∧ entry.isBattery = false
      ∧ ∃ contents, entry.type = .ok contents

/-- An entry is external, or one is a battery, or the type of each could be read. -/
def Identifiable (entries : List PowerSupply) : Prop :=
  (∃ entry ∈ entries, entry.isExternal = true) ∨ (∃ entry ∈ entries, entry.isBattery = true)
    ∨ ∀ entry ∈ entries, ∃ contents, entry.type = .ok contents

theorem powerState_eq_some_true {entries : List PowerSupply} :
    powerState entries = some true
      ↔ (∃ entry ∈ entries, entry.isExternal = true ∧ entry.isOnline = true)
        ∨ ∀ entry ∈ entries, entry.isExternal = false ∧ entry.isBattery = false := by
  unfold powerState
  constructor
  · intro h
    split at h
    · left
      simpa using h
    · rename_i hexternal
      split at h
      · cases h
      · rename_i hbattery
        right
        simp only [List.any_eq_true, not_exists, not_and, Bool.not_eq_true] at hexternal hbattery
        exact fun entry hentry => ⟨hexternal entry hentry, hbattery entry hentry⟩
  · rintro (⟨entry, hentry, hexternal, honline⟩ | hnone)
    · rw [if_pos (List.any_eq_true.mpr ⟨entry, hentry, hexternal⟩)]
      simp only [Option.some.injEq, List.any_eq_true, Bool.and_eq_true]
      exact ⟨entry, hentry, hexternal, honline⟩
    · rw [if_neg, if_neg]
      · simp only [List.any_eq_true, not_exists, not_and, Bool.not_eq_true]
        exact fun entry hentry => (hnone entry hentry).2
      · simp only [List.any_eq_true, not_exists, not_and, Bool.not_eq_true]
        exact fun entry hentry => (hnone entry hentry).1

/-- What the probe takes for external power is confirmed exactly when the entries are
identifiable. -/
theorem confirmed_iff {entries : List PowerSupply} :
    (powerState entries = some true → Confirmed entries) ↔ Identifiable entries := by
  rw [powerState_eq_some_true]
  constructor
  · intro h
    by_cases hexternal : ∃ entry ∈ entries, entry.isExternal = true
    · exact Or.inl hexternal
    by_cases hbattery : ∃ entry ∈ entries, entry.isBattery = true
    · exact Or.inr (Or.inl hbattery)
    simp only [not_exists, not_and, Bool.not_eq_true] at hexternal hbattery
    refine Or.inr (Or.inr ?_)
    rcases h (Or.inr fun entry hentry => ⟨hexternal entry hentry, hbattery entry hentry⟩) with
      ⟨entry, hentry, htrue, -⟩ | hall
    · rw [hexternal entry hentry] at htrue
      cases htrue
    · exact fun entry hentry => (hall entry hentry).2.2
  · rintro h (honline | hnone)
    · exact Or.inl honline
    · rcases h with ⟨entry, hentry, htrue⟩ | ⟨entry, hentry, htrue⟩ | hread
      · rw [(hnone entry hentry).1] at htrue
        cases htrue
      · rw [(hnone entry hentry).2] at htrue
        cases htrue
      · exact Or.inr fun entry hentry =>
          ⟨(hnone entry hentry).1, (hnone entry hentry).2, hread entry hentry⟩

theorem powerState_perm {entries entries' : List PowerSupply} (h : entries.Perm entries') :
    powerState entries = powerState entries' := by
  have hany : ∀ p : PowerSupply → Bool, entries.any p = entries'.any p := by
    intro p
    rw [Bool.eq_iff_iff, List.any_eq_true, List.any_eq_true]
    simp only [h.mem_iff]
  unfold powerState
  rw [hany, hany, hany]

/-- The power state the probe reports of a directory, if it reports one. -/
def reading (entries : List (Except String PowerSupply)) : Option (Option Bool) :=
  (probeExternalPower (.ok entries)).toOption.map (·.onExternalPower)

theorem reading_listed (listed : List PowerSupply) :
    reading (listed.map .ok) = some (powerState listed) := by
  obtain ⟨observation, hprobe, hstate⟩ := exists_observation listed
  rw [reading, hprobe, ← hstate]
  rfl

theorem reading_unlisted {entries : List (Except String PowerSupply)}
    (h : ∀ listed : List PowerSupply, entries ≠ listed.map .ok) : reading entries = none := by
  rw [reading]
  cases hprobe : probeExternalPower (.ok entries) with
  | error message => rfl
  | ok observation =>
      obtain ⟨listed, hlisted, -⟩ := probeExternalPower_eq_ok hprobe
      exact absurd hlisted (h listed)

theorem map_ok_filterMap {entries : List (Except String PowerSupply)}
    (h : ∀ entry ∈ entries, ∃ supply, entry = .ok supply) :
    (entries.filterMap Except.toOption).map .ok = entries := by
  induction entries with
  | nil => rfl
  | cons entry entries ih =>
      obtain ⟨supply, rfl⟩ := h entry (List.mem_cons_self ..)
      have hrest := ih fun e he => h e (List.mem_cons_of_mem _ he)
      exact congrArg (.ok supply :: ·) hrest

/-- The entries of a directory in another order are listed if these are. -/
theorem listed_perm {listed : List PowerSupply} {entries : List (Except String PowerSupply)}
    (h : (listed.map .ok).Perm entries) :
    ∃ listed' : List PowerSupply, entries = listed'.map .ok ∧ listed.Perm listed' := by
  refine ⟨entries.filterMap Except.toOption, ?_, ?_⟩
  · have hok : ∀ entry ∈ entries, ∃ supply, entry = .ok supply := by
      intro entry hentry
      obtain ⟨supply, -, hsupply⟩ := List.mem_map.mp (h.mem_iff.mpr hentry)
      exact ⟨supply, hsupply.symm⟩
    exact (map_ok_filterMap hok).symm
  · have hperm := h.filterMap Except.toOption
    rw [List.filterMap_map] at hperm
    simpa [Function.comp_def, Except.toOption] using hperm

/-- The probe does not depend on the order of the entries. -/
theorem reading_perm {entries entries' : List (Except String PowerSupply)}
    (h : entries.Perm entries') : reading entries = reading entries' := by
  by_cases hlisted : ∃ listed : List PowerSupply, entries = listed.map .ok
  · obtain ⟨listed, rfl⟩ := hlisted
    obtain ⟨listed', rfl, hperm⟩ := listed_perm h
    rw [reading_listed, reading_listed, powerState_perm hperm]
  · rw [reading_unlisted (not_exists.mp hlisted), reading_unlisted]
    rintro listed' rfl
    obtain ⟨listed, hlisted', -⟩ := listed_perm h.symm
    exact hlisted ⟨listed, hlisted'⟩

/-- The probe is conservative, and independent of the order of the entries, exactly when
the entries that could be listed are identifiable. -/
theorem conservative_iff (entries : List (Except String PowerSupply)) :
    (∀ listed : List PowerSupply, entries = listed.map .ok → ∀ observation,
        probeExternalPower (.ok entries) = .ok observation →
        observation.onExternalPower = some true → Confirmed listed)
      ∧ (∀ entries', entries.Perm entries' → reading entries = reading entries')
      ↔ ∀ listed : List PowerSupply, entries = listed.map .ok → Identifiable listed := by
  constructor
  · rintro ⟨hconservative, -⟩ listed rfl
    obtain ⟨observation, hprobe, hstate⟩ := exists_observation listed
    rw [← confirmed_iff, ← hstate]
    exact hconservative listed rfl observation hprobe
  · intro hidentifiable
    refine ⟨?_, fun entries' => reading_perm⟩
    rintro listed rfl observation hprobe hstate
    obtain ⟨observation', hprobe', hstate'⟩ := exists_observation listed
    obtain rfl := Except.ok.inj (hprobe.symm.trans hprobe')
    exact confirmed_iff.mpr (hidentifiable listed rfl) (hstate'.symm.trans hstate)

/-- A battery whose type cannot be read. -/
def unreadBattery : PowerSupply where
  fileName := utf8Bytes "BAT0"
  type := .error "No such device (os error 19)"
  online := .error "No such file or directory (os error 2)"

/-- It alone makes external power count as confirmed. -/
theorem unread_battery_confirms :
    ∃ observation, probeExternalPower (.ok [.ok unreadBattery]) = .ok observation
      ∧ observation.onExternalPower = some true ∧ ¬ Confirmed [unreadBattery] := by
  refine ⟨_, rfl, rfl, ?_⟩
  rintro (⟨entry, hentry, hexternal, -⟩ | hall)
  · rw [List.mem_singleton.mp hentry] at hexternal
    exact absurd hexternal (by decide)
  · obtain ⟨-, -, contents, hcontents⟩ := hall unreadBattery (List.mem_singleton_self _)
    cases hcontents

end Blob
