import OcneProvider.Controller.Collections
import OcneProvider.Webhooks.Validation

/-! The rollout of machines whose certificates expire soon. The days are counted in nanoseconds of 64 bits, so that
only so many of them are counted as they are. -/

namespace OcneProvider.Controller.Expiry
open Api.Meta Api.Objects Collections Webhooks.Validation

def day : Duration := 24 * 3600 * second

/-- A whole second of the years 0 to 9999. -/
structure Timestamp (time : Time) : Prop where
  whole : second ∣ time
  since : -62167219200 * second ≤ time
  till : time ≤ 253402300799 * second

/-- The greatest number of days that 64 bits of nanoseconds have room for. -/
def maxDays : Int := 106751

section Exactness

variable {count : Int32} {now expiry : Time} {machine : Machine}

/-- Days are counted as they are, so more days select no fewer machines. -/
structure Exact (count : Int32) : Prop where
  selects : ∀ (now expiry : Time) (machine : Machine), Timestamp now → Timestamp expiry →
    machine.certificatesExpiryDate = some expiry →
      (shouldRolloutBefore now (some ⟨some count⟩) machine = true ↔ expiry < now + count.toInt * day)
  monotone : ∀ (fewer : Int32) (path : String), validateRolloutBefore (some ⟨some fewer⟩) path = [] → fewer ≤ count →
    ∀ (now : Time) (machine : Machine), Timestamp now → (∀ expiry ∈ machine.certificatesExpiryDate, Timestamp expiry) →
      shouldRolloutBefore now (some ⟨some fewer⟩) machine = true →
        shouldRolloutBefore now (some ⟨some count⟩) machine = true

theorem admitted_iff (path : String) :
    validateRolloutBefore (some ⟨some count⟩) path = [] ↔ 7 ≤ count.toInt := by
  simp [validateRolloutBefore, minimumCertificatesExpiryDays, Int32.lt_iff_toInt_lt]

theorem selected_iff (expires : machine.certificatesExpiryDate = some expiry) :
    shouldRolloutBefore now (some ⟨some count⟩) machine = true ↔ expiry < now + days count := by
  simp [shouldRolloutBefore, expires]

theorem not_selected_of_none (expires : machine.certificatesExpiryDate = none) :
    shouldRolloutBefore now (some ⟨some count⟩) machine = false := by
  simp [shouldRolloutBefore, expires]

theorem days_eq (least : 0 ≤ count.toInt) (most : count.toInt ≤ maxDays) : days count = count.toInt * day := by
  unfold maxDays at most
  apply Int.bmod_eq_of_le
  · omega
  · omega

theorem days_lt (count : Int32) : days count < 2 ^ 63 := by
  have bound := @Int.bmod_lt (count.toInt * (24 * 3600 * 1000000000)) (2 ^ 64) (by decide)
  unfold days Duration
  omega

theorem le_days (count : Int32) : -2 ^ 63 ≤ days count := by
  have bound := @Int.le_bmod (count.toInt * (24 * 3600 * 1000000000)) (2 ^ 64) (by decide)
  unfold days Duration
  omega

theorem selects_of_le (least : 0 ≤ count.toInt) (most : count.toInt ≤ maxDays)
    (expires : machine.certificatesExpiryDate = some expiry) :
    shouldRolloutBefore now (some ⟨some count⟩) machine = true ↔ expiry < now + count.toInt * day := by
  rw [selected_iff expires, days_eq least most]

theorem monotone_of_le {fewer : Int32} (least : 0 ≤ fewer.toInt) (more : fewer ≤ count) (most : count.toInt ≤ maxDays)
    (selected : shouldRolloutBefore now (some ⟨some fewer⟩) machine = true) :
    shouldRolloutBefore now (some ⟨some count⟩) machine = true := by
  rw [Int32.le_iff_toInt_le] at more
  cases expires : machine.certificatesExpiryDate with
  | none =>
    rw [not_selected_of_none expires] at selected
    cases selected
  | some expiry =>
    rw [selects_of_le least (by omega) expires] at selected
    rw [selects_of_le (by omega) most expires]
    have days : fewer.toInt * day ≤ count.toInt * day := Int.mul_le_mul_of_nonneg_right more (by decide)
    exact Int.lt_of_lt_of_le selected (Int.add_le_add_left days now)

/-- The first second after so many counted days. -/
def missed (count : Int32) : Time := (days count / second + 1) * second

theorem timestamp_missed (count : Int32) : Timestamp (missed count) := by
  have lower := le_days count
  have upper := days_lt count
  refine ⟨⟨_, Int.mul_comm _ _⟩, ?_, ?_⟩
  · unfold Duration at lower
    unfold missed second Duration
    omega
  · unfold Duration at upper
    unfold missed second Time
    omega

theorem days_lt_missed : days count < missed count := by
  unfold missed second Duration
  omega

theorem missed_lt (more : maxDays < count.toInt) : missed count < count.toInt * day := by
  have upper := days_lt count
  unfold Duration at upper
  unfold maxDays at more
  unfold missed day second Time
  omega

theorem timestamp_zero : Timestamp 0 :=
  ⟨Int.dvd_zero _, by decide, by decide⟩

/-- Days are counted exactly as far as 64 bits of nanoseconds have room. -/
theorem rolloutBefore_exact_iff (count : Int32) (path : String)
    (admitted : validateRolloutBefore (some ⟨some count⟩) path = []) : Exact count ↔ count.toInt ≤ maxDays := by
  have least := (admitted_iff path).mp admitted
  constructor
  · intro exact
    by_contra more
    have before := missed_lt (Int.not_le.mp more)
    let machine : Machine := { (default : Machine) with certificatesExpiryDate := some (missed count) }
    have selected := (exact.selects 0 (missed count) machine timestamp_zero (timestamp_missed count) rfl).mpr
      (by rwa [Int.zero_add])
    rw [selected_iff rfl, Int.zero_add] at selected
    exact Int.lt_asymm selected days_lt_missed
  · intro most
    refine ⟨fun now expiry machine _ _ expires => selects_of_le (by omega) most expires, ?_⟩
    intro fewer path fewerAdmitted more now machine _ _ selected
    have fewerLeast := (admitted_iff path).mp fewerAdmitted
    exact monotone_of_le (by omega) more most selected

/-- A month ahead. -/
theorem month_exact : validateRolloutBefore (some ⟨some 30⟩) "spec.rolloutBefore" = [] ∧ Exact 30 :=
  ⟨by decide, (rolloutBefore_exact_iff 30 "spec.rolloutBefore" (by decide)).mpr (by decide)⟩

/-- One day too many: a machine that expires within a week is selected for a week but not for those days. -/
theorem days_overflow : let machine : Machine := { (default : Machine) with certificatesExpiryDate := some day }
    validateRolloutBefore (some ⟨some 106752⟩) "spec.rolloutBefore" = [] ∧
      shouldRolloutBefore 0 (some ⟨some 7⟩) machine = true ∧
      shouldRolloutBefore 0 (some ⟨some 106752⟩) machine = false := by
  decide

end Exactness

end OcneProvider.Controller.Expiry
