import ColumnSpec.Proofs.Clock.Calendar
import ColumnSpec.Clock.Format
import Mathlib.Tactic.IntervalCases
/-!
# Valid dates

Day numbers and valid dates correspond one to one (`days_dates_bijection`), by way of the
years that start on the first of March (`ofMarch_valid`).
-/
namespace ColumnSpec.Calendar

/-- The length of month `m` of year `y`, by the table the day of the year is summed from. -/
def monthLength (y : Int) (m : Nat) : Nat := (monthLengths y).getD (m - 1) 0

/-- A date of the proleptic Gregorian calendar. -/
def Date.Valid (d : Date) : Prop :=
  1 ≤ d.month ∧ d.month ≤ 12 ∧ 1 ≤ d.day ∧ d.day ≤ monthLength d.year d.month

instance (d : Date) : Decidable d.Valid := inferInstanceAs (Decidable (_ ∧ _ ∧ _ ∧ _))

/-- The days from the first of March of year `y` to that of year `y + 1`: one more when the
February between them has a 29th. -/
def marchYearLength (y : Int) : Nat := if isLeap (y + 1) then 366 else 365

theorem marchYearLength_cases (y : Int) :
    marchYearLength y = 366 ∧ (y + 1) % 4 = 0 ∧ ((y + 1) % 100 ≠ 0 ∨ (y + 1) % 400 = 0) ∨
      marchYearLength y = 365 ∧ ¬ ((y + 1) % 4 = 0 ∧ ((y + 1) % 100 ≠ 0 ∨ (y + 1) % 400 = 0)) := by
  unfold marchYearLength
  by_cases hl : isLeap (y + 1) = true
  · exact .inl ⟨if_pos hl, (isLeap_iff _).1 hl⟩
  · exact .inr ⟨if_neg hl, fun h => hl ((isLeap_iff _).2 h)⟩

/-! ## Days within a year -/

theorem ofMarch_valid (y : Int) {doy : Nat} (h : doy < marchYearLength y) :
    (ofMarch y doy).Valid := by
  unfold marchYearLength at h
  have hmp : (5 * doy + 2) / 153 < 12 := by split at h <;> omega
  simp only [ofMarch, Date.Valid, monthLength]
  -- one case per month counted from March; February falls in year `y + 1`
  cases hl : isLeap (y + 1) <;> simp only [hl, Bool.false_eq_true, ↓reduceIte] at h <;>
    interval_cases hq : (5 * doy + 2) / 153 <;> simp [hl, monthLengths] <;> omega

theorem yearOfEra_eraDays_add {y : Int} {doy : Nat} (h : doy < marchYearLength y) :
    eraDays (y % 400).toNat + doy < 146097 ∧
      yearOfEra (eraDays (y % 400).toNat + doy) = (y % 400).toNat := by
  obtain ⟨g, k, j, hg, hk, hj, hy⟩ : ∃ g k j, g < 4 ∧ k < 25 ∧ j < 4 ∧
      (y % 400).toNat = 100 * g + 4 * k + j :=
    ⟨(y % 400).toNat / 100, (y % 400).toNat % 100 / 4, (y % 400).toNat % 4, by omega, by omega,
      by omega, by omega⟩
  -- a year of 366 days is one whose successor is a leap year
  have hr : doy < 365 ∨ (doy = 365 ∧ j = 3 ∧ (k ≠ 24 ∨ g = 3)) := by
    rcases marchYearLength_cases y with ⟨hl, hleap⟩ | ⟨hl, _⟩ <;> omega
  rw [hy, eraDays_split hk hj, yearOfEra_split hg hk hj hr]
  omega

theorem marchStart_eq (y : Int) : marchStart y = y / 400 * 146097 + eraDays (y % 400).toNat := by
  have h : (y - y / 400 * 400).toNat = (y % 400).toNat := by omega
  rw [marchStart, h]

theorem civilOfDays_marchStart (y : Int) {doy : Nat} (h : doy < marchYearLength y) :
    civilOfDays (marchStart y + doy - 719468) = ofMarch y doy := by
  obtain ⟨hlt, hyear⟩ := yearOfEra_eraDays_add h
  have hera : (marchStart y + doy - 719468 + 719468) / 146097 = y / 400 := by
    rw [marchStart_eq]
    omega
  have hday : dayOfEra (marchStart y + doy - 719468) = eraDays (y % 400).toNat + doy := by
    unfold dayOfEra
    rw [marchStart_eq]
    omega
  rw [civilOfDays_eq, hday, hera, hyear]
  congr 1 <;> omega

theorem dayOfEra_lt_marchYearLength (z : Int) :
    dayOfEra z - eraDays (yearOfEra (dayOfEra z)) <
      marchYearLength (yearOfEra (dayOfEra z) + (z + 719468) / 146097 * 400) := by
  obtain ⟨hdoe, -⟩ := dayOfEra_split z
  obtain ⟨g, k, j, r, hg, hk, hj, hr, hsplit⟩ := era_split hdoe
  rw [hsplit, yearOfEra_split hg hk hj hr, eraDays_split hk hj]
  -- the 366th day of a year of the era falls only before a leap day
  rcases marchYearLength_cases ((100 * g + 4 * k + j : Nat) + (z + 719468) / 146097 * 400) with
    ⟨hl, _⟩ | ⟨hl, _⟩ <;> rw [hl] <;> omega

/-! ## Dates within a year -/

theorem monthLength_le (y : Int) {m : Nat} (hm : 1 ≤ m ∧ m ≤ 12) :
    monthLength y m ≤ (153 * ((if m > 2 then m - 3 else m + 9) + 1) + 2) / 5 -
      (153 * (if m > 2 then m - 3 else m + 9) + 2) / 5 := by
  obtain ⟨hm1, hm2⟩ := hm
  unfold monthLength monthLengths
  interval_cases m <;> cases isLeap y <;> decide

theorem february_length (y : Int) : monthLength y 2 = if isLeap y then 29 else 28 := rfl

theorem ofMarch_of_valid {d : Date} (hv : d.Valid) :
    ((153 * (if d.month > 2 then d.month - 3 else d.month + 9) + 2) / 5 + d.day - 1 <
      marchYearLength (if d.month ≤ 2 then d.year - 1 else d.year)) ∧
    ofMarch (if d.month ≤ 2 then d.year - 1 else d.year)
      ((153 * (if d.month > 2 then d.month - 3 else d.month + 9) + 2) / 5 + d.day - 1) = d := by
  obtain ⟨y, m, d⟩ := d
  obtain ⟨hm1, hm2, hd1, hd2⟩ := hv
  have hlen := monthLength_le y ⟨hm1, hm2⟩
  simp only at hm1 hm2 hd1 hd2 hlen ⊢
  unfold marchYearLength ofMarch
  by_cases hm : m ≤ 2
  · -- January and February end the year that starts in March of `y - 1`
    have hm' : ¬ m > 2 := by omega
    simp only [hm, hm', ↓reduceIte, Int.sub_add_cancel] at hlen ⊢
    have hq : (5 * ((153 * (m + 9) + 2) / 5 + d - 1) + 2) / 153 = m + 9 := by omega
    simp only [hq, show ¬ m + 9 < 10 by omega, ↓reduceIte, show m + 9 - 9 = m by omega, hm,
      Int.sub_add_cancel, Date.mk.injEq, true_and]
    refine ⟨?_, by omega⟩
    -- only February reaches the last day of such a year, and only when `y` is a leap year
    obtain rfl | rfl : m = 1 ∨ m = 2 := by omega
    · split <;> omega
    · rw [february_length] at hd2
      cases hl : isLeap y <;> simp only [hl, Bool.false_eq_true, ↓reduceIte] at hd2 ⊢ <;> omega
  · have hm' : m > 2 := by omega
    simp only [hm, hm', ↓reduceIte] at hlen ⊢
    have hq : (5 * ((153 * (m - 3) + 2) / 5 + d - 1) + 2) / 153 = m - 3 := by omega
    simp only [hq, show m - 3 < 10 by omega, ↓reduceIte, show m - 3 + 3 = m by omega, hm,
      Int.add_zero, Date.mk.injEq, true_and]
    refine ⟨?_, by omega⟩
    split <;> omega

/-! ## The bijection -/

theorem civilOfDays_valid (z : Int) : (civilOfDays z).Valid := by
  rw [civilOfDays_eq]
  exact ofMarch_valid _ (dayOfEra_lt_marchYearLength z)

theorem civilOfDays_daysOfCivil {d : Date} (hv : d.Valid) :
    civilOfDays (daysOfCivil d.year d.month d.day) = d := by
  obtain ⟨hin, hdate⟩ := ofMarch_of_valid hv
  rw [daysOfCivil_eq_marchStart _ _ hv.2.2.1, civilOfDays_marchStart _ hin, hdate]

theorem parts_month_index (micros : Int) :
    1 ≤ (Timestamp.parts micros).date.month ∧
      (Timestamp.parts micros).date.month - 1 < Timestamp.monthNames.length ∧
      (Timestamp.parts micros).date.month - 1 ≤
        (monthLengths (Timestamp.parts micros).date.year).length := by
  obtain ⟨hm1, hm2, -⟩ := civilOfDays_valid (micros / Timestamp.microsPerSecond / 86400)
  simp only [Timestamp.parts, Timestamp.monthNames, monthLengths, List.length_cons,
    List.length_nil]
  omega

/-- Day numbers and valid dates correspond one to one; the day of the year counts the days
since the first of January; and so every timestamp's month indexes the month names and the
month lengths. -/
theorem days_dates_bijection :
    (∀ z : Int, (civilOfDays z).Valid ∧
      daysOfCivil (civilOfDays z).year (civilOfDays z).month (civilOfDays z).day = z) ∧
    (∀ d : Date, d.Valid → civilOfDays (daysOfCivil d.year d.month d.day) = d) ∧
    (∀ (y : Int) (m d : Nat), 1 ≤ m → m ≤ 12 → 1 ≤ d →
      (dayOfYear y m d : Int) = daysOfCivil y m d - daysOfCivil y 1 1 + 1) ∧
    (∀ micros : Int, 1 ≤ (Timestamp.parts micros).date.month ∧
      (Timestamp.parts micros).date.month - 1 < Timestamp.monthNames.length ∧
      (Timestamp.parts micros).date.month - 1 ≤
        (monthLengths (Timestamp.parts micros).date.year).length) := by
  refine ⟨fun z => ⟨civilOfDays_valid z, daysOfCivil_civilOfDays z⟩,
    fun d hv => civilOfDays_daysOfCivil hv, fun y m d hm1 hm2 hd => ?_, parts_month_index⟩
  have h := daysOfCivil_eq_dayOfYear y ⟨hm1, hm2⟩ hd
  have hle := le_dayOfYear y m d
  omega

-- Day 0 is the first of January 1970.
example : civilOfDays 0 = ⟨1970, 1, 1⟩ := by decide

/-- The leap day of 2000 is a valid date and comes back from its day number; the last day of
that year is its 366th. -/
theorem days_dates_bijection_leapDay :
    (⟨2000, 2, 29⟩ : Date).Valid ∧ civilOfDays (daysOfCivil 2000 2 29) = ⟨2000, 2, 29⟩ ∧
      (dayOfYear 2000 12 31 : Int) = daysOfCivil 2000 12 31 - daysOfCivil 2000 1 1 + 1 :=
  ⟨by decide, days_dates_bijection.2.1 ⟨2000, 2, 29⟩ (by decide),
    days_dates_bijection.2.2.1 2000 12 31 (by decide) (by decide) (by decide)⟩

end ColumnSpec.Calendar
