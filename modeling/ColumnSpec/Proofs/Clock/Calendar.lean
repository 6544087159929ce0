import ColumnSpec.Clock.Calendar
import Mathlib.Tactic.IntervalCases
/-!
# The calendar arithmetic

Both conversions count in 400-year eras whose years start on the first of March, split
into centuries, four-year blocks and years (`era_split`). A date read off a day number
gives the day number back (`daysOfCivil_civilOfDays`).
-/
namespace ColumnSpec.Calendar

/-- The days from the start of an era to the first of March of its year `yoe`. -/
def eraDays (yoe : Nat) : Nat := 365 * yoe + yoe / 4 - yoe / 100

/-- The year of the era in which day `doe` of the era falls. -/
def yearOfEra (doe : Nat) : Nat := (doe - doe / 1460 + doe / 36524 - doe / 146096) / 365

/-- The day number, counted from the era that starts at year 0, of the first of March of
year `y`. -/
def marchStart (y : Int) : Int := y / 400 * 146097 + eraDays (y - y / 400 * 400).toNat

/-- The day of its era that day number `z` (counted from 1970) falls on. -/
def dayOfEra (z : Int) : Nat := (z + 719468 - (z + 719468) / 146097 * 146097).toNat

/-- The date `doy` days after the first of March of year `y`. -/
def ofMarch (y : Int) (doy : Nat) : Date :=
  let mp := (5 * doy + 2) / 153
  let d := doy - (153 * mp + 2) / 5 + 1
  let mo := if mp < 10 then mp + 3 else mp - 9
  ⟨y + (if mo ≤ 2 then 1 else 0), mo, d⟩

/-! ## Years within an era -/

/-- Every day of an era is a number of centuries, four-year blocks, years and days, the day
366 of a year only in the leap years that end a block (but not the century, unless it is the
era's last). -/
theorem era_split {doe : Nat} (h : doe < 146097) : ∃ g k j r, g < 4 ∧ k < 25 ∧ j < 4 ∧
    (r < 365 ∨ (r = 365 ∧ j = 3 ∧ (k ≠ 24 ∨ g = 3))) ∧
      doe = 36524 * g + 1461 * k + 365 * j + r := by
  by_cases hl : doe = 146096
  · exact ⟨3, 24, 3, 365, by omega⟩
  · have hg : doe / 36524 < 4 := by omega
    have hk : doe % 36524 / 1461 < 25 := by omega
    refine ⟨doe / 36524, doe % 36524 / 1461, min (doe % 36524 % 1461 / 365) 3,
      doe % 36524 % 1461 - 365 * min (doe % 36524 % 1461 / 365) 3, hg, hk, by omega, ?_, by omega⟩
    omega

theorem eraDays_split {g k j : Nat} (hk : k < 25) (hj : j < 4) :
    eraDays (100 * g + 4 * k + j) = 36524 * g + 1461 * k + 365 * j := by
  unfold eraDays
  omega

theorem yearOfEra_split {g k j r : Nat} (hg : g < 4) (hk : k < 25) (hj : j < 4)
    (hr : r < 365 ∨ (r = 365 ∧ j = 3 ∧ (k ≠ 24 ∨ g = 3))) :
    yearOfEra (36524 * g + 1461 * k + 365 * j + r) = 100 * g + 4 * k + j := by
  unfold yearOfEra
  generalize hdoe : 36524 * g + 1461 * k + 365 * j + r = doe
  have h1 : doe / 1460 = 25 * g + k + (24 * g + k + 365 * j + r) / 1460 := by omega
  have h2 : (24 * g + k + 365 * j + r) / 1460 ≤ 1 := by omega
  have h3 : doe / 146096 = if doe = 146096 then 1 else 0 := by split <;> omega
  have h4 : doe / 36524 = if doe = 146096 then 4 else g := by split <;> omega
  rcases Nat.le_one_iff_eq_zero_or_eq_one.mp h2 with h | h <;> split at h3 <;> omega

theorem eraDays_yearOfEra {doe : Nat} (h : doe < 146097) :
    yearOfEra doe < 400 ∧ eraDays (yearOfEra doe) ≤ doe ∧
      doe - eraDays (yearOfEra doe) ≤ 365 := by
  obtain ⟨g, k, j, r, hg, hk, hj, hr, rfl⟩ := era_split h
  rw [yearOfEra_split hg hk hj hr, eraDays_split hk hj]
  omega

/-! ## First days of March -/

theorem isLeap_iff (y : Int) :
    isLeap y = true ↔ y % 4 = 0 ∧ (y % 100 ≠ 0 ∨ y % 400 = 0) := by
  simp [isLeap]

theorem marchStart_succ (y : Int) :
    marchStart (y + 1) = marchStart y + 365 + if isLeap (y + 1) then 1 else 0 := by
  unfold marchStart eraDays
  have hleap := isLeap_iff (y + 1)
  -- the last year of an era is followed by the first of the next
  by_cases hlast : y % 400 = 399
  · have he : (y + 1) / 400 = y / 400 + 1 := by omega
    have hy0 : (y + 1 - (y + 1) / 400 * 400).toNat = 0 := by omega
    have hy : (y - y / 400 * 400).toNat = 399 := by omega
    rw [hy0, hy, he, if_pos (hleap.2 ⟨by omega, Or.inr (by omega)⟩)]
    omega
  · have he : (y + 1) / 400 = y / 400 := by omega
    obtain ⟨r, hr⟩ : ∃ r : Nat, (y - y / 400 * 400).toNat = r := ⟨_, rfl⟩
    have hr' : (y + 1 - (y + 1) / 400 * 400).toNat = r + 1 := by omega
    have hlt : r < 399 := by omega
    have hry : (r : Int) = y % 400 := by omega
    rw [hr', he, hr]
    by_cases hl : isLeap (y + 1) = true
    · have := hleap.1 hl
      rw [if_pos hl]
      omega
    · rw [if_neg hl]
      have : ¬ ((y + 1) % 4 = 0 ∧ ((y + 1) % 100 ≠ 0 ∨ (y + 1) % 400 = 0)) :=
        fun h => hl (hleap.2 h)
      omega

/-! ## Dates of day numbers -/

theorem civilOfDays_eq (z : Int) :
    civilOfDays z = ofMarch (yearOfEra (dayOfEra z) + (z + 719468) / 146097 * 400)
      (dayOfEra z - eraDays (yearOfEra (dayOfEra z))) := rfl

theorem daysOfCivil_ofMarch (y : Int) {doy : Nat} (h : doy ≤ 365) :
    daysOfCivil (ofMarch y doy).year (ofMarch y doy).month (ofMarch y doy).day =
      marchStart y + doy - 719468 := by
  have hmp : (5 * doy + 2) / 153 ≤ 11 := by omega
  have hday : (153 * ((5 * doy + 2) / 153) + 2) / 5 ≤ doy := by omega
  simp only [daysOfCivil, ofMarch, marchStart, eraDays]
  -- the month brings back the year of March and the month counted from March
  by_cases hm : (5 * doy + 2) / 153 < 10
  · simp only [hm, if_true, show ¬ ((5 * doy + 2) / 153 + 3 ≤ 2) by omega, if_false,
      show (5 * doy + 2) / 153 + 3 > 2 by omega, Int.add_zero]
    omega
  · simp only [hm, if_false, show (5 * doy + 2) / 153 - 9 ≤ 2 by omega, if_true,
      show ¬ ((5 * doy + 2) / 153 - 9 > 2) by omega]
    omega

theorem ofMarch_bounds (y : Int) {doy : Nat} (h : doy ≤ 365) :
    1 ≤ (ofMarch y doy).month ∧ (ofMarch y doy).month ≤ 12 ∧
      1 ≤ (ofMarch y doy).day ∧ (ofMarch y doy).day ≤ 31 := by
  simp only [ofMarch]
  split <;> omega

theorem dayOfEra_split (z : Int) :
    dayOfEra z < 146097 ∧ z + 719468 = (z + 719468) / 146097 * 146097 + dayOfEra z := by
  unfold dayOfEra
  constructor <;> omega

theorem daysOfCivil_civilOfDays (z : Int) :
    daysOfCivil (civilOfDays z).year (civilOfDays z).month (civilOfDays z).day = z := by
  obtain ⟨hdoe, hz⟩ := dayOfEra_split z
  obtain ⟨hy, hle, hdoy⟩ := eraDays_yearOfEra hdoe
  rw [civilOfDays_eq, daysOfCivil_ofMarch _ hdoy]
  generalize yearOfEra (dayOfEra z) = yoe at hy hle hdoy ⊢
  have hera : ((yoe : Int) + (z + 719468) / 146097 * 400) / 400 = (z + 719468) / 146097 := by omega
  have hyoe :
      ((yoe : Int) + (z + 719468) / 146097 * 400 - (z + 719468) / 146097 * 400).toNat = yoe := by
    omega
  rw [marchStart, hera, hyoe]
  omega

theorem civilOfDays_bounds (z : Int) :
    1 ≤ (civilOfDays z).month ∧ (civilOfDays z).month ≤ 12 ∧
      1 ≤ (civilOfDays z).day ∧ (civilOfDays z).day ≤ 31 := by
  obtain ⟨hdoe, -⟩ := dayOfEra_split z
  rw [civilOfDays_eq]
  exact ofMarch_bounds _ (eraDays_yearOfEra hdoe).2.2

/-! ## Days of the year -/

theorem daysOfCivil_eq_marchStart (y : Int) (m : Nat) {d : Nat} (hd : 1 ≤ d) :
    daysOfCivil y m d = marchStart (if m ≤ 2 then y - 1 else y) +
      ((153 * (if m > 2 then m - 3 else m + 9) + 2) / 5 + d - 1 : Nat) - 719468 := by
  simp only [daysOfCivil, marchStart, eraDays]
  split <;> omega

theorem daysOfCivil_eq_dayOfYear (y : Int) {m d : Nat} (hm : 1 ≤ m ∧ m ≤ 12) (hd : 1 ≤ d) :
    daysOfCivil y m d = daysOfCivil y 1 1 + dayOfYear y m d - 1 := by
  have hstep := marchStart_succ (y - 1)
  rw [Int.sub_add_cancel] at hstep
  rw [daysOfCivil_eq_marchStart y m hd, daysOfCivil_eq_marchStart y 1 (Nat.le_refl 1)]
  -- one case per month, each with the length of February of the year
  obtain ⟨hm1, hm2⟩ := hm
  interval_cases m <;> cases hl : isLeap y <;>
    simp only [hl, Bool.false_eq_true, ↓reduceIte] at hstep <;>
    simp [dayOfYear, monthLengths, hl] <;> omega

theorem le_dayOfYear (y : Int) (m d : Nat) : d ≤ dayOfYear y m d := Nat.le_add_left d _

theorem dayOfYear_le {y : Int} {m d : Nat} (hm : m ≤ 12) (hd : d ≤ 31) :
    dayOfYear y m d ≤ 366 := by
  unfold dayOfYear monthLengths
  interval_cases m <;> cases isLeap y <;> simp <;> omega

end ColumnSpec.Calendar
