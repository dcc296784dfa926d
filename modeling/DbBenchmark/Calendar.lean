import DbBenchmark.MixedRadix
import Mathlib.Algebra.Order.Group.Int
import Mathlib.Data.Int.ConditionallyCompleteOrder
import Mathlib.Data.Nat.Find
import Mathlib.Order.Monotone.Basic
import Mathlib.Tactic.Common

namespace Calendar
open MixedRadix

/-- Of the proleptic Gregorian calendar. Days and seconds count from the start of 1970 in UTC,
without leap seconds; months and days of the month count from 0. -/
def IsLeap (year : ℤ) : Prop := 4 ∣ year ∧ (¬ 100 ∣ year ∨ 400 ∣ year)

instance (year : ℤ) : Decidable (IsLeap year) := inferInstanceAs (Decidable (_ ∧ _))

def yearLength (year : ℤ) : ℤ := if IsLeap year then 366 else 365

def yearStart (year : ℤ) : ℤ :=
  365 * (year - 1970) + ((year - 1) / 4 - (year - 1) / 100 + (year - 1) / 400 - 477)

theorem yearStart_succ (year : ℤ) : yearStart (year + 1) = yearStart year + yearLength year := by
  by_cases hleap : IsLeap year
  · rw [yearLength, if_pos hleap]
    unfold yearStart
    unfold IsLeap at hleap
    omega
  · rw [yearLength, if_neg hleap]
    unfold yearStart
    unfold IsLeap at hleap
    omega

theorem yearStart_add_yearLength_le {year year' : ℤ} (h : year < year') :
    yearStart year + yearLength year ≤ yearStart year' := by
  rw [← yearStart_succ, yearStart, yearStart]
  omega

def years : Units ℤ ℤ := ⟨yearStart, yearLength, fun _ _ => yearStart_add_yearLength_le⟩

/-- A first guess from the mean length of a year is at most one year short. -/
def yearOf (day : ℤ) : ℤ :=
  let year := 1970 + (400 * day - 591) / 146097
  if yearStart (year + 1) ≤ day then year + 1 else year

theorem yearStart_yearOf_le (day : ℤ) : yearStart (yearOf day) ≤ day := by
  simp only [yearOf]
  split
  · assumption
  · unfold yearStart
    omega

theorem lt_yearStart_yearOf (day : ℤ) : day < yearStart (yearOf day) + yearLength (yearOf day) := by
  rw [← yearStart_succ]
  simp only [yearOf]
  split
  · unfold yearStart
    omega
  · omega

def monthLength (year : ℤ) : ℕ → ℕ
  | 1 => if IsLeap year then 29 else 28
  | 3 | 5 | 8 | 10 => 30
  | _ => 31

def monthStart (year : ℤ) : ℕ → ℕ
  | 0 => 0
  | month + 1 => monthStart year month + monthLength year month

theorem monthStart_mono (year : ℤ) : Monotone (monthStart year) :=
  monotone_nat_of_le_succ fun _ => Nat.le_add_right _ _

theorem monthStart_twelve (year : ℤ) : (monthStart year 12 : ℤ) = yearLength year := by
  by_cases hleap : IsLeap year <;> simp [monthStart, monthLength, yearLength, hleap]

def months (year : ℤ) : Units ℕ ℕ :=
  ⟨monthStart year, monthLength year, fun _ _ h => monthStart_mono year h⟩

def monthOf (year : ℤ) (dayOfYear : ℕ) : ℕ :=
  Nat.findGreatest (fun month => monthStart year month ≤ dayOfYear) 11

theorem monthOf_lt (year : ℤ) (dayOfYear : ℕ) : monthOf year dayOfYear < 12 :=
  Nat.lt_succ_of_le (Nat.findGreatest_le 11)

theorem monthStart_monthOf_le (year : ℤ) (dayOfYear : ℕ) :
    monthStart year (monthOf year dayOfYear) ≤ dayOfYear :=
  Nat.findGreatest_spec (P := fun month => monthStart year month ≤ dayOfYear) (Nat.zero_le 11)
    (Nat.zero_le dayOfYear)

theorem lt_monthStart_monthOf {year : ℤ} {dayOfYear : ℕ} (h : dayOfYear < yearLength year) :
    dayOfYear < monthStart year (monthOf year dayOfYear) +
      monthLength year (monthOf year dayOfYear) := by
  change dayOfYear < monthStart year (monthOf year dayOfYear + 1)
  rcases (Nat.lt_succ_iff.1 (monthOf_lt year dayOfYear)).lt_or_eq with hlt | hlast
  · exact not_le.1 (Nat.findGreatest_is_greatest
      (P := fun month => monthStart year month ≤ dayOfYear) (Nat.lt_succ_self _) hlt)
  · rw [hlast]
    rw [← monthStart_twelve] at h
    exact_mod_cast h

@[ext] structure Date where
  year : ℤ
  month : ℕ
  day : ℕ
  month_lt : month < 12
  day_lt : day < monthLength year month
deriving DecidableEq

namespace Date

def toDay (date : Date) : ℤ := yearStart date.year + (monthStart date.year date.month + date.day : ℕ)

def dayOfYear (day : ℤ) : ℕ := (day - yearStart (yearOf day)).toNat

theorem yearStart_add_dayOfYear (day : ℤ) : yearStart (yearOf day) + dayOfYear day = day := by
  have hle := yearStart_yearOf_le day
  rw [dayOfYear]
  omega

theorem dayOfYear_lt (day : ℤ) : dayOfYear day < yearLength (yearOf day) := by
  have hlt := lt_yearStart_yearOf day
  have hday := yearStart_add_dayOfYear day
  omega

def ofDay (day : ℤ) : Date where
  year := yearOf day
  month := monthOf (yearOf day) (dayOfYear day)
  day := dayOfYear day - monthStart (yearOf day) (monthOf (yearOf day) (dayOfYear day))
  month_lt := monthOf_lt _ _
  day_lt := by
    have hle := monthStart_monthOf_le (yearOf day) (dayOfYear day)
    have hlt := lt_monthStart_monthOf (dayOfYear_lt day)
    omega

theorem toDay_ofDay (day : ℤ) : (ofDay day).toDay = day := by
  have hle := monthStart_monthOf_le (yearOf day) (dayOfYear day)
  simp only [toDay, ofDay, Nat.add_sub_cancel' hle]
  exact yearStart_add_dayOfYear day

instance : LT Date := ⟨fun a b => a.year < b.year ∨ a.year = b.year ∧
  (a.month < b.month ∨ a.month = b.month ∧ a.day < b.day)⟩

theorem dayOfYear_lt_yearLength (date : Date) :
    ((monthStart date.year date.month + date.day : ℕ) : ℤ) < yearLength date.year := by
  have hmonth := monthStart_mono date.year (Nat.succ_le_of_lt date.month_lt)
  have hday := date.day_lt
  rw [← monthStart_twelve]
  rw [Nat.succ_eq_add_one, monthStart] at hmonth
  exact_mod_cast (by omega)

theorem toDay_lt_toDay (a b : Date) : a.toDay < b.toDay ↔ a < b := by
  have hyear := years.position_lt_iff (i := a.year) (j := b.year) (Int.natCast_nonneg _)
    a.dayOfYear_lt_yearLength (Int.natCast_nonneg _) b.dayOfYear_lt_yearLength
  refine hyear.trans (or_congr_right (and_congr_right fun he => ?_))
  obtain ⟨year, month, day, _, hday⟩ := b
  obtain rfl : a.year = year := he
  rw [Int.ofNat_lt]
  exact (months a.year).position_lt_iff (Nat.zero_le _) a.day_lt (Nat.zero_le _) hday

theorem toDay_inj {a b : Date} : a.toDay = b.toDay ↔ a = b := by
  refine ⟨fun h => ?_, congrArg toDay⟩
  have hab : ¬ a < b := fun hlt => h.not_lt ((toDay_lt_toDay a b).2 hlt)
  have hba : ¬ b < a := fun hlt => h.not_gt ((toDay_lt_toDay b a).2 hlt)
  change ¬ (a.year < b.year ∨ _ ∧ (_ < _ ∨ _ ∧ _ < _)) at hab
  change ¬ (b.year < a.year ∨ _ ∧ (_ < _ ∨ _ ∧ _ < _)) at hba
  ext <;> omega

end Date

structure DateTime where
  date : Date
  hour : ℕ
  minute : ℕ
  second : ℕ
  hour_lt : hour < 24
  minute_lt : minute < 60
  second_lt : second < 60
deriving DecidableEq

namespace DateTime

def toSecond (t : DateTime) : ℤ :=
  86400 * t.date.toDay + (3600 * t.hour + (60 * t.minute + t.second) : ℕ)

def ofSecond (second : ℤ) : DateTime where
  date := .ofDay (second / 86400)
  hour := (second % 86400).toNat / 3600
  minute := (second % 86400).toNat % 3600 / 60
  second := (second % 86400).toNat % 60
  hour_lt := by omega
  minute_lt := by omega
  second_lt := by omega

theorem toSecond_ofSecond (second : ℤ) : (ofSecond second).toSecond = second := by
  simp only [toSecond, ofSecond, Date.toDay_ofDay]
  omega

instance : LT DateTime := ⟨fun a b => a.date < b.date ∨ a.date = b.date ∧
  (a.hour < b.hour ∨ a.hour = b.hour ∧
    (a.minute < b.minute ∨ a.minute = b.minute ∧ a.second < b.second))⟩

theorem toSecond_lt_toSecond (a b : DateTime) : a.toSecond < b.toSecond ↔ a < b := by
  change _ ↔ a.date < b.date ∨ a.date = b.date ∧ _
  have hhour := a.hour_lt
  have hminute := a.minute_lt
  have hsecond := a.second_lt
  have hhour' := b.hour_lt
  have hminute' := b.minute_lt
  have hsecond' := b.second_lt
  rw [← Date.toDay_lt_toDay, ← Date.toDay_inj, toSecond, toSecond]
  constructor
  · intro h
    omega
  · intro h
    omega

/-- Instants are in the order of their dates and times. -/
theorem ofSecond_lt_ofSecond (s t : ℤ) : ofSecond s < ofSecond t ↔ s < t := by
  rw [← toSecond_lt_toSecond, toSecond_ofSecond, toSecond_ofSecond]

end DateTime

end Calendar
