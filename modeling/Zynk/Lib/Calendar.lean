import Mathlib.Algebra.BigOperators.Intervals
import Mathlib.Algebra.Order.BigOperators.Group.Finset
import Mathlib.Tactic.IntervalCases

/-!
# The Gregorian calendar

The proleptic Gregorian calendar by its own rules : which years are leap years, how long a month
is, and how many days there are from the first of January of one year to a date of a later one
(`Date.daysSince`). Dates in the order of the calendar have their numbers in that order
(`Date.daysSince_lt`), and so do times of the day on them (`DateTime.lex_of_seconds_lt`).
-/

namespace Calendar

open Finset

def IsLeap (year : ℕ) : Prop :=
  year % 4 = 0 ∧ (year % 100 ≠ 0 ∨ year % 400 = 0)

instance (year : ℕ) : Decidable (IsLeap year) :=
  inferInstanceAs (Decidable (_ ∧ _))

def yearLength (year : ℕ) : ℕ :=
  if IsLeap year then 366 else 365

def monthLength (year : ℕ) : ℕ → ℕ
  | 2 => if IsLeap year then 29 else 28
  | 4 => 30
  | 6 => 30
  | 9 => 30
  | 11 => 30
  | _ => 31

theorem monthLength_le (year month : ℕ) : monthLength year month ≤ 31 := by
  unfold monthLength
  split <;> (try split_ifs) <;> decide

@[ext]
structure Date where
  year : ℕ
  month : ℕ
  day : ℕ
  month_pos : 1 ≤ month
  month_le : month ≤ 12
  day_pos : 1 ≤ day
  day_le : day ≤ monthLength year month

/-- The days of the year that are over. -/
def Date.dayOfYear (d : Date) : ℕ :=
  ∑ month ∈ Ico 1 d.month, monthLength d.year month + (d.day - 1)

/-- From the first of January of the year `epoch`. -/
def Date.daysSince (epoch : ℕ) (d : Date) : ℕ :=
  ∑ year ∈ Ico epoch d.year, yearLength year + d.dayOfYear

/-! ## In closed form -/

/-- The days before a year, with a day for each leap year before it. -/
theorem sum_yearLength {epoch year : ℕ} (hpos : 1 ≤ epoch) (hle : epoch ≤ year) :
    ∑ y ∈ Ico epoch year, yearLength y +
        (365 * (epoch - 1) + (epoch - 1) / 4 - (epoch - 1) / 100 + (epoch - 1) / 400) =
      365 * (year - 1) + (year - 1) / 4 - (year - 1) / 100 + (year - 1) / 400 := by
  induction year, hle using Nat.le_induction with
  | base => simp
  | succ year hle ih =>
    rw [sum_Ico_succ_top hle, yearLength]
    split_ifs with hleap <;> unfold IsLeap at hleap <;> omega

/-- From March on the months are 153 days in five. -/
theorem sum_monthLength (year : ℕ) {month : ℕ} (hlow : 3 ≤ month) (hhigh : month ≤ 13) :
    ∑ m ∈ Ico 1 month, monthLength year m =
      (if IsLeap year then 60 else 59) + (153 * (month - 3) + 2) / 5 := by
  interval_cases month <;>
    simp only [sum_Ico_succ_top, Nat.reduceLeDiff, Ico_self, sum_empty, monthLength] <;>
    split_ifs <;> rfl

theorem sum_monthLength_year (year : ℕ) :
    ∑ m ∈ Ico 1 13, monthLength year m = yearLength year := by
  rw [sum_monthLength year (by omega) le_rfl, yearLength]
  split_ifs <;> rfl

/-! ## The order of dates -/

theorem sum_monthLength_mono (year : ℕ) {month month' : ℕ} (h : month < month')
    (hpos : 1 ≤ month) :
    ∑ m ∈ Ico 1 month, monthLength year m + monthLength year month ≤
      ∑ m ∈ Ico 1 month', monthLength year m := by
  rw [← sum_Ico_succ_top hpos]
  exact sum_le_sum_of_subset (Ico_subset_Ico_right h)

namespace Date

theorem dayOfYear_lt (d : Date) : d.dayOfYear < yearLength d.year := by
  have hle := d.day_le
  have hpos := d.day_pos
  have hmono := sum_monthLength_mono d.year (Nat.lt_succ_of_le d.month_le) d.month_pos
  rw [sum_monthLength_year] at hmono
  unfold dayOfYear
  omega

/-- The order of the calendar. -/
def Before (d d' : Date) : Prop :=
  d.year < d'.year ∨ d.year = d'.year ∧
    (d.month < d'.month ∨ d.month = d'.month ∧ d.day < d'.day)

theorem daysSince_lt {epoch : ℕ} {d d' : Date} (hepoch : epoch ≤ d.year) (h : d.Before d') :
    d.daysSince epoch < d'.daysSince epoch := by
  unfold daysSince
  rcases h with hyear | ⟨hyear, h⟩
  · have hsum : ∑ y ∈ Ico epoch d.year, yearLength y + yearLength d.year ≤
        ∑ y ∈ Ico epoch d'.year, yearLength y := by
      rw [← sum_Ico_succ_top hepoch]
      exact sum_le_sum_of_subset (Ico_subset_Ico_right hyear)
    have hlt := d.dayOfYear_lt
    omega
  · rw [hyear, dayOfYear, dayOfYear, hyear]
    have hpos := d.day_pos
    have hpos' := d'.day_pos
    rcases h with hmonth | ⟨hmonth, hday⟩
    · have hsum := sum_monthLength_mono d'.year hmonth d.month_pos
      have hle := d.day_le
      rw [hyear] at hle
      omega
    · rw [hmonth]
      omega

/-- Another date is before or after. -/
theorem before_or_before (d d' : Date) :
    d.Before d' ∨ d'.Before d ∨
      d.year = d'.year ∧ d.month = d'.month ∧ d.day = d'.day := by
  unfold Before
  omega

end Date

/-! ## Time of day -/

@[ext]
structure DateTime (epoch : ℕ) where
  date : Date
  hour : ℕ
  minute : ℕ
  second : ℕ
  epoch_le : epoch ≤ date.year
  hour_lt : hour < 24
  minute_lt : minute < 60
  second_lt : second < 60

namespace DateTime

variable {epoch : ℕ}

/-- From midnight on the first of January of the year `epoch`, in days without leap seconds. -/
def seconds (c : DateTime epoch) : ℕ :=
  86400 * c.date.daysSince epoch + 3600 * c.hour + 60 * c.minute + c.second

def numbers (c : DateTime epoch) : List ℕ :=
  [c.date.year, c.date.month, c.date.day, c.hour, c.minute, c.second]

/-- The later time has the later date, or the later hour of the same date, and so on. -/
theorem lex_of_seconds_lt {c c' : DateTime epoch} (h : c.seconds < c'.seconds) :
    List.Lex (· < ·) c.numbers c'.numbers := by
  have hhour := c.hour_lt
  have hminute := c.minute_lt
  have hsecond := c.second_lt
  have hhour' := c'.hour_lt
  have hminute' := c'.minute_lt
  have hsecond' := c'.second_lt
  unfold seconds at h
  unfold numbers
  rcases c.date.before_or_before c'.date with hbefore | hafter | ⟨hyear, hmonth, hday⟩
  · rcases hbefore with hyear | ⟨hyear, hmonth | ⟨hmonth, hday⟩⟩
    · exact .rel hyear
    · rw [hyear]
      exact .cons (.rel hmonth)
    · rw [hyear, hmonth]
      exact .cons (.cons (.rel hday))
  · have hdays := Date.daysSince_lt c'.epoch_le hafter
    omega
  · have hdays : c.date.daysSince epoch = c'.date.daysSince epoch := by
      rw [Date.daysSince, Date.daysSince, Date.dayOfYear, Date.dayOfYear, hyear, hmonth, hday]
    rw [hyear, hmonth, hday]
    rcases Nat.lt_trichotomy c.hour c'.hour with hlt | heq | hgt
    · exact .cons (.cons (.cons (.rel hlt)))
    · rw [heq]
      rcases Nat.lt_trichotomy c.minute c'.minute with hlt | heq' | hgt
      · exact .cons (.cons (.cons (.cons (.rel hlt))))
      · rw [heq']
        exact .cons (.cons (.cons (.cons (.cons (.rel (by omega))))))
      · omega
    · omega

theorem year_le_of_lex {c c' : DateTime epoch} (h : List.Lex (· < ·) c.numbers c'.numbers) :
    c.date.year ≤ c'.date.year := by
  unfold numbers at h
  generalize c.date.year = year at h ⊢
  generalize c'.date.year = year' at h ⊢
  cases h with
  | cons _ => exact le_rfl
  | rel h => exact h.le

theorem eq_of_seconds_eq {c c' : DateTime epoch} (h : c.seconds = c'.seconds) : c = c' := by
  have hhour := c.hour_lt
  have hminute := c.minute_lt
  have hsecond := c.second_lt
  have hhour' := c'.hour_lt
  have hminute' := c'.minute_lt
  have hsecond' := c'.second_lt
  unfold seconds at h
  rcases c.date.before_or_before c'.date with hbefore | hafter | ⟨hyear, hmonth, hday⟩
  · have hdays := Date.daysSince_lt c.epoch_le hbefore
    omega
  · have hdays := Date.daysSince_lt c'.epoch_le hafter
    omega
  · have hdate : c.date = c'.date := Date.ext hyear hmonth hday
    rw [hdate] at h
    exact DateTime.ext hdate (by omega) (by omega) (by omega)

end DateTime

end Calendar
