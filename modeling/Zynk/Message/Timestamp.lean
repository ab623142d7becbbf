import Zynk.Lib.Calendar
import Zynk.Lib.Checked
import Zynk.Lib.Padded

/-!
# Timestamps

`message.rs` writes a count of seconds since 1970 as an RFC 3339 text, with the civil-from-days
formula for the date : eras of 400 years, the year counted from March. The formula is compared with
the calendar's own rules (`Zynk.rfc3339Utc_denotes`), and later times have later texts.
-/

namespace Zynk

open CheckedNat (Exit)

open CheckedInt

/-- `{n:0width}` of a signed number, whose sign is inside the width. -/
def paddedInt (width : ℕ) (n : ℤ) : Text :=
  if n < 0 then '-' :: Text.padded (width - 1) n.natAbs else Text.padded width n.toNat

/-- Year, month and day of a count of days since 1970-01-01. -/
def civilFromDays (days : ℤ) : Except Exit (ℤ × ℕ × ℕ) := do
  let z ← add days 719468
  let era ← divEuclid z 146097
  let doe ← remEuclid z 146097
  let yoe ← div (← sub (← add (← sub doe (← div doe 1460)) (← div doe 36524))
    (← div doe 146096)) 365
  let y ← add yoe (← mul era 400)
  let doy ← sub doe (← sub (← add (← mul 365 yoe) (← div yoe 4)) (← div yoe 100))
  let mp ← div (← add (← mul 5 doy) 2) 153
  let d := truncate 32 (← add (← sub doy (← div (← add (← mul 153 mp) 2) 5)) 1)
  let month ← (if mp < 10 then add mp 3 else sub mp 9)
  let m := truncate 32 month
  let year ← (if m ≤ 2 then add y 1 else .ok y)
  return (year, m, d)

def rfc3339Utc (unixSecs : ℤ) : Except Exit Text := do
  let secs := max unixSecs 0
  let days ← div secs 86400
  let rest ← rem secs 86400
  let hour ← div rest 3600
  let minute ← div (← rem rest 3600) 60
  let second ← rem rest 60
  let (year, month, day) ← civilFromDays days
  return paddedInt 4 year ++ ['-'] ++ Text.padded 2 month ++ ['-'] ++ Text.padded 2 day ++ ['T'] ++
    paddedInt 2 hour ++ [':'] ++ paddedInt 2 minute ++ [':'] ++ paddedInt 2 second ++ ['Z']

/-! ## The days of an era -/

/-- The century of the era, the leap cycle of the century, the year of the cycle and the day of the
year, which starts in March. -/
structure EraDay where
  century : ℕ
  cycle : ℕ
  year : ℕ
  day : ℕ
  century_le : century ≤ 3
  cycle_le : cycle ≤ 24
  year_le : year ≤ 3
  day_le : day ≤ 364 ∨ day = 365 ∧ year = 3 ∧ (cycle ≤ 23 ∨ century = 3)

namespace EraDay

def days (e : EraDay) : ℕ :=
  36524 * e.century + 1461 * e.cycle + 365 * e.year + e.day

def yearOfEra (e : EraDay) : ℕ :=
  100 * e.century + 4 * e.cycle + e.year

theorem exists_of_lt {doe : ℕ} (h : doe < 146097) : ∃ e : EraDay, e.days = doe := by
  obtain ⟨century, rest, hcentury, hrest, hdoe⟩ : ∃ century rest, century ≤ 3 ∧
      (rest < 36524 ∨ rest = 36524 ∧ century = 3) ∧ doe = 36524 * century + rest :=
    ⟨min (doe / 36524) 3, doe - 36524 * min (doe / 36524) 3, by omega, by omega, by omega⟩
  obtain ⟨year, day, hyear, hday, hcycle⟩ : ∃ year day, year ≤ 3 ∧
      (day ≤ 364 ∨ day = 365 ∧ year = 3) ∧ rest % 1461 = 365 * year + day :=
    ⟨min (rest % 1461 / 365) 3, rest % 1461 - 365 * min (rest % 1461 / 365) 3, by omega, by omega,
      by omega⟩
  refine ⟨⟨century, rest / 1461, year, day, hcentury, by omega, hyear, by omega⟩, ?_⟩
  simp only [days]
  omega

/-- The formula takes the leap days out of the count. -/
theorem yearOfEra_eq (e : EraDay) :
    (e.days - e.days / 1460 + e.days / 36524 - e.days / 146096) / 365 = e.yearOfEra := by
  have hcentury := e.century_le
  have hcycle := e.cycle_le
  have hyear := e.year_le
  have hday := e.day_le
  have hcenturies : e.days / 36524 = e.century + e.days / 146096 := by
    have hrest : 1461 * e.cycle + 365 * e.year + e.day ≤ 36523 ∨
        1461 * e.cycle + 365 * e.year + e.day = 36524 ∧ e.century = 3 := by omega
    unfold days
    rcases hrest with hrest | ⟨hrest, hlast⟩ <;> omega
  have hleap : e.days / 1460 = 25 * e.century + e.cycle ∧ e.day ≤ 364 ∨
      e.days / 1460 = 25 * e.century + e.cycle + 1 ∧ 1 ≤ e.day := by
    unfold days
    omega
  have hdays : e.days = 36524 * e.century + 1461 * e.cycle + 365 * e.year + e.day := rfl
  rw [hcenturies]
  unfold yearOfEra
  rcases hleap with ⟨hleap, hday⟩ | ⟨hleap, hday⟩ <;> rw [hleap, hdays] <;> omega

theorem days_eq (e : EraDay) :
    e.days = 365 * e.yearOfEra + e.yearOfEra / 4 - e.yearOfEra / 100 + e.day := by
  have hcentury := e.century_le
  have hcycle := e.cycle_le
  have hyear := e.year_le
  unfold days yearOfEra
  omega

/-- The months that are over, from March on. -/
def marchMonth (e : EraDay) : ℕ :=
  (5 * e.day + 2) / 153

def month (e : EraDay) : ℕ :=
  if e.marchMonth < 10 then e.marchMonth + 3 else e.marchMonth - 9

def dayOfMonth (e : EraDay) : ℕ :=
  e.day - (153 * e.marchMonth + 2) / 5 + 1

def yearOf (e : EraDay) (era : ℕ) : ℕ :=
  400 * era + e.yearOfEra + if e.month ≤ 2 then 1 else 0

theorem marchMonth_le (e : EraDay) : e.marchMonth ≤ 11 := by
  have hday := e.day_le
  unfold marchMonth
  omega

theorem month_le_two_iff (e : EraDay) : e.month ≤ 2 ↔ 10 ≤ e.marchMonth := by
  have hmonth := e.marchMonth_le
  unfold month
  split_ifs <;> omega

theorem dayOfMonth_le (e : EraDay) (era : ℕ) :
    e.dayOfMonth ≤ Calendar.monthLength (e.yearOf era) e.month := by
  have hday := e.day_le
  have hmonth := e.marchMonth_le
  have hcentury := e.century_le
  have hcycle := e.cycle_le
  have hyear := e.year_le
  have hfebruary : e.day - 336 ≤ Calendar.monthLength (400 * era + e.yearOfEra + 1) 2 := by
    rw [Calendar.monthLength]
    split_ifs with hleap
    · omega
    · unfold Calendar.IsLeap yearOfEra at hleap
      omega
  have hspan : 153 * e.marchMonth ≤ 5 * e.day + 2 ∧ 5 * e.day + 2 < 153 * e.marchMonth + 153 := by
    unfold marchMonth
    omega
  unfold dayOfMonth month yearOf month
  generalize e.marchMonth = month at hmonth hspan
  interval_cases month
  case «11» => exact le_trans (by omega) hfebruary
  all_goals
    simp only [Calendar.monthLength, Nat.reduceLT, Nat.reduceAdd, Nat.reduceSub, ↓reduceIte]
    omega

def toDate (e : EraDay) (era : ℕ) : Calendar.Date where
  year := e.yearOf era
  month := e.month
  day := e.dayOfMonth
  month_pos := by
    have hmonth := e.marchMonth_le
    unfold month
    split_ifs <;> omega
  month_le := by
    have hmonth := e.marchMonth_le
    unfold month
    split_ifs <;> omega
  day_pos := Nat.succ_pos _
  day_le := e.dayOfMonth_le era

/-- The days from the first of January to the first of a month, for a year that starts in March. -/
theorem sum_monthLength_month (e : EraDay) (era : ℕ) :
    ∑ m ∈ Finset.Ico 1 e.month, Calendar.monthLength (e.yearOf era) m =
      if e.month ≤ 2 then (153 * e.marchMonth + 2) / 5 - 306
      else (if Calendar.IsLeap (e.yearOf era) then 60 else 59) + (153 * e.marchMonth + 2) / 5 := by
  have hle := e.marchMonth_le
  by_cases hmonth : e.month ≤ 2
  · rw [if_pos hmonth]
    rw [e.month_le_two_iff] at hmonth
    unfold month
    generalize e.marchMonth = month at hmonth hle
    interval_cases month <;> simp [Calendar.monthLength]
  · have hmonths : e.month ≤ 12 := (e.toDate era).month_le
    rw [if_neg hmonth, Calendar.sum_monthLength _ (by omega) (by omega)]
    rw [e.month_le_two_iff] at hmonth
    have hshift : e.month = e.marchMonth + 3 := if_pos (by omega)
    rw [hshift, Nat.add_sub_cancel]

/-- The days of the years that are over, with their leap days. -/
theorem leapDays_eq (e : EraDay) (era : ℕ) :
    365 * (400 * era + e.yearOfEra) + (400 * era + e.yearOfEra) / 4 -
        (400 * era + e.yearOfEra) / 100 + (400 * era + e.yearOfEra) / 400 + e.day =
      146097 * era + e.days := by
  have hcentury := e.century_le
  have hcycle := e.cycle_le
  have hyear := e.year_le
  have hquads : (400 * era + e.yearOfEra) / 4 = 100 * era + 25 * e.century + e.cycle := by
    unfold yearOfEra
    omega
  have hcenturies : (400 * era + e.yearOfEra) / 100 = 4 * era + e.century := by
    unfold yearOfEra
    omega
  have heras : (400 * era + e.yearOfEra) / 400 = era := by
    unfold yearOfEra
    omega
  rw [hquads, hcenturies, heras]
  unfold days yearOfEra
  omega

theorem daysSince_toDate (e : EraDay) {era : ℕ} (hera : 1970 ≤ e.yearOf era) :
    (e.toDate era).daysSince 1970 + 719468 = 146097 * era + e.days := by
  have hspan : (153 * e.marchMonth + 2) / 5 ≤ e.day := by
    unfold marchMonth
    omega
  have hclosed := e.leapDays_eq era
  have hday : (e.toDate era).dayOfYear =
      ∑ m ∈ Finset.Ico 1 e.month, Calendar.monthLength (e.yearOf era) m + (e.dayOfMonth - 1) := rfl
  have hyears : (e.toDate era).daysSince 1970 =
      ∑ y ∈ Finset.Ico 1970 (e.yearOf era), Calendar.yearLength y + (e.toDate era).dayOfYear := rfl
  rw [hyears, hday, sum_monthLength_month, dayOfMonth, Nat.add_sub_cancel]
  by_cases hmonth : e.month ≤ 2
  · have hsum := Calendar.sum_yearLength (by decide) hera
    rw [if_pos hmonth]
    rw [yearOf, if_pos hmonth] at hsum ⊢
    rw [@Nat.add_sub_cancel (400 * era + e.yearOfEra) 1] at hsum
    rw [e.month_le_two_iff] at hmonth
    generalize 365 * (400 * era + e.yearOfEra) + _ - _ + _ = total at hsum hclosed
    omega
  · -- Up to the end of the year, whose own leap day is one of the days before the month.
    have hsum := Calendar.sum_yearLength (by decide) (Nat.le_succ_of_le hera)
    rw [Nat.succ_eq_add_one, Finset.sum_Ico_succ_top hera, Calendar.yearLength] at hsum
    rw [if_neg hmonth]
    rw [yearOf, if_neg hmonth, Nat.add_zero] at hsum ⊢
    rw [@Nat.add_sub_cancel (400 * era + e.yearOfEra) 1] at hsum
    generalize 365 * (400 * era + e.yearOfEra) + _ - _ + _ = total at hsum hclosed
    split_ifs at hsum ⊢ <;> omega

end EraDay

/-! ## The formula -/

theorem EraDay.days_lt (e : EraDay) : e.days < 146097 := by
  have hcentury := e.century_le
  have hcycle := e.cycle_le
  have hyear := e.year_le
  have hday := e.day_le
  unfold days
  omega

theorem EraDay.yearOfEra_lt (e : EraDay) : e.yearOfEra < 400 := by
  have hcentury := e.century_le
  have hcycle := e.cycle_le
  have hyear := e.year_le
  unfold yearOfEra
  omega

theorem EraDay.le_yearOf {e : EraDay} {era : ℕ} (h : 719468 ≤ 146097 * era + e.days) :
    1970 ≤ e.yearOf era := by
  have hdays := e.days_eq
  have hlt := e.days_lt
  have hyear := e.yearOfEra_lt
  have hlast : e.day ≤ 365 := by
    have hday := e.day_le
    omega
  have hmonth : 306 ≤ e.day → e.month ≤ 2 := by
    rw [e.month_le_two_iff, marchMonth]
    omega
  have hyear' : 1969 ≤ 400 * era + e.yearOfEra := by
    have hera : 4 ≤ era := by omega
    omega
  unfold yearOf
  rcases Nat.lt_or_ge 1969 (400 * era + e.yearOfEra) with hafter | hle
  · omega
  · have hera : era = 4 := by omega
    have heq : e.yearOfEra = 369 := by omega
    rw [heq] at hdays
    rw [if_pos (hmonth (by omega))]
    omega

theorem civilFromDays_toDate {days era : ℕ} {e : EraDay} (hsize : days < 2 ^ 62)
    (h : days + 719468 = 146097 * era + e.days) :
    civilFromDays days = .ok ((e.toDate era).year, (e.toDate era).month, (e.toDate era).day) := by
  have hdays := e.days_lt
  have hyear := e.yearOfEra_lt
  have hlast : e.day ≤ 365 := by
    have hday := e.day_le
    omega
  have hmonth := e.marchMonth_le
  have hyoe := e.yearOfEra_eq
  have hdoy := e.days_eq
  have hz : (days + 719468 : ℤ) = 146097 * era + e.days := by omega
  have hera : (146097 * era + e.days : ℤ) / 146097 = era := by omega
  have hdoe : (146097 * era + e.days : ℤ) % 146097 = e.days := by omega
  unfold civilFromDays
  rw [add_of_nonneg (by omega) (by omega), CheckedNat.ok_bind, hz,
    divEuclid_of_nonneg (by omega) (by omega) (by omega), CheckedNat.ok_bind, hera,
    remEuclid_of_nonneg (by omega) (by omega) (by omega), CheckedNat.ok_bind, hdoe]
  clear hz hera hdoe
  rw [div_of_nonneg (by omega) (by omega) (by omega), CheckedNat.ok_bind,
    sub_of_nonneg (by omega) (by omega), CheckedNat.ok_bind,
    div_of_nonneg (by omega) (by omega) (by omega), CheckedNat.ok_bind,
    add_of_nonneg (by omega) (by omega), CheckedNat.ok_bind,
    div_of_nonneg (by omega) (by omega) (by omega), CheckedNat.ok_bind,
    sub_of_nonneg (by omega) (by omega), CheckedNat.ok_bind,
    div_of_nonneg (by omega) (by omega) (by omega), CheckedNat.ok_bind]
  have hyoe' : (e.days - e.days / 1460 + e.days / 36524 - e.days / 146096 : ℤ) / 365 =
      e.yearOfEra := by omega
  rw [hyoe']
  clear hyoe hyoe'
  rw [mul_of_nonneg (by omega) (by omega), CheckedNat.ok_bind,
    add_of_nonneg (by omega) (by omega), CheckedNat.ok_bind,
    mul_of_nonneg (by omega) (by omega), CheckedNat.ok_bind,
    div_of_nonneg (by omega) (by omega) (by omega), CheckedNat.ok_bind,
    add_of_nonneg (by omega) (by omega), CheckedNat.ok_bind,
    div_of_nonneg (by omega) (by omega) (by omega), CheckedNat.ok_bind,
    sub_of_nonneg (by omega) (by omega), CheckedNat.ok_bind,
    sub_of_nonneg (by omega) (by omega), CheckedNat.ok_bind]
  have hdoy' : (e.days - (365 * e.yearOfEra + e.yearOfEra / 4 - e.yearOfEra / 100) : ℤ) =
      e.day := by omega
  rw [hdoy']
  clear hdoy hdoy'
  have hmp : ((5 * e.day + 2) / 153 : ℤ) = e.marchMonth := by
    unfold EraDay.marchMonth
    omega
  have hspan : (153 * e.marchMonth + 2) / 5 ≤ e.day := by
    unfold EraDay.marchMonth
    omega
  rw [mul_of_nonneg (by omega) (by omega), CheckedNat.ok_bind,
    add_of_nonneg (by omega) (by omega), CheckedNat.ok_bind,
    div_of_nonneg (by omega) (by omega) (by omega), CheckedNat.ok_bind, hmp,
    mul_of_nonneg (by omega) (by omega), CheckedNat.ok_bind,
    add_of_nonneg (by omega) (by omega), CheckedNat.ok_bind,
    div_of_nonneg (by omega) (by omega) (by omega), CheckedNat.ok_bind,
    sub_of_nonneg (by omega) (by omega), CheckedNat.ok_bind,
    add_of_nonneg (by omega) (by omega), CheckedNat.ok_bind]
  have hm : (if (e.marchMonth : ℤ) < 10 then add e.marchMonth 3 else sub e.marchMonth 9) =
      .ok (e.month : ℤ) := by
    unfold EraDay.month
    split_ifs with hlt hlt' hlt'
    · rw [add_of_nonneg (by omega) (by omega), Nat.cast_add, Nat.cast_ofNat]
    · omega
    · omega
    · rw [sub_of_nonneg (by omega) (by omega), Nat.cast_sub (by omega), Nat.cast_ofNat]
  have hmonths : e.month ≤ 12 := (e.toDate era).month_le
  have hd : truncate 32 (e.day - (153 * e.marchMonth + 2) / 5 + 1) = e.dayOfMonth := by
    rw [truncate_of_nonneg (by omega) (by omega)]
    unfold EraDay.dayOfMonth
    omega
  have hm' : truncate 32 e.month = e.month := by
    rw [truncate_of_nonneg (by omega) (by omega), Int.toNat_natCast]
  have hy : (if e.month ≤ 2 then add (e.yearOfEra + era * 400) 1
      else .ok (e.yearOfEra + era * 400)) = .ok (e.yearOf era : ℤ) := by
    unfold EraDay.yearOf
    split_ifs
    · rw [add_of_nonneg (by omega) (by omega)]
      congr 1
      omega
    · congr 1
      omega
  rw [hm, CheckedNat.ok_bind, hm', hd]
  dsimp only
  rw [hy, CheckedNat.ok_bind]
  rfl

/-! ## The text -/

/-- The widths of the numbers and the characters behind them. -/
def layout : List (ℕ × Char) :=
  [(4, '-'), (2, '-'), (2, 'T'), (2, ':'), (2, ':'), (2, 'Z')]

def dateTimeText (c : Calendar.DateTime 1970) : Text :=
  Text.fields layout c.numbers

theorem paddedInt_natCast (width n : ℕ) : paddedInt width n = Text.padded width n := by
  rw [paddedInt, if_neg (by omega), Int.toNat_natCast]

theorem rfc3339Utc_dateTimeText {t : ℤ} (hnonneg : 0 ≤ t) (hsize : t < 2 ^ 63) :
    ∃ c : Calendar.DateTime 1970, c.seconds = t ∧ rfc3339Utc t = .ok (dateTimeText c) := by
  obtain ⟨secs, rfl⟩ := Int.eq_ofNat_of_zero_le hnonneg
  obtain ⟨e, he⟩ := EraDay.exists_of_lt
    (Nat.mod_lt (secs / 86400 + 719468) (by decide : 0 < 146097))
  have hdays : secs / 86400 + 719468 = 146097 * ((secs / 86400 + 719468) / 146097) + e.days := by
    omega
  have hcivil := civilFromDays_toDate (by omega) hdays
  generalize (secs / 86400 + 719468) / 146097 = era at hdays hcivil
  have hyear : 1970 ≤ (e.toDate era).year := EraDay.le_yearOf (by omega)
  have hsince := e.daysSince_toDate hyear
  refine ⟨⟨e.toDate era, secs % 86400 / 3600, secs % 86400 % 3600 / 60, secs % 86400 % 60, hyear,
    by omega, by omega, by omega⟩, ?_, ?_⟩
  · unfold Calendar.DateTime.seconds
    simp only
    omega
  · unfold rfc3339Utc
    dsimp only
    rw [Int.max_eq_left hnonneg, div_of_nonneg (by omega) (by omega) (by omega), CheckedNat.ok_bind,
      rem_of_nonneg (by omega) (by omega) (by omega), CheckedNat.ok_bind,
      div_of_nonneg (by omega) (by omega) (by omega), CheckedNat.ok_bind,
      rem_of_nonneg (by omega) (by omega) (by omega), CheckedNat.ok_bind,
      div_of_nonneg (by omega) (by omega) (by omega), CheckedNat.ok_bind,
      rem_of_nonneg (by omega) (by omega) (by omega), CheckedNat.ok_bind]
    have hhour : (secs % 86400 / 3600 : ℤ) = (secs % 86400 / 3600 : ℕ) := by omega
    have hminute : (secs % 86400 % 3600 / 60 : ℤ) = (secs % 86400 % 3600 / 60 : ℕ) := by omega
    have hsecond : (secs % 86400 % 60 : ℤ) = (secs % 86400 % 60 : ℕ) := by omega
    have hday : (secs / 86400 : ℤ) = (secs / 86400 : ℕ) := by omega
    rw [hhour, hminute, hsecond, hday, hcivil, CheckedNat.ok_bind]
    dsimp only
    rw [paddedInt_natCast, paddedInt_natCast, paddedInt_natCast, paddedInt_natCast]
    simp only [dateTimeText, Text.fields, layout, Calendar.DateTime.numbers, List.zip_cons_cons,
      List.zip_nil_right, List.flatMap_cons, List.flatMap_nil, List.append_assoc, List.append_nil]
    rfl

theorem fit_numbers {c : Calendar.DateTime 1970} (h : c.date.year ≤ 9999) :
    Text.Fit layout c.numbers := by
  have hmonth := c.date.month_le
  have hday := c.date.day_le
  have hlength := Calendar.monthLength_le c.date.year c.date.month
  have hhour := c.hour_lt
  have hminute := c.minute_lt
  have hsecond := c.second_lt
  simp only [Text.Fit, layout, Calendar.DateTime.numbers, List.forall₂_cons,
    List.forall₂_nil_left_iff, Nat.reduceLeDiff, Nat.reducePow, true_and, and_true]
  omega

/-- The text is the date and time of `t` in the proleptic Gregorian calendar, no operation on the
way overflows, and every later time up to the year 9999 has a later text. -/
theorem rfc3339Utc_denotes {t : ℤ} (hnonneg : 0 ≤ t) (hsize : t < 2 ^ 63) :
    ∃ c : Calendar.DateTime 1970, c.seconds = t ∧ rfc3339Utc t = .ok (dateTimeText c) ∧
      ∀ c' : Calendar.DateTime 1970, t < c'.seconds → c'.seconds < 2 ^ 63 → c'.date.year ≤ 9999 →
        rfc3339Utc c'.seconds = .ok (dateTimeText c') ∧
          Text.Before (dateTimeText c) (dateTimeText c') := by
  obtain ⟨c, hseconds, htext⟩ := rfc3339Utc_dateTimeText hnonneg hsize
  refine ⟨c, hseconds, htext, fun c' hlater hsize' hyear ↦ ?_⟩
  have htext' : rfc3339Utc c'.seconds = .ok (dateTimeText c') := by
    obtain ⟨d, hd, htext'⟩ := rfc3339Utc_dateTimeText (Int.natCast_nonneg c'.seconds) (by omega)
    rwa [Calendar.DateTime.eq_of_seconds_eq (Nat.cast_injective hd)] at htext'
  have hlex := Calendar.DateTime.lex_of_seconds_lt (by omega : c.seconds < c'.seconds)
  refine ⟨htext', Text.before_fields hlex (fit_numbers ?_) (fit_numbers hyear)⟩
  exact (Calendar.DateTime.year_le_of_lex hlex).trans hyear

/-- The last second of 1999. -/
theorem rfc3339Utc_denotes_1999 :
    ∃ c : Calendar.DateTime 1970, c.seconds = (946684799 : ℤ) ∧
      rfc3339Utc 946684799 = .ok (dateTimeText c) ∧
      ∀ c' : Calendar.DateTime 1970, (946684799 : ℤ) < c'.seconds → c'.seconds < 2 ^ 63 →
        c'.date.year ≤ 9999 → rfc3339Utc c'.seconds = .ok (dateTimeText c') ∧
          Text.Before (dateTimeText c) (dateTimeText c') :=
  rfc3339Utc_denotes (by norm_num) (by norm_num)

end Zynk
