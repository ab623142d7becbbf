import Mathlib.Data.List.Lex
import Zynk.Lib.Text

/-!
# Numbers of a fixed width

`padded width n` is `n` as `format!` writes it with leading zeros. Numbers that fit in the width
are ordered as their texts are, character by character (`before_padded`), and so are lists of such
numbers with separators behind them (`before_fields`).
-/

namespace Text

/-- `{n:0width}` of a natural number. -/
def padded (width n : ℕ) : Text :=
  List.replicate (width - (decimal n).length) '0' ++ decimal n

/-- Each number in its width, with the separator behind it. -/
def fields (layout : List (ℕ × Char)) (numbers : List ℕ) : Text :=
  (layout.zip numbers).flatMap fun field ↦ padded field.1.1 field.2 ++ [field.1.2]

theorem decimal_eq (n : ℕ) :
    decimal n = (if n < 10 then [] else decimal (n / 10)) ++ [Nat.digitChar (n % 10)] := by
  rw [decimal, Nat.toDigits_eq_if (by omega)]
  split_ifs with h
  · rw [Nat.mod_eq_of_lt h, List.nil_append]
  · rfl

/-- One digit is split off at the end. -/
theorem padded_succ (width n : ℕ) (hwidth : 1 ≤ width) :
    padded (width + 1) n = padded width (n / 10) ++ [Nat.digitChar (n % 10)] := by
  by_cases h : n < 10
  · have hzero : n / 10 = 0 := by omega
    rw [padded, padded, decimal_eq n, if_pos h, hzero, decimal_eq 0]
    obtain ⟨w, rfl⟩ := Nat.exists_eq_add_of_le' hwidth
    simp [List.replicate_succ']
  · rw [padded, padded, decimal_eq n, if_neg h, List.length_append, List.length_singleton,
      Nat.add_sub_add_right, List.append_assoc]

theorem padded_one {n : ℕ} (h : n < 10) : padded 1 n = [Nat.digitChar (n % 10)] := by
  rw [padded, decimal_eq, if_pos h]
  rfl

theorem length_padded {width n : ℕ} (hwidth : 1 ≤ width) (h : n < 10 ^ width) :
    (padded width n).length = width := by
  induction width, hwidth using Nat.le_induction generalizing n with
  | base => rw [padded_one (by omega), List.length_singleton]
  | succ width hwidth ih =>
    rw [pow_succ] at h
    rw [padded_succ width n hwidth, List.length_append, ih (by omega), List.length_singleton]

/-! ## Order -/

/-- The order of texts by their characters, which is that of their bytes. -/
def Before : Text → Text → Prop :=
  List.Lex fun c d ↦ c.toNat < d.toNat

theorem toNat_digitChar_lt {a b : ℕ} (h : a < b) (hb : b < 10) :
    (Nat.digitChar a).toNat < (Nat.digitChar b).toNat := by
  rw [Nat.toNat_digitChar_of_lt_ten (by omega), Nat.toNat_digitChar_of_lt_ten hb]
  omega

theorem Before.append_left (s : Text) {a b : Text} (h : Before a b) :
    Before (s ++ a) (s ++ b) := by
  induction s with
  | nil => exact h
  | cons c s ih => exact .cons ih

theorem Before.append {a b : Text} (h : Before a b) (hlength : a.length = b.length) (s t : Text) :
    Before (a ++ s) (b ++ t) := by
  induction h with
  | nil => cases hlength
  | cons _ ih => exact .cons (ih (Nat.succ.inj hlength))
  | rel h => exact .rel h

/-- Of two numbers that fit the smaller one has the smaller text. -/
theorem before_padded {width n m : ℕ} (hwidth : 1 ≤ width) (hm : m < 10 ^ width) (h : n < m) :
    Before (padded width n) (padded width m) := by
  induction width, hwidth using Nat.le_induction generalizing n m with
  | base =>
    rw [padded_one (by omega), padded_one (by omega)]
    exact .rel (toNat_digitChar_lt (by omega) (by omega))
  | succ width hwidth ih =>
    rw [pow_succ] at hm
    rw [padded_succ width n hwidth, padded_succ width m hwidth]
    by_cases hfront : n / 10 < m / 10
    · refine (ih (by omega) hfront).append ?_ _ _
      rw [length_padded hwidth (by omega), length_padded hwidth (by omega)]
    · have hsame : n / 10 = m / 10 := by omega
      have hdigit : n % 10 < m % 10 := by omega
      rw [hsame]
      exact Before.append_left _ (.rel (toNat_digitChar_lt hdigit (Nat.mod_lt m (by decide))))

/-- The numbers fit in the widths of the layout. -/
def Fit (layout : List (ℕ × Char)) (numbers : List ℕ) : Prop :=
  List.Forall₂ (fun field n ↦ 1 ≤ field.1 ∧ n < 10 ^ field.1) layout numbers

/-- Lists of numbers are ordered as their texts are. -/
theorem before_fields {layout : List (ℕ × Char)} {ns ms : List ℕ} (h : List.Lex (· < ·) ns ms)
    (hns : Fit layout ns) (hms : Fit layout ms) :
    Before (fields layout ns) (fields layout ms) := by
  induction h generalizing layout with
  | nil => cases hns; cases hms
  | cons h ih =>
    rcases hns with _ | ⟨hn, hns⟩
    rcases hms with _ | ⟨-, hms⟩
    exact Before.append_left _ (ih hns hms)
  | rel h =>
    rcases hns with _ | ⟨⟨hwidth, hn⟩, hns⟩
    rcases hms with _ | ⟨⟨-, hm⟩, hms⟩
    have hbefore := (before_padded hwidth hm h).append
      (by rw [length_padded hwidth hn, length_padded hwidth hm])
    simpa only [fields, List.zip_cons_cons, List.flatMap_cons, List.append_assoc] using
      hbefore _ _

end Text
