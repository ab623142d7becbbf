import Mathlib.Algebra.Group.Int.Defs
import Mathlib.Algebra.Group.Nat.Defs
import Mathlib.Data.Nat.Basic

/-!
# Checked arithmetic

A function of unsigned machine integers that returns an `Option` : it has a value, it returns
`None`, or an operation of it panics. The values are natural numbers below `2 ^ w`, and each
operation is given the width it is made in. `add_of_lt` and its siblings say when an operation
goes through. The namespace `CheckedInt` is the same for integers of 64 bits with a sign.
-/

namespace CheckedNat

/-- Why there is no value. -/
inductive Exit where
  | none
  | overflow
  | divisionByZero
  deriving DecidableEq, Repr

variable {α β : Type} {w a b : ℕ}

@[simp] theorem ok_bind (x : α) (f : α → Except Exit β) : (Except.ok x >>= f) = f x :=
  rfl

@[simp] theorem error_bind (exit : Exit) (f : α → Except Exit β) :
    (Except.error exit >>= f) = Except.error exit :=
  rfl

/-! ## Operators, which panic -/

def add (w a b : ℕ) : Except Exit ℕ :=
  if a + b < 2 ^ w then .ok (a + b) else .error .overflow

def sub (a b : ℕ) : Except Exit ℕ :=
  if b ≤ a then .ok (a - b) else .error .overflow

def mul (w a b : ℕ) : Except Exit ℕ :=
  if a * b < 2 ^ w then .ok (a * b) else .error .overflow

def div (a b : ℕ) : Except Exit ℕ :=
  if b = 0 then .error .divisionByZero else .ok (a / b)

/-- `as` a type of `w` bits. -/
def truncate (w a : ℕ) : ℕ :=
  a % 2 ^ w

theorem add_of_lt (h : a + b < 2 ^ w) : add w a b = .ok (a + b) :=
  if_pos h

theorem add_of_le (h : 2 ^ w ≤ a + b) : add w a b = .error .overflow :=
  if_neg (Nat.not_lt.2 h)

theorem sub_of_le (h : b ≤ a) : sub a b = .ok (a - b) :=
  if_pos h

theorem mul_of_lt (h : a * b < 2 ^ w) : mul w a b = .ok (a * b) :=
  if_pos h

theorem div_of_pos (h : 0 < b) : div a b = .ok (a / b) :=
  if_neg (Nat.pos_iff_ne_zero.1 h)

theorem truncate_of_lt (h : a < 2 ^ w) : truncate w a = a :=
  Nat.mod_eq_of_lt h

/-! ## Checked and saturating operations -/

/-- `checked_sub` and `?` : `None` where there is no difference. -/
def subOrNone (a b : ℕ) : Except Exit ℕ :=
  if b ≤ a then .ok (a - b) else .error .none

/-- `checked_add` and `?` : `None` where the sum does not fit. -/
def addOrNone (w a b : ℕ) : Except Exit ℕ :=
  if a + b < 2 ^ w then .ok (a + b) else .error .none

def saturatingMul (w a b : ℕ) : ℕ :=
  min (a * b) (2 ^ w - 1)

theorem subOrNone_of_le (h : b ≤ a) : subOrNone a b = .ok (a - b) :=
  if_pos h

theorem subOrNone_of_lt (h : a < b) : subOrNone a b = .error .none :=
  if_neg (Nat.not_le.2 h)

theorem addOrNone_of_lt (h : a + b < 2 ^ w) : addOrNone w a b = .ok (a + b) :=
  if_pos h

end CheckedNat

namespace CheckedInt

open CheckedNat (Exit)

variable {a b : ℤ}

/-- A result that has to be an `i64`. -/
def fit (a : ℤ) : Except Exit ℤ :=
  if -2 ^ 63 ≤ a ∧ a < 2 ^ 63 then .ok a else .error .overflow

def add (a b : ℤ) : Except Exit ℤ :=
  fit (a + b)

def sub (a b : ℤ) : Except Exit ℤ :=
  fit (a - b)

def mul (a b : ℤ) : Except Exit ℤ :=
  fit (a * b)

/-- `/`, which drops the fraction. -/
def div (a b : ℤ) : Except Exit ℤ :=
  if b = 0 then .error .divisionByZero else fit (a.tdiv b)

/-- `%`, which panics where `/` does. -/
def rem (a b : ℤ) : Except Exit ℤ :=
  (div a b).map fun _ ↦ a.tmod b

/-- `div_euclid`, whose remainder is not negative. -/
def divEuclid (a b : ℤ) : Except Exit ℤ :=
  if b = 0 then .error .divisionByZero else fit (a / b)

def remEuclid (a b : ℤ) : Except Exit ℤ :=
  (divEuclid a b).map fun _ ↦ a % b

/-- `as` an unsigned type of `w` bits. -/
def truncate (w : ℕ) (a : ℤ) : ℕ :=
  (a % 2 ^ w).toNat

theorem fit_of_nonneg (hnonneg : 0 ≤ a) (h : a < 2 ^ 63) : fit a = .ok a :=
  if_pos ⟨by omega, h⟩

theorem add_of_nonneg (hnonneg : 0 ≤ a + b) (h : a + b < 2 ^ 63) : add a b = .ok (a + b) :=
  fit_of_nonneg hnonneg h

theorem sub_of_nonneg (hnonneg : 0 ≤ a - b) (h : a - b < 2 ^ 63) : sub a b = .ok (a - b) :=
  fit_of_nonneg hnonneg h

theorem mul_of_nonneg (hnonneg : 0 ≤ a * b) (h : a * b < 2 ^ 63) : mul a b = .ok (a * b) :=
  fit_of_nonneg hnonneg h

theorem divEuclid_of_nonneg (ha : 0 ≤ a) (h : a < 2 ^ 63) (hb : 0 < b) :
    divEuclid a b = .ok (a / b) := by
  rw [divEuclid, if_neg (by omega), fit_of_nonneg (Int.ediv_nonneg ha (by omega))
    (Int.lt_of_le_of_lt (Int.ediv_le_self b ha) h)]

theorem remEuclid_of_nonneg (ha : 0 ≤ a) (h : a < 2 ^ 63) (hb : 0 < b) :
    remEuclid a b = .ok (a % b) := by
  rw [remEuclid, divEuclid_of_nonneg ha h hb]
  rfl

theorem div_of_nonneg (ha : 0 ≤ a) (h : a < 2 ^ 63) (hb : 0 < b) :
    div a b = .ok (a / b) := by
  rw [div, Int.tdiv_eq_ediv_of_nonneg ha]
  exact divEuclid_of_nonneg ha h hb

theorem rem_of_nonneg (ha : 0 ≤ a) (h : a < 2 ^ 63) (hb : 0 < b) :
    rem a b = .ok (a % b) := by
  rw [rem, div_of_nonneg ha h hb, Int.tmod_eq_emod_of_nonneg ha]
  rfl

theorem truncate_of_nonneg {w : ℕ} (hnonneg : 0 ≤ a) (h : a < 2 ^ w) :
    truncate w a = a.toNat := by
  rw [truncate, Int.emod_eq_of_lt hnonneg h]

end CheckedInt
