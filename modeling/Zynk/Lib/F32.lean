import Mathlib.Data.Int.Log
import Mathlib.Data.NNRat.Floor
import Mathlib.Data.NNRat.Lemmas

/-!
# Single-precision floating-point numbers

`F32` is a binary32 value : a NaN, an infinity, or a sign with a magnitude. The two zeros are
two values that compare equal, a NaN compares equal to nothing. A magnitude need not be one the
format has; the operations round their exact result to the nearest one that it has, ties to even.

`Regular` values are those on which comparing equal is being equal, the NaN apart, and a clamp
between positive bounds only gives such values (`clamp_regular`). A ratio that is not well above one
takes no more of an extent than there is (`toUInt16_round_mul_le`).
-/

/-- A binary32 value. -/
inductive F32 where
  | nan
  | infinite (neg : Bool)
  | finite (neg : Bool) (mag : ℚ≥0)
  deriving DecidableEq

namespace F32

/-- The number a sign and a magnitude denote. -/
def signed (neg : Bool) (mag : ℚ≥0) : ℚ :=
  if neg then -(mag : ℚ) else mag

/-! ## Rounding -/

/-- The exponent of the last place of a magnitude : 24 bits of precision, down to `2⁻¹⁴⁹`. -/
def ulpExponent (q : ℚ≥0) : ℤ :=
  max (-149) (Int.log 2 q - 23)

/-- The nearest natural number, ties to even. -/
def roundHalfEven (q : ℚ≥0) : ℕ :=
  let below := ⌊q⌋₊
  if q < below + 1 / 2 then below
  else if below + 1 / 2 < q then below + 1
  else if Even below then below else below + 1

/-- The nearest value of the format, or an infinity. -/
def rounded (neg : Bool) (q : ℚ≥0) : F32 :=
  let unit : ℚ≥0 := 2 ^ ulpExponent q
  let mag := roundHalfEven (q / unit) * unit
  if 2 ^ 128 ≤ mag then .infinite neg else .finite neg mag

/-! ## Operations -/

def half : F32 :=
  .finite false (1 / 2)

def ofNat (n : ℕ) : F32 :=
  .finite false n

def isFinite : F32 → Bool
  | .finite _ _ => true
  | _ => false

def neg : F32 → F32
  | .nan => .nan
  | .infinite n => .infinite !n
  | .finite n mag => .finite (!n) mag

def add : F32 → F32 → F32
  | .nan, _ => .nan
  | _, .nan => .nan
  | .infinite n, .infinite n' => if n = n' then .infinite n else .nan
  | .infinite n, .finite _ _ => .infinite n
  | .finite _ _, .infinite n => .infinite n
  | .finite n mag, .finite n' mag' =>
    let sum := signed n mag + signed n' mag'
    if sum = 0 then .finite (n && n') 0 else rounded (decide (sum < 0)) (Rat.nnabs sum)

def mul : F32 → F32 → F32
  | .nan, _ => .nan
  | _, .nan => .nan
  | .infinite n, .infinite n' => .infinite (n ^^ n')
  | .infinite n, .finite n' mag => if mag = 0 then .nan else .infinite (n ^^ n')
  | .finite n mag, .infinite n' => if mag = 0 then .nan else .infinite (n ^^ n')
  | .finite n mag, .finite n' mag' => rounded (n ^^ n') (mag * mag')

/-- `<`, false when one side is a NaN. -/
def lt : F32 → F32 → Bool
  | .nan, _ => false
  | _, .nan => false
  | .infinite n, .infinite n' => n && !n'
  | .infinite n, .finite _ _ => n
  | .finite _ _, .infinite n => !n
  | .finite n mag, .finite n' mag' => decide (signed n mag < signed n' mag')

/-- `==`, false when one side is a NaN. -/
def eq : F32 → F32 → Bool
  | .infinite n, .infinite n' => n == n'
  | .finite n mag, .finite n' mag' => decide (signed n mag = signed n' mag')
  | _, _ => false

/-- Into the bounds; a NaN stays. -/
def clamp (x lo hi : F32) : F32 :=
  let x := if x.lt lo then lo else x
  if hi.lt x then hi else x

/-- The nearest integer, ties away from zero. -/
def round : F32 → F32
  | .finite n mag => .finite n ⌊mag + 1 / 2⌋₊
  | x => x

/-- To an unsigned integer of 16 bits : truncated, out of range to the nearest bound, a NaN
to `0`. -/
def toUInt16 : F32 → UInt16
  | .nan => 0
  | .infinite n => if n then 0 else 65535
  | .finite n mag => if n then 0 else UInt16.ofNat (min ⌊mag⌋₊ 65535)

/-! ## Regular values -/

/-- A NaN or a positive number. -/
def Regular : F32 → Prop
  | .nan => True
  | .infinite _ => False
  | .finite n mag => n = false ∧ 0 < mag

theorem Regular.eq_of_eq {x y : F32} (hx : x.Regular) (h : x.eq y = true) : x = y := by
  rcases x with _ | n | ⟨n, mag⟩
  · cases h
  · cases hx
  · obtain ⟨rfl, hpos⟩ := hx
    rcases y with _ | n' | ⟨n', mag'⟩
    · cases h
    · cases h
    · simp only [F32.eq, decide_eq_true_eq] at h
      rcases n' with _ | _
      · simpa [signed] using h
      · -- A magnitude is not negative.
        have hneg : (mag : ℚ) = -(mag' : ℚ) := by simpa [signed] using h
        have hmag : (0 : ℚ) < mag := by exact_mod_cast hpos
        have hmag' : (0 : ℚ) ≤ mag' := mag'.2
        linarith

/-- Between two positive numbers there are positive numbers only. -/
theorem regular_of_not_lt {lo hi : ℚ≥0} (hlo : 0 < lo) {x : F32}
    (hx : x.lt (.finite false lo) = false) (hx' : (finite false hi).lt x = false) : x.Regular := by
  rcases x with _ | n | ⟨n, mag⟩
  · trivial
  · cases hx.symm.trans (by simpa [F32.lt] using hx')
  · have hle : (lo : ℚ) ≤ signed n mag := by simpa [F32.lt, signed] using hx
    have hpos : (0 : ℚ) < lo := by exact_mod_cast hlo
    have hmag : (0 : ℚ) ≤ mag := mag.2
    rcases n with _ | _
    · have hlt : (0 : ℚ) < mag := lt_of_lt_of_le hpos (by simpa [signed] using hle)
      exact ⟨rfl, by exact_mod_cast hlt⟩
    · have hle' : (lo : ℚ) ≤ -mag := by simpa [signed] using hle
      linarith

theorem clamp_regular {lo hi : ℚ≥0} (hlo : 0 < lo) (hhi : 0 < hi) (x : F32) :
    (clamp x (.finite false lo) (.finite false hi)).Regular := by
  have hraised : (if x.lt (.finite false lo) then finite false lo else x).lt
      (.finite false lo) = false := by
    split
    · simp [F32.lt]
    · rename_i hx
      simpa using hx
  unfold clamp
  generalize (if x.lt (.finite false lo) then finite false lo else x) = raised at hraised
  show (if (finite false hi).lt raised then finite false hi else raised).Regular
  split
  · exact ⟨rfl, hhi⟩
  · rename_i hx
    exact regular_of_not_lt hlo hraised (by simpa using hx)

theorem lt_irrefl (x : F32) : x.lt x = false := by
  rcases x with _ | n | ⟨n, mag⟩
  · rfl
  · cases n <;> rfl
  · simp [lt]

/-- Nothing is above the upper bound after a clamp. -/
theorem not_lt_clamp (x lo hi : F32) : hi.lt (clamp x lo hi) = false := by
  unfold clamp
  generalize (if x.lt lo then lo else x) = raised
  show hi.lt (if hi.lt raised then hi else raised) = false
  split
  · exact lt_irrefl hi
  · rename_i hx
    simpa using hx

theorem not_lt_of_le {a b : ℚ≥0} (hab : (a : ℚ) ≤ b) {x : F32}
    (h : (finite false a).lt x = false) : (finite false b).lt x = false := by
  rcases x with _ | n | ⟨n, mag⟩
  · rfl
  · exact h
  · have hle : signed n mag ≤ a := by simpa [lt, signed] using h
    simpa [lt, signed] using hle.trans hab

/-! ## Parts of a whole -/

/-- The greatest value of the format below `1 + 2⁻¹⁷`. -/
def wholeLimit : F32 :=
  .finite false (1 + 63 / 8388608)

theorem roundHalfEven_le (q : ℚ≥0) : (roundHalfEven q : ℚ≥0) ≤ q + 1 / 2 := by
  have hfloor : (⌊q⌋₊ : ℚ≥0) ≤ q := Nat.floor_le q.2
  have hdown : (⌊q⌋₊ : ℚ≥0) ≤ q + 1 / 2 := hfloor.trans (le_add_of_nonneg_right (by norm_num))
  have hup (h : (⌊q⌋₊ : ℚ≥0) + 1 / 2 ≤ q) : ((⌊q⌋₊ + 1 : ℕ) : ℚ≥0) ≤ q + 1 / 2 := by
    calc ((⌊q⌋₊ + 1 : ℕ) : ℚ≥0) = ⌊q⌋₊ + 1 / 2 + 1 / 2 := by push_cast; ring
      _ ≤ q + 1 / 2 := by gcongr
  simp only [roundHalfEven]
  split_ifs with hlt hgt
  · exact hdown
  · exact hup hgt.le
  · exact hdown
  · exact hup (not_lt.1 hlt)

/-- A number below `2¹⁶` is rounded by `2⁻⁹` at most. -/
theorem exists_rounded_le {q : ℚ≥0} (hq : q < 2 ^ 16) :
    ∃ mag : ℚ≥0, rounded false q = .finite false mag ∧ mag ≤ q + 1 / 512 := by
  have hlog : Int.log 2 q < 16 := by
    rcases eq_or_ne q 0 with rfl | hne
    · simp
    · exact (Int.lt_zpow_iff_log_lt (by norm_num) (pos_iff_ne_zero.2 hne)).1 (by exact_mod_cast hq)
  have hexponent : ulpExponent q ≤ -8 := by
    simp only [ulpExponent]
    omega
  have hunit : (2 : ℚ≥0) ^ ulpExponent q ≤ 1 / 256 := by
    calc (2 : ℚ≥0) ^ ulpExponent q ≤ 2 ^ (-8 : ℤ) := zpow_le_zpow_right₀ (by norm_num) hexponent
      _ = 1 / 256 := by norm_num
  have hpos : (0 : ℚ≥0) < 2 ^ ulpExponent q := zpow_pos (by norm_num) _
  have hle : (roundHalfEven (q / 2 ^ ulpExponent q) : ℚ≥0) * 2 ^ ulpExponent q ≤ q + 1 / 512 := by
    calc (roundHalfEven (q / 2 ^ ulpExponent q) : ℚ≥0) * 2 ^ ulpExponent q
        ≤ (q / 2 ^ ulpExponent q + 1 / 2) * 2 ^ ulpExponent q := by
          gcongr
          exact roundHalfEven_le _
      _ = q + 1 / 2 * 2 ^ ulpExponent q := by rw [add_mul, div_mul_cancel₀ _ hpos.ne']
      _ ≤ q + 1 / 2 * (1 / 256) := by gcongr
      _ = q + 1 / 512 := by norm_num
  refine ⟨_, if_neg (not_le.2 ?_), hle⟩
  calc (roundHalfEven (q / 2 ^ ulpExponent q) : ℚ≥0) * 2 ^ ulpExponent q ≤ q + 1 / 512 := hle
    _ < 2 ^ 16 + 1 / 512 := by gcongr
    _ ≤ 2 ^ 16 + 2 ^ 16 := by
      gcongr
      exact (div_le_one (by norm_num)).2 (by norm_num) |>.trans (one_le_pow₀ (by norm_num))
    _ ≤ 2 ^ 128 := by exact_mod_cast (by norm_num : 2 ^ 16 + 2 ^ 16 ≤ 2 ^ 128)

/-- What a ratio up to `wholeLimit` takes of an extent, to the nearest integer, is no more than the
extent. A NaN and a negative ratio take nothing. -/
theorem toUInt16_round_mul_le {ratio : F32} (h : wholeLimit.lt ratio = false) {n : ℕ}
    (hn : n < 2 ^ 16) : ((ofNat n).mul ratio).round.toUInt16.toNat ≤ n := by
  rcases ratio with _ | neg | ⟨neg, mag⟩
  · exact Nat.zero_le _
  · cases neg with
    | false => cases h
    | true =>
      by_cases hzero : (n : ℚ≥0) = 0
      · simp [ofNat, mul, hzero, round, toUInt16]
      · simp [ofNat, mul, hzero, round, toUInt16]
  · cases neg with
    | true =>
      simp only [ofNat, mul, Bool.false_xor, rounded]
      split <;> exact Nat.zero_le _
    | false =>
      have hmag : mag ≤ 1 + 63 / 8388608 := by
        have hle : (mag : ℚ) ≤ ((1 + 63 / 8388608 : ℚ≥0) : ℚ) := by
          simpa [wholeLimit, lt, signed] using h
        exact_mod_cast hle
      have hextent : (n : ℚ≥0) ≤ 65535 := by
        exact_mod_cast Nat.lt_succ_iff.1 hn
      have hproduct : (n : ℚ≥0) * mag ≤ n + 65535 * (63 / 8388608) := by
        calc (n : ℚ≥0) * mag ≤ n * (1 + 63 / 8388608) := by gcongr
          _ = n + n * (63 / 8388608) := by ring
          _ ≤ n + 65535 * (63 / 8388608) := by gcongr
      obtain ⟨part, hpart, hle⟩ := exists_rounded_le (q := (n : ℚ≥0) * mag) <| by
        calc (n : ℚ≥0) * mag ≤ n + 65535 * (63 / 8388608) := hproduct
          _ ≤ 65535 + 65535 * (63 / 8388608) := by gcongr
          _ < 2 ^ 16 := by norm_num
      have hbelow : part + 1 / 2 < n + 1 := by
        calc part + 1 / 2 ≤ n + 65535 * (63 / 8388608) + 1 / 512 + 1 / 2 := by
              gcongr
              exact hle.trans (by gcongr)
          _ = n + (65535 * (63 / 8388608) + 1 / 512 + 1 / 2) := by ring
          _ < n + 1 := by
              gcongr
              norm_num
      simp only [ofNat, mul, Bool.xor_self, hpart, round, toUInt16, Bool.false_eq_true, if_false]
      have hfloor : ⌊part + 1 / 2⌋₊ ≤ n := by
        refine Nat.lt_succ_iff.1 ((Nat.floor_lt' (Nat.succ_ne_zero n)).2 ?_)
        push_cast
        exact hbelow
      have hmin : min ⌊((⌊part + 1 / 2⌋₊ : ℕ) : ℚ≥0)⌋₊ 65535 ≤ n := by
        rw [Nat.floor_natCast]
        omega
      rw [UInt16.toNat_ofNat_of_lt' (Nat.lt_of_le_of_lt (Nat.min_le_right _ _) (by decide))]
      exact hmin

end F32
