import Mathlib.Data.Nat.Basic

/-!
# A grid over pixels

`extent` pixels are divided into `count` cells. Cell `i` starts at `edge count extent i`, and pixel
`p` lies in cell `cellAt count extent p`. The two roundings are dual (`edge_le_iff`), whichever of
the two numbers is larger. `scale` maps the pixels of one extent to those of another.
-/

namespace Grid

/-- The first pixel of a cell. -/
def edge (count extent i : ℕ) : ℕ :=
  i * extent / count

/-- The cell of a pixel. -/
def cellAt (count extent p : ℕ) : ℕ :=
  ((p + 1) * count - 1) / extent

/-- The pixel of the other extent. -/
def scale (source target p : ℕ) : ℕ :=
  min (p * target / source) (target - 1)

variable {count extent source target i j p q : ℕ}

theorem edge_le_iff (hcount : 0 < count) (hextent : 0 < extent) :
    edge count extent i ≤ p ↔ i ≤ cellAt count extent p := by
  have hpos : 0 < (p + 1) * count := Nat.mul_pos (Nat.succ_pos p) hcount
  calc edge count extent i ≤ p ↔ i * extent / count < p + 1 := Nat.lt_succ_iff.symm
    _ ↔ i * extent < (p + 1) * count := Nat.div_lt_iff_lt_mul hcount
    _ ↔ i * extent ≤ (p + 1) * count - 1 := by omega
    _ ↔ i ≤ cellAt count extent p := (Nat.le_div_iff_mul_le hextent).symm

theorem edge_count (hcount : 0 < count) : edge count extent count = extent :=
  Nat.mul_div_cancel_left extent hcount

theorem edge_mono (h : i ≤ j) : edge count extent i ≤ edge count extent j :=
  Nat.div_le_div_right (Nat.mul_le_mul_right extent h)

theorem edge_le (hcount : 0 < count) (h : i ≤ count) : edge count extent i ≤ extent := by
  have hmono : edge count extent i ≤ edge count extent count := edge_mono h
  rwa [edge_count hcount] at hmono

/-- A pixel lies in a cell of the grid. -/
theorem cellAt_lt (hcount : 0 < count) (hp : p < extent) : cellAt count extent p < count := by
  rw [← Nat.not_le, ← edge_le_iff hcount (Nat.zero_lt_of_lt hp), edge_count hcount]
  exact Nat.not_le.2 hp

theorem scale_lt (htarget : 0 < target) : scale source target p < target := by
  unfold scale
  omega

theorem scale_mono (h : p ≤ q) : scale source target p ≤ scale source target q := by
  have hdiv : p * target / source ≤ q * target / source :=
    Nat.div_le_div_right (Nat.mul_le_mul_right target h)
  unfold scale
  omega

end Grid
