import Loopback.Number.Binary64
import Mathlib.Algebra.Ring.Nat

/-!
# How far apart the values of the format lie

About a magnitude the values lie no farther apart than it is large, and a significand counts its way
through it. So rounding to the format at most doubles a magnitude, and leaves at least half of it.
-/

namespace Loopback.Number

/-- One is made of some units. -/
theorem unitsPerOne_pos : 0 < unitsPerOne := by
  have hpow : ∀ n, 0 < Nat.pow 2 n := Nat.two_pow_pos
  unfold unitsPerOne
  exact hpow 1074

/-- Nothing is rounded to nothing. -/
@[simp] theorem halfEven_zero (den : Nat) : halfEven 0 den = 0 := by
  simp [halfEven]

/-- The value next to nothing is none. -/
@[simp] theorem nearestUnits_zero (den : Nat) : nearestUnits 0 den = 0 := by
  simp [nearestUnits]

/-- How far apart the values of the format lie about a magnitude. -/
def spacing (magnitude : Nat) : Nat :=
  2 ^ (magnitude.log2 + 1 - significandBits)

/-- A quotient is rounded to a multiple of the spacing about it. -/
theorem nearestUnits_eq (num den : Nat) :
    nearestUnits num den =
      halfEven (num * unitsPerOne) (den * spacing (num * unitsPerOne / den)) *
        spacing (num * unitsPerOne / den) :=
  rfl

/-- Values of the format are some units apart. -/
theorem spacing_pos (magnitude : Nat) : 0 < spacing magnitude :=
  Nat.two_pow_pos _

/-- Values of the format lie no farther apart than they are large. -/
theorem spacing_le {magnitude : Nat} (h : magnitude ≠ 0) : spacing magnitude ≤ magnitude :=
  calc
    spacing magnitude ≤ 2 ^ magnitude.log2 :=
      Nat.pow_le_pow_right Nat.two_pos (by simp only [significandBits]; omega)
    _ ≤ magnitude := Nat.log2_self_le h

/-- About a magnitude of so many bits the values lie as many bits apart, but for the significand. -/
theorem spacing_le_of_lt {magnitude bits : Nat} (h : magnitude < 2 ^ bits) :
    spacing magnitude ≤ 2 ^ (bits - significandBits) := by
  apply Nat.pow_le_pow_right Nat.two_pos
  by_cases hzero : magnitude = 0
  · simp [hzero, significandBits]
  · have := (Nat.log2_lt hzero).2 h
    omega

/-- A magnitude spans no more of its spacings than a significand can count. -/
theorem lt_mul_spacing (magnitude : Nat) : magnitude < 2 ^ significandBits * spacing magnitude :=
  calc
    magnitude < 2 ^ (magnitude.log2 + 1) := Nat.lt_log2_self
    _ ≤ 2 ^ (significandBits + (magnitude.log2 + 1 - significandBits)) :=
      Nat.pow_le_pow_right Nat.two_pos (by omega)
    _ = 2 ^ significandBits * spacing magnitude := Nat.pow_add ..

/-- Rounding to the format at most doubles a magnitude, but for one unit. -/
theorem nearestUnits_le (num den : Nat) :
    nearestUnits num den ≤ 2 * (num * unitsPerOne / den) + 1 := by
  rw [nearestUnits_eq]
  have hgap : spacing (num * unitsPerOne / den) ≤ num * unitsPerOne / den + 1 := by
    by_cases hzero : num * unitsPerOne / den = 0
    · rw [hzero]
      decide
    · exact Nat.le_succ_of_le (spacing_le hzero)
  generalize spacing (num * unitsPerOne / den) = gap at hgap ⊢
  calc
    halfEven (num * unitsPerOne) (den * gap) * gap ≤ (num * unitsPerOne / (den * gap) + 1) * gap :=
      Nat.mul_le_mul_right _ (halfEven_le_div_succ _ _)
    _ = num * unitsPerOne / den / gap * gap + gap := by
      rw [Nat.div_div_eq_div_mul, Nat.add_mul, Nat.one_mul]
    _ ≤ num * unitsPerOne / den + gap := Nat.add_le_add_right (Nat.div_mul_le_self _ _) _
    _ ≤ 2 * (num * unitsPerOne / den) + 1 := by omega

/-- Rounding to the format leaves at least half of a magnitude. -/
theorem le_nearestUnits (num den : Nat) : num * unitsPerOne / den ≤ 2 * nearestUnits num den := by
  by_cases hzero : num * unitsPerOne / den = 0
  · rw [hzero]
    exact Nat.zero_le _
  · have hround := div_le_halfEven (num * unitsPerOne) (den * spacing (num * unitsPerOne / den))
    rw [← Nat.div_div_eq_div_mul] at hround
    rw [nearestUnits_eq]
    generalize num * unitsPerOne / den = magnitude at *
    have hpos := spacing_pos magnitude
    have hwhole := Nat.div_pos (spacing_le hzero) hpos
    have hbelow := Nat.lt_mul_of_div_lt (Nat.lt_succ_self (magnitude / spacing magnitude)) hpos
    generalize spacing magnitude = gap at *
    calc
      magnitude ≤ (magnitude / gap + 1) * gap := Nat.le_of_lt hbelow
      _ ≤ 2 * (magnitude / gap) * gap := Nat.mul_le_mul_right _ (by omega)
      _ = 2 * (magnitude / gap * gap) := Nat.mul_assoc ..
      _ ≤ 2 * (_ * gap) := Nat.mul_le_mul_left _ (Nat.mul_le_mul_right _ hround)

end Loopback.Number
