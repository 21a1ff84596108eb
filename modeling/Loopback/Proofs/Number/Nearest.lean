import Loopback.Proofs.Number.Spacing
import Mathlib.Algebra.Order.Field.Rat
import Mathlib.Algebra.Order.Ring.Abs
import Mathlib.Data.Nat.Cast.Order.Field
import Mathlib.Tactic.FieldSimp
import Mathlib.Tactic.Linarith
import Mathlib.Tactic.NormNum

/-!
# Rounding to the nearest

A quotient that is rounded to whole numbers moves by at most a half, and none is nearer. One that is
rounded to the format becomes a value of the format, and of those none is nearer either. Since equal
quotients are rounded alike, both roundings keep the order of what they round, and both leave alone
what needs no rounding.
-/

namespace Loopback.Number

/-- Two points that are each nearest to their own of two numbers stand in the order of these. -/
theorem le_of_nearest {x y a b : ℚ} (h : x ≤ y) (hx : |a - x| ≤ |b - x|) (hy : |b - y| ≤ |a - y|)
    (heq : x = y → a = b) : a ≤ b := by
  by_contra hlt
  rw [not_le] at hlt
  -- The first number lies above the middle of the two points, and the second one below it.
  have habove : a + b ≤ 2 * x := by
    rcases abs_cases (a - x) with ⟨ha, _⟩ | ⟨ha, _⟩ <;>
      rcases abs_cases (b - x) with ⟨hb, _⟩ | ⟨hb, _⟩ <;> linarith
  have hbelow : 2 * y ≤ a + b := by
    rcases abs_cases (a - y) with ⟨ha, _⟩ | ⟨ha, _⟩ <;>
      rcases abs_cases (b - y) with ⟨hb, _⟩ | ⟨hb, _⟩ <;> linarith
  exact hlt.ne' (heq (by linarith))

/-! ## To whole numbers -/

/-- A common factor does not change the rounding. -/
theorem halfEven_mul_left {factor : Nat} (h : 0 < factor) (num den : Nat) :
    halfEven (factor * num) (factor * den) = halfEven num den := by
  simp only [halfEven, Nat.mul_div_mul_left _ _ h, Nat.mul_mod_mul_left, Nat.mul_left_comm 2,
    Nat.mul_lt_mul_left h]

/-- Equal quotients are rounded alike. -/
theorem halfEven_congr {num₁ den₁ num₂ den₂ : Nat} (h₁ : 0 < den₁) (h₂ : 0 < den₂)
    (h : num₁ * den₂ = num₂ * den₁) : halfEven num₁ den₁ = halfEven num₂ den₂ := by
  rw [← halfEven_mul_left h₂, ← halfEven_mul_left h₁ num₂, Nat.mul_comm den₂ num₁, h,
    Nat.mul_comm den₂, Nat.mul_comm num₂]

/-- Rounding to a whole number moves a quotient by at most a half. -/
theorem abs_halfEven_sub_le {den : Nat} (h : 0 < den) (num : Nat) :
    |(halfEven num den : ℚ) - num / den| ≤ 1 / 2 := by
  have hden : (0 : ℚ) < den := by exact_mod_cast h
  have hsplit : (num : ℚ) / den = (num / den : Nat) + (num % den : Nat) / den := by
    rw [div_eq_iff hden.ne', add_mul, div_mul_cancel₀ _ hden.ne']
    exact_mod_cast (Nat.div_add_mod' num den).symm
  have hrest : (0 : ℚ) ≤ (num % den : Nat) / den := by positivity
  have hbelow : 2 * (num % den) ≤ den → ((num % den : Nat) : ℚ) / den ≤ 1 / 2 := by
    intro hle
    rw [div_le_div_iff₀ hden two_pos]
    exact_mod_cast (by omega : num % den * 2 ≤ 1 * den)
  have habove : den ≤ 2 * (num % den) → (1 : ℚ) / 2 ≤ (num % den : Nat) / den := by
    intro hle
    rw [div_le_div_iff₀ two_pos hden]
    exact_mod_cast (by omega : 1 * den ≤ num % den * 2)
  have hless : ((num % den : Nat) : ℚ) / den < 1 := by
    rw [div_lt_one hden]
    exact_mod_cast Nat.mod_lt num h
  rw [hsplit, abs_le]
  -- From here on only the remainder matters.
  generalize ((num % den : Nat) : ℚ) / den = rest at *
  simp only [halfEven]
  split
  next hlt =>
    have := hbelow hlt.le
    constructor <;> linarith
  next hge =>
    have := habove (not_lt.1 hge)
    split
    next =>
      push_cast
      constructor <;> linarith
    next hle =>
      have := hbelow (not_lt.1 hle)
      split
      next => constructor <;> linarith
      next =>
        push_cast
        constructor <;> linarith

/-- No whole number is nearer to a quotient than its rounding. -/
theorem halfEven_nearest {den : Nat} (h : 0 < den) (num n : Nat) :
    |(halfEven num den : ℚ) - num / den| ≤ |(n : ℚ) - num / den| := by
  by_cases heq : n = halfEven num den
  · rw [heq]
  · have hround := abs_halfEven_sub_le h num
    -- Two whole numbers are one apart at least, so the other one is a half away at least.
    have hapart : (1 : ℚ) ≤ |(n : ℚ) - halfEven num den| := by
      exact_mod_cast Int.one_le_abs (sub_ne_zero.2 (Nat.cast_injective.ne heq : (n : ℤ) ≠ _))
    have := abs_sub_le (n : ℚ) (num / den) (halfEven num den)
    rw [abs_sub_comm (num / den : ℚ)] at this
    linarith

/-- Rounding to whole numbers keeps the order. -/
theorem halfEven_mono {num₁ den₁ num₂ den₂ : Nat} (h₁ : 0 < den₁) (h₂ : 0 < den₂)
    (h : num₁ * den₂ ≤ num₂ * den₁) : halfEven num₁ den₁ ≤ halfEven num₂ den₂ := by
  have hden₁ : (0 : ℚ) < den₁ := by exact_mod_cast h₁
  have hden₂ : (0 : ℚ) < den₂ := by exact_mod_cast h₂
  have hle : (num₁ : ℚ) / den₁ ≤ num₂ / den₂ := by
    rw [div_le_div_iff₀ hden₁ hden₂]
    exact_mod_cast h
  have hround : (halfEven num₁ den₁ : ℚ) ≤ halfEven num₂ den₂ := by
    apply le_of_nearest hle (halfEven_nearest h₁ _ _) (halfEven_nearest h₂ _ _)
    intro heq
    rw [div_eq_div_iff hden₁.ne' hden₂.ne'] at heq
    rw [halfEven_congr h₁ h₂ (by exact_mod_cast heq)]
  exact_mod_cast hround

/-! ## To the format -/

/-- A value of the format, were the exponent unbounded above. -/
def Representable (units : Nat) : Prop :=
  ∃ digits exponent, digits < 2 ^ significandBits ∧ units = digits * 2 ^ exponent

/-- What is rounded to the format is a value of the format. -/
theorem representable_nearestUnits (num den : Nat) : Representable (nearestUnits num den) := by
  rw [nearestUnits_eq]
  generalize hmagnitude : num * unitsPerOne / den = magnitude
  have hdigits : halfEven (num * unitsPerOne) (den * spacing magnitude) ≤ 2 ^ significandBits := by
    apply (halfEven_le_div_succ _ _).trans
    rw [← Nat.div_div_eq_div_mul, hmagnitude, Nat.succ_le_iff]
    exact Nat.div_lt_of_lt_mul (by rw [Nat.mul_comm]; exact lt_mul_spacing magnitude)
  -- The count may be rounded up to the next power of two, which has but one digit.
  rcases hdigits.lt_or_eq with hlt | heq
  · exact ⟨_, _, hlt, rfl⟩
  · refine ⟨1, significandBits + (magnitude.log2 + 1 - significandBits), by decide, ?_⟩
    rw [heq, Nat.one_mul, Nat.pow_add]
    rfl

/-- A value of the format is a whole number of spacings about a magnitude, or else it lies below a
power of two that is one and that the magnitude has reached. -/
theorem Representable.cases {units : Nat} (h : Representable units) (magnitude : Nat) :
    (∃ count, units = count * spacing magnitude) ∨
      ∃ count, units ≤ count * spacing magnitude ∧ count * spacing magnitude ≤ magnitude := by
  obtain ⟨digits, exponent, hdigits, rfl⟩ := h
  by_cases hexponent : magnitude.log2 + 1 - significandBits ≤ exponent
  · refine .inl ⟨digits * 2 ^ (exponent - (magnitude.log2 + 1 - significandBits)), ?_⟩
    rw [spacing, Nat.mul_assoc, ← Nat.pow_add, Nat.sub_add_cancel hexponent]
  · refine .inr ⟨2 ^ (significandBits - 1), ?_⟩
    have htop : 2 ^ (significandBits - 1) * spacing magnitude = 2 ^ magnitude.log2 := by
      rw [spacing, ← Nat.pow_add]
      congr 1
      simp only [significandBits] at *
      omega
    have hzero : magnitude ≠ 0 := by
      rintro rfl
      simp [significandBits] at hexponent
    rw [htop]
    refine ⟨?_, Nat.log2_self_le hzero⟩
    calc
      digits * 2 ^ exponent ≤ 2 ^ significandBits * 2 ^ exponent :=
        Nat.mul_le_mul_right _ hdigits.le
      _ = 2 ^ (significandBits + exponent) := (Nat.pow_add ..).symm
      _ ≤ 2 ^ magnitude.log2 := Nat.pow_le_pow_right Nat.two_pos (by omega)

/-- The quotient that is rounded, in units. -/
def quotientUnits (num den : Nat) : ℚ :=
  (num * unitsPerOne : Nat) / den

/-- Counted in any whole number of units, a quotient is as far off as it is in units. -/
theorem abs_sub_quotientUnits {den gap : Nat} (hden : 0 < den) (hgap : 0 < gap) (num count : Nat) :
    |((count * gap : Nat) : ℚ) - quotientUnits num den| =
      |(count : ℚ) - (num * unitsPerOne : Nat) / (den * gap : Nat)| * gap := by
  have hden' : (0 : ℚ) < den := by exact_mod_cast hden
  have hgap' : (0 : ℚ) < gap := by exact_mod_cast hgap
  unfold quotientUnits
  generalize num * unitsPerOne = exact
  have hcount : ((count * gap : Nat) : ℚ) - exact / den =
      (count - exact / (den * gap : Nat)) * gap := by
    push_cast
    field_simp
  rw [hcount, abs_mul, abs_of_pos hgap']

/-- Rounding to the format moves a quotient by at most half a spacing. -/
theorem abs_nearestUnits_sub_le {den : Nat} (h : 0 < den) (num : Nat) :
    |(nearestUnits num den : ℚ) - quotientUnits num den| ≤
      spacing (num * unitsPerOne / den) / 2 := by
  have hgap := spacing_pos (num * unitsPerOne / den)
  rw [nearestUnits_eq, abs_sub_quotientUnits h hgap]
  have := mul_le_mul_of_nonneg_right
    (abs_halfEven_sub_le (Nat.mul_pos h hgap) (num * unitsPerOne))
    (Nat.cast_nonneg' (spacing (num * unitsPerOne / den)))
  linarith

/-- No whole number of spacings is nearer to a quotient than its rounding. -/
theorem nearestUnits_nearest_spacings {den : Nat} (h : 0 < den) (num count : Nat) :
    |(nearestUnits num den : ℚ) - quotientUnits num den| ≤
      |((count * spacing (num * unitsPerOne / den) : Nat) : ℚ) - quotientUnits num den| := by
  have hgap := spacing_pos (num * unitsPerOne / den)
  rw [nearestUnits_eq, abs_sub_quotientUnits h hgap, abs_sub_quotientUnits h hgap]
  exact mul_le_mul_of_nonneg_right (halfEven_nearest (Nat.mul_pos h hgap) _ _) (Nat.cast_nonneg' _)

/-- No value of the format is nearer to a quotient than its rounding. -/
theorem nearestUnits_nearest {den units : Nat} (h : 0 < den) (num : Nat)
    (hunits : Representable units) :
    |(nearestUnits num den : ℚ) - quotientUnits num den| ≤
      |(units : ℚ) - quotientUnits num den| := by
  rcases hunits.cases (num * unitsPerOne / den) with ⟨count, rfl⟩ | ⟨count, hbelow, hreached⟩
  · exact nearestUnits_nearest_spacings h num count
  · apply (nearestUnits_nearest_spacings h num count).trans
    have hlow : (units : ℚ) ≤ (count * spacing (num * unitsPerOne / den) : Nat) := by
      exact_mod_cast hbelow
    have hhigh : ((count * spacing (num * unitsPerOne / den) : Nat) : ℚ) ≤ quotientUnits num den :=
      (Nat.cast_le.2 hreached).trans Nat.cast_div_le
    rw [abs_of_nonpos (by linarith), abs_of_nonpos (by linarith)]
    linarith

/-- A quotient that is a value of the format is left alone. -/
theorem nearestUnits_of_representable {num den units : Nat} (h : 0 < den)
    (hunits : Representable units) (heq : num * unitsPerOne = units * den) :
    nearestUnits num den = units := by
  have hden : (den : ℚ) ≠ 0 := by exact_mod_cast h.ne'
  have hexact : quotientUnits num den = units := by
    rw [quotientUnits, heq, Nat.cast_mul, mul_div_cancel_right₀ _ hden]
  have hnear := nearestUnits_nearest h num hunits
  rw [hexact, sub_self, abs_zero] at hnear
  exact_mod_cast sub_eq_zero.1 (abs_nonpos_iff.1 hnear)

/-- Equal quotients are rounded to the format alike. -/
theorem nearestUnits_congr {num₁ den₁ num₂ den₂ : Nat} (h₁ : 0 < den₁) (h₂ : 0 < den₂)
    (h : num₁ * den₂ = num₂ * den₁) : nearestUnits num₁ den₁ = nearestUnits num₂ den₂ := by
  have hexact : num₁ * unitsPerOne * den₂ = num₂ * unitsPerOne * den₁ := by
    rw [Nat.mul_right_comm, h, Nat.mul_right_comm]
  have hwhole : num₁ * unitsPerOne / den₁ = num₂ * unitsPerOne / den₂ := by
    rw [← Nat.mul_div_mul_right _ _ h₂, hexact, Nat.mul_comm den₁, Nat.mul_div_mul_right _ _ h₁]
  have hgap := spacing_pos (num₂ * unitsPerOne / den₂)
  rw [nearestUnits_eq, nearestUnits_eq, hwhole,
    halfEven_congr (Nat.mul_pos h₁ hgap) (Nat.mul_pos h₂ hgap)]
  rw [← Nat.mul_assoc, ← Nat.mul_assoc, hexact]

/-- Rounding to the format keeps the order. -/
theorem nearestUnits_mono {num₁ den₁ num₂ den₂ : Nat} (h₁ : 0 < den₁) (h₂ : 0 < den₂)
    (h : num₁ * den₂ ≤ num₂ * den₁) : nearestUnits num₁ den₁ ≤ nearestUnits num₂ den₂ := by
  have hden₁ : (0 : ℚ) < den₁ := by exact_mod_cast h₁
  have hden₂ : (0 : ℚ) < den₂ := by exact_mod_cast h₂
  have hle : quotientUnits num₁ den₁ ≤ quotientUnits num₂ den₂ := by
    rw [quotientUnits, quotientUnits, div_le_div_iff₀ hden₁ hden₂]
    have := Nat.mul_le_mul_right unitsPerOne h
    rw [Nat.mul_right_comm, Nat.mul_right_comm num₂] at this
    exact_mod_cast this
  have hround : (nearestUnits num₁ den₁ : ℚ) ≤ nearestUnits num₂ den₂ := by
    apply le_of_nearest hle
      (nearestUnits_nearest h₁ num₁ (representable_nearestUnits ..))
      (nearestUnits_nearest h₂ num₂ (representable_nearestUnits ..))
    intro heq
    rw [quotientUnits, quotientUnits, div_eq_div_iff hden₁.ne' hden₂.ne'] at heq
    have hcross : num₁ * den₂ * unitsPerOne = num₂ * den₁ * unitsPerOne := by
      rw [Nat.mul_right_comm, Nat.mul_right_comm num₂]
      exact_mod_cast heq
    rw [nearestUnits_congr h₁ h₂ (Nat.eq_of_mul_eq_mul_right unitsPerOne_pos hcross)]
  exact_mod_cast hround

end Loopback.Number
