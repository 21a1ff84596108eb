/-!
# Rounding a quotient to a whole number

The nearest whole number, and of two equally near the even one.
-/

namespace Loopback.Number

/-- The whole number nearest to `num / den`; a half goes to the even neighbour. -/
def halfEven (num den : Nat) : Nat :=
  let below := num / den
  let rest := num % den
  if 2 * rest < den then below
  else if den < 2 * rest then below + 1
  else if below % 2 = 0 then below
  else below + 1

/-- Rounding moves a quotient down by at most one whole. -/
theorem div_le_halfEven (num den : Nat) : num / den ≤ halfEven num den := by
  simp only [halfEven]
  split
  · exact Nat.le_refl _
  · split
    · exact Nat.le_succ _
    · split
      · exact Nat.le_refl _
      · exact Nat.le_succ _

/-- Rounding moves a quotient up by at most one whole. -/
theorem halfEven_le_div_succ (num den : Nat) : halfEven num den ≤ num / den + 1 := by
  simp only [halfEven]
  split
  · exact Nat.le_succ _
  · split
    · exact Nat.le_refl _
    · split
      · exact Nat.le_succ _
      · exact Nat.le_refl _

end Loopback.Number
