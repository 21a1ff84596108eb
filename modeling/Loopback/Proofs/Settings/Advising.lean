import Loopback.Proofs.Number.Nearest
import Loopback.Proofs.Settings.Transmission
import Mathlib.Data.ENat.Basic
import Mathlib.Tactic.Ring

/-!
# How near the advisory duration is

For any payload shorter than some days on the wire, the product of the advisory duration needs no
rounding, and the quotient is rounded by less than a quarter of a nanosecond. So the duration is less
than a nanosecond from the exact one, is that where it is whole, and is never zero for any bytes. More
bytes never take less time, nor do the same bytes at a lower rate, however much is rounded.
-/

namespace Loopback

open Number

namespace Number

/-- The units to one are a power of two, which is far too large to be written out. -/
theorem exists_unitsPerOne_eq : ∃ places, places = 1074 ∧ unitsPerOne = 2 ^ places := by
  have hpow : ∀ n, ∃ places, places = n ∧ Nat.pow 2 n = 2 ^ places := fun n => ⟨n, rfl, rfl⟩
  unfold unitsPerOne
  exact hpow 1074

/-- A whole number with few enough digits before its last zeros needs no rounding. -/
theorem nearestUnits_of_digits {digits exponent n : Nat} (hdigits : digits < 2 ^ significandBits)
    (hn : n = digits * 2 ^ exponent) : nearestUnits n 1 = n * unitsPerOne := by
  obtain ⟨places, -, hone⟩ := exists_unitsPerOne_eq
  refine nearestUnits_of_representable Nat.one_pos ?_ (Nat.mul_one _).symm
  exact ⟨digits, exponent + places, hdigits, by rw [hn, hone, Nat.mul_assoc, Nat.pow_add]⟩

end Number

/-! ## Few bytes -/

/-- Where a significand can count the bytes and half the bits, only the quotient is rounded. -/
theorem transmitUnits_eq {baud length : Nat} (hbaud : 0 < baud) (hlength : 10 * length < 2 ^ 54) :
    transmitUnits baud length = nearestUnits (10 * length) baud := by
  have hone := unitsPerOne_pos
  have hbytes : nearestUnits length 1 = length * unitsPerOne := by
    apply nearestUnits_of_digits (_ : length < _) (by omega : _ = length * 2 ^ 0)
    simp only [significandBits]
    omega
  -- The bits are even in number, so there is one digit less to count.
  have hbits : nearestUnits (10 * length) 1 = 10 * length * unitsPerOne := by
    apply nearestUnits_of_digits (_ : 5 * length < _) (by omega : _ = 5 * length * 2 ^ 1)
    simp only [significandBits]
    omega
  calc
    transmitUnits baud length
      = nearestUnits (nearestUnits (10 * (length * unitsPerOne)) unitsPerOne)
          (unitsPerOne * baud) := by rw [transmitUnits, hbytes]
    _ = nearestUnits (nearestUnits (10 * length) 1) (unitsPerOne * baud) := by
      rw [nearestUnits_congr hone Nat.one_pos (by rw [Nat.mul_one, Nat.mul_assoc])]
    _ = nearestUnits (10 * length) baud := by
      rw [hbits]
      apply nearestUnits_congr (Nat.mul_pos hone hbaud) hbaud
      rw [Nat.mul_assoc]

section few

variable {baud length : Nat}

/-- About the seconds of few bytes the values of the format lie less than a nanosecond apart. -/
theorem spacing_seconds_le (hlength : 10 * length < baud * 2 ^ 22) :
    spacing (10 * length * unitsPerOne / baud) * 2 ^ 31 ≤ unitsPerOne := by
  obtain ⟨places, hplaces, hone⟩ := exists_unitsPerOne_eq
  have hmagnitude : 10 * length * unitsPerOne / baud < 2 ^ (22 + places) := by
    apply Nat.div_lt_of_lt_mul
    calc
      10 * length * unitsPerOne < baud * 2 ^ 22 * unitsPerOne :=
        Nat.mul_lt_mul_of_pos_right hlength unitsPerOne_pos
      _ = baud * 2 ^ (22 + places) := by rw [hone, Nat.pow_add, Nat.mul_assoc]
  calc
    spacing (10 * length * unitsPerOne / baud) * 2 ^ 31 ≤
        2 ^ (22 + places - significandBits) * 2 ^ 31 :=
      Nat.mul_le_mul_right _ (spacing_le_of_lt hmagnitude)
    _ = 2 ^ (22 + places - significandBits + 31) := (Nat.pow_add ..).symm
    _ = unitsPerOne := by
      have hbits : 22 + places - significandBits + 31 = places := by
        simp only [significandBits]
        omega
      rw [hbits, hone]

/-- The seconds of a payload are rounded by less than a quarter of a nanosecond. -/
theorem abs_transmitUnits_sub_le (hbaud : 0 < baud) (hrate : baud < 2 ^ 32)
    (hlength : 10 * length < baud * 2 ^ 22) :
    |(transmitUnits baud length : ℚ) / unitsPerOne - 10 * length / baud| ≤ 1 / 2 ^ 32 := by
  have hone : (0 : ℚ) < unitsPerOne := by exact_mod_cast unitsPerOne_pos
  have hgap : (spacing (10 * length * unitsPerOne / baud) : ℚ) * 2 ^ 31 ≤ unitsPerOne := by
    exact_mod_cast spacing_seconds_le hlength
  have hround := abs_nearestUnits_sub_le hbaud (10 * length)
  rw [← transmitUnits_eq hbaud (by omega)] at hround
  have hexact : quotientUnits (10 * length) baud = 10 * length / baud * unitsPerOne := by
    rw [quotientUnits]
    push_cast
    ring
  rw [hexact] at hround
  -- The number of units to one is far too large to be written out.
  generalize (spacing (10 * length * unitsPerOne / baud) : ℚ) = gap at *
  generalize transmitUnits baud length = units at *
  generalize unitsPerOne = one at *
  have hscale : (units : ℚ) / one - 10 * length / baud =
      (units - 10 * length / baud * one) / one := by
    field_simp
  rw [hscale, abs_div, abs_of_pos hone, div_le_iff₀ hone]
  linarith

end few

/-- The nanoseconds of a payload, to the nearest whole number. -/
def transmitNanos (baud length : Nat) : Nat :=
  halfEven (transmitUnits baud length * Duration.nanosPerSecond) unitsPerOne

/-- There is an advisory duration as long as the seconds have 64 bits. -/
theorem transmitDuration?_eq {baud : UInt32} (hbaud : baud ≠ 0) (length : Nat) :
    transmitDuration? baud length =
      if transmitUnits baud.toNat length < (Text.max64 + 1) * unitsPerOne then
        some ⟨transmitNanos baud.toNat length⟩
      else none := by
  simp only [transmitDuration?, hbaud, if_false, transmitNanos]

/-- There is no advisory duration only where the seconds are too many for 64 bits. -/
theorem transmitDuration?_eq_none_iff {baud : UInt32} (hbaud : baud ≠ 0) (length : Nat) :
    transmitDuration? baud length = none ↔ 2 ^ 64 * unitsPerOne ≤ transmitUnits baud.toNat length := by
  rw [transmitDuration?_eq hbaud, ← Nat.not_lt]
  split <;> simp_all [Text.max64]

section few

variable {baud length : Nat}

/-- The nanoseconds of a payload are off by less than three quarters of one. -/
theorem abs_transmitNanos_sub_le (hbaud : 0 < baud) (hrate : baud < 2 ^ 32)
    (hlength : 10 * length < baud * 2 ^ 22) :
    |(transmitNanos baud length : ℚ) - 10 ^ 10 * length / baud| ≤ 1 / 2 + 10 ^ 9 / 2 ^ 32 := by
  have hseconds := abs_transmitUnits_sub_le hbaud hrate hlength
  have hnanos := abs_halfEven_sub_le unitsPerOne_pos
    (transmitUnits baud length * Duration.nanosPerSecond)
  rw [Nat.cast_mul, mul_div_right_comm, Duration.nanosPerSecond] at hnanos
  push_cast at hnanos
  rw [transmitNanos, Duration.nanosPerSecond]
  rw [show (10 : ℚ) ^ 10 * length / baud = 10 * length / baud * 10 ^ 9 by ring]
  generalize (transmitUnits baud length : ℚ) / unitsPerOne = seconds at *
  generalize (10 * length / baud : ℚ) = exact at *
  generalize (halfEven _ _ : ℚ) = nanos at *
  rw [abs_le] at *
  constructor <;> linarith

end few

/-- That a duration is the time of so many bytes at a rate, to less than a nanosecond: that itself if it is whole,
and none at all only for no bytes. -/
structure Duration.Measures (transmit : Duration) (baud length : Nat) : Prop where
  near : |(transmit.nanos : ℚ) - 10 ^ 10 * length / baud| < 1
  eq_of_whole : ∀ nanos : Nat, (nanos : ℚ) = 10 ^ 10 * length / baud → transmit.nanos = nanos
  eq_zero_iff : transmit.nanos = 0 ↔ length = 0
  two_le : length ≠ 0 → 2 ≤ transmit.nanos

/-- What is off by less than three quarters of a nanosecond measures the bytes: a single one takes more than two
nanoseconds at the highest rate. -/
theorem Duration.measures_of_near {nanos baud length : Nat} (hbaud : 0 < baud)
    (hrate : baud < 2 ^ 32)
    (h : |(nanos : ℚ) - 10 ^ 10 * length / baud| ≤ 1 / 2 + 10 ^ 9 / 2 ^ 32) :
    Duration.Measures ⟨nanos⟩ baud length := by
  have hpos : (0 : ℚ) < baud := by exact_mod_cast hbaud
  have hnear : |(nanos : ℚ) - 10 ^ 10 * length / baud| < 1 := h.trans_lt (by norm_num)
  have hwhole (n : Nat) (hn : (n : ℚ) = 10 ^ 10 * length / baud) : nanos = n := by
    rw [← hn] at hnear
    have hzero : ((nanos : ℤ) - n).natAbs < 1 := by
      rw [← Int.ofNat_lt, Int.natCast_natAbs]
      exact_mod_cast hnear
    omega
  have htwo (hlength : length ≠ 0) : 2 ≤ nanos := by
    have hslow : (10 ^ 10 / 2 ^ 32 : ℚ) ≤ 10 ^ 10 * length / baud := by
      have hsome : (1 : ℚ) ≤ length := by exact_mod_cast Nat.one_le_iff_ne_zero.2 hlength
      have hfast : (baud : ℚ) ≤ 2 ^ 32 := by exact_mod_cast hrate.le
      rw [div_le_div_iff₀ (by positivity) hpos]
      nlinarith
    have hmore : (1 : ℚ) < nanos := by
      rw [abs_le] at h
      norm_num at h hslow
      linarith
    exact_mod_cast hmore
  refine ⟨hnear, hwhole, ⟨fun hzero => ?_, ?_⟩, htwo⟩
  · by_contra hlength
    exact absurd hzero (Nat.ne_of_gt (Nat.zero_lt_two.trans_le (htwo hlength)))
  · rintro rfl
    exact hwhole 0 (by simp)

/-- Few bytes have an advisory duration, and it measures them. -/
theorem exists_transmitDuration?_eq {baud : UInt32} {length : Nat}
    (hlength : 10 * length < baud.toNat * 2 ^ 22) :
    ∃ transmit, transmitDuration? baud length = some transmit ∧
      transmit.Measures baud.toNat length := by
  have hpos : 0 < baud.toNat := Nat.pos_of_mul_pos_right (Nat.zero_lt_of_lt hlength)
  have hbaud : baud ≠ 0 := fun hzero => hpos.ne' (UInt32.toNat_inj.2 hzero)
  have hrate : baud.toNat < 2 ^ 32 := baud.toNat_lt
  have hlimit : transmitUnits baud.toNat length < (Text.max64 + 1) * unitsPerOne := by
    have hone : (0 : ℚ) < unitsPerOne := by exact_mod_cast unitsPerOne_pos
    have hseconds := abs_transmitUnits_sub_le hpos hrate hlength
    have hfew : (10 * length / baud.toNat : ℚ) < 2 ^ 22 := by
      rw [div_lt_iff₀ (by exact_mod_cast hpos)]
      exact_mod_cast (by omega : 10 * length < 2 ^ 22 * baud.toNat)
    have hroom : (2 ^ 22 + 1 / 2 ^ 32 : ℚ) < (Text.max64 + 1 : Nat) := by
      norm_num [Text.max64]
    have hless : (transmitUnits baud.toNat length : ℚ) / unitsPerOne < (Text.max64 + 1 : Nat) := by
      have hover := (abs_le.1 hseconds).2
      linarith
    rw [div_lt_iff₀ hone] at hless
    exact_mod_cast hless
  refine ⟨_, ?_, Duration.measures_of_near hpos hrate (abs_transmitNanos_sub_le hpos hrate hlength)⟩
  rw [transmitDuration?_eq hbaud, if_pos hlimit]

/-! ## More bytes, and lower rates -/

/-- More bytes never take less time, nor do they at a lower rate. -/
theorem transmitUnits_mono {baud₁ baud₂ length₁ length₂ : Nat} (hbaud : baud₂ ≤ baud₁)
    (hpos : 0 < baud₂) (hlength : length₁ ≤ length₂) :
    transmitUnits baud₁ length₁ ≤ transmitUnits baud₂ length₂ := by
  have hone := unitsPerOne_pos
  have hbytes : nearestUnits length₁ 1 ≤ nearestUnits length₂ 1 := by
    apply nearestUnits_mono Nat.one_pos Nat.one_pos
    rwa [Nat.mul_one, Nat.mul_one]
  have hbits : nearestUnits (10 * nearestUnits length₁ 1) unitsPerOne ≤
      nearestUnits (10 * nearestUnits length₂ 1) unitsPerOne := by
    apply nearestUnits_mono hone hone
    exact Nat.mul_le_mul_right _ (Nat.mul_le_mul_left 10 hbytes)
  apply nearestUnits_mono (Nat.mul_pos hone (hpos.trans_le hbaud)) (Nat.mul_pos hone hpos)
  exact Nat.mul_le_mul hbits (Nat.mul_le_mul_left _ hbaud)

/-- The nanoseconds keep the order of the seconds. -/
theorem transmitNanos_mono {baud₁ baud₂ length₁ length₂ : Nat} (hbaud : baud₂ ≤ baud₁)
    (hpos : 0 < baud₂) (hlength : length₁ ≤ length₂) :
    transmitNanos baud₁ length₁ ≤ transmitNanos baud₂ length₂ := by
  apply halfEven_mono unitsPerOne_pos unitsPerOne_pos
  exact Nat.mul_le_mul_right _ (Nat.mul_le_mul_right _ (transmitUnits_mono hbaud hpos hlength))

/-- A length of time, in nanoseconds; where there is no duration it has no end. -/
def Duration.span (duration : Option Duration) : ℕ∞ :=
  duration.elim ⊤ fun duration => duration.nanos

/-- An advisory duration that cannot be told counted as endless, more bytes never take less time, nor do they at a
lower rate. -/
theorem span_transmitDuration?_mono {baud₁ baud₂ : UInt32} {length₁ length₂ : Nat}
    (hbaud : baud₂ ≤ baud₁) (hpos : baud₂ ≠ 0) (hlength : length₁ ≤ length₂) :
    Duration.span (transmitDuration? baud₁ length₁) ≤
      Duration.span (transmitDuration? baud₂ length₂) := by
  have hrate := UInt32.le_iff_toNat_le.1 hbaud
  have hpos₂ : 0 < baud₂.toNat := Nat.pos_of_ne_zero fun hrate => hpos (UInt32.toNat_inj.1 hrate)
  have hpos₁ : baud₁ ≠ 0 := by
    rintro rfl
    exact absurd hrate (Nat.not_le.2 hpos₂)
  have hunits := transmitUnits_mono hrate hpos₂ hlength
  have hnanos := transmitNanos_mono hrate hpos₂ hlength
  rw [transmitDuration?_eq hpos, transmitDuration?_eq hpos₁]
  generalize transmitNanos baud₁.toNat length₁ = nanos₁ at *
  generalize transmitNanos baud₂.toNat length₂ = nanos₂ at *
  by_cases hlimit : transmitUnits baud₂.toNat length₂ < (Text.max64 + 1) * unitsPerOne
  · rw [if_pos hlimit, if_pos (hunits.trans_lt hlimit)]
    exact Nat.cast_le.2 hnanos
  · rw [if_neg hlimit]
    exact le_top

end Loopback
