import Loopback.Proofs.Number.Spacing
import Loopback.Settings

/-!
# How long bytes take

The advisory duration of a payload is found in floating point, rounded three times. No bytes take no
time, and a payload that any memory could hold takes a time that can be told, at every rate.
-/

namespace Loopback

/-- No bytes take no time. -/
theorem transmitUnits_zero (baud : Nat) : transmitUnits baud 0 = 0 := by
  simp [transmitUnits]

/-- A write of no bytes takes no time. -/
theorem PortSettings.transmitDuration?_zero {settings : PortSettings} {transmit : Duration}
    (h : settings.transmitDuration? 0 = some transmit) : transmit.nanos = 0 := by
  unfold PortSettings.transmitDuration? Loopback.transmitDuration? at h
  split at h
  · cases h
  · simp only [transmitUnits_zero, Nat.zero_mul, Number.halfEven_zero] at h
    split at h
    · obtain rfl := Option.some.inj h
      rfl
    · cases h

/-- The three roundings together raise the count of units to less than a hundredfold. -/
theorem transmitUnits_le (baud length : Nat) :
    transmitUnits baud length ≤ 80 * (length * Number.unitsPerOne) + 43 := by
  have hpos := Number.unitsPerOne_pos
  have hbytes := Number.nearestUnits_le length 1
  rw [Nat.div_one] at hbytes
  have hbits := Number.nearestUnits_le (10 * Number.nearestUnits length 1) Number.unitsPerOne
  rw [Nat.mul_div_cancel _ hpos] at hbits
  have hseconds := Number.nearestUnits_le
    (Number.nearestUnits (10 * Number.nearestUnits length 1) Number.unitsPerOne)
    (Number.unitsPerOne * baud)
  have hslower : ∀ bits, bits * Number.unitsPerOne / (Number.unitsPerOne * baud) ≤ bits := by
    intro bits
    rw [Nat.mul_comm bits, Nat.mul_div_mul_left _ _ hpos]
    exact Nat.div_le_self bits baud
  have := hslower (Number.nearestUnits (10 * Number.nearestUnits length 1) Number.unitsPerOne)
  simp only [transmitUnits]
  omega

/-- The three roundings together leave an eighth of the seconds, whatever the rate. -/
theorem lt_transmitUnits {baud : Nat} (hbaud : 0 < baud) (length : Nat) :
    5 * (length * Number.unitsPerOne) < 2 * ((2 * transmitUnits baud length + 1) * baud) := by
  have hpos := Number.unitsPerOne_pos
  have hbytes := Number.le_nearestUnits length 1
  rw [Nat.div_one] at hbytes
  have hbits := Number.le_nearestUnits (10 * Number.nearestUnits length 1) Number.unitsPerOne
  rw [Nat.mul_div_cancel _ hpos] at hbits
  have hseconds := Number.le_nearestUnits
    (Number.nearestUnits (10 * Number.nearestUnits length 1) Number.unitsPerOne)
    (Number.unitsPerOne * baud)
  rw [Nat.mul_comm _ Number.unitsPerOne, Nat.mul_div_mul_left _ _ hpos] at hseconds
  have hbelow := Nat.lt_mul_of_div_lt (Nat.lt_add_one_of_le hseconds) hbaud
  simp only [transmitUnits]
  omega

/-- A payload with an advisory duration has less than 2⁹⁶ bytes. -/
theorem PortSettings.length_lt_of_transmitDuration? {settings : PortSettings} {length : Nat}
    (h : (settings.transmitDuration? length).isSome = true) : length < 2 ^ 96 := by
  simp only [PortSettings.transmitDuration?, Loopback.transmitDuration?] at h
  split at h
  · cases h
  next hzero =>
    split at h
    next hlimit =>
      have hpos := Number.unitsPerOne_pos
      have hbaud : 0 < settings.baudRate.toNat :=
        Nat.pos_of_ne_zero fun hrate => hzero (UInt32.toNat_inj.1 hrate)
      have hrate : settings.baudRate.toNat < 2 ^ 32 := settings.baudRate.toNat_lt
      have hunits := lt_transmitUnits hbaud length
      -- The number of units to one is far too large to be written out.
      generalize transmitUnits settings.baudRate.toNat length = seconds at hlimit hunits
      generalize Number.unitsPerOne = one at hlimit hunits hpos
      have hseconds : 2 * seconds + 1 ≤ 2 ^ 65 * one := by
        simp only [Text.max64] at hlimit
        omega
      have hproduct := Nat.mul_le_mul hseconds (Nat.le_of_lt hrate)
      have hscaled : 5 * length * one < 2 ^ 98 * one := by
        rw [Nat.mul_assoc]
        omega
      have := Nat.lt_of_mul_lt_mul_right hscaled
      omega
    next => cases h

/-- At every rate a payload of less than 2⁵⁷ bytes has an advisory duration. -/
theorem PortSettings.transmitDuration?_isSome {settings : PortSettings} {length : Nat}
    (hbaud : settings.baudRate ≠ 0) (hlength : length < 2 ^ 57) :
    (settings.transmitDuration? length).isSome = true := by
  have hpos := Number.unitsPerOne_pos
  have hunits := transmitUnits_le settings.baudRate.toNat length
  have hscaled : length * Number.unitsPerOne ≤ (2 ^ 57 - 1) * Number.unitsPerOne :=
    Nat.mul_le_mul_right _ (by omega)
  have hlimit : transmitUnits settings.baudRate.toNat length <
      (Text.max64 + 1) * Number.unitsPerOne := by
    simp only [Text.max64]
    omega
  simp only [PortSettings.transmitDuration?, Loopback.transmitDuration?, hbaud, if_false, hlimit,
    if_true, Option.isSome_some]

end Loopback
