import Loopback.Text.Numeral

/-!
# Durations

A length of time in whole nanoseconds. Its text uses the largest of seconds, milliseconds,
microseconds and nanoseconds of which it holds at least one, with as many places as it needs.
-/

namespace Loopback

/-- A length of time. -/
structure Duration where
  nanos : Nat
deriving DecidableEq, Repr, Inhabited

namespace Duration

/-- The nanoseconds of a second. -/
def nanosPerSecond : Nat := 1000000000

/-- The nanoseconds of a millisecond. -/
def nanosPerMilli : Nat := 1000000

/-- The greatest duration: one nanosecond short of 2⁶⁴ seconds. -/
def max : Duration := ⟨(Text.max64 + 1) * nanosPerSecond - 1⟩

/-- No time at all. -/
def zero : Duration := ⟨0⟩

/-- A duration of seconds and nanoseconds. -/
def ofParts (secs nanos : Nat) : Duration := ⟨secs * nanosPerSecond + nanos⟩

/-- A duration of milliseconds. -/
def ofMillis (millis : Nat) : Duration := ⟨millis * nanosPerMilli⟩

/-- The whole seconds. -/
def secs (d : Duration) : Nat := d.nanos / nanosPerSecond

/-- The nanoseconds past the whole seconds. -/
def subsecNanos (d : Duration) : Nat := d.nanos % nanosPerSecond

/-- The whole milliseconds, or the greatest number of 64 bits if there are more. -/
def saturatingMillis (d : Duration) : Nat := min (d.nanos / nanosPerMilli) Text.max64

/-- The digits after a decimal point: `places` of them, less the zeros at the end. -/
def fraction (places rest : Nat) : List Char :=
  ((Text.padded places rest).reverse.dropWhile (· = '0')).reverse

/-- A count of some unit of `10 ^ places` nanoseconds. -/
def inUnit (places nanos : Nat) (unit : String) : String :=
  let whole := Nat.toDigits 10 (nanos / Nat.pow 10 places)
  let places := fraction places (nanos % Nat.pow 10 places)
  let digits := if places = [] then whole else whole ++ '.' :: places
  String.ofList digits ++ unit

/-- The duration in its largest unit: `61.1s`, `1.5ms`, `10µs`, `0ns`. -/
def text (d : Duration) : String :=
  if nanosPerSecond ≤ d.nanos then inUnit 9 d.nanos "s"
  else if nanosPerMilli ≤ d.nanos then inUnit 6 d.nanos "ms"
  else if 1000 ≤ d.nanos then inUnit 3 d.nanos "µs"
  else Text.decimal d.nanos ++ "ns"

/-- An instant, counted in nanoseconds from the start of the clock. -/
abbrev Instant := Nat

/-- The seconds that an instant cannot reach. -/
def clockLimit : Nat := Text.maxSigned64 + 1

/-- The instant a duration after `now`, where the clock can hold it. -/
def after? (now : Instant) (d : Duration) : Option Instant :=
  if now + d.nanos < clockLimit * nanosPerSecond then some (now + d.nanos) else none

/-- The instant at which waiting ends: never, without a timeout or with one past the clock. -/
def deadline? (now : Instant) (timeout : Option Duration) : Option Instant :=
  timeout.bind (after? now)

/-- Milliseconds of 64 bits come back unchanged. -/
theorem saturatingMillis_ofMillis {n : Nat} (h : n ≤ Text.max64) :
    (ofMillis n).saturatingMillis = n := by
  simp [saturatingMillis, ofMillis, nanosPerMilli, h]

/-- A timeout of 2⁶³ seconds or more never ends. -/
theorem deadline?_eq_none {now : Instant} {t : Duration} (h : clockLimit ≤ t.secs) :
    deadline? now (some t) = none := by
  have hn : clockLimit * nanosPerSecond ≤ t.nanos := by
    have := Nat.div_mul_le_self t.nanos nanosPerSecond
    exact Nat.le_trans (Nat.mul_le_mul_right _ h) this
  simp only [deadline?, Option.bind_some, after?]
  exact if_neg (Nat.not_lt.2 (Nat.le_trans hn (Nat.le_add_left _ _)))

/-- What waiting ends at is the timeout after now. -/
theorem of_deadline?_eq_some {now deadline : Instant} {timeout : Option Duration}
    (h : deadline? now timeout = some deadline) : ∃ t, timeout = some t ∧ deadline = now + t.nanos := by
  obtain ⟨t, rfl, hafter⟩ := Option.bind_eq_some_iff.1 h
  unfold after? at hafter
  split at hafter
  · exact ⟨t, rfl, (Option.some.inj hafter).symm⟩
  · cases hafter

/-- A timeout past the clock stays past it. -/
theorem deadline?_eq_none_mono {now later : Instant} {timeout : Option Duration} (hle : now ≤ later)
    (h : deadline? now timeout = none) : deadline? later timeout = none := by
  cases timeout with
  | none => rfl
  | some t =>
    simp only [deadline?, Option.bind_some, after?] at h ⊢
    split at h
    · cases h
    next hlimit => exact if_neg fun hlt => hlimit (Nat.lt_of_le_of_lt (Nat.add_le_add_right hle _) hlt)

example : (Duration.ofParts 61 100000000).text = "61.1s" := by decide
example : (Duration.mk 8333333).text = "8.333333ms" := by decide

end Duration

end Loopback
