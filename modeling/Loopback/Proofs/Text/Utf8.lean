import Loopback.Text.Utf8
import Mathlib.Tactic.IntervalCases

/-!
# Reading back what was encoded

The lenient reading of an encoding is the text that was encoded, whatever its characters, and so the strict
reading accepts it. Each octet of a character but the last leaves the reader within that character, with
the part of its number that has been read so far.
-/

namespace Loopback.Text.Utf8

variable {low high value : Nat} {octet : UInt8} {rest : List UInt8}

/-- The last octet of a character ends it. -/
theorem read_last (hlow : low ≤ octet.toNat) (hhigh : octet.toNat ≤ high) :
    read (some ⟨value, 1, low, high⟩) (octet :: rest) =
      Char.ofNat (value * 64 + (octet.toNat - 0x80)) :: read none rest := by
  simp [read, step, hlow, hhigh]

/-- Any other octet after the first leaves the reader within the character. -/
theorem read_further {owed : Nat} (hlow : low ≤ octet.toNat) (hhigh : octet.toNat ≤ high) :
    read (some ⟨value, owed + 2, low, high⟩) (octet :: rest) =
      read (some ⟨value * 64 + (octet.toNat - 0x80), owed + 1, 0x80, 0xbf⟩) rest := by
  simp [read, step, hlow, hhigh]

/-- The bounds that the first octet of a character sets to the second. -/
theorem first_of_three {lead : Nat} (hlead : lead < 16) :
    ∃ low high, first (UInt8.ofNat (lead + 224)) = ([], some ⟨lead, 2, low, high⟩) ∧
      (low = if lead = 0 then 0xa0 else 0x80) ∧ high = if lead = 13 then 0x9f else 0xbf := by
  interval_cases lead <;> exact ⟨_, _, rfl, rfl, rfl⟩

/-- The first octet of four says what may follow it, so that no character is written too long and none is too
great. -/
theorem first_of_four {lead : Nat} (hlead : lead < 5) :
    ∃ low high, first (UInt8.ofNat (lead + 240)) = ([], some ⟨lead, 3, low, high⟩) ∧
      (low = if lead = 0 then 0x90 else 0x80) ∧ high = if lead = 4 then 0x8f else 0xbf := by
  interval_cases lead <;> exact ⟨_, _, rfl, rfl, rfl⟩

/-- The first octet of two says that one more is to follow. -/
theorem first_of_two {lead : Nat} (hlow : 2 ≤ lead) (hhigh : lead < 32) :
    first (UInt8.ofNat (lead + 192)) = ([], some ⟨lead, 1, 0x80, 0xbf⟩) := by
  interval_cases lead <;> rfl

/-- An octet that begins a character leaves the reader within it. -/
theorem read_first {begun : Begun} (h : first octet = ([], some begun)) :
    read none (octet :: rest) = read (some begun) rest := by
  simp [read, step, h]

/-- A number below 256 is that of an octet. -/
theorem toNat_octet {n : Nat} (h : n < 256) : (UInt8.ofNat n).toNat = n := by
  simp [Nat.mod_eq_of_lt h]

/-- The octets of a character are read as that character. -/
theorem read_encodeChar (c : Char) (rest : List UInt8) :
    read none (String.utf8EncodeChar c ++ rest) = c :: read none rest := by
  have hvalid : c.toNat < 0xd800 ∨ 0xdfff < c.toNat ∧ c.toNat < 0x110000 := c.valid
  have hchar : ∀ n, n = c.toNat → Char.ofNat n = c := by
    rintro n rfl
    exact Char.ofNat_toNat c
  unfold String.utf8EncodeChar
  simp only [show c.val.toNat = c.toNat from rfl]
  generalize c.toNat = n at hvalid hchar
  -- By the number of octets. Of three and of four, the second one has bounds that depend on the first.
  split_ifs with hone htwo hthree
  · have hoctet : (UInt8.ofNat n).toNat = n := toNat_octet (by omega)
    have hfirst : first (UInt8.ofNat n) = ([c], none) := by simp [first, hoctet, hone, hchar]
    simp [read, step, hfirst]
  · have hlast : (UInt8.ofNat (n % 64 + 128)).toNat = n % 64 + 128 := toNat_octet (by omega)
    rw [List.cons_append, read_first (first_of_two (by omega) (by omega)), List.cons_append,
      read_last (by omega) (by omega), hchar _ (by omega), List.nil_append]
  · have hsecond : (UInt8.ofNat (n / 64 % 64 + 128)).toNat = n / 64 % 64 + 128 := toNat_octet (by omega)
    have hlast : (UInt8.ofNat (n % 64 + 128)).toNat = n % 64 + 128 := toNat_octet (by omega)
    obtain ⟨low, high, hfirst, hlow, hhigh⟩ := first_of_three (show n / 4096 % 16 < 16 by omega)
    have hlow' : low ≤ n / 64 % 64 + 128 := by split at hlow <;> omega
    have hhigh' : n / 64 % 64 + 128 ≤ high := by split at hhigh <;> omega
    rw [List.cons_append, read_first hfirst, List.cons_append, read_further (by omega) (by omega),
      List.cons_append, read_last (by omega) (by omega), hchar _ (by omega), List.nil_append]
  · have hsecond : (UInt8.ofNat (n / 4096 % 64 + 128)).toNat = n / 4096 % 64 + 128 := toNat_octet (by omega)
    have hthird : (UInt8.ofNat (n / 64 % 64 + 128)).toNat = n / 64 % 64 + 128 := toNat_octet (by omega)
    have hlast : (UInt8.ofNat (n % 64 + 128)).toNat = n % 64 + 128 := toNat_octet (by omega)
    obtain ⟨low, high, hfirst, hlow, hhigh⟩ := first_of_four (show n / 262144 % 8 < 5 by omega)
    have hlow' : low ≤ n / 4096 % 64 + 128 := by split at hlow <;> omega
    have hhigh' : n / 4096 % 64 + 128 ≤ high := by split at hhigh <;> omega
    rw [List.cons_append, read_first hfirst, List.cons_append, read_further (by omega) (by omega),
      List.cons_append, read_further (by omega) (by omega), List.cons_append,
      read_last (by omega) (by omega), hchar _ (by omega), List.nil_append]

/-- Encoding a text and reading that leniently gives the text back. -/
@[simp] theorem decodeLossy_encode (text : List Char) : decodeLossy (encode text) = text := by
  induction text with
  | nil => rfl
  | cons c rest ih => rw [encode_cons, decodeLossy, read_encodeChar, ← decodeLossy, ih]

/-- The strict reading accepts the encodings, and nothing else. -/
theorem decode?_eq_some_iff {octets : List UInt8} {text : List Char} :
    decode? octets = some text ↔ octets = encode text := by
  constructor
  · intro h
    exact (encode_of_decode? h).symm
  · rintro rfl
    simp [decode?]

end Loopback.Text.Utf8
