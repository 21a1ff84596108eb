/-!
# UTF-8 text and octets

Encoding is the standard one. Decoding here never fails: each maximal run of octets that
starts a character and is then cut off stands for one replacement character, and so does each
octet that can start none. The strict reading `decode?` accepts exactly the encodings.
-/

namespace Loopback.Text.Utf8

/-- The octets of a text. -/
def encode (text : List Char) : List UInt8 :=
  text.flatMap String.utf8EncodeChar

/-- What stands for octets that are no character. -/
def replacement : Char := '\ufffd'

/-- A character that has begun: its value so far, how many octets it still owes, and the least
and greatest next octet. -/
structure Begun where
  value : Nat
  owed : Nat
  low : Nat
  high : Nat
deriving DecidableEq, Repr

/-- Read an octet where a character may start: the characters it settles, and one it begins. -/
def first (octet : UInt8) : List Char × Option Begun :=
  let b := octet.toNat
  if b ≤ 0x7f then ([Char.ofNat b], none)
  else if 0xc2 ≤ b ∧ b ≤ 0xdf then ([], some ⟨b - 0xc0, 1, 0x80, 0xbf⟩)
  else if b = 0xe0 then ([], some ⟨0, 2, 0xa0, 0xbf⟩)
  else if b = 0xed then ([], some ⟨0xd, 2, 0x80, 0x9f⟩)
  else if 0xe1 ≤ b ∧ b ≤ 0xef then ([], some ⟨b - 0xe0, 2, 0x80, 0xbf⟩)
  else if b = 0xf0 then ([], some ⟨0, 3, 0x90, 0xbf⟩)
  else if 0xf1 ≤ b ∧ b ≤ 0xf3 then ([], some ⟨b - 0xf0, 3, 0x80, 0xbf⟩)
  else if b = 0xf4 then ([], some ⟨4, 3, 0x80, 0x8f⟩)
  else ([replacement], none)

/-- Read one octet. An octet that does not fit the character begun ends it, and is then read as
a first octet. -/
def step : Option Begun → UInt8 → List Char × Option Begun
  | none, octet => first octet
  | some c, octet =>
    let b := octet.toNat
    if c.low ≤ b ∧ b ≤ c.high then
      let value := c.value * 64 + (b - 0x80)
      if c.owed = 1 then ([Char.ofNat value], none)
      else ([], some ⟨value, c.owed - 1, 0x80, 0xbf⟩)
    else
      let (chars, begun) := first octet
      (replacement :: chars, begun)

/-- Read octets from between characters or from within one. -/
def read : Option Begun → List UInt8 → List Char
  | none, [] => []
  | some _, [] => [replacement]
  | begun, octet :: rest =>
    let (chars, next) := step begun octet
    chars ++ read next rest

/-- The text of any octets, with a replacement character for each ill-formed run. -/
def decodeLossy (octets : List UInt8) : List Char :=
  read none octets

/-- The text of octets that encode one. -/
def decode? (octets : List UInt8) : Option (List Char) :=
  if encode (decodeLossy octets) = octets then some (decodeLossy octets) else none

/-- No characters are encoded as no octets. -/
@[simp] theorem encode_nil : encode [] = [] := rfl

/-- A text is encoded as its parts are. -/
@[simp] theorem encode_append (a b : List Char) : encode (a ++ b) = encode a ++ encode b := by
  simp [encode]

/-- The first character of a text is encoded first. -/
theorem encode_cons (c : Char) (rest : List Char) :
    encode (c :: rest) = String.utf8EncodeChar c ++ encode rest := by
  simp [encode]

/-- The strict reading gives back an encoding of what it returns, never anything else. -/
theorem encode_of_decode? {octets : List UInt8} {text : List Char}
    (h : decode? octets = some text) : encode text = octets := by
  unfold decode? at h
  split at h
  · rename_i henc
    cases h
    exact henc
  · cases h

end Loopback.Text.Utf8
