import Loopback.Channel.Data

/-!
# A channel as a stream of bytes

Reading waits for the first byte under the read timeout and takes what else is queued without
waiting. A stream that yields nothing is at its end if the channel was closed, and otherwise has
timed out. The longer readings repeat that one until they have what they want.
-/

namespace Loopback.Stream

/-- An operation of a stream. -/
abbrev Operation := Program IoFailure

/-- An operation of a channel, with its failures told as those of a stream. -/
def ofChannel {α : Type} (operation : Channel.Operation α) : Operation α :=
  operation.mapFailure PortFailure.toIo

/-- The failure of a read that no byte came for. -/
def timedOut : IoFailure := .custom .timedOut "loopback read timed out"

/-- Read into a buffer of `size` bytes. -/
def read : Nat → Operation (List UInt8)
  | 0 => .done []
  | size + 1 => do
    match ← ofChannel (Channel.read 1) with
    | byte :: _ =>
      let rest ← ofChannel (Channel.readAvailable size)
      pure (byte :: rest)
    | [] => if ← Program.getOpen then .fail timedOut else pure []

/-- Read exactly `missing` bytes, after those already read. Each read yields at least one, so
`limit` reads are enough if it is no less than `missing`. -/
def readExactly : (limit missing : Nat) → List UInt8 → Operation (List UInt8)
  | _, 0, taken => .done taken
  | 0, _ + 1, _ => .fail .unexpectedEnd
  | limit + 1, missing, taken => do
    match ← read missing with
    | [] => .fail .unexpectedEnd
    | bytes => readExactly limit (missing - bytes.length) (taken ++ bytes)

/-- Read exactly `size` bytes. -/
def readExact (size : Nat) : Operation (List UInt8) := readExactly size size []

/-- What a reading that may end in a failure has collected: the count or the failure, and the
bytes. -/
structure Collected where
  result : Except IoFailure Nat
  bytes : List UInt8

/-- The end of a reading that met no failure. -/
def Collected.all (bytes : List UInt8) : Collected := ⟨.ok bytes.length, bytes⟩

/-- How many bytes are asked for at a time when reading to the end. -/
def chunk : Nat := 32

/-- Read chunks until one is empty or fails; chunks already read are kept newest first. -/
def readChunks {ε : Type} : Nat → List (List UInt8) → Program ε Collected
  | 0, _ => .abort Queue.tooLarge
  | fuel + 1, taken => do
    match ← (read chunk).attempt with
    | .ok [] => pure (.all taken.reverse.flatten)
    | .ok bytes => readChunks fuel (bytes :: taken)
    | .error failure => pure ⟨.error failure, taken.reverse.flatten⟩

/-- More chunks than memory could hold. -/
def endless : Nat := Text.maxSigned64

/-- Read to the end of the stream. -/
def readToEnd {ε : Type} : Program ε Collected := readChunks endless []

/-- How many bytes are asked for at a time when reading a line. -/
def lineBuffer : Nat := 8192

/-- The octet that ends a line. -/
def newline : UInt8 := 10

/-- The bytes up to the first end of a line, and that octet, if there is one. -/
def throughNewline? (bytes : List UInt8) : Option (List UInt8) :=
  if newline ∈ bytes then some (bytes.takeWhile (· != newline) ++ [newline]) else none

/-- Read buffers until one holds the end of a line, is empty or fails. What follows the line in
the last buffer is lost. -/
def readLineBuffers {ε : Type} : Nat → List (List UInt8) → Program ε Collected
  | 0, _ => .abort Queue.tooLarge
  | fuel + 1, taken => do
    match ← (read lineBuffer).attempt with
    | .ok [] => pure (.all taken.reverse.flatten)
    | .ok bytes =>
      match throughNewline? bytes with
      | some last => pure (.all (last :: taken).reverse.flatten)
      | none => readLineBuffers fuel (bytes :: taken)
    | .error failure => pure ⟨.error failure, taken.reverse.flatten⟩

/-- Read a line through its end, by way of a buffer of its own. -/
def readLine {ε : Type} : Program ε Collected := readLineBuffers endless []

/-- Write bytes. -/
def write (data : List UInt8) : Operation Nat := ofChannel (Channel.write data)

/-- Write all bytes. A write takes all of them or fails, so one is enough, and none is made for
no bytes. -/
def writeAll (data : List UInt8) : Operation Unit :=
  if data = [] then .done ()
  else do
    let count ← write data
    if count = 0 then .fail .nothingWritten else pure ()

end Loopback.Stream
