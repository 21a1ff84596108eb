import Loopback.Channel.Basic

/-!
# Writing and reading

Bytes are queued one by one, and each may wait for room as long as the write timeout. They are
taken one by one, and each is waited for as long as the read timeout; a read also ends when its
own timeout, counted from its beginning, has passed, when the channel is closed, or at the mark
that closing leaves. What was queued or taken before a timeout stays so.
-/

namespace Loopback.Channel

/-- Queue bytes in turn. -/
def pushAll (session : Session) (timeout : Option Duration) : List UInt8 → Operation Unit
  | [] => .done ()
  | byte :: rest => do
    (QueueCall.push session (.byte byte) timeout).mapFailure fun _ =>
      .writeTimeout (timeout.getD .zero)
    pushAll session timeout rest

/-- What is noted when bytes have been written. -/
def writtenNote (count : Nat) (transmit : Duration) : String :=
  "write(" ++ Text.decimal count ++ " bytes), advisory " ++ transmit.text

/-- Write bytes. If they would take longer on a wire than the write timeout, nothing is queued:
the write fails after the timeout. -/
def write (data : List UInt8) : Operation Nat := do
  let session ← liveSession
  let settings ← Program.getSettings
  match settings.transmitDuration? data.length with
  | none => .abort noTransmitDuration
  | some transmit =>
    let queueAll : Operation Nat := do
      pushAll session settings.writeTimeout data
      Program.note .debug (writtenNote data.length transmit)
      pure data.length
    match settings.writeTimeout with
    | some timeout =>
      if timeout.nanos < transmit.nanos then do
        Program.sleep timeout
        .fail (.writeTimeout timeout)
      else queueAll
    | none => queueAll

/-- Whether a deadline has come. -/
def deadlinePassed (deadline : Option Duration.Instant) : Operation Bool :=
  match deadline with
  | none => .done false
  | some instant => do
    let now ← Program.getClock
    pure (instant ≤ now)

/-- Take up to so many bytes, after those already taken (newest first). -/
def takeWaiting (session : Session) (timeout : Option Duration)
    (deadline : Option Duration.Instant) : Nat → List UInt8 → Operation (List UInt8)
  | 0, taken => .done taken.reverse
  | left + 1, taken => do
    if ← Program.getOpen then
      match ← QueueCall.pop session timeout with
      | some (.byte byte) =>
        if ← deadlinePassed deadline then pure (byte :: taken).reverse
        else takeWaiting session timeout deadline left (byte :: taken)
      | some .endOfStream => pure taken.reverse
      | none => pure taken.reverse
    else pure taken.reverse

/-- Read up to `size` bytes under the read timeout. -/
def read (size : Nat) : Operation (List UInt8) := do
  let session ← liveSession
  let settings ← Program.getSettings
  let now ← Program.getClock
  takeWaiting session settings.readTimeout (Duration.deadline? now settings.readTimeout) size []

/-- Read one byte under the read timeout. -/
def readOne : Operation (Option UInt8) := do
  let bytes ← read 1
  pure bytes.head?

/-- Take up to so many bytes that are queued, after those already taken (newest first). -/
def takeQueued (session : Session) : Nat → List UInt8 → Operation (List UInt8)
  | 0, taken => .done taken.reverse
  | left + 1, taken => do
    match ← QueueCall.tryPop session with
    | some (.byte byte) => takeQueued session left (byte :: taken)
    | some .endOfStream => pure taken.reverse
    | none => pure taken.reverse

/-- Read up to `limit` bytes that are queued now. -/
def readAvailable (limit : Nat) : Operation (List UInt8) := do
  let session ← liveSession
  takeQueued session limit []

end Loopback.Channel
