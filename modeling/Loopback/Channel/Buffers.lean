import Loopback.Channel.Basic

/-!
# What waits to be read

Counting and dropping what is queued. Both directions of a loopback share one queue, so either
reset empties it, and nothing ever waits to be sent.
-/

namespace Loopback.Channel

/-- How many bytes wait to be read. -/
def inWaiting : Operation Nat := do
  let session ← liveSession
  let waiting ← Program.perform (.getLength session)
  Program.note .debug ("in_waiting() -> " ++ Text.decimal waiting)
  pure waiting

/-- How many bytes wait to be sent: none. -/
def outWaiting : Operation Nat := do
  let _ ← liveSession
  pure 0

/-- Drop what waits to be read. -/
def resetInput : Operation Unit := do
  let session ← liveSession
  Program.note .info "reset_input_buffer()"
  let _ ← QueueCall.clear session
  pure ()

/-- Drop what waits to be sent, which is the same. -/
def resetOutput : Operation Unit := do
  let session ← liveSession
  Program.note .info "reset_output_buffer()"
  let _ ← QueueCall.clear session
  pure ()

/-- Wait until everything is sent, which it always is. -/
def flush : Operation Unit := do
  let _ ← liveSession
  pure ()

end Loopback.Channel
