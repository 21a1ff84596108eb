import Loopback.Channel.Buffers
import Loopback.Channel.Lines

/-!
# Opening and closing

Opening decodes the address, checks the settings, begins a session with an empty queue, and only
after that lowers the lines and empties the buffers. Closing puts a mark of the end into the
queue, which wakes one sleeping reader, and then rests for a while. Openings and closings exclude
one another; other operations they do not exclude.
-/

namespace Loopback.Channel

/-- What is reported when a channel has been opened. -/
def openedEvent (address : String) (capacity : Nat) : Event where
  severity := .debug
  target := Event.channelTarget
  message := "loopback channel opened"
  fields := [("port", .string address), ("capacity", .natural capacity)]

/-- What is reported when a channel has been closed. -/
def closedEvent (closeSettle : Duration) : Event where
  severity := .debug
  target := Event.channelTarget
  message := "loopback channel closed"
  fields := [("settle", .string closeSettle.text)]

/-- Open the channel, with every other opening and closing kept out. -/
def openExclusively : Operation Unit := do
  if ← Program.getOpen then .fail .alreadyOpen
  else
    .perform .dropDiagnostics
    match ← Program.perform .getAddress with
    | none => .fail .notConfigured
    | some text =>
      let address ← Program.ofExcept ((Address.parse text).mapError PortFailure.ofAddress)
      .perform (.attachDiagnostics address.logging)
      reconfigure
      let traits ← Program.getTraits
      if Queue.fitsMemory traits.capacity then
        .perform .newSession
        .perform (.setOpen true)
        setDataTerminalReady false
        setRequestToSend false
        resetInput
        resetOutput
        .perform (.report (openedEvent text traits.capacity))
      else .abort Queue.tooLarge

/-- Open the channel. -/
def openPort : Operation Unit := Program.exclusively openExclusively

/-- Close the channel, with every other opening and closing kept out. -/
def closeExclusively {ε : Type} : Program ε Unit := do
  if ← Program.getOpen then
    match ← Program.perform .getSession with
    | some session => QueueCall.append session .endOfStream
    | none => pure ()
    .perform (.setOpen false)
    Program.note .info "close()"
    let traits ← Program.getTraits
    .perform (.report (closedEvent traits.closeSettle))
    Program.sleep traits.closeSettle
  else pure ()

/-- Close the channel; one that is closed stays as it is. -/
def closePort {ε : Type} : Program ε Unit := Program.exclusively closeExclusively

/-- Give the channel another address. An open channel is closed before and opened after. -/
def setAddress (address : Option String) : Operation Unit := do
  let wasOpen ← Program.getOpen
  if wasOpen then
    closePort
    .perform (.setAddress address)
    openPort
  else .perform (.setAddress address)

end Loopback.Channel
