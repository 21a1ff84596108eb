import Loopback.CommandLine.Echo
import Loopback.Json.Printer

/-!
# The report of an echo

What the command tells of an echo: how much was sent and received, what was received, and whether
that was the message. It is told in sentences or as an object.
-/

namespace Loopback.CommandLine

/-- The report of an echo. -/
structure Report where
  sent : Nat
  received : Nat
  isMatch : Bool
  echo : String
  elapsed : Duration
  status : ChannelStatus

namespace Report

/-- The report of how a message fared. -/
def ofExchange (message : List UInt8) (exchange : Exchange) : Report where
  sent := exchange.echo.sent
  received := exchange.echo.received.length
  isMatch := exchange.echo.received == message
  echo := String.ofList (Text.Utf8.decodeLossy exchange.echo.received)
  elapsed := exchange.elapsed
  status := exchange.status

/-- The report in sentences. -/
def text (r : Report) : String :=
  "sent " ++ Text.decimal r.sent ++ " bytes, received " ++ Text.decimal r.received ++
    " bytes in " ++ r.elapsed.text ++ "\necho: " ++ r.echo ++ "\n" ++
    (if r.isMatch then "" else "echo did not match the message\n")

/-- The report as an object. -/
def toJson (r : Report) : Json :=
  .object [
    ("sent", .natural r.sent),
    ("received", .natural r.received),
    ("matched", .bool r.isMatch),
    ("echo", .string r.echo),
    ("elapsed_ms", .natural r.elapsed.saturatingMillis),
    ("status", r.status.toJson)]

end Report

end Loopback.CommandLine
