import Loopback.Json.Reader
import Loopback.Main
import Loopback.Proofs.Channel.Echo
import Loopback.Proofs.Channel.Rereading
import Loopback.Proofs.Channel.Released
import Loopback.Proofs.Channel.Relocated
import Loopback.Proofs.Channel.Stranded
import Loopback.Proofs.Channel.Sending
import Loopback.Proofs.Channel.Streaming
import Loopback.Proofs.Channel.Retrying
import Loopback.Proofs.Channel.Crossing
import Loopback.Proofs.Channel.Publishing
import Loopback.Proofs.CommandLine.Overriding
import Loopback.Proofs.CommandLine.Stalled
import Loopback.Proofs.Work.Endless
import Loopback.Proofs.Work.Free
import Loopback.Proofs.Work.Holding
import Loopback.Settings.Json
import Loopback.Work.Place
import Loopback.Proofs.Work.Twins
import Loopback.Proofs.Address.Escaping
import Loopback.Proofs.Address.Grammar
import Loopback.Proofs.Config.Opening
import Loopback.Proofs.Config.Saving
import Loopback.Proofs.Config.Skipping
import Loopback.Proofs.Config.Sparing
import Loopback.Proofs.Logging.Sharing
import Loopback.Proofs.Work.Signalled
import Loopback.Proofs.Channel.Advising
import Loopback.Proofs.Work.Reporting
