import Parley.Stream.FrameReader
import Parley.Stream.FrameWriter
import Parley.Text.Width
import Parley.Text.Blank
import Parley.Text.Decimal
import Parley.Text.Duration
import Parley.Channel.Session
import Parley.Channel.Demo
import Parley.Channel.Scene
import Parley.Transport.Endpoint
import Parley.Message.Form
import Parley.Cli.Wait
import Parley.Cli.Output
import Parley.Server.Hub
import Parley.Transport.Host
import Parley.Main
import Parley.Proofs.Stream.Reading
import Parley.Proofs.Channel.Agreement
import Parley.Proofs.Channel.Correlation
import Parley.Proofs.Channel.Waiting
import Parley.Proofs.Message.Catalog
import Parley.Proofs.Message.Fidelity
import Parley.Proofs.Stream.Writing
import Parley.Proofs.Channel.Listeners
import Parley.Proofs.Channel.Requests
import Parley.Proofs.Channel.Handles
import Parley.Proofs.Channel.Intake
import Parley.Proofs.Stream.Front
import Parley.Proofs.Channel.Hearing
import Parley.Proofs.Channel.Routing
import Parley.Proofs.Channel.Lifetime
import Parley.Proofs.Channel.Race
import Parley.Proofs.Channel.Tickets
import Parley.Proofs.Channel.Ending
import Parley.Proofs.Channel.Crossing
import Parley.Proofs.Message.Canonical
import Parley.Proofs.Server.FanOut
import Parley.Proofs.Channel.Belongings
import Parley.Proofs.Channel.Duty
import Parley.Proofs.Channel.Settlement
import Parley.Proofs.Message.Tables
import Parley.Proofs.Channel.Numbering
import Parley.Proofs.Channel.Containment
import Parley.Proofs.Frame.Delimiting
import Parley.Proofs.Frame.Encoders
import Parley.Proofs.Message.Delimiting
import Parley.Proofs.Stream.Verdict
import Parley.Proofs.Channel.Accounts
import Parley.Proofs.Channel.FailFast
import Parley.Proofs.Frame.Schemas
import Parley.Proofs.Text.Trimming
import Parley.Proofs.Transport.Spelling
import Parley.Proofs.Text.Numerals
import Parley.Proofs.Cli.Spans
import Parley.Proofs.Channel.Properties
import Parley.Proofs.Frame.Growth
import Parley.Proofs.Stream.Asking
