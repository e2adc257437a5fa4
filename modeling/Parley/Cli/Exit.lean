/-
How a command ends: with success, or with an exit code and a line that says
why not.

The exit code tells apart what a script may want to react to: that a limit of
time ran out, that the connection failed, that data were invalid, and so on.
-/
import Parley.Channel.Error

namespace Parley.Cli

/-- The ways in which a command ends. -/
inductive Exit
  | success
  | failure
  | transportError
  | permissionDenied
  | dataInvalid
  | usage
  | timeout
  | internal
deriving DecidableEq, Repr

/-- The exit code of the program. -/
def Exit.code : Exit → Nat
  | success => 0
  | failure => 1
  | transportError => 3
  | permissionDenied => 50
  | dataInvalid => 60
  | usage => 64
  | timeout => 124
  | internal => 125

/-- Why a command did not succeed. -/
structure CliError where
  exit : Exit
  message : String
deriving DecidableEq, Repr

namespace CliError

/-- An error with a text that says what was attempted. -/
def during (context : String) (exit : Exit) (text : String) : CliError :=
  ⟨exit, context ++ ": " ++ text⟩

def ofIo (context : String) (e : IoError) : CliError :=
  let exit := match e.kind with
    | .permissionDenied => .permissionDenied
    | .timedOut | .wouldBlock => .timeout
    | .connectionRefused | .connectionReset | .notFound | .addrInUse => .transportError
    | _ => .internal
  during context exit e.text

def ofTransport (context : String) : TransportError → CliError
  | .bind _ e | .connect _ e | .accept e | .io e => ofIo context e
  | .invalidEndpoint input fault =>
    during context .usage (TransportError.invalidEndpoint input fault).message
  | e => during context .transportError e.message

def ofFrame (context : String) (e : FrameError) : CliError :=
  match e with
  | .io e => ofIo context e
  | .connectionClosed => during context .transportError e.message
  | .payloadTooLarge _ _ | .negativeLength _ | .truncated _ _ | .invalidUtf8 | .trailingBytes _ =>
    during context .dataInvalid e.message
  | e => during context .internal e.message

def ofChannel (context : String) (e : ChannelError) : CliError :=
  match e with
  | .transport e => ofTransport context e
  | .frame e => ofFrame context e
  | .closed => during context .transportError e.message
  | .timeout _ => during context .timeout e.message
  | .remote _ _ => during context .failure e.message
  | .unexpectedReply _ _ => during context .dataInvalid e.message
  | e => during context .internal e.message

end CliError

end Parley.Cli
