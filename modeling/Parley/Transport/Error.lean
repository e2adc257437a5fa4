/-
What can go wrong with endpoints and connections.
-/
import Parley.IoError
import Parley.Text.Quoted

namespace Parley

/-- Why a text names no endpoint. -/
inductive EndpointFault
  | empty
  | missingPath
  | unknownScheme
  | missingPort
  | missingHost
  | badPort
deriving DecidableEq, Repr

namespace EndpointFault

/-- The wording of each fault. -/
def reason : EndpointFault → String
  | empty => "endpoint must not be empty"
  | missingPath => "unix endpoint needs a path"
  | unknownScheme => "unsupported scheme (expected tcp:// or unix:)"
  | missingPort => "tcp endpoint needs host:port"
  | missingHost => "tcp endpoint needs a host"
  | badPort => "tcp port must be a number in 0-65535"

end EndpointFault

/-- Why a connection could not be offered, made, accepted or used. Endpoints
are given as they are displayed. -/
inductive TransportError
  | bind (endpoint : String) (error : IoError)
  | connect (endpoint : String) (error : IoError)
  | accept (error : IoError)
  | io (error : IoError)
  | pathTooLong (path : String) (length max : Nat)
  | invalidEndpoint (input : String) (fault : EndpointFault)
  | unsupported (endpoint : String)
deriving DecidableEq, Repr

namespace TransportError

/-- The name of each cause. -/
def name : TransportError → String
  | bind _ _ => "Bind"
  | connect _ _ => "Connect"
  | accept _ => "Accept"
  | io _ => "Io"
  | pathTooLong _ _ _ => "PathTooLong"
  | invalidEndpoint _ _ => "InvalidEndpoint"
  | unsupported _ => "Unsupported"

/-- The wording of each cause. -/
def message : TransportError → String
  | bind endpoint e => s!"failed to bind to {endpoint}: " ++ e.text
  | connect endpoint e => s!"failed to connect to {endpoint}: " ++ e.text
  | accept e => "failed to accept connection: " ++ e.text
  | io e => "transport I/O error: " ++ e.text
  | pathTooLong path length max =>
    s!"socket path too long ({length} bytes, max {max}): {path}"
  | invalidEndpoint input fault =>
    "invalid endpoint " ++ Text.quoted input ++ ": " ++ fault.reason
  | unsupported endpoint => s!"endpoint not supported on this platform: {endpoint}"

end TransportError

end Parley
