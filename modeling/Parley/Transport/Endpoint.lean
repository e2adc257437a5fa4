/-
Endpoints: where an agent listens and a controller connects.

An endpoint is a host and port, or the path of a socket in the file system.
`Endpoint.parse` reads several spellings of either, and `Endpoint.display`
writes one. Two paths name the same socket if they have the same parts, so
repeated slashes and parts that stay in place make no difference.
-/
import Parley.Text.Blank
import Parley.Text.Decimal
import Parley.Transport.Error

namespace Parley

/-- Where an agent listens. -/
inductive Endpoint
  /-- A host and a port, separated by a colon. -/
  | tcp (address : String)
  /-- The path of a socket. -/
  | unix (path : String)
deriving DecidableEq, Repr

/-- What remains of a text behind a beginning, if it has that beginning. -/
def Text.after? : (beginning : List Char) → List Char → Option (List Char)
  | [], cs => some cs
  | _ :: _, [] => none
  | b :: bs, c :: cs => if b = c then Text.after? bs cs else none

/-- Whether a text occurs in another one. -/
def Text.occursIn (part : List Char) : List Char → Bool
  | [] => part.isEmpty
  | c :: cs => (Text.after? part (c :: cs)).isSome || Text.occursIn part cs

/-- What stands before and behind the last occurrence of a character. -/
def Text.splitLast? (mark : Char) : List Char → Option (List Char × List Char)
  | [] => none
  | c :: cs =>
    match Text.splitLast? mark cs with
    | some (before, behind) => some (c :: before, behind)
    | none => if c = mark then some ([], cs) else none

namespace Endpoint

/-- The port of an agent unless told otherwise. -/
def defaultPort : Nat := 25252

/-- The endpoint of a port on this host. -/
def localhost (port : Nat) : Endpoint := .tcp ("127.0.0.1:" ++ toString port)

/-- The endpoint of an agent unless told otherwise. -/
def standard : Endpoint := localhost defaultPort

/-- The kind of transport that reaches an endpoint. -/
def transportName : Endpoint → String
  | tcp _ => "tcp"
  | unix _ => "unix-domain-socket"

/-- An endpoint as it is displayed. -/
def display : Endpoint → String
  | tcp address => "tcp://" ++ address
  | unix path => "unix:" ++ path

/-- Reads a host and a port. -/
def parseAddress (cs : List Char) : Except EndpointFault Endpoint :=
  match Text.splitLast? ':' cs with
  | none => .error .missingPort
  | some ([], _) => .error .missingHost
  | some (_, port) =>
    match Text.number? Text.maxU16 port with
    | some _ => .ok (.tcp (String.ofList cs))
    | none => .error .badPort

/-- Reads the path behind `unix:`, which may follow two slashes. -/
def parsePath (cs : List Char) : Except EndpointFault Endpoint :=
  let path := (Text.after? ['/', '/'] cs).getD cs
  if path.isEmpty then .error .missingPath else .ok (.unix (String.ofList path))

/-- Reads an endpoint without blanks at its ends. A scheme decides what it
is; without one, a slash or a dot in front makes it a path. -/
def parseTrimmed (cs : List Char) : Except EndpointFault Endpoint :=
  if cs.isEmpty then .error .empty
  else if let some address := Text.after? "tcp://".toList cs then parseAddress address
  else if let some path := Text.after? "unix:".toList cs then parsePath path
  else if Text.occursIn "://".toList cs then .error .unknownScheme
  else if cs.head? = some '/' ∨ cs.head? = some '.' then .ok (.unix (String.ofList cs))
  else parseAddress cs

/-- Reads an endpoint. -/
def parse (input : String) : Except TransportError Endpoint :=
  match parseTrimmed (Text.trimmed input.toList) with
  | .ok e => .ok e
  | .error fault => .error (.invalidEndpoint input fault)

/-! ### Sameness -/

/-- The parts of a path: whether it starts at the root, whether it starts with
a dot of its own, and the names on the way. -/
structure PathParts where
  absolute : Bool
  dotted : Bool
  names : List (List Char)
deriving DecidableEq

/-- The texts between the slashes of a path. -/
def segments : List Char → List (List Char)
  | [] => [[]]
  | c :: cs =>
    match segments cs with
    | [] => [[c]]
    | first :: rest => if c = '/' then [] :: first :: rest else (c :: first) :: rest

/-- The parts of a path. -/
def pathParts (path : String) : PathParts :=
  let parts := segments path.toList
  let absolute := path.toList.head? = some '/'
  { absolute
    dotted := !absolute && parts.head? = some ['.']
    names := parts.filter fun s => !(s.isEmpty || s = ['.']) }

/-- Whether two endpoints are the same: equal addresses, or paths with equal parts. -/
def same : Endpoint → Endpoint → Bool
  | tcp a, tcp b => a == b
  | unix p, unix q => pathParts p == pathParts q
  | _, _ => false

end Endpoint

end Parley
