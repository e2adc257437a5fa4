/-
Hosts: the sockets that can be reached through paths.

A host knows the files of a directory. A socket is bound by making a file for
it, in place of a socket that was there before but of nothing else, and the
file goes when the socket does unless something else has taken its place. The
host has no network: its TCP addresses can be neither bound nor reached.
-/
import Parley.Transport.Endpoint

namespace Parley

/-- What a path leads to. -/
inductive FileKind
  | regular
  | directory
  /-- A socket with an identity of its own. -/
  | socket (id : Nat) (listening : Bool)
deriving DecidableEq, Repr

/-- The files of a directory, by the parts of their paths. -/
structure Host where
  files : List (Endpoint.PathParts × FileKind) := []
  nextSocket : Nat := 0

/-- A bound socket. -/
structure BoundSocket where
  path : String
  id : Nat
deriving DecidableEq, Repr

namespace Host

/-- Paths of sockets are shorter than this many bytes. -/
def pathLimit : Nat := 108

/-- Only the owner can connect to a socket. -/
def socketMode : String := "600"

/-- The parts of a path that decide where it leads. -/
def place (path : String) : Endpoint.PathParts := { Endpoint.pathParts path with dotted := false }

/-- What is at a place. The directory itself is there, and those above it. -/
def at? (h : Host) (parts : Endpoint.PathParts) : Option FileKind :=
  if parts.names.all (· = ['.', '.']) then some .directory else h.files.lookup parts

/-- What a path leads to. A slash at the end of a path leads to directories alone. -/
def find? (h : Host) (path : String) : Option FileKind :=
  if path.isEmpty then none
  else
    match h.at? (place path) with
    | some .directory => some .directory
    | found => if path.toList.getLast? = some '/' then none else found

/-- Puts a file at a path. -/
def put (h : Host) (path : String) (kind : FileKind) : Host :=
  { h with files := (place path, kind) :: h.files.filter (·.1 ≠ place path) }

/-- Takes away what is at a path. -/
def remove (h : Host) (path : String) : Host :=
  { h with files := h.files.filter (·.1 ≠ place path) }

/-- What the directory of a path is. -/
def parent? (h : Host) (path : String) : Option FileKind :=
  h.at? { place path with names := (place path).names.dropLast }

/-- Why nothing can be made or found at a path where nothing is: the directory
is missing, or it is none, or else just nothing is there. -/
def missing (h : Host) (path : String) : IoError :=
  match h.parent? path with
  | none | some .directory => .ofNumber 2
  | some _ => .ofNumber 20

/-- Whether a file can be made at a path where nothing is. -/
def hasParent (h : Host) (path : String) : Bool :=
  !path.isEmpty && path.toList.getLast? != some '/' && h.parent? path == some .directory

/-- A path has no zero character in it. One that starts with it names a socket
without a file. -/
def zeroFault? (path : String) : Option IoError :=
  match path.toList with
  | '\x00' :: _ => some ⟨.invalidInput, "file name contained an unexpected NUL byte"⟩
  | cs =>
    if '\x00' ∈ cs then some ⟨.invalidInput, "paths must not contain interior null bytes"⟩
    else none

/-- Binds a socket to a path. -/
def bind (h : Host) (path : String) : Except TransportError (BoundSocket × Host) :=
  let fail (e : IoError) := .error (.bind (Endpoint.unix path).display e)
  if pathLimit ≤ path.utf8ByteSize then .error (.pathTooLong path path.utf8ByteSize pathLimit)
  else
    let bound := fun _ : Unit =>
      .ok (⟨path, h.nextSocket⟩,
        { h.put path (.socket h.nextSocket true) with nextSocket := h.nextSocket + 1 })
    match h.find? path with
    | some (.socket _ _) => bound ()
    | some _ => fail ⟨.alreadyExists, "existing path is not a unix socket"⟩
    | none =>
      match zeroFault? path with
      | some e => fail e
      | none => if h.hasParent path then bound () else fail (h.missing path)

/-- Connects to an endpoint. Yields the identity of the socket that listens there. -/
def connect (h : Host) : Endpoint → Except TransportError Nat
  | .tcp address => .error (.connect (Endpoint.tcp address).display (.ofNumber 101))
  | .unix path =>
    let fail (e : IoError) := .error (.connect (Endpoint.unix path).display e)
    if pathLimit ≤ path.utf8ByteSize then
      fail ⟨.invalidInput, "path must be shorter than SUN_LEN"⟩
    else if path.isEmpty then fail (.ofNumber 22)
    else
      match h.find? path with
      | some (.socket id true) => .ok id
      | some _ => fail (.ofNumber 111)
      | none => fail (h.missing path)

/-- Binds a listener to an endpoint. -/
def listen (h : Host) : Endpoint → Except TransportError (BoundSocket × Host)
  | .tcp address => .error (.bind (Endpoint.tcp address).display (.ofNumber 99))
  | .unix path => h.bind path

/-- Lets go of a bound socket. -/
def release (h : Host) (s : BoundSocket) : Host :=
  match h.find? s.path with
  | some (.socket id _) => if id = s.id then h.remove s.path else h
  | _ => h

end Host

/-! ### Listings -/

/-- A listener as listings show it. -/
def BoundSocket.describe (s : BoundSocket) : String :=
  "IpcListener \x7b endpoint: " ++ Text.quoted (Endpoint.unix s.path).display ++ " \x7d"

/-- A connection over a socket as listings show it. -/
def socketStream : String := "IpcStream \x7b type: \"unix\" \x7d"

/-- The process at the other end of a socket as it is named in reports. -/
def peerLabel (process user : Nat) : String := s!"unix:pid={process},uid={user}"

end Parley
