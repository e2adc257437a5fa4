/-
Failures of the operating system and of the byte streams built on it.

An `IoError` has a kind, which decides how a caller reacts, and a text. The
text is the kind's own description, a text given by whoever raised it, or what
the operating system says about its error number.
-/

namespace Parley

/-- What went wrong with an input or output operation. -/
inductive IoErrorKind
  | notFound | permissionDenied | connectionRefused | connectionReset | connectionAborted
  | notConnected | addrInUse | addrNotAvailable | networkUnreachable | brokenPipe
  | alreadyExists | wouldBlock | notADirectory | isADirectory | invalidInput | invalidData
  | timedOut | writeZero | interrupted | unsupported | unexpectedEof | outOfMemory | other
  | uncategorized
deriving DecidableEq, Repr

namespace IoErrorKind

/-- The description of a kind. -/
def description : IoErrorKind → String
  | notFound => "entity not found"
  | permissionDenied => "permission denied"
  | connectionRefused => "connection refused"
  | connectionReset => "connection reset"
  | connectionAborted => "connection aborted"
  | notConnected => "not connected"
  | addrInUse => "address in use"
  | addrNotAvailable => "address not available"
  | networkUnreachable => "network unreachable"
  | brokenPipe => "broken pipe"
  | alreadyExists => "entity already exists"
  | wouldBlock => "operation would block"
  | notADirectory => "not a directory"
  | isADirectory => "is a directory"
  | invalidInput => "invalid input parameter"
  | invalidData => "invalid data"
  | timedOut => "timed out"
  | writeZero => "write zero"
  | interrupted => "operation interrupted"
  | unsupported => "unsupported"
  | unexpectedEof => "unexpected end of file"
  | outOfMemory => "out of memory"
  | other => "other error"
  | uncategorized => "uncategorized error"

/-- The name of a kind. -/
def name : IoErrorKind → String
  | notFound => "NotFound"
  | permissionDenied => "PermissionDenied"
  | connectionRefused => "ConnectionRefused"
  | connectionReset => "ConnectionReset"
  | connectionAborted => "ConnectionAborted"
  | notConnected => "NotConnected"
  | addrInUse => "AddrInUse"
  | addrNotAvailable => "AddrNotAvailable"
  | networkUnreachable => "NetworkUnreachable"
  | brokenPipe => "BrokenPipe"
  | alreadyExists => "AlreadyExists"
  | wouldBlock => "WouldBlock"
  | notADirectory => "NotADirectory"
  | isADirectory => "IsADirectory"
  | invalidInput => "InvalidInput"
  | invalidData => "InvalidData"
  | timedOut => "TimedOut"
  | writeZero => "WriteZero"
  | interrupted => "Interrupted"
  | unsupported => "Unsupported"
  | unexpectedEof => "UnexpectedEof"
  | outOfMemory => "OutOfMemory"
  | other => "Other"
  | uncategorized => "Uncategorized"

/-- All kinds. -/
def all : List IoErrorKind :=
  [notFound, permissionDenied, connectionRefused, connectionReset, connectionAborted,
    notConnected, addrInUse, addrNotAvailable, networkUnreachable, brokenPipe, alreadyExists,
    wouldBlock, notADirectory, isADirectory, invalidInput, invalidData, timedOut, writeZero,
    interrupted, unsupported, unexpectedEof, outOfMemory, other, uncategorized]

/-- The kind with a given name. -/
def ofName? (name : String) : Option IoErrorKind := all.find? (·.name == name)

end IoErrorKind

/-- A failed input or output operation. -/
structure IoError where
  kind : IoErrorKind
  text : String
deriving DecidableEq, Repr

namespace IoError

/-- An error that says no more than its kind. -/
def ofKind (kind : IoErrorKind) : IoError :=
  ⟨kind, kind.description⟩

/-- The kind and the description of an error number of the operating system. -/
def numbered : Nat → IoErrorKind × String
  | 1 => (.permissionDenied, "Operation not permitted")
  | 2 => (.notFound, "No such file or directory")
  | 4 => (.interrupted, "Interrupted system call")
  | 11 => (.wouldBlock, "Resource temporarily unavailable")
  | 12 => (.outOfMemory, "Cannot allocate memory")
  | 13 => (.permissionDenied, "Permission denied")
  | 17 => (.alreadyExists, "File exists")
  | 20 => (.notADirectory, "Not a directory")
  | 21 => (.isADirectory, "Is a directory")
  | 22 => (.invalidInput, "Invalid argument")
  | 32 => (.brokenPipe, "Broken pipe")
  | 95 => (.unsupported, "Operation not supported")
  | 98 => (.addrInUse, "Address already in use")
  | 99 => (.addrNotAvailable, "Cannot assign requested address")
  | 101 => (.networkUnreachable, "Network is unreachable")
  | 103 => (.connectionAborted, "Software caused connection abort")
  | 104 => (.connectionReset, "Connection reset by peer")
  | 107 => (.notConnected, "Transport endpoint is not connected")
  | 110 => (.timedOut, "Connection timed out")
  | 111 => (.connectionRefused, "Connection refused")
  | n => (.uncategorized, "Unknown error " ++ toString n)

/-- The error that the operating system reports under a number. -/
def ofNumber (n : Nat) : IoError :=
  ⟨(numbered n).1, (numbered n).2 ++ " (os error " ++ toString n ++ ")"⟩

end IoError

end Parley
