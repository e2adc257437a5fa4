/-
What can go wrong with frames and their payloads.

The causes fall in three groups: the stream failed (`io`, `connectionClosed`),
the bytes are not what they should be (a bad header, a payload that does not
decode exactly), or the registry does not know a type. `FrameError.message`
holds the wording of all of them.
-/
import Parley.IoError
import Parley.Bytes

namespace Parley

/-- Why a frame could not be read, written, encoded or decoded. Types are
named by their full names. -/
inductive FrameError
  | io (error : IoError)
  | connectionClosed
  | payloadTooLarge (size max : Nat)
  | negativeLength (length : Int32)
  | truncated (needed remaining : Nat)
  | invalidUtf8
  | trailingBytes (count : Nat)
  | unknownTypeId (id : Int16)
  | unknownType (name : String)
  | duplicateTypeId (id : Int16) (existing : String)
  | duplicateType (name : String)
  | typeMismatch (expected actual : String)
deriving DecidableEq, Repr

namespace FrameError

/-- The name of each cause. -/
def name : FrameError → String
  | io _ => "Io"
  | connectionClosed => "ConnectionClosed"
  | payloadTooLarge _ _ => "PayloadTooLarge"
  | negativeLength _ => "NegativeLength"
  | truncated _ _ => "Truncated"
  | invalidUtf8 => "InvalidUtf8"
  | trailingBytes _ => "TrailingBytes"
  | unknownTypeId _ => "UnknownTypeId"
  | unknownType _ => "UnknownType"
  | duplicateTypeId _ _ => "DuplicateTypeId"
  | duplicateType _ => "DuplicateType"
  | typeMismatch _ _ => "TypeMismatch"

/-- The wording of each cause. -/
def message : FrameError → String
  | io e => "frame I/O error: " ++ e.text
  | connectionClosed => "connection closed"
  | payloadTooLarge size max => s!"payload too large ({size} bytes, max {max})"
  | negativeLength n => "negative length prefix (" ++ toString n.toInt ++ ")"
  | truncated needed remaining =>
    s!"truncated payload (needed {needed} bytes, {remaining} remaining)"
  | invalidUtf8 => "string field is not valid UTF-8"
  | trailingBytes n => s!"{n} unread bytes after decoding payload"
  | unknownTypeId id => "unknown type id " ++ toString id.toInt
  | unknownType name => s!"no codec registered for {name}"
  | duplicateTypeId id existing =>
    "type id " ++ toString id.toInt ++ " already registered for " ++ existing
  | duplicateType name => s!"{name} already registered"
  | typeMismatch expected actual => s!"codec for {expected} received {actual}"

/-- The causes after which the stream can no longer be used. Every other
cause arose before a byte reached the stream. -/
def isTransportFailure : FrameError → Bool
  | io _ | connectionClosed => true
  | _ => false

end FrameError

end Parley
