/-
The messages of a conversation.

A controller sends requests; each type of request has exactly one type of
reply. Any request may instead be answered by a failure, and either side may
broadcast without being asked. A message is a type together with a payload of
that type, so a reply of the wrong type cannot pass for another one.
-/
import Parley.Message.Data
import Parley.Message.PropertyTable

namespace Parley

/-! ### Types -/

/-- What a controller can ask for. -/
inductive RequestType
  | ping
  | getProperties
  | setProperty
  | getClassLoaders
  | getLoaderClasses
  | getClass
  | redefine
  | getField
  | setField
  | getThreads
deriving DecidableEq, Repr

/-- What is announced without being asked for. -/
inductive BroadcastType
  | loaderDiscovered
  | classUpdated
deriving DecidableEq, Repr

/-- The type of a message. `reply r` is the type of the answers to `request r`. -/
inductive MessageType
  | failure
  | request (type : RequestType)
  | reply (type : RequestType)
  | broadcast (type : BroadcastType)
deriving DecidableEq, Repr

/-- The part that a message plays in a conversation. -/
inductive MessageKind
  | request
  | reply
  | broadcast
deriving DecidableEq, Repr

/-- The word for each kind. -/
def MessageKind.name : MessageKind → String
  | request => "request"
  | reply => "reply"
  | broadcast => "broadcast"

/-- A failure is a reply. -/
def MessageType.kind : MessageType → MessageKind
  | failure => .reply
  | request _ => .request
  | reply _ => .reply
  | broadcast _ => .broadcast

/-! ### Payloads -/

/-- Why a request could not be answered. -/
structure Failure where
  /-- The wire type id of the request. -/
  requestType : Int16
  message : String
deriving DecidableEq

/-- Asks for a property to be set. -/
structure SetProperty where
  key : String
  value : String
deriving DecidableEq

/-- Asks for the code of one class. -/
structure GetClass where
  loader : Int32
  name : String
deriving DecidableEq

/-- Asks for the code of a class to be replaced. -/
structure Redefine where
  loader : Int32
  name : String
  code : Bytes
deriving DecidableEq

/-- Asks for a field to be set. -/
structure SetField where
  member : Member
  value : String
deriving DecidableEq

/-- The names of the classes of a loader. -/
structure LoaderClasses where
  loader : Int32
  classes : List String
deriving DecidableEq

/-- Whether something was done: `success`, or the reason why not. -/
structure Status where
  text : String
deriving DecidableEq

/-- The value of a field as text. -/
structure FieldValue where
  member : Member
  value : String
deriving DecidableEq

namespace Status

/-- The status of something that was done. -/
def success : Status := ⟨"."⟩

def isSuccess (s : Status) : Bool := s == success

end Status

namespace FieldValue

/-- The value of a field that could not be read. -/
def unknown (member : Member) : FieldValue := ⟨member, "?"⟩

def isUnknown (v : FieldValue) : Bool := v == unknown v.member

end FieldValue

/-- What a request says beyond its type. -/
@[reducible] def RequestType.Payload : RequestType → Type
  | ping => Unit
  | getProperties => Unit
  | setProperty => SetProperty
  | getClassLoaders => Unit
  | getLoaderClasses => Int32
  | getClass => GetClass
  | redefine => Redefine
  | getField => Member
  | setField => SetField
  | getThreads => Unit

/-- What the answer to a request says. -/
@[reducible] def RequestType.Reply : RequestType → Type
  | ping => Unit
  | getProperties => PropertyTable
  | setProperty => Unit
  | getClassLoaders => List LoaderInfo
  | getLoaderClasses => LoaderClasses
  | getClass => Option ClassData
  | redefine => Status
  | getField => FieldValue
  | setField => Status
  | getThreads => List ThreadInfo

/-- What a broadcast says. -/
@[reducible] def BroadcastType.Payload : BroadcastType → Type
  | loaderDiscovered => LoaderInfo
  | classUpdated => ClassData

/-- What a message says beyond its type. -/
@[reducible] def MessageType.Payload : MessageType → Type
  | failure => Failure
  | request r => r.Payload
  | reply r => r.Reply
  | broadcast b => b.Payload

instance (r : RequestType) : DecidableEq r.Payload := by
  cases r <;> unfold RequestType.Payload <;> infer_instance

instance (r : RequestType) : DecidableEq r.Reply := by
  cases r <;> unfold RequestType.Reply <;> infer_instance

instance (b : BroadcastType) : DecidableEq b.Payload := by
  cases b <;> unfold BroadcastType.Payload <;> infer_instance

instance (t : MessageType) : DecidableEq t.Payload := by
  cases t <;> unfold MessageType.Payload <;> infer_instance

/-- A message: a type and a payload of that type. -/
structure Message where
  type : MessageType
  payload : type.Payload
deriving DecidableEq

namespace Message

/-- A request. -/
def request (r : RequestType) (payload : r.Payload) : Message := ⟨.request r, payload⟩

/-- The answer to a request of type `r`. -/
def reply (r : RequestType) (payload : r.Reply) : Message := ⟨.reply r, payload⟩

/-- The failure to answer a request with the given wire type id. -/
def failure (requestType : Int16) (text : String) : Message := ⟨.failure, ⟨requestType, text⟩⟩

def kind (m : Message) : MessageKind := m.type.kind

end Message

/-! ### Names and wire ids -/

namespace RequestType

/-- All requests, in the order in which the catalog lists them. -/
def all : List RequestType :=
  [ping, getProperties, setProperty, getClassLoaders, getLoaderClasses, getClass, redefine,
    getField, setField, getThreads]

/-- The name of a request. -/
def name : RequestType → String
  | ping => "Ping"
  | getProperties => "GetProperties"
  | setProperty => "SetProperty"
  | getClassLoaders => "GetClassLoaders"
  | getLoaderClasses => "GetLoaderClasses"
  | getClass => "GetClass"
  | redefine => "Redefine"
  | getField => "GetField"
  | setField => "SetField"
  | getThreads => "GetThreads"

/-- The name of the answer to a request. -/
def replyName : RequestType → String
  | ping => "Pong"
  | getProperties => "Properties"
  | setProperty => "SetPropertyAck"
  | getClassLoaders => "ClassLoaders"
  | getLoaderClasses => "LoaderClasses"
  | getClass => "ClassReply"
  | redefine => "RedefineAck"
  | getField => "FieldValue"
  | setField => "FieldSetAck"
  | getThreads => "Threads"

/-- The wire type id of a request. -/
def wireId : RequestType → Int16
  | ping => 100
  | getProperties => 101
  | setProperty => 102
  | getClassLoaders => 110
  | getLoaderClasses => 111
  | getClass => 112
  | redefine => 113
  | getField => 114
  | setField => 115
  | getThreads => 116

/-- The wire type id of the answer: that of the request plus one hundred. -/
def replyWireId (r : RequestType) : Int16 := r.wireId + 100

end RequestType

namespace BroadcastType

def all : List BroadcastType := [loaderDiscovered, classUpdated]

def name : BroadcastType → String
  | loaderDiscovered => "LoaderDiscovered"
  | classUpdated => "ClassUpdated"

def wireId : BroadcastType → Int16
  | loaderDiscovered => 300
  | classUpdated => 301

end BroadcastType

/-- The wire type id of failures. It is the same on every connection. -/
def failureWireId : Int16 := 1

namespace MessageType

/-- The name of a type without the module it belongs to. -/
def shortName : MessageType → String
  | failure => "Failure"
  | request r => r.name
  | reply r => r.replyName
  | broadcast b => b.name

/-- The full name of a type, as it appears in error texts and listings. -/
def name : MessageType → String
  | failure => "agentwire_frame::message::Failure"
  | request r => "agentwire_message::request::" ++ r.name
  | reply r => "agentwire_message::reply::" ++ r.replyName
  | broadcast b => "agentwire_message::broadcast::" ++ b.name

/-- The wire type id that the catalog gives to a type. -/
def wireId : MessageType → Int16
  | failure => failureWireId
  | request r => r.wireId
  | reply r => r.replyWireId
  | broadcast b => b.wireId

/-- The types of the catalog: each request with its answer, then the broadcasts. -/
def catalog : List MessageType :=
  RequestType.all.flatMap (fun r => [request r, reply r]) ++ BroadcastType.all.map broadcast

/-- All types. -/
def all : List MessageType := failure :: catalog

/-- The type with a given short name. -/
def ofShortName? (name : String) : Option MessageType :=
  all.find? (·.shortName == name)

end MessageType

/-- The full name of a message's type. -/
def Message.typeName (m : Message) : String := m.type.name

end Parley
