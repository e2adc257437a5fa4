/-
The layouts of the messages.

A message's payload is laid out by the codec of its type, `MessageType.codec`.
Two layouts do not say everything about their value: the answer to a request
for a class says whether code follows, so a class without code reads back as
none at all, and properties are a list of pairs in which a later value for a
key replaces an earlier one. `Message.normalForm` is what a message reads back
as.
-/
import Parley.Message.Basic

namespace Parley

namespace Codec

def failure : Codec Failure :=
  (i16.pair text).map (fun (requestType, message) => ⟨requestType, message⟩)
    fun f => (f.requestType, f.message)

def setProperty : Codec SetProperty :=
  (text.pair text).map (fun (key, value) => ⟨key, value⟩) fun p => (p.key, p.value)

def getClass : Codec GetClass :=
  (i32.pair text).map (fun (loader, name) => ⟨loader, name⟩) fun g => (g.loader, g.name)

def redefine : Codec Redefine :=
  (i32.pair (text.pair blob)).map (fun (loader, name, code) => ⟨loader, name, code⟩)
    fun r => (r.loader, r.name, r.code)

def setField : Codec SetField :=
  (member.pair text).map (fun (member, value) => ⟨member, value⟩) fun s => (s.member, s.value)

/-- Pairs in the order of the table; on reading the last value for a key counts. -/
def properties : Codec PropertyTable :=
  (text.pair text).list.map PropertyTable.ofList PropertyTable.entries

def loaderClasses : Codec LoaderClasses :=
  (i32.pair text.list).map (fun (loader, classes) => ⟨loader, classes⟩)
    fun l => (l.loader, l.classes)

/-- Whether a class follows, and the class if it has code. -/
def classReply : Codec (Option ClassData) where
  fields
    | some d => if d.hasCode then .bool true :: classData.fields d else [.bool false]
    | none => [.bool false]
  read := do
    if ← bool.read then return some (← classData.read) else return none

def status : Codec Status :=
  text.map (fun s => ⟨s⟩) Status.text

def fieldValue : Codec FieldValue :=
  (member.pair text).map (fun (member, value) => ⟨member, value⟩) fun v => (v.member, v.value)

end Codec

/-- The layout of a request. -/
def RequestType.codec : (r : RequestType) → Codec r.Payload
  | ping => .unit
  | getProperties => .unit
  | setProperty => .setProperty
  | getClassLoaders => .unit
  | getLoaderClasses => .i32
  | getClass => .getClass
  | redefine => .redefine
  | getField => .member
  | setField => .setField
  | getThreads => .unit

/-- The layout of the answer to a request. -/
def RequestType.replyCodec : (r : RequestType) → Codec r.Reply
  | ping => .unit
  | getProperties => .properties
  | setProperty => .unit
  | getClassLoaders => Codec.loader.list
  | getLoaderClasses => .loaderClasses
  | getClass => .classReply
  | redefine => .status
  | getField => .fieldValue
  | setField => .status
  | getThreads => Codec.thread.list

/-- The layout of a broadcast. -/
def BroadcastType.codec : (b : BroadcastType) → Codec b.Payload
  | loaderDiscovered => .loader
  | classUpdated => .classData

/-- The layout of a message. -/
def MessageType.codec : (t : MessageType) → Codec t.Payload
  | failure => .failure
  | request r => r.codec
  | reply r => r.replyCodec
  | broadcast b => b.codec

/-- What a message reads back as: itself, except that an answered class
without code becomes the answer that there is none. -/
def Message.normalForm : Message → Message
  | ⟨.reply .getClass, payload⟩ => ⟨.reply .getClass, payload.filter ClassData.hasCode⟩
  | m => m

end Parley
