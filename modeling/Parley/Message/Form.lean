/-
Messages as data.

A message is a record of its fields in the order of the wire, and nothing if
its type has none. Its JSON text leaves the code of classes out, so a message
reads back without it. Failures have no JSON text: they never leave a
conversation.
-/
import Parley.Json.Reader
import Parley.Message.Layout

namespace Parley

namespace Form

open Members

/-- A record of texts; the last one under a key counts. -/
def table : Form PropertyTable where
  shape := .table
  write t := .record (t.entries.map fun (k, v) => (k, .text v))
  read
    | .record members => (members.mapM pair).map .ofList
    | _ => none
where
  pair : String × Datum → Option (String × String)
    | (k, .text v) => some (k, v)
    | _ => none

def loader : Form LoaderInfo :=
  ((one "id" i32).and (one "name" text)).record (fun (id, name) => ⟨id, name⟩)
    fun l => (l.id, l.name)

def classData : Form ClassData :=
  ((one "name" text).and ((one "loader_id" i32).and (one "code" blob))).record
    (fun (name, loader, code) => ⟨name, loader, code⟩) fun d => (d.name, d.loader, d.code)

def member : Form Member :=
  ((one "owner" text).and ((one "name" text).and (one "desc" text))).record
    (fun (owner, name, descriptor) => ⟨owner, name, descriptor⟩)
    fun m => (m.owner, m.name, m.descriptor)

def stackEntry : Form StackEntry :=
  ((one "class" text).and ((one "method" text).and ((one "file" text).and (one "line" i32)))).record
    (fun (className, method, file, line) => ⟨className, method, file, line⟩)
    fun e => (e.className, e.method, e.file, e.line)

def thread : Form ThreadInfo :=
  ((one "id" i64).and ((one "name" text).and
      ((one "state" text).and (one "trace" stackEntry.list)))).record
    (fun (id, name, state, trace) => ⟨id, name, state, trace⟩)
    fun t => (t.id, t.name, t.state, t.trace)

def setProperty : Form SetProperty :=
  ((one "key" text).and (one "value" text)).record (fun (key, value) => ⟨key, value⟩)
    fun p => (p.key, p.value)

def getClass : Form GetClass :=
  ((one "loader_id" i32).and (one "name" text)).record (fun (loader, name) => ⟨loader, name⟩)
    fun g => (g.loader, g.name)

def redefine : Form Redefine :=
  ((one "loader_id" i32).and ((one "name" text).and (one "code" blob))).record
    (fun (loader, name, code) => ⟨loader, name, code⟩) fun r => (r.loader, r.name, r.code)

def failure : Form Failure :=
  ((one "request_type" i16).and (one "message" text)).record
    (fun (requestType, message) => ⟨requestType, message⟩) fun f => (f.requestType, f.message)

def setField : Form SetField :=
  ((one "member" member).and (one "value" text)).record (fun (member, value) => ⟨member, value⟩)
    fun s => (s.member, s.value)

def loaderClasses : Form LoaderClasses :=
  ((one "loader_id" i32).and (one "classes" text.list)).record
    (fun (loader, classes) => ⟨loader, classes⟩) fun l => (l.loader, l.classes)

def status : Form Status := (one "status" text).record (fun s => ⟨s⟩) Status.text

def fieldValue : Form FieldValue :=
  ((one "member" member).and (one "value" text)).record (fun (member, value) => ⟨member, value⟩)
    fun v => (v.member, v.value)

end Form

/-- A request as data. -/
def RequestType.form : (r : RequestType) → Form r.Payload
  | ping => .nothing
  | getProperties => .nothing
  | setProperty => .setProperty
  | getClassLoaders => .nothing
  | getLoaderClasses => .single "loader_id" .i32
  | getClass => .getClass
  | redefine => .redefine
  | getField => .single "member" .member
  | setField => .setField
  | getThreads => .nothing

/-- The answer to a request as data. -/
def RequestType.replyForm : (r : RequestType) → Form r.Reply
  | ping => .nothing
  | getProperties => .single "entries" .table
  | setProperty => .nothing
  | getClassLoaders => .single "loaders" Form.loader.list
  | getLoaderClasses => .loaderClasses
  | getClass => .single "data" Form.classData.option
  | redefine => .status
  | getField => .fieldValue
  | setField => .status
  | getThreads => .single "threads" Form.thread.list

/-- A broadcast as data. -/
def BroadcastType.form : (b : BroadcastType) → Form b.Payload
  | loaderDiscovered => .single "loader" .loader
  | classUpdated => .single "data" .classData

/-- A message of a type as data. -/
def MessageType.form : (t : MessageType) → Form t.Payload
  | failure => .failure
  | request r => r.form
  | reply r => r.replyForm
  | broadcast b => b.form

/-- The JSON text of a message, if it has one. -/
def Message.toJson? (m : Message) : Option String :=
  if m.type = .failure then none else some (m.type.form.write m.payload).toJson

/-- Reads a message of a type from its JSON text. -/
def MessageType.parseJson (t : MessageType) (text : String) : Except JsonFault Message := do
  match t.form.read (← t.form.shape.parse text) with
  | some payload => return ⟨t, payload⟩
  | none => throw .wrongShape

end Parley
