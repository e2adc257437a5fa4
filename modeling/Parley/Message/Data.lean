/-
The structures that messages carry, and their layouts.

Loaders group the classes of the observed process, members name its fields,
and threads are snapshots with their stack traces.
-/
import Parley.Frame.Codec

namespace Parley

/-- A group of classes: a stable identifier and a display name. -/
structure LoaderInfo where
  id : Int32
  name : String
deriving DecidableEq

/-- A class as held by one loader. -/
structure ClassData where
  name : String
  loader : Int32
  /-- The code of the class. It is empty where it could not be obtained. -/
  code : Bytes
deriving DecidableEq

/-- A field of a class, by its owner, its name and its type descriptor. -/
structure Member where
  owner : String
  name : String
  descriptor : String
deriving DecidableEq

/-- One entry of a stack trace. -/
structure StackEntry where
  className : String
  method : String
  /-- The source file, empty where it is not known. -/
  file : String
  line : Int32
deriving DecidableEq

/-- A snapshot of one thread. -/
structure ThreadInfo where
  id : Int64
  name : String
  state : String
  trace : List StackEntry
deriving DecidableEq

/-- Whether the code of a class was obtained. -/
def ClassData.hasCode (d : ClassData) : Bool := !d.code.isEmpty

/-- The loader of the classes that the process starts from. -/
def bootstrapLoader : Int32 := 0

/-- The loader of the classes of the application. -/
def systemLoader : Int32 := 1

namespace Codec

def loader : Codec LoaderInfo :=
  (i32.pair text).map (fun (id, name) => ⟨id, name⟩) fun l => (l.id, l.name)

def classData : Codec ClassData :=
  (text.pair (i32.pair blob)).map (fun (name, loader, code) => ⟨name, loader, code⟩)
    fun d => (d.name, d.loader, d.code)

def member : Codec Member :=
  (text.pair (text.pair text)).map (fun (owner, name, descriptor) => ⟨owner, name, descriptor⟩)
    fun m => (m.owner, m.name, m.descriptor)

def stackEntry : Codec StackEntry :=
  (text.pair (text.pair (text.pair i32))).map
    (fun (className, method, file, line) => ⟨className, method, file, line⟩)
    fun e => (e.className, e.method, e.file, e.line)

def thread : Codec ThreadInfo :=
  (i64.pair (text.pair (text.pair stackEntry.list))).map
    (fun (id, name, state, trace) => ⟨id, name, state, trace⟩)
    fun t => (t.id, t.name, t.state, t.trace)

end Codec

end Parley
