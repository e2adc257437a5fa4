/-
The registry of message types.

A registry says which wire type id and which layout a type of message has on a
connection. It is looked up both ways, by id for what is received and by type
for what is sent, and keeps a table for each. A registration that would give
an id or a type a second entry is refused. The failure reply is registered from
the start. A program may register types of its own beside those of the catalog.
-/
import Parley.Message.Layout
import Parley.Frame.Raw
import Parley.Text.Quoted

namespace Parley

/-! ### Types of messages -/

/-- The types of messages that a program knows. Those of the catalog are among them,
each with its name, its kind and its layout. -/
class Vocabulary (τ : Type) where
  Payload : τ → Type
  name : τ → String
  kind : τ → MessageKind
  codec : (t : τ) → Codec (Payload t)
  ofCatalog : MessageType → τ
  ofCatalog_injective : Function.Injective ofCatalog
  ofCatalog_eq (t : MessageType) : name (ofCatalog t) = t.name ∧ kind (ofCatalog t) = t.kind ∧
    (⟨_, codec (ofCatalog t)⟩ : (α : Type) × Codec α) = ⟨_, t.codec⟩

/-- The types of the catalog alone. -/
instance : Vocabulary MessageType where
  Payload := MessageType.Payload
  name := MessageType.name
  kind := MessageType.kind
  codec := MessageType.codec
  ofCatalog t := t
  ofCatalog_injective _ _ h := h
  ofCatalog_eq _ := ⟨rfl, rfl, rfl⟩

@[simp] theorem Vocabulary.ofCatalog_self (t : MessageType) : Vocabulary.ofCatalog t = t := rfl

/-- A message of any of the types. -/
abbrev AnyMessage (τ : Type) [Vocabulary τ] : Type := (t : τ) × Vocabulary.Payload t

instance : Coe Message (AnyMessage MessageType) := ⟨fun m => ⟨m.type, m.payload⟩⟩

/-- The types of the catalog and others. -/
@[reducible] def Vocabulary.beside {κ : Type} (Payload : κ → Type) (name : κ → String)
    (kind : κ → MessageKind) (codec : (k : κ) → Codec (Payload k)) :
    Vocabulary (MessageType ⊕ κ) where
  Payload
    | .inl t => t.Payload
    | .inr k => Payload k
  name
    | .inl t => t.name
    | .inr k => name k
  kind
    | .inl t => t.kind
    | .inr k => kind k
  codec
    | .inl t => t.codec
    | .inr k => codec k
  ofCatalog := .inl
  ofCatalog_injective _ _ h := Sum.inl.inj h
  ofCatalog_eq _ := ⟨rfl, rfl, rfl⟩

/-! ### Entries -/

/-- What is registered for one type of message. -/
structure RegistryEntry (τ : Type := MessageType) [Vocabulary τ] where
  wireId : Int16
  type : τ
  codec : Codec (Vocabulary.Payload type)

namespace RegistryEntry

variable {τ : Type} [Vocabulary τ]

def name (e : RegistryEntry τ) : String := Vocabulary.name e.type

def kind (e : RegistryEntry τ) : MessageKind := Vocabulary.kind e.type

/-- The entry that the catalog gives to a type. -/
def standard (t : MessageType) : RegistryEntry τ :=
  ⟨t.wireId, Vocabulary.ofCatalog t, Vocabulary.codec (Vocabulary.ofCatalog t)⟩

/-- An entry as listings show it. -/
def describe (e : RegistryEntry τ) : String :=
  "CodecEntry \x7b type_id: " ++ toString e.wireId.toInt ++ ", type_name: "
    ++ Text.quoted e.name ++ ", kind: " ++ e.kind.name.capitalize ++ " \x7d"

/-- The fields of a message, which must be of the type of the entry. -/
def fields (e : RegistryEntry) (m : Message) : Except FrameError (List Field) :=
  if h : m.type = e.type then .ok (e.codec.fields (h ▸ m.payload))
  else .error (.typeMismatch e.name m.typeName)

/-- Appends the payload of a message to an arena. -/
def encode (e : RegistryEntry) (m : Message) (arena : Arena) : Arena × Option FrameError :=
  match e.fields m with
  | .ok fields => arena.write fields
  | .error err => (arena, some err)

/-- The message of one complete payload. -/
def decode (e : RegistryEntry) (payload : Bytes) : Except FrameError Message := do
  return ⟨e.type, ← e.codec.read.whole payload⟩

end RegistryEntry

/-! ### Tables -/

/-- The message types of a connection. -/
structure Registry (τ : Type := MessageType) [Vocabulary τ] where
  byId : List (Int16 × RegistryEntry τ)
  byType : List (τ × RegistryEntry τ)

namespace Registry

variable {τ : Type} [Vocabulary τ]

/-- Enters a type without looking for an earlier entry. -/
def enter (r : Registry τ) (e : RegistryEntry τ) : Registry τ where
  byId := r.byId ++ [(e.wireId, e)]
  byType := r.byType ++ [(e.type, e)]

/-- The registry that knows the failure reply alone. -/
def base : Registry τ := enter ⟨[], []⟩ (.standard .failure)

/-- The entry of a wire type id. -/
def lookupId (r : Registry τ) (wireId : Int16) : Except FrameError (RegistryEntry τ) :=
  match r.byId.lookup wireId with
  | some e => .ok e
  | none => .error (.unknownTypeId wireId)

/-- How many types are registered. -/
def size (r : Registry τ) : Nat := r.byId.length

/-- All entries, by increasing id. -/
def entries (r : Registry τ) : List (RegistryEntry τ) :=
  (r.byId.map (·.2)).mergeSort fun a b => a.wireId ≤ b.wireId

/-- The listing of a registry. -/
def describe (r : Registry τ) : String :=
  "[" ++ String.intercalate ", " (r.entries.map (·.describe)) ++ "]"

variable [DecidableEq τ]

/-- Registers a type under an id with a layout of its own. Yields the registry after a
failure too. -/
def registerWith (r : Registry τ) (wireId : Int16) (type : τ)
    (codec : Codec (Vocabulary.Payload type)) : Except FrameError Unit × Registry τ :=
  match r.byId.lookup wireId with
  | some existing => (.error (.duplicateTypeId wireId existing.name), r)
  | none =>
    match r.byType.lookup type with
    | some _ => (.error (.duplicateType (Vocabulary.name type)), r)
    | none => (.ok (), r.enter ⟨wireId, type, codec⟩)

/-- Registers a type under an id. -/
def register (r : Registry τ) (wireId : Int16) (type : τ) : Except FrameError Unit × Registry τ :=
  r.registerWith wireId type (Vocabulary.codec type)

/-- Registers types of the catalog under their own ids up to the first that is
refused. The types before it stay registered. -/
def registerAll (r : Registry τ) : List MessageType → Except FrameError Unit × Registry τ
  | [] => (.ok (), r)
  | t :: rest =>
    match r.register t.wireId (Vocabulary.ofCatalog t) with
    | (.ok (), r) => r.registerAll rest
    | (.error e, r) => (.error e, r)

/-- Registers the types of the catalog. -/
def registerCatalog (r : Registry τ) : Except FrameError Unit × Registry τ :=
  r.registerAll MessageType.catalog

/-- The entry of a type. -/
def lookupType (r : Registry τ) (type : τ) : Except FrameError (RegistryEntry τ) :=
  match r.byType.lookup type with
  | some e => .ok e
  | none => .error (.unknownType (Vocabulary.name type))

/-- The entry of a message's type. -/
def lookupFor (r : Registry τ) (m : AnyMessage τ) : Except FrameError (RegistryEntry τ) :=
  r.lookupType m.1

/-- The registry of the whole catalog. -/
def catalog : Registry := base.registerCatalog.2

end Registry

/-! ### Messages as frames -/

/-- Appends a message as one frame to an arena: the header with a placeholder
for the length, the payload, and then the length in its place. Yields the
length of the payload, and the arena after a failure too. -/
def Arena.appendMessage (arena : Arena) (registry : Registry) (maxPayload : Nat)
    (frameId : Int32) (m : Message) : Except FrameError Nat × Arena :=
  match registry.lookupFor m with
  | .error e => (.error e, arena)
  | .ok entry =>
    let opened := ((arena.put (Bytes.ofInt32 frameId)).put (Bytes.ofInt16 entry.wireId)).put
      (Bytes.ofInt32 0)
    match entry.encode m opened with
    | (written, some e) => (.error e, written)
    | (written, none) =>
      let length := written.length - arena.length - Frame.headerSize
      if maxPayload < length then (.error (.payloadTooLarge length maxPayload), written)
      else if maxLength < length then (.error (.payloadTooLarge length maxLength), written)
      else (.ok length, (written.patch? (arena.length + 6) (Int32.ofNat length)).getD written)

/-- The message that a frame carries. -/
def Frame.decode (f : Frame) (registry : Registry) : Except FrameError Message := do
  (← registry.lookupId f.typeId).decode f.payload

end Parley
