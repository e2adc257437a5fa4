/-
Codecs: how the values of a type are laid out in a payload.

A codec holds the fields that a value is written as and the decoder that reads
them back. Codecs of larger types are put together from codecs of their parts,
in the order of the wire, so that what holds of the parts carries over to the
whole. `Schema` names the layouts that can be built from the primitive fields
alone.
-/
import Parley.Frame.Field
import Parley.Frame.Decoder

namespace Parley

/-- The layout of the values of a type. -/
structure Codec (α : Type) where
  fields : α → List Field
  read : Decoder α

namespace Codec

/-- The written form of a value. -/
def bytes (c : Codec α) (x : α) : Bytes :=
  Field.bytesOf (c.fields x)

/-- Every length and count in the written form of a value fits. -/
def Fits (c : Codec α) (x : α) : Prop :=
  Field.failureOf? (c.fields x) = none

def u8 : Codec UInt8 := ⟨fun x => [.u8 x], .u8⟩
def i8 : Codec Int8 := ⟨fun x => [.i8 x], .i8⟩
def bool : Codec Bool := ⟨fun x => [.bool x], .bool⟩
def i16 : Codec Int16 := ⟨fun x => [.i16 x], .i16⟩
def i32 : Codec Int32 := ⟨fun x => [.i32 x], .i32⟩
def i64 : Codec Int64 := ⟨fun x => [.i64 x], .i64⟩
def f32 : Codec UInt32 := ⟨fun x => [.f32 x], .f32⟩
def f64 : Codec UInt64 := ⟨fun x => [.f64 x], .f64⟩
def text : Codec String := ⟨fun x => [.text x], .text⟩
def blob : Codec Bytes := ⟨fun x => [.blob x], .blob⟩

/-- The layout of a value that takes no bytes. -/
def unit : Codec Unit := ⟨fun _ => [], pure ()⟩

/-- One value after the other. -/
def pair (c : Codec α) (d : Codec β) : Codec (α × β) where
  fields p := c.fields p.1 ++ d.fields p.2
  read := do
    let x ← c.read
    let y ← d.read
    return (x, y)

/-- A count and that many values. -/
def list (c : Codec α) : Codec (List α) where
  fields xs := .count xs.length :: xs.flatMap c.fields
  read := .list c.read

/-- The layout of a type whose values correspond to those of another. -/
def map (c : Codec α) (make : α → β) (parts : β → α) : Codec β where
  fields y := c.fields (parts y)
  read := do return make (← c.read)

end Codec

/-! ### Layouts made of primitive fields -/

/-- A layout made of primitive fields, sequences and lists of them. -/
inductive Schema
  | u8 | i8 | bool | i16 | i32 | i64 | f32 | f64 | text | blob
  | nothing
  | pair (first second : Schema)
  | list (element : Schema)
deriving DecidableEq, Repr

namespace Schema

/-- The values of a layout. -/
@[reducible] def Value : Schema → Type
  | u8 => UInt8
  | i8 => Int8
  | bool => Bool
  | i16 => Int16
  | i32 => Int32
  | i64 => Int64
  | f32 => UInt32
  | f64 => UInt64
  | text => String
  | blob => Bytes
  | nothing => Unit
  | pair a b => a.Value × b.Value
  | list a => List a.Value

/-- The codec of a layout. -/
def codec : (s : Schema) → Codec s.Value
  | u8 => .u8
  | i8 => .i8
  | bool => .bool
  | i16 => .i16
  | i32 => .i32
  | i64 => .i64
  | f32 => .f32
  | f64 => .f64
  | text => .text
  | blob => .blob
  | nothing => .unit
  | pair a b => a.codec.pair b.codec
  | list a => a.codec.list

end Schema

end Parley
