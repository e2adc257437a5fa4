/-
The primitive fields of which payloads are made, and how they are written.

A payload is a sequence of fields, so an encoder is a function into
`List Field`. Numbers are big-endian, a text or blob is its length in four
bytes followed by its bytes, and a list is its count in four bytes followed by
its elements. The only failure is a length or count that four signed bytes
cannot hold; the fields before it have been written by then.
-/
import Parley.Frame.Arena
import Parley.Frame.Error

namespace Parley

/-- One primitive field. Floating-point numbers are bit patterns. -/
inductive Field
  | u8 (value : UInt8)
  | i8 (value : Int8)
  | bool (value : Bool)
  | i16 (value : Int16)
  | i32 (value : Int32)
  | i64 (value : Int64)
  | f32 (bits : UInt32)
  | f64 (bits : UInt64)
  | text (value : String)
  | blob (value : Bytes)
  /-- How many elements of a list follow. -/
  | count (value : Nat)
deriving DecidableEq

namespace Field

/-- The number that a field writes in four bytes before its contents, if it has one. -/
def length? : Field → Option Nat
  | text s => some (Bytes.ofText s).length
  | blob bs => some bs.length
  | count n => some n
  | _ => none

/-- What a field holds apart from its length. -/
def body : Field → Bytes
  | u8 v => [v]
  | i8 v => [v.toUInt8]
  | bool v => [if v then 1 else 0]
  | i16 v => Bytes.ofInt16 v
  | i32 v => Bytes.ofInt32 v
  | i64 v => Bytes.ofInt64 v
  | f32 v => Bytes.bigEndian 4 v.toNat
  | f64 v => Bytes.bigEndian 8 v.toNat
  | text s => Bytes.ofText s
  | blob bs => bs
  | count _ => []

/-- The written form of a field. -/
def bytes (f : Field) : Bytes :=
  match f.length? with
  | some n => Bytes.bigEndian 4 n ++ f.body
  | none => f.body

/-- The failure to write a field: its length does not fit. -/
def failure? (f : Field) : Option FrameError :=
  match f.length? with
  | some n => if n ≤ maxLength then none else some (.payloadTooLarge n maxLength)
  | none => none

/-- The written form of a sequence of fields. -/
def bytesOf (fields : List Field) : Bytes :=
  fields.flatMap bytes

/-- The first failure in a sequence of fields. -/
def failureOf? (fields : List Field) : Option FrameError :=
  fields.findSome? failure?

end Field

namespace Arena

/-- Appends one field that fits. Room for a length and its contents is made at
once. -/
def putField (a : Arena) (f : Field) : Arena :=
  match f.length? with
  | some n => ((a.ensureWritable (4 + f.body.length)).put (Bytes.bigEndian 4 n)).put f.body
  | none => a.put f.body

/-- Appends fields up to the first that does not fit, and reports it. -/
def write (a : Arena) : List Field → Arena × Option FrameError
  | [] => (a, none)
  | f :: rest =>
    match f.failure? with
    | some e => (a, some e)
    | none => (a.putField f).write rest

@[simp] theorem bytes_putField (a : Arena) (f : Field) :
    (a.putField f).bytes = a.bytes ++ f.bytes := by
  unfold putField Field.bytes
  split <;> simp_all

/-- Fields that all fit are appended in order. -/
theorem bytes_write_of_fits (a : Arena) (fields : List Field)
    (h : Field.failureOf? fields = none) :
    (a.write fields).1.bytes = a.bytes ++ Field.bytesOf fields ∧ (a.write fields).2 = none := by
  induction fields generalizing a with
  | nil => simp [write, Field.bytesOf]
  | cons f rest ih =>
    simp only [Field.failureOf?, List.findSome?_cons] at h
    cases hf : f.failure? with
    | some e => simp [hf] at h
    | none =>
      simp only [hf] at h
      have := ih (a.putField f) h
      simpa [write, hf, Field.bytesOf] using this

end Arena

end Parley
