/-
Reading primitive fields back from one complete payload.

A decoder consumes bytes from the front of what remains and either yields a
value or fails. What remains is known after a failure too: a read that finds
too few bytes consumes none, and a length or a text that is refused after its
bytes were there stays consumed.
-/
import Parley.Frame.Error

namespace Parley

/-- A read from the front of the remaining payload. -/
abbrev Decoder (α : Type) := EStateM FrameError Bytes α

namespace Decoder

/-- How many bytes remain. -/
def remaining : Decoder Nat :=
  fun bs => .ok bs.length bs

/-- The next `n` bytes. -/
def take (n : Nat) : Decoder Bytes :=
  fun bs =>
    if n ≤ bs.length then .ok (bs.take n) (bs.drop n)
    else .error (.truncated n bs.length) bs

/-- Fails unless every byte has been consumed. -/
def finish : Decoder Unit :=
  fun bs => if bs.isEmpty then .ok () bs else .error (.trailingBytes bs.length) bs

def u8 : Decoder UInt8 := do
  return UInt8.ofNat (Bytes.toNat (← take 1))

def i8 : Decoder Int8 := do
  return (← u8).toInt8

/-- Every byte but zero reads as true. -/
def bool : Decoder Bool := do
  return (← u8) != 0

def i16 : Decoder Int16 := do
  return Bytes.toInt16 (← take 2)

def i32 : Decoder Int32 := do
  return Bytes.toInt32 (← take 4)

def i64 : Decoder Int64 := do
  return Bytes.toInt64 (← take 8)

/-- The bit pattern of a single-precision number. -/
def f32 : Decoder UInt32 := do
  return UInt32.ofNat (Bytes.toNat (← take 4))

/-- The bit pattern of a double-precision number. -/
def f64 : Decoder UInt64 := do
  return UInt64.ofNat (Bytes.toNat (← take 8))

/-- A length or count. -/
def length : Decoder Nat := do
  let n ← i32
  if n < 0 then throw (.negativeLength n) else return n.toInt.toNat

def blob : Decoder Bytes := do
  take (← length)

def text : Decoder String := do
  match Bytes.text? (← blob) with
  | some s => return s
  | none => throw .invalidUtf8

/-- `n` values one after the other. -/
def times (item : Decoder α) : Nat → Decoder (List α)
  | 0 => return []
  | n + 1 => do
    let x ← item
    let xs ← times item n
    return x :: xs

/-- A count and that many values. -/
def list (item : Decoder α) : Decoder (List α) := do
  times item (← length)

/-- The value of a payload that a decoder consumes to the last byte. -/
def whole (d : Decoder α) (payload : Bytes) : Except FrameError α :=
  match (do let x ← d; finish; return x : Decoder α) payload with
  | .ok x _ => .ok x
  | .error e _ => .error e

end Decoder

end Parley
