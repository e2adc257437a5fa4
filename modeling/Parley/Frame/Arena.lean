/-
The growable buffer in which frames are assembled and received.

An arena holds bytes in an allocation of some size. Bytes are appended at the
end, and the reader consumes them at the front, which moves the start of what
is held but frees nothing. When the room after the held bytes is too small the
arena grows to the next power of two at or above what is required, and the
allocation at least doubles; if the bytes consumed at the front leave room
enough, the held bytes move there and nothing grows.
-/
import Parley.Bytes

namespace Parley

/-- The least power of two at or above a number, and one for zero. -/
def leastPowerOfTwo (n : Nat) : Nat :=
  if n ≤ 1 then 1 else 1 <<< (Nat.log2 (n - 1) + 1)

/-- A growable buffer. -/
structure Arena where
  /-- What is held. -/
  bytes : Bytes
  /-- The size of the allocation. -/
  size : Nat
  /-- How much of the allocation lies before the held bytes. -/
  start : Nat := 0
deriving DecidableEq, Repr

namespace Arena

/-- The size at which arenas start unless told otherwise: 8 KiB. -/
def defaultCapacity : Nat := 8 * 1024

/-- An empty arena. -/
def withCapacity (n : Nat) : Arena := { bytes := [], size := n }

/-- How many bytes are held. -/
def length (a : Arena) : Nat := a.bytes.length

/-- How many bytes can be held before the arena has to grow. -/
def capacity (a : Arena) : Nat := a.size - a.start

/-- How many bytes can still be appended without growing. -/
def room (a : Arena) : Nat := a.capacity - a.length

/-- Room for `additional` more bytes: by moving the held bytes to the front if
that suffices and does not overlap them, else by an allocation at least twice
as large. -/
def reserve (a : Arena) (additional : Nat) : Arena :=
  let needed := a.length + additional
  if needed ≤ a.capacity then a
  else if needed ≤ a.size ∧ a.length ≤ a.start then { a with start := 0 }
  else { a with size := max (max (2 * a.size) (a.start + needed)) 8 }

/-- The total length that `additional` more bytes require. It saturates at the
largest 64-bit number. -/
def required (a : Arena) (additional : Nat) : Nat :=
  min (a.length + additional) 0xffffffffffffffff

/-- The largest power of two below the largest 64-bit number. -/
def largestPower : Nat := 0x8000000000000000

/-- The capacity to grow to: a power of two, or the exact requirement where no
64-bit power of two is large enough. -/
def growthTarget (required : Nat) : Nat :=
  if required ≤ largestPower then leastPowerOfTwo required else required

/-- Room for at least `additional` more bytes. -/
def ensureWritable (a : Arena) (additional : Nat) : Arena :=
  let required := a.required additional
  if required ≤ a.capacity then a
  else a.reserve (growthTarget required - a.length)

/-- Whether an allocation for `additional` more bytes can exist at all: none
is larger than the largest signed 64-bit number. -/
def canGrow (a : Arena) (additional : Nat) : Bool :=
  let required := a.required additional
  decide (required ≤ a.capacity) || decide (growthTarget required < largestPower)

/-- Appends bytes, growing as needed. -/
def put (a : Arena) (bs : Bytes) : Arena :=
  let grown := a.ensureWritable bs.length
  { grown with bytes := grown.bytes ++ bs }

/-- Appends bytes into room that is there already. -/
def fill (a : Arena) (bs : Bytes) : Arena :=
  { a with bytes := a.bytes ++ bs }

/-- Overwrites the four bytes at a position, which must be held. -/
def patch? (a : Arena) (position : Nat) (n : Int32) : Option Arena :=
  if position + 4 ≤ a.length then
    some { a with
      bytes := a.bytes.take position ++ Bytes.ofInt32 n ++ a.bytes.drop (position + 4) }
  else none

/-- Drops the contents and keeps the allocation. -/
def clear (a : Arena) : Arena := { a with bytes := [] }

/-- Drops the first bytes. The allocation before the rest is kept. -/
def consume (a : Arena) (n : Nat) : Arena :=
  { a with bytes := a.bytes.drop n, start := a.start + n }

/-! ### What the operations do to the contents -/

@[simp] theorem bytes_reserve (a : Arena) (n : Nat) : (a.reserve n).bytes = a.bytes := by
  unfold reserve
  dsimp only
  split
  · rfl
  · split <;> rfl

@[simp] theorem bytes_ensureWritable (a : Arena) (n : Nat) :
    (a.ensureWritable n).bytes = a.bytes := by
  unfold ensureWritable
  dsimp only
  split
  · rfl
  · exact bytes_reserve _ _

@[simp] theorem bytes_put (a : Arena) (bs : Bytes) : (a.put bs).bytes = a.bytes ++ bs := by
  simp [put]

@[simp] theorem bytes_fill (a : Arena) (bs : Bytes) : (a.fill bs).bytes = a.bytes ++ bs := rfl

@[simp] theorem bytes_clear (a : Arena) : a.clear.bytes = [] := rfl

@[simp] theorem bytes_consume (a : Arena) (n : Nat) : (a.consume n).bytes = a.bytes.drop n := rfl

end Arena

end Parley
