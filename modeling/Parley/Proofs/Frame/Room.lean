/-
The room that growing makes.

A buffer that is told to make room for more bytes has that room, however its
bytes lie in their allocation, as long as the total is a 64-bit number
(`le_room_ensureWritable`). Nothing else is needed of the allocation than that
reserving keeps what is held and makes the room that it is asked for
(`Reserving`).
-/
import Parley.Frame.Arena

namespace Parley

theorem le_leastPowerOfTwo (n : Nat) : n ≤ leastPowerOfTwo n := by
  unfold leastPowerOfTwo
  split
  next h => exact h
  next h =>
    have hlog := Nat.lt_log2_self (n := n - 1)
    rw [Nat.one_shiftLeft]
    omega

namespace Arena

theorem le_growthTarget (n : Nat) : n ≤ growthTarget n := by
  unfold growthTarget
  split
  · exact le_leastPowerOfTwo n
  · exact Nat.le_refl n

/-- Reserving makes room, by moving the bytes or by a larger allocation. -/
theorem le_capacity_reserve (a : Arena) (n : Nat) : a.length + n ≤ (a.reserve n).capacity := by
  unfold reserve capacity
  dsimp only
  split
  next h => exact h
  next =>
    split
    next h => exact h.1
    next =>
      dsimp only
      omega

/-- A way to reserve room: what is held stays, and there is room for as many
more bytes as were asked for. -/
structure Reserving where
  reserve : Arena → Nat → Arena
  bytes_reserve (a : Arena) (n : Nat) : (reserve a n).bytes = a.bytes
  le_capacity (a : Arena) (n : Nat) : a.length + n ≤ (reserve a n).capacity

/-- The way that arenas reserve room. -/
def Reserving.standard : Reserving := ⟨Arena.reserve, Arena.bytes_reserve, le_capacity_reserve⟩

/-- Where nothing lies before the bytes, reserving more than there is makes the capacity
twice as large, or what is needed if that is more, and it moves nothing. -/
structure Reserving.Doubles (how : Reserving) : Prop where
  start (a : Arena) (n : Nat) : a.start = 0 → (how.reserve a n).start = 0
  capacity (a : Arena) (n : Nat) : a.start = 0 → a.capacity < a.length + n →
    (how.reserve a n).capacity = max (max (2 * a.capacity) (a.length + n)) 8

/-- Arenas reserve room in this way. -/
theorem Reserving.doubles_standard : Reserving.standard.Doubles where
  start a n hstart := by
    change (a.reserve n).start = 0
    unfold Arena.reserve
    dsimp only
    split
    next => exact hstart
    next =>
      split
      next => rfl
      next => exact hstart
  capacity a n hstart hmore := by
    have hsize : a.capacity = a.size := by rw [Arena.capacity, hstart, Nat.sub_zero]
    have hfits : ¬ (a.length + n ≤ a.size ∧ a.length ≤ a.start) := fun h =>
      Nat.not_le.mpr hmore (hsize ▸ h.1)
    change (a.reserve n).capacity = _
    rw [Arena.reserve, if_neg (Nat.not_le.mpr hmore), if_neg hfits, Arena.capacity, hsize, hstart,
      Nat.zero_add, Nat.sub_zero]

/-- Room for at least `additional` more bytes, reserved in some way. -/
def ensureWritableBy (how : Reserving) (a : Arena) (additional : Nat) : Arena :=
  let required := a.required additional
  if required ≤ a.capacity then a
  else how.reserve a (growthTarget required - a.length)

/-- Appends bytes, growing in some way as needed. -/
def putBy (how : Reserving) (a : Arena) (bs : Bytes) : Arena :=
  let grown := a.ensureWritableBy how bs.length
  { grown with bytes := grown.bytes ++ bs }

theorem putBy_standard (a : Arena) (bs : Bytes) : a.putBy .standard bs = a.put bs := rfl

theorem ensureWritableBy_standard (a : Arena) (n : Nat) :
    a.ensureWritableBy .standard n = a.ensureWritable n := rfl

@[simp] theorem bytes_ensureWritableBy (how : Reserving) (a : Arena) (n : Nat) :
    (a.ensureWritableBy how n).bytes = a.bytes := by
  unfold ensureWritableBy
  dsimp only
  split
  · rfl
  · exact how.bytes_reserve _ _

@[simp] theorem bytes_putBy (how : Reserving) (a : Arena) (bs : Bytes) :
    (a.putBy how bs).bytes = a.bytes ++ bs := by
  simp [putBy]

@[simp] theorem length_ensureWritableBy (how : Reserving) (a : Arena) (n : Nat) :
    (a.ensureWritableBy how n).length = a.length := by
  rw [length, bytes_ensureWritableBy, length]

theorem le_room_ensureWritableBy (how : Reserving) {a : Arena} {n : Nat}
    (h : a.length + n ≤ 0xffffffffffffffff) : n ≤ (a.ensureWritableBy how n).room := by
  have hrequired : a.required n = a.length + n := Nat.min_eq_left h
  suffices a.length + n ≤ (a.ensureWritableBy how n).capacity by
    rw [room, length_ensureWritableBy]
    omega
  unfold ensureWritableBy
  dsimp only
  rw [hrequired]
  split
  next hfits => exact hfits
  next =>
    have htarget := le_growthTarget (a.length + n)
    have hroom := how.le_capacity a (growthTarget (a.length + n) - a.length)
    omega

theorem le_room_ensureWritable {a : Arena} {n : Nat} (h : a.length + n ≤ 0xffffffffffffffff) :
    n ≤ (a.ensureWritable n).room := by
  rw [← ensureWritableBy_standard]
  exact le_room_ensureWritableBy .standard h

end Arena

end Parley
