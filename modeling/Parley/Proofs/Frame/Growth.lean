/-
How an arena grows over its history.

An arena is a byte string that is edited in place. `Edit.onto` says what an
edit does to a plain byte string and `Edit.required` what length it needs room
for, and more of an edit does not show: an arena holds the bytes so edited, and
its capacity becomes `grown` of the capacity before and the length required
(`edited_of_within`), provided that the buffer underneath at least doubles when it
grows (`Reserving.Doubles`). Capacities therefore never shrink and at least double when
they grow, so that the growths of a history are logarithmically many in the
lengths that it requires, and a capacity that is a power of two grows to the
least one that suffices (`edits_follow_bytes`).
-/
import Parley.Proofs.Frame.Room
import Mathlib.Algebra.Group.Nat.Defs
import Mathlib.Order.Bounds.Defs

namespace Parley

/-! ### Powers of two -/

/-- No smaller power of two is at or above the number. -/
theorem isLeast_leastPowerOfTwo (n : Nat) :
    IsLeast {p | n ≤ p ∧ ∃ k, p = 2 ^ k} (leastPowerOfTwo n) := by
  refine ⟨⟨le_leastPowerOfTwo n, ?_⟩, ?_⟩
  · unfold leastPowerOfTwo
    split
    · exact ⟨0, rfl⟩
    · exact ⟨_, Nat.one_shiftLeft _⟩
  · rintro p ⟨hle, k, rfl⟩
    unfold leastPowerOfTwo
    split
    next => exact Nat.one_le_two_pow
    next hbig =>
      have hlog : (n - 1).log2 < k := (Nat.log2_lt (by omega)).mpr (by omega)
      rw [Nat.one_shiftLeft]
      exact Nat.pow_le_pow_right Nat.two_pos hlog

theorem leastPowerOfTwo_le_two_mul {n : Nat} (h : 0 < n) : leastPowerOfTwo n ≤ 2 * n := by
  unfold leastPowerOfTwo
  split
  next => omega
  next hbig =>
    have hlog : 2 ^ (n - 1).log2 ≤ n - 1 := Nat.log2_self_le (by omega)
    rw [Nat.one_shiftLeft, Nat.pow_succ]
    omega

/-! ### Overwriting -/

/-- A byte string in which others have taken the places from a position on. -/
def Bytes.overwrite (bs : Bytes) (position : Nat) (others : Bytes) : Bytes :=
  bs.mapIdx fun i b => if position ≤ i then others[i - position]?.getD b else b

@[simp] theorem Bytes.length_overwrite (bs : Bytes) (position : Nat) (others : Bytes) :
    (bs.overwrite position others).length = bs.length :=
  List.length_mapIdx

theorem Bytes.overwrite_eq {bs others : Bytes} {position : Nat}
    (h : position + others.length ≤ bs.length) :
    bs.overwrite position others =
      bs.take position ++ others ++ bs.drop (position + others.length) := by
  apply List.ext_getElem
  · simp only [length_overwrite, List.length_append, List.length_take, List.length_drop]
    omega
  · intro i hi hi'
    have hfront : (bs.take position).length = position := List.length_take_of_le (by omega)
    simp only [overwrite, List.getElem_mapIdx, List.getElem_append, List.length_append, hfront,
      List.getElem_take, List.getElem_drop]
    by_cases hbefore : i < position
    · simp [hbefore, Nat.not_le.mpr hbefore, Nat.lt_add_right others.length hbefore]
    · have hfrom : position ≤ i := Nat.le_of_not_lt hbefore
      by_cases hwithin : i < position + others.length
      · have hother : i - position < others.length := by omega
        simp [hbefore, hfrom, hwithin, hother]
      · have hother : others.length ≤ i - position := by omega
        have hplace : position + others.length + (i - (position + others.length)) = i := by omega
        simp [hfrom, hwithin, hother, hplace]

namespace Arena

/-! ### Edits -/

/-- A change to what an arena holds or to the room that it has. -/
inductive Edit
  /-- Room for that many more bytes. -/
  | ensure (additional : Nat)
  | put (bs : Bytes)
  /-- A number over the four bytes at a position. -/
  | patch (position : Nat) (n : Int32)
  | clear
deriving DecidableEq, Repr

namespace Edit

/-- What an edit makes of a plain byte string. -/
def onto (bs : Bytes) : Edit → Bytes
  | ensure _ => bs
  | put others => bs ++ others
  | patch position n => bs.overwrite position (Bytes.ofInt32 n)
  | clear => []

/-- The length that an edit requires room for. -/
def required (bs : Bytes) : Edit → Nat
  | ensure additional => bs.length + additional
  | put others => bs.length + others.length
  | patch _ _ => bs.length
  | clear => 0

/-- The lengths that an edit requires stay below a limit, and it overwrites
only what is there. -/
def Within (limit : Nat) (bs : Bytes) : Edit → Prop
  | ensure additional => bs.length + additional < limit
  | put others => bs.length + others.length < limit
  | patch position _ => position + 4 ≤ bs.length
  | clear => True

/-- All edits of a history stay within a limit. -/
def AllWithin (limit : Nat) : Bytes → List Edit → Prop
  | _, [] => True
  | bs, e :: later => e.Within limit bs ∧ AllWithin limit (e.onto bs) later

instance (limit : Nat) (bs : Bytes) : (e : Edit) → Decidable (e.Within limit bs)
  | ensure additional => inferInstanceAs (Decidable (bs.length + additional < limit))
  | put others => inferInstanceAs (Decidable (bs.length + others.length < limit))
  | patch position _ => inferInstanceAs (Decidable (position + 4 ≤ bs.length))
  | clear => inferInstanceAs (Decidable True)

instance decidableAllWithin (limit : Nat) :
    (bs : Bytes) → (edits : List Edit) → Decidable (AllWithin limit bs edits)
  | _, [] => inferInstanceAs (Decidable True)
  | bs, e :: later =>
    have := decidableAllWithin limit (e.onto bs) later
    inferInstanceAs (Decidable (e.Within limit bs ∧ AllWithin limit (e.onto bs) later))

variable {limit : Nat} {bs : Bytes} {e : Edit}

theorem length_onto_le_required (e : Edit) (bs : Bytes) :
    (e.onto bs).length ≤ e.required bs := by
  cases e with
  | ensure additional => exact Nat.le_add_right _ _
  | put others => exact Nat.le_of_eq List.length_append
  | patch position n => exact Nat.le_of_eq (Bytes.length_overwrite _ _ _)
  | clear => exact Nat.le_refl 0

/-- Only edits that stay within a limit require more than is held. -/
theorem required_lt_of_within (h : e.Within limit bs) (hmore : bs.length < e.required bs) :
    e.required bs < limit := by
  cases e with
  | ensure | put => exact h
  | patch => exact absurd hmore (Nat.lt_irrefl _)
  | clear => exact absurd hmore (Nat.not_lt_zero _)

end Edit

/-- The arena after an edit, where room is reserved in some way. There is none where no
allocation can be as large as is required, or where the bytes to be overwritten are
not held. -/
def edit? (how : Reserving) (a : Arena) : Edit → Option Arena
  | .ensure additional =>
    if a.canGrow additional then some (a.ensureWritableBy how additional) else none
  | .put bs => if a.canGrow bs.length then some (a.putBy how bs) else none
  | .patch position n => a.patch? position n
  | .clear => some a.clear

/-- The arena after a history of edits. -/
def editAll? (how : Reserving) (a : Arena) (edits : List Edit) : Option Arena :=
  edits.foldlM (edit? how) a

/-- How often the capacity grows over a history of edits. -/
def growths (how : Reserving) (a : Arena) : List Edit → Nat
  | [] => 0
  | e :: later =>
    match a.edit? how e with
    | none => 0
    | some b => (if a.capacity < b.capacity then 1 else 0) + b.growths how later

/-! ### Capacities -/

/-- The capacity that a capacity becomes where a length is required. -/
def grown (capacity required : Nat) : Nat :=
  if required ≤ capacity then capacity
  else max (max (2 * capacity) (growthTarget required)) 8

section Grown

variable {capacity required : Nat}

theorem grown_of_le (h : required ≤ capacity) : grown capacity required = capacity :=
  if_pos h

theorem grown_of_lt (h : capacity < required) :
    grown capacity required = max (max (2 * capacity) (growthTarget required)) 8 :=
  if_neg (Nat.not_le.mpr h)

theorem le_grown (capacity required : Nat) : capacity ≤ grown capacity required := by
  unfold grown
  split <;> omega

theorem required_le_grown (capacity required : Nat) : required ≤ grown capacity required := by
  have htarget := le_growthTarget required
  unfold grown
  split <;> omega

theorem lt_grown_iff : capacity < grown capacity required ↔ capacity < required := by
  constructor
  · intro h
    refine Nat.lt_of_not_le fun hle => ?_
    rw [grown_of_le hle] at h
    exact Nat.lt_irrefl _ h
  · intro h
    exact Nat.lt_of_lt_of_le h (required_le_grown _ _)

theorem two_mul_le_grown (h : capacity < required) : 2 * capacity ≤ grown capacity required := by
  rw [grown_of_lt h]
  omega

/-- What a capacity grows to is at most twice what was required, or the least
capacity that anything grows to. -/
theorem grown_le (h : capacity < required) : grown capacity required ≤ max 8 (2 * required) := by
  have htarget : growthTarget required ≤ 2 * required := by
    unfold growthTarget
    split
    · exact leastPowerOfTwo_le_two_mul (by omega)
    · omega
  rw [grown_of_lt h]
  omega

/-- A power of two grows to the least one that suffices: that is at least twice
as large, so the doubling adds nothing. -/
theorem grown_two_pow {j : Nat} (hj : 3 ≤ j) (h : 2 ^ j < required)
    (hrequired : required ≤ largestPower) :
    grown (2 ^ j) required = leastPowerOfTwo required ∧
      ∃ k, 3 ≤ k ∧ leastPowerOfTwo required = 2 ^ k := by
  obtain ⟨⟨hle, k, hk⟩, -⟩ := isLeast_leastPowerOfTwo required
  have hjk : j < k := (Nat.pow_lt_pow_iff_right Nat.one_lt_two).mp (by omega)
  have htwice : 2 ^ (j + 1) ≤ 2 ^ k := Nat.pow_le_pow_right Nat.two_pos hjk
  have hfloor : 2 ^ 3 ≤ 2 ^ j := Nat.pow_le_pow_right Nat.two_pos hj
  refine ⟨?_, k, by omega, hk⟩
  rw [grown_of_lt h, growthTarget, if_pos hrequired, hk]
  rw [Nat.pow_succ] at htwice
  omega

end Grown

/-! ### One edit -/

/-- An arena off whose front nothing has been taken, and that holds no more
than it has a capacity for. -/
structure Packed (a : Arena) : Prop where
  start : a.start = 0
  fits : a.length ≤ a.capacity

section One

variable {how : Reserving} {a : Arena} {n : Nat}

theorem required_of_lt (h : a.length + n < 2 ^ 62) : a.required n = a.length + n :=
  Nat.min_eq_left (by omega)

/-- Below 2^62 no growth asks for more than an allocation can be. -/
theorem canGrow_of_lt (h : a.length + n < 2 ^ 62) : a.canGrow n = true := by
  have hpower : leastPowerOfTwo (a.length + n) ≤ 2 ^ 62 :=
    (isLeast_leastPowerOfTwo _).2 ⟨Nat.le_of_lt h, 62, rfl⟩
  have hlargest : largestPower = 2 ^ 63 := rfl
  have htarget : growthTarget (a.length + n) < largestPower := by
    rw [growthTarget, if_pos (by omega)]
    omega
  simp [canGrow, required_of_lt h, htarget]

/-- Nothing lies before the bytes of a packed arena, so growing never moves them
and always takes a new allocation. -/
theorem ensureWritableBy_of_packed (hhow : how.Doubles) (ha : a.Packed)
    (h : a.length + n < 2 ^ 62) :
    (a.ensureWritableBy how n).start = 0 ∧
      (a.ensureWritableBy how n).capacity = grown a.capacity (a.length + n) := by
  have htarget := le_growthTarget (a.length + n)
  have hneeded : a.length + (growthTarget (a.length + n) - a.length)
      = growthTarget (a.length + n) := by omega
  unfold ensureWritableBy
  dsimp only
  rw [required_of_lt h]
  split
  next hroom => exact ⟨ha.start, (grown_of_le hroom).symm⟩
  next hshort =>
    have hless : a.capacity < a.length + n := Nat.lt_of_not_le hshort
    have hcapacity := hhow.capacity a (growthTarget (a.length + n) - a.length) ha.start
    rw [hneeded] at hcapacity
    refine ⟨hhow.start _ _ ha.start, ?_⟩
    rw [hcapacity (Nat.lt_of_lt_of_le hless htarget), grown_of_lt hless]

/-- What one edit leads from an arena to: the bytes become what it makes of them,
and the capacity depends on the length that it requires alone. -/
structure Edited (how : Reserving) (a : Arena) (e : Edit) (b : Arena) : Prop where
  found : a.edit? how e = some b
  packed : b.Packed
  bytes : b.bytes = e.onto a.bytes
  capacity : b.capacity = grown a.capacity (e.required a.bytes)

/-- **One edit is carried out** if the length that it requires can be had. -/
theorem edited_of_within {e : Edit} (hhow : how.Doubles) (ha : a.Packed)
    (h : e.Within (2 ^ 62) a.bytes) : ∃ b, a.Edited how e b := by
  suffices ∃ b, a.edit? how e = some b ∧ b.start = 0 ∧ b.bytes = e.onto a.bytes ∧
      b.capacity = grown a.capacity (e.required a.bytes) by
    obtain ⟨b, hedit, hstart, hbytes, hcapacity⟩ := this
    refine ⟨b, hedit, ⟨hstart, ?_⟩, hbytes, hcapacity⟩
    rw [hcapacity, length, hbytes]
    exact Nat.le_trans (e.length_onto_le_required _) (required_le_grown _ _)
  cases e with
  | ensure additional =>
      obtain ⟨hstart, hcapacity⟩ := ensureWritableBy_of_packed hhow ha h
      exact ⟨_, if_pos (canGrow_of_lt h), hstart, bytes_ensureWritableBy _ _ _, hcapacity⟩
  | put others =>
      obtain ⟨hstart, hcapacity⟩ := ensureWritableBy_of_packed hhow ha h
      exact ⟨_, if_pos (canGrow_of_lt h), hstart, bytes_putBy _ _ _, hcapacity⟩
  | patch position n =>
      refine ⟨_, if_pos h, ha.start, ?_, (grown_of_le ha.fits).symm⟩
      have hheld : position + (Bytes.ofInt32 n).length ≤ a.bytes.length := by
        rw [Bytes.ofInt32, Bytes.length_bigEndian]
        exact h
      rw [Edit.onto, Bytes.overwrite_eq hheld, Bytes.ofInt32, Bytes.length_bigEndian]
  | clear => exact ⟨_, rfl, ha.start, rfl, (grown_of_le (Nat.zero_le _)).symm⟩

namespace Edited

variable {e : Edit} {b : Arena}

theorem grows_iff (h : a.Edited how e b) :
    a.capacity < b.capacity ↔ a.capacity < e.required a.bytes := by
  rw [h.capacity]
  exact lt_grown_iff

theorem capacity_le (h : a.Edited how e b) : a.capacity ≤ b.capacity := by
  rw [h.capacity]
  exact le_grown _ _

theorem two_mul_capacity_le (h : a.Edited how e b) (hgrows : a.capacity < b.capacity) :
    2 * a.capacity ≤ b.capacity := by
  rw [h.capacity]
  exact two_mul_le_grown (h.grows_iff.mp hgrows)

/-- Where the capacity grows, the length that the edit requires is below the
limits that the edit stays within. -/
theorem required_lt (h : a.Edited how e b) (ha : a.Packed) (hgrows : a.capacity < b.capacity)
    {limit : Nat} (hwithin : e.Within limit a.bytes) : e.required a.bytes < limit :=
  Edit.required_lt_of_within hwithin (Nat.lt_of_le_of_lt ha.fits (h.grows_iff.mp hgrows))

/-- A capacity that is a power of two grows to the least one that suffices. -/
theorem grows_to_least (h : a.Edited how e b) (ha : a.Packed) (hwithin : e.Within (2 ^ 62) a.bytes)
    (hgrows : a.capacity < b.capacity) {j : Nat} (hj : 3 ≤ j) (hpower : a.capacity = 2 ^ j) :
    b.capacity = leastPowerOfTwo (e.required a.bytes) ∧ ∃ k, 3 ≤ k ∧ b.capacity = 2 ^ k := by
  have hrequired := h.required_lt ha hgrows hwithin
  have hlargest : largestPower = 2 ^ 63 := rfl
  have hmore := h.grows_iff.mp hgrows
  rw [hpower] at hmore
  obtain ⟨hgrown, hleast⟩ := grown_two_pow hj hmore (by omega)
  rw [← hpower, ← h.capacity] at hgrown
  exact ⟨hgrown, hgrown ▸ hleast⟩

end Edited

end One

/-! ### A history of edits -/

variable {how : Reserving}

theorem editAll?_cons {a b : Arena} {e : Edit} (h : a.edit? how e = some b) (later : List Edit) :
    a.editAll? how (e :: later) = b.editAll? how later := by
  rw [editAll?, List.foldlM_cons, h]
  rfl

theorem growths_cons {a b : Arena} {e : Edit} (h : a.edit? how e = some b) (later : List Edit) :
    a.growths how (e :: later)
      = (if a.capacity < b.capacity then 1 else 0) + b.growths how later := by
  rw [growths, h]

/-- What a history of edits leads from an arena to. -/
structure Evolves (how : Reserving) (a : Arena) (edits : List Edit) (b : Arena) : Prop where
  found : a.editAll? how edits = some b
  packed : b.Packed
  bytes : b.bytes = edits.foldl Edit.onto a.bytes
  doubles : a.capacity * 2 ^ a.growths how edits ≤ b.capacity
  still : a.growths how edits = 0 → b.capacity = a.capacity
  bounded : ∀ limit, Edit.AllWithin limit a.bytes edits →
    a.growths how edits = 0 ∨ b.capacity ≤ max 8 (2 * limit)
  power : ∀ j, 3 ≤ j → a.capacity = 2 ^ j → ∃ k, 3 ≤ k ∧ b.capacity = 2 ^ k

namespace Evolves

variable {a mid b : Arena} {e : Edit} {later : List Edit}

theorem nil (ha : a.Packed) : a.Evolves how [] a where
  found := rfl
  packed := ha
  bytes := rfl
  doubles := by simp [growths]
  still _ := rfl
  bounded _ _ := .inl rfl
  power j hj h := ⟨j, hj, h⟩

theorem cons (ha : a.Packed) (hwithin : e.Within (2 ^ 62) a.bytes) (hedit : a.Edited how e mid)
    (h : mid.Evolves how later b) : a.Evolves how (e :: later) b := by
  have hgrowths := growths_cons hedit.found later
  by_cases hgrows : a.capacity < mid.capacity
  · -- the edit makes the capacity grow, and what bounds it bounds it for good
    rw [if_pos hgrows] at hgrowths
    refine ⟨(editAll?_cons hedit.found later).trans h.found, h.packed, ?_, ?_, ?_, ?_, ?_⟩
    · rw [h.bytes, hedit.bytes, List.foldl_cons]
    · calc a.capacity * 2 ^ a.growths how (e :: later)
          = 2 * a.capacity * 2 ^ mid.growths how later := by
            rw [hgrowths, Nat.pow_add, Nat.pow_one, ← Nat.mul_assoc, Nat.mul_comm a.capacity]
        _ ≤ mid.capacity * 2 ^ mid.growths how later :=
            Nat.mul_le_mul_right _ (hedit.two_mul_capacity_le hgrows)
        _ ≤ b.capacity := h.doubles
    · intro hzero
      omega
    · rintro limit ⟨hfirst, hlater⟩
      have hrequired := hedit.required_lt ha hgrows hfirst
      have hmid := grown_le (hedit.grows_iff.mp hgrows)
      rw [← hedit.capacity] at hmid
      rw [← hedit.bytes] at hlater
      rcases h.bounded limit hlater with hzero | hbounded
      · rw [h.still hzero]
        omega
      · exact .inr hbounded
    · intro j hj hpower
      obtain ⟨-, k, hk, hmid⟩ := hedit.grows_to_least ha hwithin hgrows hj hpower
      exact h.power k hk hmid
  · have hsame : mid.capacity = a.capacity :=
      Nat.le_antisymm (Nat.le_of_not_lt hgrows) hedit.capacity_le
    rw [if_neg hgrows, Nat.zero_add] at hgrowths
    refine ⟨(editAll?_cons hedit.found later).trans h.found, h.packed, ?_, ?_, ?_, ?_, ?_⟩
    · rw [h.bytes, hedit.bytes, List.foldl_cons]
    · rw [hgrowths, ← hsame]
      exact h.doubles
    · rw [hgrowths, ← hsame]
      exact h.still
    · rintro limit ⟨-, hlater⟩
      rw [hgrowths]
      exact h.bounded limit (hedit.bytes ▸ hlater)
    · rw [← hsame]
      exact h.power

end Evolves

/-- **A history of edits is carried out**, edit by edit. -/
theorem evolves_of_within {a : Arena} {edits : List Edit} (hhow : how.Doubles) (ha : a.Packed)
    (h : Edit.AllWithin (2 ^ 62) a.bytes edits) : ∃ b, a.Evolves how edits b := by
  induction edits generalizing a with
  | nil => exact ⟨a, .nil ha⟩
  | cons e later ih =>
      obtain ⟨hfirst, hlater⟩ := h
      obtain ⟨mid, hedit⟩ := edited_of_within hhow ha hfirst
      obtain ⟨b, hevolves⟩ := ih hedit.packed (hedit.bytes ▸ hlater)
      exact ⟨b, .cons ha hfirst hedit hevolves⟩

theorem packed_withCapacity (c : Nat) : (withCapacity c).Packed :=
  ⟨rfl, Nat.zero_le _⟩

/-- **An arena is a byte string under append, overwrite and clear.** Let reserving
make a capacity twice as large, or as large as is needed if that is more. Start
with any capacity and let the lengths that are required stay below 2^62. Then every
edit of a history is carried out, the arena holds what the edits make of the
empty byte string, and it never holds more than its capacity. Every growth
doubles what there was at the start, so the growths are logarithmically many in
the longest length that was required. Whatever edit comes next is carried out
as well: the capacity does not shrink, there is room for the bytes that were
asked for, and it grows exactly if it falls short of what is required. It then
at least doubles, and where it was a power of two from 8 on at the start it
becomes the least one at or above what is required. -/
theorem edits_follow_bytes (how : Reserving) (hhow : how.Doubles) (c : Nat) (edits : List Edit)
    (h : Edit.AllWithin (2 ^ 62) [] edits) :
    ∃ a, (withCapacity c).editAll? how edits = some a ∧
      a.bytes = edits.foldl Edit.onto [] ∧
      a.length ≤ a.capacity ∧
      c * 2 ^ (withCapacity c).growths how edits ≤ a.capacity ∧
      (∀ limit, Edit.AllWithin limit [] edits → (withCapacity c).growths how edits = 0 ∨
        c * 2 ^ (withCapacity c).growths how edits ≤ max 8 (2 * limit)) ∧
      ∀ e, e.Within (2 ^ 62) a.bytes → ∃ b, a.edit? how e = some b ∧
        a.capacity ≤ b.capacity ∧
        (∀ additional, e = .ensure additional → a.length + additional ≤ b.capacity) ∧
        (a.capacity < b.capacity ↔ a.capacity < e.required a.bytes) ∧
        (a.capacity < b.capacity →
          2 * a.capacity ≤ b.capacity ∧
          ∀ j, 3 ≤ j → c = 2 ^ j →
            IsLeast {p | e.required a.bytes ≤ p ∧ ∃ k, p = 2 ^ k} b.capacity) := by
  obtain ⟨a, hevolves⟩ := evolves_of_within hhow (packed_withCapacity c) h
  refine ⟨a, hevolves.found, hevolves.bytes, hevolves.packed.fits, hevolves.doubles, ?_, ?_⟩
  · intro limit hlimit
    exact (hevolves.bounded limit hlimit).imp_right (Nat.le_trans hevolves.doubles)
  · intro e he
    obtain ⟨b, hedit⟩ := edited_of_within hhow hevolves.packed he
    refine ⟨b, hedit.found, hedit.capacity_le, ?_, hedit.grows_iff, ?_⟩
    · rintro additional rfl
      rw [hedit.capacity]
      exact required_le_grown _ _
    · intro hgrows
      refine ⟨hedit.two_mul_capacity_le hgrows, ?_⟩
      intro j hj hc
      obtain ⟨k, hk, hcapacity⟩ := hevolves.power j hj hc
      obtain ⟨hleast, -⟩ := hedit.grows_to_least hevolves.packed he hgrows hk hcapacity
      rw [hleast]
      exact isLeast_leastPowerOfTwo _

/-- An arena of 16 bytes that grows twice, is cleared and patched, and then has
to grow once more. -/
theorem edits_follow_bytes_over_two_growths :
    let edits : List Edit :=
      [.put (List.replicate 20 7), .ensure 100, .clear, .put (List.replicate 8 0),
        .patch 2 0x01020304]
    ∃ a, (withCapacity 16).editAll? .standard edits = some a ∧
      a.bytes = [0, 0, 1, 2, 3, 4, 0, 0] ∧
      16 * 2 ^ 2 ≤ a.capacity ∧
      ∃ b, a.edit? .standard (.ensure 200) = some b ∧ a.length + 200 ≤ b.capacity := by
  intro edits
  have hgrowths : (withCapacity 16).growths .standard edits = 2 := by decide +kernel
  have hbytes : edits.foldl Edit.onto [] = [0, 0, 1, 2, 3, 4, 0, 0] := by decide +kernel
  obtain ⟨a, hfound, hholds, -, hdoubles, -, hnext⟩ :=
    edits_follow_bytes .standard Reserving.doubles_standard 16 edits (by decide +kernel)
  rw [hbytes] at hholds
  rw [hgrowths] at hdoubles
  obtain ⟨b, hedit, -, hroom, -⟩ := hnext (.ensure 200) (by rw [hholds]; decide)
  exact ⟨a, hfound, hholds, hdoubles, b, hedit, hroom 200 rfl⟩

end Arena

end Parley
