/-
Codecs read back what they write.

A codec reads a value back if its decoder, at the front of any bytes that
begin with the written form of the value, yields the value and leaves the rest
(`Codec.ReadsBack`). The primitive codecs do, and the ways in which codecs are
put together keep it so. Nothing is asked of a value but that its lengths and
counts fit.
-/
import Parley.Frame.Codec
import Parley.Proofs.Frame.Split

namespace Parley

/-! ### Decoders in sequence -/

namespace Decoder

variable {α β : Type} {bs rest : Bytes}

/-- A decoder goes on with what the one before it left. -/
theorem bind_of_ok {d : Decoder α} {x : α} (h : d bs = .ok x rest) (f : α → Decoder β) :
    (d >>= f) bs = f x rest := by
  change EStateM.bind d f bs = f x rest
  rw [EStateM.bind, h]

theorem take_append {n : Nat} (h : bs.length = n) (rest : Bytes) :
    take n (bs ++ rest) = .ok bs rest := by
  subst h
  rw [take, if_pos (by simp), List.take_left, List.drop_left]

theorem i32_ofInt32 (n : Int32) (rest : Bytes) :
    i32 (Bytes.ofInt32 n ++ rest) = .ok n rest := by
  rw [i32, bind_of_ok (take_append (Bytes.length_ofInt32 n) rest), Bytes.toInt32_ofInt32]
  rfl

/-- A length that fits reads back. -/
theorem length_bigEndian {n : Nat} (h : n ≤ maxLength) (rest : Bytes) :
    length (Bytes.bigEndian 4 n ++ rest) = .ok n rest := by
  have hint := toInt_ofNat_of_le_maxLength h
  have hbytes : Bytes.bigEndian 4 n = Bytes.ofInt32 (Int32.ofNat n) := by
    have hlt : n < 2 ^ 32 := by
      unfold maxLength at h
      omega
    have hword : (Int32.ofNat n).toUInt32.toNat = n := by
      change n % 2 ^ 32 = n
      exact Nat.mod_eq_of_lt hlt
    rw [Bytes.ofInt32, hword]
  have hnonneg : ¬ Int32.ofNat n < 0 := by
    rw [Int32.lt_iff_toInt_lt, hint]
    exact Int.not_lt.mpr (Int.natCast_nonneg n)
  rw [length, hbytes, bind_of_ok (i32_ofInt32 _ rest), if_neg hnonneg, hint]
  rfl

/-- A decoder that leaves nothing of a payload yields its value. -/
theorem whole_of_ok {d : Decoder α} {x : α} (h : d bs = .ok x []) : d.whole bs = .ok x := by
  rw [whole, bind_of_ok h]
  rfl

end Decoder

/-! ### Fields in sequence -/

theorem Field.bytesOf_append (fs gs : List Field) : bytesOf (fs ++ gs) = bytesOf fs ++ bytesOf gs :=
  List.flatMap_append

theorem Field.failureOf?_append_eq_none {fs gs : List Field} :
    failureOf? (fs ++ gs) = none ↔ failureOf? fs = none ∧ failureOf? gs = none := by
  rw [failureOf?, List.findSome?_append, Option.or_eq_none_iff]
  rfl

theorem Field.failure?_eq_none {f : Field} {n : Nat} (h : f.length? = some n) :
    f.failure? = none ↔ n ≤ maxLength := by
  simp [failure?, h]

/-! ### Reading back -/

namespace Codec

variable {α β : Type}

/-- A codec reads what it wrote of a value as the form of the value. -/
def ReadsAs (c : Codec α) (form : α → α) : Prop :=
  ∀ x, c.Fits x → ∀ rest, c.read (c.bytes x ++ rest) = .ok (form x) rest

/-- A codec reads back what it wrote. -/
def ReadsBack (c : Codec α) : Prop := c.ReadsAs id

theorem fits_of_field {c : Codec α} {f : Field} {n : Nat} {x : α} (hfields : c.fields x = [f])
    (hlength : f.length? = some n) : c.Fits x ↔ n ≤ maxLength := by
  rw [Fits, hfields, Field.failureOf?, List.findSome?_singleton, Field.failure?_eq_none hlength]

theorem unit_readsBack : unit.ReadsBack := fun _ _ _ => rfl

theorem bool_readsBack : bool.ReadsBack := by
  intro b _ rest
  cases b with
  | false => rfl
  | true => rfl

/-- A codec of fixed width reads back if each value is that of its bytes. -/
theorem fixed_readsBack {c : Codec α} {width : Nat} {value : Bytes → α}
    (hread : c.read = do return value (← Decoder.take width))
    (hlength : ∀ x, (c.bytes x).length = width) (hvalue : ∀ x, value (c.bytes x) = x) :
    c.ReadsBack := by
  intro x _ rest
  rw [hread, Decoder.bind_of_ok (Decoder.take_append (hlength x) rest), hvalue]
  rfl

theorem u8_readsBack : u8.ReadsBack := by
  apply fixed_readsBack rfl
  · intro v
    rfl
  · intro v
    change UInt8.ofNat (Bytes.toNat [v]) = v
    simp [Bytes.toNat]

theorem i8_readsBack : i8.ReadsBack := by
  intro v _ rest
  have hbyte : Decoder.u8 (i8.bytes v ++ rest) = .ok v.toUInt8 rest :=
    u8_readsBack v.toUInt8 rfl rest
  change Decoder.i8 _ = _
  rw [Decoder.i8, Decoder.bind_of_ok hbyte]
  rfl

theorem i16_readsBack : i16.ReadsBack := by
  have hbytes (n : Int16) : i16.bytes n = Bytes.ofInt16 n := List.append_nil _
  apply fixed_readsBack rfl
  · intro n
    rw [hbytes, Bytes.length_ofInt16]
  · intro n
    rw [hbytes, Bytes.toInt16_ofInt16]

theorem i32_readsBack : i32.ReadsBack := by
  intro n _ rest
  have hbytes : i32.bytes n = Bytes.ofInt32 n := List.append_nil _
  rw [hbytes]
  exact Decoder.i32_ofInt32 n rest

theorem i64_readsBack : i64.ReadsBack := by
  have hbytes (n : Int64) : i64.bytes n = Bytes.ofInt64 n := List.append_nil _
  apply fixed_readsBack rfl
  · intro n
    rw [hbytes]
    exact Bytes.length_bigEndian _ _
  · intro n
    rw [hbytes, Bytes.toInt64_ofInt64]

theorem f32_readsBack : f32.ReadsBack := by
  have hbytes (v : UInt32) : f32.bytes v = Bytes.bigEndian 4 v.toNat := List.append_nil _
  apply fixed_readsBack rfl
  · intro v
    rw [hbytes, Bytes.length_bigEndian]
  · intro v
    rw [hbytes, Bytes.toNat_bigEndian, Nat.mod_eq_of_lt v.toNat_lt, UInt32.ofNat_toNat]

theorem f64_readsBack : f64.ReadsBack := by
  have hbytes (v : UInt64) : f64.bytes v = Bytes.bigEndian 8 v.toNat := List.append_nil _
  apply fixed_readsBack rfl
  · intro v
    rw [hbytes, Bytes.length_bigEndian]
  · intro v
    rw [hbytes, Bytes.toNat_bigEndian, Nat.mod_eq_of_lt v.toNat_lt, UInt64.ofNat_toNat]

theorem blob_readsBack : blob.ReadsBack := by
  intro bs hfits rest
  have hlength : bs.length ≤ maxLength := (fits_of_field rfl rfl).mp hfits
  have hbytes : blob.bytes bs = Bytes.bigEndian 4 bs.length ++ bs := List.append_nil _
  change Decoder.blob _ = _
  rw [hbytes, List.append_assoc, Decoder.blob,
    Decoder.bind_of_ok (Decoder.length_bigEndian hlength _)]
  exact Decoder.take_append rfl rest

theorem text_readsBack : text.ReadsBack := by
  intro s hfits rest
  have hlength : (Bytes.ofText s).length ≤ maxLength := (fits_of_field rfl rfl).mp hfits
  -- a text is written as the blob of its bytes
  have hblob : Decoder.blob (text.bytes s ++ rest) = .ok (Bytes.ofText s) rest :=
    blob_readsBack (Bytes.ofText s) ((fits_of_field rfl rfl).mpr hlength) rest
  change Decoder.text _ = _
  rw [Decoder.text, Decoder.bind_of_ok hblob]
  simp only [Bytes.text?_ofText]
  rfl

theorem bytes_pair (c : Codec α) (d : Codec β) (x : α) (y : β) :
    (c.pair d).bytes (x, y) = c.bytes x ++ d.bytes y :=
  Field.bytesOf_append _ _

theorem fits_pair {c : Codec α} {d : Codec β} {x : α} {y : β} :
    (c.pair d).Fits (x, y) ↔ c.Fits x ∧ d.Fits y :=
  Field.failureOf?_append_eq_none

theorem pair_readsBack {c : Codec α} {d : Codec β} (hc : c.ReadsBack) (hd : d.ReadsBack) :
    (c.pair d).ReadsBack := by
  rintro ⟨x, y⟩ hfits rest
  obtain ⟨hx, hy⟩ := fits_pair.mp hfits
  rw [bytes_pair, List.append_assoc]
  change (c.read >>= fun x => d.read >>= fun y => pure (x, y)) _ = _
  rw [Decoder.bind_of_ok (hc x hx _), Decoder.bind_of_ok (hd y hy rest)]
  rfl

theorem bytes_list (c : Codec α) (xs : List α) :
    c.list.bytes xs = Bytes.bigEndian 4 xs.length ++ xs.flatMap c.bytes := by
  have hcount : (Field.count xs.length).bytes = Bytes.bigEndian 4 xs.length := List.append_nil _
  change (Field.count xs.length :: xs.flatMap c.fields).flatMap Field.bytes = _
  rw [List.flatMap_cons, hcount, List.flatMap_assoc]
  rfl

theorem fits_list {c : Codec α} {xs : List α} :
    c.list.Fits xs ↔ xs.length ≤ maxLength ∧ ∀ x ∈ xs, c.Fits x := by
  have hcount : (Field.count xs.length).failure? = none ↔ xs.length ≤ maxLength :=
    Field.failure?_eq_none rfl
  have hitems : Field.failureOf? (xs.flatMap c.fields) = none ↔ ∀ x ∈ xs, c.Fits x := by
    simp only [Field.failureOf?, List.findSome?_eq_none_iff, List.mem_flatMap, Fits]
    constructor
    · intro h x hx f hf
      exact h f ⟨x, hx, hf⟩
    · rintro h f ⟨x, hx, hf⟩
      exact h x hx f hf
  change Field.failureOf? ([Field.count xs.length] ++ xs.flatMap c.fields) = none ↔ _
  rw [Field.failureOf?_append_eq_none, hitems, Field.failureOf?, List.findSome?_singleton, hcount]

theorem times_flatMap_bytes {c : Codec α} (hc : c.ReadsBack) {xs : List α}
    (hfits : ∀ x ∈ xs, c.Fits x) (rest : Bytes) :
    Decoder.times c.read xs.length (xs.flatMap c.bytes ++ rest) = .ok xs rest := by
  induction xs with
  | nil => rfl
  | cons x xs ih =>
      obtain ⟨hx, hxs⟩ := List.forall_mem_cons.mp hfits
      rw [List.flatMap_cons, List.append_assoc]
      change (c.read >>= fun x => Decoder.times c.read xs.length >>= fun xs => pure (x :: xs)) _ = _
      rw [Decoder.bind_of_ok (hc x hx _), Decoder.bind_of_ok (ih hxs)]
      rfl

theorem list_readsBack {c : Codec α} (hc : c.ReadsBack) : c.list.ReadsBack := by
  intro xs hfits rest
  obtain ⟨hcount, hitems⟩ := fits_list.mp hfits
  rw [bytes_list, List.append_assoc]
  change (Decoder.length >>= Decoder.times c.read) _ = _
  rw [Decoder.bind_of_ok (Decoder.length_bigEndian hcount _)]
  exact times_flatMap_bytes hc hitems rest

/-- A layout of parts reads back if the parts do and make up the whole again. -/
theorem map_readsBack {c : Codec α} (hc : c.ReadsBack) {make : α → β} {parts : β → α}
    (hback : ∀ y, make (parts y) = y) : (c.map make parts).ReadsBack := by
  intro y hfits rest
  change (c.read >>= fun x => pure (make x)) (c.bytes (parts y) ++ rest) = _
  rw [Decoder.bind_of_ok (hc (parts y) hfits rest)]
  exact congrArg (EStateM.Result.ok · rest) (hback y)

end Codec

end Parley
