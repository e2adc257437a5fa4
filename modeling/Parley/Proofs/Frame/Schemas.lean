/-
Values of any schema, written and read back.

A schema is a tree of primitive fields, sequences and lists. `Schema.layout`
says which bytes a value has, from the value alone: numbers in two's
complement, most significant byte first, a text behind the number of its bytes
in UTF-8, a list behind the number of its elements. Values written one after
the other behind whatever an arena holds leave exactly these bytes, and reading
by the same schemas finds the values again and stops where they end
(`Schema.written_values_read_back`).
-/
import Mathlib.Tactic.Ring
import Parley.Proofs.Frame.Assembly
import Parley.Proofs.Frame.RoundTrip

namespace Parley

/-! ### Two's complement -/

namespace Bytes

/-- The last `width` bytes of a whole number in two's complement, most
significant first: the byte of weight `256 ^ k` is the remainder by 256 of the
number divided by that weight, rounded down. -/
def twosComplement (width : Nat) (v : Int) : Bytes :=
  (List.range width).reverse.map fun k => UInt8.ofNat (v / 256 ^ k % 256).toNat

theorem twosComplement_succ (width : Nat) (v : Int) :
    twosComplement (width + 1) v
      = twosComplement width (v / 256) ++ [UInt8.ofNat (v % 256).toNat] := by
  have hweight (k : Nat) : v / 256 ^ (k + 1) = v / 256 / 256 ^ k := by
    rw [Int.ediv_ediv_of_nonneg (by decide), pow_succ']
  simp [twosComplement, List.range_succ_eq_map, hweight, Function.comp_def]

/-- Numbers that differ by a multiple of `256 ^ width` have the same last bytes. -/
theorem bigEndian_eq_twosComplement {width n : Nat} {v q : Int} (h : n = v + 256 ^ width * q) :
    bigEndian width n = twosComplement width v := by
  induction width generalizing n v with
  | zero => rfl
  | succ width ih =>
      have hshift : (n : Int) = v + 256 * (256 ^ width * q) := by
        rw [h, pow_succ']
        ring
      have hdigit : UInt8.ofNat n = UInt8.ofNat (v % 256).toNat := by
        apply UInt8.toNat_inj.mp
        rw [UInt8.toNat_ofNat', UInt8.toNat_ofNat']
        omega
      have hrest : ((n / 256 : Nat) : Int) = v / 256 + 256 ^ width * q := by
        rw [Int.natCast_ediv, hshift]
        exact Int.add_mul_ediv_left _ _ (by decide)
      rw [bigEndian, twosComplement_succ, ih hrest, hdigit]

theorem bigEndian_natCast (width n : Nat) : bigEndian width n = twosComplement width n := by
  apply bigEndian_eq_twosComplement (q := 0)
  simp

theorem bigEndian_bitVec (width : Nat) (x : BitVec (8 * width)) :
    bigEndian width x.toNat = twosComplement width x.toInt := by
  have hweight : (2 : Int) ^ (8 * width) = 256 ^ width := by
    rw [pow_mul]
    rfl
  rw [BitVec.toInt_eq_toNat_cond]
  split
  next => exact bigEndian_natCast width _
  next =>
    apply bigEndian_eq_twosComplement (q := 1)
    push_cast
    rw [hweight]
    ring

theorem ofInt16_eq (n : Int16) : ofInt16 n = twosComplement 2 n.toInt := bigEndian_bitVec 2 _

theorem ofInt32_eq (n : Int32) : ofInt32 n = twosComplement 4 n.toInt := bigEndian_bitVec 4 _

theorem ofInt64_eq (n : Int64) : ofInt64 n = twosComplement 8 n.toInt := bigEndian_bitVec 8 _

theorem singleton_uint8 (v : UInt8) : [v] = twosComplement 1 v.toNat := by
  rw [← bigEndian_natCast]
  simp [bigEndian]

theorem singleton_int8 (v : Int8) : [v.toUInt8] = twosComplement 1 v.toInt := by
  have hbits : bigEndian 1 v.toBitVec.toNat = twosComplement 1 v.toInt := bigEndian_bitVec 1 _
  rw [← hbits]
  simp [bigEndian]

theorem le_maxLength_iff {n : Nat} : n ≤ maxLength ↔ n < 2 ^ 31 := by
  unfold maxLength
  omega

end Bytes

/-! ### Schemas -/

namespace Schema

/-- The bytes of a value: numbers in two's complement, most significant byte
first, and a length or count in four bytes before a text, a blob or a list. -/
def layout : (s : Schema) → s.Value → Bytes
  | u8, v => Bytes.twosComplement 1 v.toNat
  | i8, v => Bytes.twosComplement 1 v.toInt
  | bool, v => Bytes.twosComplement 1 (if v then 1 else 0)
  | i16, v => Bytes.twosComplement 2 v.toInt
  | i32, v => Bytes.twosComplement 4 v.toInt
  | i64, v => Bytes.twosComplement 8 v.toInt
  | f32, v => Bytes.twosComplement 4 v.toNat
  | f64, v => Bytes.twosComplement 8 v.toNat
  | text, v => Bytes.twosComplement 4 v.utf8ByteSize ++ v.toUTF8.data.toList
  | blob, v => Bytes.twosComplement 4 v.length ++ v
  | nothing, _ => []
  | pair a b, v => a.layout v.1 ++ b.layout v.2
  | list a, vs => Bytes.twosComplement 4 vs.length ++ vs.flatMap a.layout

/-- Every length and count of a value fits four signed bytes. -/
def Fits : (s : Schema) → s.Value → Prop
  | text, v => v.utf8ByteSize < 2 ^ 31
  | blob, v => v.length < 2 ^ 31
  | pair a b, v => a.Fits v.1 ∧ b.Fits v.2
  | list a, vs => vs.length < 2 ^ 31 ∧ ∀ v ∈ vs, a.Fits v
  | _, _ => True

theorem codec_readsBack (s : Schema) : s.codec.ReadsBack := by
  induction s with
  | u8 => exact Codec.u8_readsBack
  | i8 => exact Codec.i8_readsBack
  | bool => exact Codec.bool_readsBack
  | i16 => exact Codec.i16_readsBack
  | i32 => exact Codec.i32_readsBack
  | i64 => exact Codec.i64_readsBack
  | f32 => exact Codec.f32_readsBack
  | f64 => exact Codec.f64_readsBack
  | text => exact Codec.text_readsBack
  | blob => exact Codec.blob_readsBack
  | nothing => exact Codec.unit_readsBack
  | pair a b iha ihb => exact Codec.pair_readsBack iha ihb
  | list a ih => exact Codec.list_readsBack ih

theorem bytes_codec (s : Schema) (v : s.Value) : s.codec.bytes v = s.layout v := by
  induction s with
  | u8 => exact Bytes.singleton_uint8 v
  | i8 => exact Bytes.singleton_int8 v
  | bool => cases v <;> rfl
  | i16 => exact (List.append_nil _).trans (Bytes.ofInt16_eq v)
  | i32 => exact (List.append_nil _).trans (Bytes.ofInt32_eq v)
  | i64 => exact (List.append_nil _).trans (Bytes.ofInt64_eq v)
  | f32 => exact (List.append_nil _).trans (Bytes.bigEndian_natCast 4 _)
  | f64 => exact (List.append_nil _).trans (Bytes.bigEndian_natCast 8 _)
  | text =>
      have hbytes : (Codec.text.bytes v) = Bytes.bigEndian 4 v.utf8ByteSize ++ Bytes.ofText v :=
        List.append_nil _
      rw [Bytes.bigEndian_natCast] at hbytes
      exact hbytes
  | blob =>
      have hbytes : Codec.blob.bytes v = Bytes.bigEndian 4 v.length ++ v := List.append_nil _
      rw [Bytes.bigEndian_natCast] at hbytes
      exact hbytes
  | nothing => rfl
  | pair a b iha ihb =>
      change (a.codec.pair b.codec).bytes (v.1, v.2) = _
      rw [Codec.bytes_pair, iha, ihb]
      rfl
  | list a ih =>
      change a.codec.list.bytes v = _
      rw [Codec.bytes_list, Bytes.bigEndian_natCast, funext ih]
      rfl

theorem fits_codec (s : Schema) (v : s.Value) : s.codec.Fits v ↔ s.Fits v := by
  induction s with
  | text => exact (Codec.fits_of_field rfl rfl).trans Bytes.le_maxLength_iff
  | blob => exact (Codec.fits_of_field rfl rfl).trans Bytes.le_maxLength_iff
  | pair a b iha ihb =>
      change (a.codec.pair b.codec).Fits (v.1, v.2) ↔ _
      rw [Codec.fits_pair, iha, ihb]
      rfl
  | list a ih =>
      change a.codec.list.Fits v ↔ _
      rw [Codec.fits_list, Bytes.le_maxLength_iff]
      simp only [ih]
      rfl
  | _ => exact iff_of_true rfl trivial

/-! ### Values one after the other -/

/-- A value together with its schema. -/
structure Typed where
  schema : Schema
  value : schema.Value

namespace Typed

/-- The fields as which a value is written. -/
def fields (v : Typed) : List Field := v.schema.codec.fields v.value

/-- The bytes of a value. -/
def layout (v : Typed) : Bytes := v.schema.layout v.value

/-- Every length and count of a value fits four signed bytes. -/
def Fits (v : Typed) : Prop := v.schema.Fits v.value

end Typed

/-- Reads a value of each schema in turn. -/
def readAll : List Schema → Decoder (List Typed)
  | [] => return []
  | s :: rest => do
    let value ← s.codec.read
    let values ← readAll rest
    return ⟨s, value⟩ :: values

theorem bytesOf_fields (values : List Typed) :
    Field.bytesOf (values.flatMap Typed.fields) = values.flatMap Typed.layout := by
  induction values with
  | nil => rfl
  | cons v rest ih =>
      have hvalue : Field.bytesOf v.fields = v.layout := bytes_codec v.schema v.value
      rw [List.flatMap_cons, Field.bytesOf_append, ih, hvalue]
      rfl

theorem failureOf?_fields {values : List Typed} :
    Field.failureOf? (values.flatMap Typed.fields) = none ↔ ∀ v ∈ values, v.Fits := by
  induction values with
  | nil => simp [Field.failureOf?]
  | cons v rest ih =>
      have hvalue : Field.failureOf? v.fields = none ↔ v.Fits := fits_codec v.schema v.value
      rw [List.flatMap_cons, Field.failureOf?_append_eq_none, ih, hvalue, List.forall_mem_cons]

/-- Each value is found where the one before it ends. -/
theorem readAll_layout {values : List Typed} (hfits : ∀ v ∈ values, v.Fits) (rest : Bytes) :
    readAll (values.map Typed.schema) (values.flatMap Typed.layout ++ rest) = .ok values rest := by
  induction values with
  | nil => rfl
  | cons v values ih =>
      obtain ⟨hv, hvalues⟩ := List.forall_mem_cons.mp hfits
      have hvalue (more : Bytes) : v.schema.codec.read (v.layout ++ more) = .ok v.value more := by
        have hread := codec_readsBack v.schema v.value ((fits_codec _ _).mpr hv) more
        rwa [bytes_codec] at hread
      rw [List.flatMap_cons, List.append_assoc, List.map_cons, readAll,
        Decoder.bind_of_ok (hvalue _), Decoder.bind_of_ok (ih hvalues)]
      rfl

/-- **What is written by a schema is read back by it.** Values of any schemas,
written one after the other behind what an arena holds, are accepted exactly if
all their lengths and counts fit. Then the arena holds the bytes of the values
behind what it held; read by the same schemas these yield the values again, in
order and to the last byte, and whatever follows them is left. -/
theorem written_values_read_back (values : List Typed) (a : Arena) :
    ((a.write (values.flatMap Typed.fields)).2 = none ↔ ∀ v ∈ values, v.Fits) ∧
      ((a.write (values.flatMap Typed.fields)).2 = none →
        (a.write (values.flatMap Typed.fields)).1.bytes
            = a.bytes ++ values.flatMap Typed.layout ∧
          (readAll (values.map Typed.schema)).whole (values.flatMap Typed.layout) = .ok values ∧
          ∀ rest, readAll (values.map Typed.schema) (values.flatMap Typed.layout ++ rest)
            = .ok values rest) := by
  rw [Arena.snd_write, failureOf?_fields]
  constructor
  · exact Iff.rfl
  · intro hfits
    have hread := readAll_layout hfits
    obtain ⟨hbytes, -⟩ := a.bytes_write_of_fits _ (failureOf?_fields.mpr hfits)
    constructor
    · rw [hbytes, bytesOf_fields]
    · constructor
      · apply Decoder.whole_of_ok
        simpa using hread []
      · exact hread

/-- A number, a text and a list of pairs with lists in them, behind one byte and
before two more. -/
theorem written_values_read_back_nested :
    let values : List Typed :=
      [⟨.i16, (-2 : Int16)⟩, ⟨.text, "é"⟩,
        ⟨.list (.pair .bool (.list .i32)), [(true, [(-1 : Int32)]), (false, [])]⟩]
    let payload : Bytes :=
      [0xff, 0xfe, 0, 0, 0, 2, 0xc3, 0xa9, 0, 0, 0, 2, 1, 0, 0, 0, 1, 0xff, 0xff, 0xff, 0xff,
        0, 0, 0, 0, 0]
    let written := ((Arena.withCapacity 4).put [9]).write (values.flatMap Typed.fields)
    written.2 = none ∧ written.1.bytes = [9] ++ payload ∧
      readAll [.i16, .text, .list (.pair .bool (.list .i32))] (payload ++ [5, 5])
        = .ok values [5, 5] := by
  intro values payload written
  have hfits : ∀ v ∈ values, v.Fits := by
    simp [values, Typed.Fits, Fits]
    decide
  have hpayload : values.flatMap Typed.layout = payload := by decide
  obtain ⟨haccepted, hback⟩ :=
    written_values_read_back values ((Arena.withCapacity 4).put [9])
  have hwritten : written.2 = none := haccepted.mpr hfits
  obtain ⟨hbytes, -, hread⟩ := hback hwritten
  rw [hpayload] at hbytes hread
  constructor
  · exact hwritten
  · constructor
    · rw [hbytes, Arena.bytes_put]
      rfl
    · exact hread [5, 5]

end Schema

end Parley
