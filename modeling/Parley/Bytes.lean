/-
Byte strings and big-endian numbers.

`Bytes.bigEndian w n` is the last `w` base-256 digits of `n`, most significant
first, and `Bytes.toNat` reads such digits back: nothing is lost of a number
below `256 ^ w` (`toNat_bigEndian`), so the fixed-width signed numbers and the
texts of the wire read back as they were written.
-/

namespace Parley

/-- A byte string. -/
abbrev Bytes := List UInt8

namespace Bytes

/-- The last `width` base-256 digits of a number, most significant first. -/
def bigEndian : (width : Nat) → Nat → Bytes
  | 0, _ => []
  | w + 1, n => bigEndian w (n / 256) ++ [UInt8.ofNat n]

/-- The number whose base-256 digits, most significant first, are the bytes. -/
def toNat (bs : Bytes) : Nat :=
  bs.foldl (fun n b => 256 * n + b.toNat) 0

@[simp] theorem length_bigEndian (w n : Nat) : (bigEndian w n).length = w := by
  induction w generalizing n with
  | zero => rfl
  | succ w ih => simp [bigEndian, ih]

theorem toNat_append_singleton (bs : Bytes) (b : UInt8) :
    toNat (bs ++ [b]) = 256 * toNat bs + b.toNat := by
  simp [toNat]

theorem toNat_bigEndian (w n : Nat) : toNat (bigEndian w n) = n % Nat.pow 256 w := by
  induction w generalizing n with
  | zero => simp [bigEndian, toNat, Nat.mod_one]
  | succ w ih =>
    have h : (UInt8.ofNat n).toNat = n % 256 := UInt8.toNat_ofNat'
    have hp : Nat.pow 256 (w + 1) = 256 * Nat.pow 256 w := Nat.mul_comm _ _
    rw [bigEndian, toNat_append_singleton, ih, h, hp, Nat.mod_mul, Nat.add_comm]

/-- The text that the bytes spell in UTF-8, if they are valid UTF-8. -/
def text? (bs : Bytes) : Option String :=
  String.fromUTF8? ⟨bs.toArray⟩

/-- The UTF-8 form of a text. -/
def ofText (s : String) : Bytes :=
  s.toUTF8.data.toList

@[simp] theorem text?_ofText (s : String) : text? (ofText s) = some s := by
  have h : (⟨(ofText s).toArray⟩ : ByteArray) = s.toByteArray := by simp [ofText]
  rw [text?, h, String.fromUTF8?]
  simp [s.isValidUTF8, String.fromUTF8]

/-- The lexicographic order of two byte strings, a proper beginning coming first. -/
def precedes (a b : Bytes) : Bool :=
  decide (a < b)

end Bytes

/-! ### The widths of the wire -/

/-- The largest length and count that a four-byte signed length field can hold. -/
def maxLength : Nat := 0x7fffffff

/-- The four bytes of a signed 32-bit number. -/
def Bytes.ofInt32 (n : Int32) : Bytes :=
  bigEndian 4 n.toUInt32.toNat

/-- The signed 32-bit number that four bytes denote. -/
def Bytes.toInt32 (bs : Bytes) : Int32 :=
  (UInt32.ofNat (toNat bs)).toInt32

/-- The two bytes of a signed 16-bit number. -/
def Bytes.ofInt16 (n : Int16) : Bytes :=
  bigEndian 2 n.toUInt16.toNat

/-- The signed 16-bit number that two bytes denote. -/
def Bytes.toInt16 (bs : Bytes) : Int16 :=
  (UInt16.ofNat (toNat bs)).toInt16

/-- The eight bytes of a signed 64-bit number. -/
def Bytes.ofInt64 (n : Int64) : Bytes :=
  bigEndian 8 n.toUInt64.toNat

/-- The signed 64-bit number that eight bytes denote. -/
def Bytes.toInt64 (bs : Bytes) : Int64 :=
  (UInt64.ofNat (toNat bs)).toInt64

@[simp] theorem Bytes.toInt32_ofInt32 (n : Int32) : toInt32 (ofInt32 n) = n := by
  have h := n.toUInt32.toNat_lt
  simp [toInt32, ofInt32, toNat_bigEndian, Nat.mod_eq_of_lt h]

@[simp] theorem Bytes.toInt16_ofInt16 (n : Int16) : toInt16 (ofInt16 n) = n := by
  have h := n.toUInt16.toNat_lt
  simp [toInt16, ofInt16, toNat_bigEndian, Nat.mod_eq_of_lt h]

@[simp] theorem Bytes.toInt64_ofInt64 (n : Int64) : toInt64 (ofInt64 n) = n := by
  have h := n.toUInt64.toNat_lt
  simp [toInt64, ofInt64, toNat_bigEndian, Nat.mod_eq_of_lt h]

end Parley
