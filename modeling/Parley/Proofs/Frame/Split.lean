/-
Frames at the front of a buffer.

Splitting a buffer inverts writing a frame: `split?_eq_some` says that a frame
is taken off exactly the buffers that begin with its written form, if its
payload is within the limit. So the verdict on a buffer stands when more bytes
arrive behind it (`split?_append_of_some`, `split?_append_of_error`), and a
buffer without a verdict is short (`length_lt_of_split?_none`).
-/
import Parley.Frame.Raw
import Mathlib.Data.List.Induction

namespace Parley

/-! ### Reading numbers back as bytes -/

namespace Bytes

theorem toNat_lt (bs : Bytes) : toNat bs < Nat.pow 256 bs.length := by
  induction bs using List.reverseRecOn with
  | nil => decide
  | append_singleton bs b ih =>
      have hb := b.toNat_lt
      have hp : Nat.pow 256 (bs ++ [b]).length = 256 * Nat.pow 256 bs.length := by
        rw [List.length_append, List.length_singleton]
        exact Nat.mul_comm _ _
      rw [toNat_append_singleton, hp]
      omega

/-- The digits of the number that some bytes denote are those bytes. -/
theorem bigEndian_toNat (bs : Bytes) : bigEndian bs.length (toNat bs) = bs := by
  induction bs using List.reverseRecOn with
  | nil => rfl
  | append_singleton bs b ih =>
      have hb := b.toNat_lt
      have hquot : (256 * toNat bs + b.toNat) / 256 = toNat bs := by omega
      have hdigit : UInt8.ofNat (256 * toNat bs + b.toNat) = b := by
        apply UInt8.toNat_inj.mp
        rw [UInt8.toNat_ofNat']
        omega
      rw [toNat_append_singleton, List.length_append, List.length_singleton, bigEndian, hquot,
        hdigit, ih]

theorem ofInt32_toInt32 {bs : Bytes} (h : bs.length = 4) : ofInt32 (toInt32 bs) = bs := by
  have hlt : toNat bs < 2 ^ 32 := by simpa [h] using toNat_lt bs
  have hback : (toInt32 bs).toUInt32.toNat = toNat bs := Nat.mod_eq_of_lt hlt
  rw [ofInt32, hback, ← h, bigEndian_toNat]

theorem ofInt16_toInt16 {bs : Bytes} (h : bs.length = 2) : ofInt16 (toInt16 bs) = bs := by
  have hlt : toNat bs < 2 ^ 16 := by simpa [h] using toNat_lt bs
  have hback : (toInt16 bs).toUInt16.toNat = toNat bs := Nat.mod_eq_of_lt hlt
  rw [ofInt16, hback, ← h, bigEndian_toNat]

@[simp] theorem length_ofInt32 (n : Int32) : (ofInt32 n).length = 4 := length_bigEndian _ _

@[simp] theorem length_ofInt16 (n : Int16) : (ofInt16 n).length = 2 := length_bigEndian _ _

end Bytes

/-- Lengths that fit four signed bytes are not negative there. -/
theorem toInt_ofNat_of_le_maxLength {n : Nat} (h : n ≤ maxLength) :
    (Int32.ofNat n).toInt = n :=
  Int32.toInt_ofNat_of_lt (by unfold maxLength at h; omega)

/-- A declared length is one that fits four signed bytes. -/
theorem toNat_toInt_le_maxLength (n : Int32) : n.toInt.toNat ≤ maxLength := by
  have hlt := n.toInt_lt
  unfold maxLength
  omega

theorem ofNat_toNat_toInt {n : Int32} (h : ¬ n < 0) : Int32.ofNat n.toInt.toNat = n := by
  rw [Int32.lt_iff_toInt_lt] at h
  apply Int32.toInt_inj.mp
  rw [toInt_ofNat_of_le_maxLength (toNat_toInt_le_maxLength n)]
  exact Int.toNat_of_nonneg (Int.not_lt.mp h)

namespace Frame

/-! ### The written form of a frame -/

@[simp] theorem length_header (frameId : Int32) (typeId : Int16) (n : Int32) :
    (header frameId typeId n).length = headerSize := by
  simp [header, headerSize]

@[simp] theorem length_bytes (f : Frame) : f.bytes.length = f.wireSize := by
  simp [bytes, wireSize]

theorem bytes_ne_nil (f : Frame) : f.bytes ≠ [] := by
  intro h
  have hlength := f.length_bytes
  rw [h, List.length_nil, wireSize, headerSize] at hlength
  omega

/-- A buffer that begins with a header declares the length in it. -/
theorem declaredLength_header (frameId : Int32) (typeId : Int16) (n : Int32) (rest : Bytes) :
    declaredLength (header frameId typeId n ++ rest) = n := by
  have hfront : (Bytes.ofInt32 frameId ++ Bytes.ofInt16 typeId).length = 6 := by simp
  rw [declaredLength, header, List.append_assoc, List.drop_left' hfront,
    List.take_left' (Bytes.length_ofInt32 n), Bytes.toInt32_ofInt32]

/-- A buffer that is long enough begins with the header of what it declares. -/
theorem eq_header_append {buffer : Bytes} (h : headerSize ≤ buffer.length) :
    buffer = header (Bytes.toInt32 (buffer.take 4)) (Bytes.toInt16 ((buffer.drop 4).take 2))
      (declaredLength buffer) ++ buffer.drop headerSize := by
  have hsize : headerSize = 10 := rfl
  have hid : Bytes.ofInt32 (Bytes.toInt32 (buffer.take 4)) = buffer.take 4 :=
    Bytes.ofInt32_toInt32 (by simp only [List.length_take]; omega)
  have htype : Bytes.ofInt16 (Bytes.toInt16 ((buffer.drop 4).take 2)) = (buffer.drop 4).take 2 :=
    Bytes.ofInt16_toInt16 (by simp only [List.length_take, List.length_drop]; omega)
  have hlength : Bytes.ofInt32 (declaredLength buffer) = (buffer.drop 6).take 4 :=
    Bytes.ofInt32_toInt32 (by simp only [List.length_take, List.length_drop]; omega)
  have hrest : buffer.drop headerSize = (buffer.drop 6).drop 4 := by rw [List.drop_drop, hsize]
  have hback : buffer.drop 6 = (buffer.drop 4).drop 2 := by rw [List.drop_drop]
  rw [header, hid, htype, hlength, hrest, List.append_assoc, List.append_assoc,
    List.take_append_drop, hback, List.take_append_drop, List.take_append_drop]

/-! ### Splitting -/

section Split

variable {maxPayload : Nat} {buffer rest : Bytes} {f : Frame} {e : FrameError}

/-- **Splitting inverts writing.** A frame is taken off a buffer exactly if the
buffer begins with its written form and its payload is within both limits. -/
theorem split?_eq_some :
    split? maxPayload buffer = .ok (some (f, rest)) ↔
      buffer = f.bytes ++ rest ∧ f.payload.length ≤ maxPayload ∧ f.payload.length ≤ maxLength := by
  constructor
  · intro h
    unfold split? at h
    dsimp only at h
    split at h
    · cases h
    next hlong =>
      split at h
      · cases h
      next hnonneg =>
        split at h
        · cases h
        next hfits =>
          split at h
          · cases h
          next hcomplete =>
            cases h
            have hlen : ((buffer.drop headerSize).take (declaredLength buffer).toInt.toNat).length
                = (declaredLength buffer).toInt.toNat := by
              rw [List.length_take]
              omega
            refine ⟨?_, ?_, ?_⟩
            · dsimp only [bytes]
              rw [hlen, ofNat_toNat_toInt hnonneg, List.append_assoc, List.take_append_drop]
              exact eq_header_append (Nat.le_of_not_lt hlong)
            · rw [hlen]
              exact Nat.le_of_not_lt hfits
            · rw [hlen]
              exact toNat_toInt_le_maxLength _
  · rintro ⟨rfl, hmax, hfits⟩
    have hlong : ¬ (f.bytes ++ rest).length < headerSize := by
      simp only [List.length_append, length_bytes, wireSize]
      omega
    have hdeclared : declaredLength (f.bytes ++ rest) = Int32.ofNat f.payload.length := by
      rw [bytes, List.append_assoc, declaredLength_header]
    have hint := toInt_ofNat_of_le_maxLength hfits
    have hsign : ¬ Int32.ofNat f.payload.length < 0 := by
      rw [Int32.lt_iff_toInt_lt, hint]
      exact Int.not_lt.mpr (Int.natCast_nonneg _)
    have hback : (f.bytes ++ rest).drop headerSize = f.payload ++ rest := by
      rw [bytes, List.append_assoc, List.drop_left' (length_header _ _ _)]
    have hid : (f.bytes ++ rest).take 4 = Bytes.ofInt32 f.frameId := by
      simp only [bytes, header, List.append_assoc]
      exact List.take_left' (Bytes.length_ofInt32 _)
    have htype : ((f.bytes ++ rest).drop 4).take 2 = Bytes.ofInt16 f.typeId := by
      simp only [bytes, header, List.append_assoc]
      rw [List.drop_left' (Bytes.length_ofInt32 _), List.take_left' (Bytes.length_ofInt16 _)]
    have hcomplete : ¬ (f.payload ++ rest).length < f.payload.length := by
      rw [List.length_append]
      omega
    simp only [split?, hlong, hdeclared, hsign, hint, hback, hid, htype, hcomplete,
      Int.toNat_natCast, Nat.not_lt.mpr hmax, if_false, List.take_left, List.drop_left,
      Bytes.toInt32_ofInt32, Bytes.toInt16_ofInt16]

theorem split?_bytes_append (hmax : f.payload.length ≤ maxPayload)
    (hfits : f.payload.length ≤ maxLength) (rest : Bytes) :
    split? maxPayload (f.bytes ++ rest) = .ok (some (f, rest)) :=
  split?_eq_some.mpr ⟨rfl, hmax, hfits⟩

/-- What follows a frame in a buffer is what lies behind its written form. -/
theorem eq_drop_of_split?_eq_some (h : split? maxPayload buffer = .ok (some (f, rest))) :
    rest = buffer.drop f.wireSize := by
  obtain ⟨rfl, -, -⟩ := split?_eq_some.mp h
  rw [← length_bytes, List.drop_left]

/-- A frame at the front of a buffer is not affected by what arrives behind it. -/
theorem split?_append_of_some (h : split? maxPayload buffer = .ok (some (f, rest)))
    (more : Bytes) : split? maxPayload (buffer ++ more) = .ok (some (f, rest ++ more)) := by
  obtain ⟨rfl, hmax, hfits⟩ := split?_eq_some.mp h
  rw [List.append_assoc]
  exact split?_bytes_append hmax hfits _

/-- The header that a buffer is refused for is all there. -/
theorem headerSize_le_of_split?_error (h : split? maxPayload buffer = .error e) :
    headerSize ≤ buffer.length := by
  by_contra hshort
  rw [split?, if_pos (Nat.lt_of_not_le hshort)] at h
  cases h

/-- What a buffer is refused for: a negative length, or one above the limit. -/
theorem split?_eq_error :
    split? maxPayload buffer = .error e ↔
      headerSize ≤ buffer.length ∧
        (declaredLength buffer < 0 ∧ e = .negativeLength (declaredLength buffer) ∨
          ¬ declaredLength buffer < 0 ∧ maxPayload < (declaredLength buffer).toInt.toNat ∧
            e = .payloadTooLarge (declaredLength buffer).toInt.toNat maxPayload) := by
  unfold split?
  dsimp only
  split
  next hshort =>
    constructor
    · intro h
      cases h
    · rintro ⟨hlong, -⟩
      exact absurd hshort (Nat.not_lt.mpr hlong)
  next hlong =>
    split
    next hneg => simp [hneg, Nat.le_of_not_lt hlong, eq_comm]
    next hnonneg =>
      split
      next hbig => simp [hnonneg, hbig, Nat.le_of_not_lt hlong, eq_comm, -Int32.toNat_toInt]
      next hfits => split <;> simp [hnonneg, hfits, -Int32.toNat_toInt]

theorem declaredLength_append (h : headerSize ≤ buffer.length) (more : Bytes) :
    declaredLength (buffer ++ more) = declaredLength buffer := by
  have hsize : headerSize = 10 := rfl
  have hdrop : (buffer ++ more).drop 6 = buffer.drop 6 ++ more :=
    List.drop_append_of_le_length (by omega)
  rw [declaredLength, hdrop, List.take_append_of_le_length
    (by simp only [List.length_drop]; omega), declaredLength]

/-- A header that is refused is refused whatever arrives behind it. -/
theorem split?_append_of_error (h : split? maxPayload buffer = .error e) (more : Bytes) :
    split? maxPayload (buffer ++ more) = .error e := by
  obtain ⟨hlong, hcause⟩ := split?_eq_error.mp h
  refine split?_eq_error.mpr ⟨?_, ?_⟩
  · rw [List.length_append]
    omega
  · rwa [declaredLength_append hlong]

/-- A buffer without a verdict is shorter than the longest frame that four
signed bytes can declare. -/
theorem length_lt_of_split?_none (h : split? maxPayload buffer = .ok none) :
    buffer.length < headerSize + maxLength := by
  have hmax := toNat_toInt_le_maxLength (declaredLength buffer)
  have hsize : maxLength = 0x7fffffff := rfl
  unfold split? at h
  dsimp only at h
  split at h
  next hshort => omega
  next hlong =>
    split at h
    · cases h
    · split at h
      · cases h
      · split at h
        next hpart =>
          rw [List.length_drop] at hpart
          omega
        next => cases h

end Split

end Frame

end Parley
