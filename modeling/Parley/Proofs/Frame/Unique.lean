/-
Decoders accept nothing but written forms.

A codec is strict if its decoder consumes only what the codec writes of the
value that it yields (`Codec.Strict`): the converse of reading back. Numbers,
texts and blobs are strict, and the ways in which codecs are put together keep
it so. Flags are not: every byte but zero reads as true.
-/
import Parley.Proofs.Frame.RoundTrip

namespace Parley

/-! ### What a successful read says -/

/-- Bytes that spell a text are its UTF-8 form. -/
theorem Bytes.ofText_of_text? {bs : Bytes} {s : String} (h : text? bs = some s) :
    ofText s = bs := by
  unfold text? String.fromUTF8? at h
  split at h
  next =>
    cases h
    rfl
  next => cases h

theorem Bytes.ofInt64_toInt64 {bs : Bytes} (h : bs.length = 8) : ofInt64 (toInt64 bs) = bs := by
  have hlt : toNat bs < 2 ^ 64 := by simpa [h] using toNat_lt bs
  have hback : (toInt64 bs).toUInt64.toNat = toNat bs := Nat.mod_eq_of_lt hlt
  rw [ofInt64, hback, ← h, bigEndian_toNat]

namespace Decoder

variable {α β : Type} {bs rest : Bytes}

/-- Decoders in sequence yield what the second does on what the first left. -/
theorem bind_eq_ok {d : Decoder α} {f : α → Decoder β} {y : β}
    (h : (d >>= f) bs = .ok y rest) : ∃ x left, d bs = .ok x left ∧ f x left = .ok y rest := by
  change EStateM.bind d f bs = .ok y rest at h
  unfold EStateM.bind at h
  split at h
  next x left hfirst => exact ⟨x, left, hfirst, h⟩
  next => cases h

theorem pure_eq_ok {x y : α} (h : (pure x : Decoder α) bs = .ok y rest) : x = y ∧ bs = rest := by
  change EStateM.Result.ok x bs = .ok y rest at h
  cases h
  exact ⟨rfl, rfl⟩

theorem take_eq_ok {n : Nat} {front : Bytes} (h : take n bs = .ok front rest) :
    front.length = n ∧ bs = front ++ rest := by
  unfold take at h
  split at h
  next hlong =>
    cases h
    exact ⟨List.length_take_of_le hlong, (List.take_append_drop n bs).symm⟩
  next => cases h

theorem i32_eq_ok {n : Int32} (h : i32 bs = .ok n rest) : bs = Bytes.ofInt32 n ++ rest := by
  obtain ⟨front, left, htake, hpure⟩ := bind_eq_ok h
  obtain ⟨hlength, rfl⟩ := take_eq_ok htake
  obtain ⟨rfl, rfl⟩ := pure_eq_ok hpure
  rw [Bytes.ofInt32_toInt32 hlength]

/-- A length that is read fits, and stands there in four bytes. -/
theorem length_eq_ok {n : Nat} (h : length bs = .ok n rest) :
    bs = Bytes.bigEndian 4 n ++ rest ∧ n ≤ maxLength := by
  obtain ⟨declared, left, hread, hsign⟩ := bind_eq_ok h
  have hbs := i32_eq_ok hread
  split at hsign
  · cases hsign
  next hnonneg =>
    obtain ⟨rfl, rfl⟩ := pure_eq_ok hsign
    have hfits := toNat_toInt_le_maxLength declared
    refine ⟨?_, hfits⟩
    have hlt : declared.toInt.toNat < 2 ^ 32 := by
      unfold maxLength at hfits
      omega
    have hword : declared.toUInt32.toNat = declared.toInt.toNat := by
      rw [← ofNat_toNat_toInt hnonneg]
      change declared.toInt.toNat % 2 ^ 32 = (Int32.ofNat declared.toInt.toNat).toInt.toNat
      rw [Nat.mod_eq_of_lt hlt, ofNat_toNat_toInt hnonneg]
    rw [hbs, Bytes.ofInt32, hword]

/-- A payload is read whole if nothing of it is left. -/
theorem whole_eq_ok {d : Decoder α} {payload : Bytes} {x : α} :
    d.whole payload = .ok x ↔ d payload = .ok x [] := by
  constructor
  · intro h
    unfold whole at h
    split at h
    next y left hread =>
      cases h
      obtain ⟨y, mid, hd, hrest⟩ := bind_eq_ok hread
      obtain ⟨u, mid', hfinish, hpure⟩ := bind_eq_ok hrest
      obtain ⟨rfl, rfl⟩ := pure_eq_ok hpure
      unfold finish at hfinish
      split at hfinish
      next hempty =>
        rw [hd, List.isEmpty_iff.mp hempty]
      next => cases hfinish
    next => cases h
  · exact whole_of_ok

end Decoder

/-! ### Strict codecs -/

namespace Codec

variable {α β : Type}

/-- A codec reads only what it writes of the value that it yields, and every
length and count in that fits. -/
def Strict (c : Codec α) : Prop :=
  ∀ ⦃bs x rest⦄, c.read bs = .ok x rest → bs = c.bytes x ++ rest ∧ c.Fits x

theorem unit_strict : unit.Strict := by
  intro bs x rest h
  obtain ⟨-, rfl⟩ := Decoder.pure_eq_ok h
  exact ⟨rfl, rfl⟩

/-- What is read by taking bytes is strict if it is written as the bytes that were taken. -/
theorem strict_of_take {c : Codec α} {count : Nat} {value : Bytes → α}
    (hread : c.read = Decoder.take count >>= fun bs => pure (value bs))
    (hfits : ∀ x, c.Fits x) (hback : ∀ bs : Bytes, bs.length = count → c.bytes (value bs) = bs) :
    c.Strict := by
  intro bs x rest h
  rw [hread] at h
  obtain ⟨front, left, htake, hpure⟩ := Decoder.bind_eq_ok h
  obtain ⟨hlength, rfl⟩ := Decoder.take_eq_ok htake
  obtain ⟨rfl, rfl⟩ := Decoder.pure_eq_ok hpure
  exact ⟨by rw [hback front hlength], hfits _⟩

theorem i16_strict : i16.Strict :=
  strict_of_take rfl (fun _ => rfl) fun _ h => (List.append_nil _).trans (Bytes.ofInt16_toInt16 h)

theorem i32_strict : i32.Strict :=
  strict_of_take rfl (fun _ => rfl) fun _ h => (List.append_nil _).trans (Bytes.ofInt32_toInt32 h)

theorem i64_strict : i64.Strict :=
  strict_of_take rfl (fun _ => rfl) fun _ h => (List.append_nil _).trans (Bytes.ofInt64_toInt64 h)

theorem blob_strict : blob.Strict := by
  intro bs contents rest h
  obtain ⟨n, left, hread, htake⟩ := Decoder.bind_eq_ok h
  obtain ⟨rfl, hfits⟩ := Decoder.length_eq_ok hread
  obtain ⟨rfl, rfl⟩ := Decoder.take_eq_ok htake
  have hbytes : blob.bytes contents = Bytes.bigEndian 4 contents.length ++ contents :=
    List.append_nil _
  rw [hbytes, List.append_assoc]
  exact ⟨rfl, (fits_of_field rfl rfl).mpr hfits⟩

theorem text_strict : text.Strict := by
  intro bs s rest h
  obtain ⟨contents, left, hread, hspell⟩ := Decoder.bind_eq_ok h
  obtain ⟨rfl, hfits⟩ := blob_strict hread
  cases htext : Bytes.text? contents with
  | none =>
      simp only [htext] at hspell
      cases hspell
  | some s' =>
      simp only [htext] at hspell
      obtain ⟨rfl, rfl⟩ := Decoder.pure_eq_ok hspell
      -- a text is written as the blob of its bytes
      cases Bytes.ofText_of_text? htext
      have hlength : (Bytes.ofText s').length ≤ maxLength := (fits_of_field rfl rfl).mp hfits
      exact ⟨rfl, (fits_of_field rfl rfl).mpr hlength⟩

theorem pair_strict {c : Codec α} {d : Codec β} (hc : c.Strict) (hd : d.Strict) :
    (c.pair d).Strict := by
  rintro bs ⟨x, y⟩ rest h
  obtain ⟨x', left, hx, h⟩ := Decoder.bind_eq_ok h
  obtain ⟨y', left', hy, hpure⟩ := Decoder.bind_eq_ok h
  obtain ⟨heq, rfl⟩ := Decoder.pure_eq_ok hpure
  cases heq
  obtain ⟨rfl, hfitsx⟩ := hc hx
  obtain ⟨rfl, hfitsy⟩ := hd hy
  rw [bytes_pair, List.append_assoc]
  exact ⟨rfl, fits_pair.mpr ⟨hfitsx, hfitsy⟩⟩

/-- Values read one after the other are as many as asked for, and stand there
one after the other. -/
theorem times_eq_ok {c : Codec α} (hc : c.Strict) {n : Nat} {bs rest : Bytes} {xs : List α}
    (h : Decoder.times c.read n bs = .ok xs rest) :
    xs.length = n ∧ bs = xs.flatMap c.bytes ++ rest ∧ ∀ x ∈ xs, c.Fits x := by
  induction n generalizing bs xs with
  | zero =>
      obtain ⟨rfl, rfl⟩ := Decoder.pure_eq_ok h
      exact ⟨rfl, rfl, List.forall_mem_nil _⟩
  | succ n ih =>
      obtain ⟨x, left, hx, h⟩ := Decoder.bind_eq_ok h
      obtain ⟨ys, left', hys, hpure⟩ := Decoder.bind_eq_ok h
      obtain ⟨rfl, rfl⟩ := Decoder.pure_eq_ok hpure
      obtain ⟨rfl, hfitsx⟩ := hc hx
      obtain ⟨hcount, rfl, hfits⟩ := ih hys
      refine ⟨congrArg (· + 1) hcount, ?_, List.forall_mem_cons.mpr ⟨hfitsx, hfits⟩⟩
      rw [List.flatMap_cons, List.append_assoc]

theorem list_strict {c : Codec α} (hc : c.Strict) : c.list.Strict := by
  intro bs xs rest h
  obtain ⟨n, left, hread, htimes⟩ := Decoder.bind_eq_ok h
  obtain ⟨rfl, hcount⟩ := Decoder.length_eq_ok hread
  obtain ⟨rfl, rfl, hfits⟩ := times_eq_ok hc htimes
  rw [bytes_list, List.append_assoc]
  exact ⟨rfl, fits_list.mpr ⟨hcount, hfits⟩⟩

/-- A layout of parts is strict if the parts are and the whole is taken apart
into what it was made of. -/
theorem map_strict {c : Codec α} (hc : c.Strict) {make : α → β} {parts : β → α}
    (hforth : ∀ x, parts (make x) = x) : (c.map make parts).Strict := by
  intro bs y rest h
  obtain ⟨x, left, hx, hpure⟩ := Decoder.bind_eq_ok h
  obtain ⟨rfl, rfl⟩ := Decoder.pure_eq_ok hpure
  have hparts := hc hx
  rw [← hforth x] at hparts
  exact hparts

end Codec

end Parley
