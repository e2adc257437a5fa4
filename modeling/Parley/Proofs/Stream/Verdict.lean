/-
The verdict on the front of a buffer.

Looking for a frame has three answers, and which one it is depends on the front
of the buffer alone: a frame if the buffer begins with what writing one
appends, a refusal if its header cannot be right, and none as long as a header
or the payload that it declares is not all there. `split?_verdict` says so in
both directions. What is answered with a frame or a refusal is answered so for
good, and a reader takes nothing but the frame from what it holds.
-/
import Parley.Proofs.Stream.Reading

namespace Parley

namespace Frame

variable {maxPayload : Nat} {buffer rest : Bytes} {f : Frame} {e : FrameError}

/-! ### The three answers -/

/-- What writing a frame appends is its written form, if its length can be said. -/
theorem appendTo_eq_ok {front : Bytes} :
    f.appendTo buffer = .ok front ↔
      front = buffer ++ f.bytes ∧ f.payload.length ≤ maxLength := by
  unfold appendTo
  split
  next hfits => simp [hfits, eq_comm]
  next hlong => simp [hlong]

/-- A frame is found where one has been written. -/
theorem split?_eq_some_iff_appendTo :
    split? maxPayload buffer = .ok (some (f, rest)) ↔
      ∃ front, f.appendTo [] = .ok front ∧ buffer = front ++ rest ∧
        f.payload.length ≤ maxPayload := by
  rw [split?_eq_some]
  constructor
  · rintro ⟨hbuffer, hmax, hfits⟩
    exact ⟨f.bytes, appendTo_eq_ok.mpr ⟨rfl, hfits⟩, hbuffer, hmax⟩
  · rintro ⟨front, happend, hbuffer, hmax⟩
    obtain ⟨rfl, hfits⟩ := appendTo_eq_ok.mp happend
    exact ⟨hbuffer, hmax, hfits⟩

/-- A buffer that is long enough for a header begins with one. -/
theorem exists_header_append (h : headerSize ≤ buffer.length) :
    ∃ frameId typeId n rest, buffer = header frameId typeId n ++ rest :=
  ⟨_, _, _, _, eq_header_append h⟩

theorem headerSize_le_header_append (frameId : Int32) (typeId : Int16) (n : Int32)
    (rest : Bytes) : headerSize ≤ (header frameId typeId n ++ rest).length := by
  rw [List.length_append, length_header]
  exact Nat.le_add_right _ _

/-- A header is refused for a negative length, or for one above the limit. -/
theorem split?_header_eq_error {frameId : Int32} {typeId : Int16} {n : Int32} :
    split? maxPayload (header frameId typeId n ++ rest) = .error e ↔
      n < 0 ∧ e = .negativeLength n ∨
        (maxPayload : Int) < n.toInt ∧ e = .payloadTooLarge n.toInt.toNat maxPayload := by
  rw [split?_eq_error, declaredLength_header]
  have hlong := headerSize_le_header_append frameId typeId n rest
  have hsign : n < 0 ↔ n.toInt < 0 := Int32.lt_iff_toInt_lt
  constructor
  · rintro ⟨-, hneg | ⟨hnonneg, hbig, rfl⟩⟩
    · exact .inl hneg
    · exact .inr ⟨by omega, rfl⟩
  · rintro (hneg | ⟨hbig, rfl⟩)
    · exact ⟨hlong, .inl hneg⟩
    · exact ⟨hlong, .inr ⟨by rw [hsign]; omega, by omega, rfl⟩⟩

/-- Behind a header that is in order, more is waited for until the payload that
it declares is there. -/
theorem split?_header_eq_none {frameId : Int32} {typeId : Int16} {n : Int32} :
    split? maxPayload (header frameId typeId n ++ rest) = .ok none ↔
      0 ≤ n.toInt ∧ n.toInt ≤ maxPayload ∧ (rest.length : Int) < n.toInt := by
  have hlong := headerSize_le_header_append frameId typeId n rest
  have hsign : n < 0 ↔ n.toInt < 0 := Int32.lt_iff_toInt_lt
  have hbehind : (header frameId typeId n ++ rest).drop headerSize = rest :=
    List.drop_left' (length_header _ _ _)
  unfold split?
  rw [if_neg (Nat.not_lt.mpr hlong), declaredLength_header, hbehind]
  dsimp only
  split
  next hneg =>
    have hneg := hsign.mp hneg
    constructor
    · intro h
      cases h
    · rintro ⟨hnonneg, -, -⟩
      omega
  next hnonneg =>
    rw [hsign] at hnonneg
    split
    next hbig =>
      constructor
      · intro h
        cases h
      · rintro ⟨-, hfits, -⟩
        omega
    next hfits =>
      split
      next hpart => exact ⟨fun _ => ⟨by omega, by omega, by omega⟩, fun _ => rfl⟩
      next hwhole =>
        constructor
        · intro h
          cases h
        · rintro ⟨-, -, hpart⟩
          omega

/-- Without a header there is no answer yet. -/
theorem split?_of_short (h : buffer.length < headerSize) : split? maxPayload buffer = .ok none :=
  if_pos h

end Frame

/-! ### What a reader takes -/

namespace FrameReader

variable {r : FrameReader} {rest : Bytes} {f : Frame}

theorem next_of_found
    (h : Frame.split? r.limits.maxPayload r.arena.bytes = .ok (some (f, rest))) (src : Source) :
    r.next src = (.done f, r.consume f, src) ∧ (r.consume f).arena.bytes = rest := by
  constructor
  · rw [next]
    split
    next h' => cases h.symm.trans h'
    next h' =>
      cases h.symm.trans h'
      rfl
    next h' => cases h.symm.trans h'
  · rw [consume, Arena.bytes_consume, Frame.eq_drop_of_split?_eq_some h]

/-- How a call goes on behind a read. -/
theorem next_of_read {src src' : Source} {answer : ReadResult}
    (h : Frame.split? r.limits.maxPayload r.arena.bytes = .ok none)
    (hread : src.read r.prepared.arena.room = (answer, src')) :
    r.next src =
      match answer with
      | .pending => (.pending, r.prepared, src')
      | .failed e =>
        if e.kind = .interrupted then r.prepared.next src'
        else (.failed (.io e), r.prepared, src')
      | .received bs =>
        if bs = [] then (.failed .connectionClosed, r.prepared, src')
        else (r.prepared.collect bs).next src' := by
  rw [next]
  split
  next h' => cases h.symm.trans h'
  next h' => cases h.symm.trans h'
  next =>
    split
    all_goals
      next hread' =>
        cases hread.symm.trans hread'
        rfl

/-- Where there is nothing to read, a reader without a frame waits. -/
theorem next_of_silent (h : Frame.split? r.limits.maxPayload r.arena.bytes = .ok none) :
    r.next {} = (.pending, r.prepared, {}) :=
  next_of_read h rfl

end FrameReader

/-! ### The verdict -/

namespace Frame

/-- **The verdict on a buffer is exact, and it stands.** A frame is found exactly
where one has been written that keeps to the limit, with whatever is behind it.
There is no answer exactly as long as the header is not all there, or the header
declares a length within the limit and the payload is not all there. Every
other buffer is refused, for a negative length or one above the limit, and the
refusal names that length. Bytes that arrive later change neither a frame nor a
refusal. A reader that holds the buffer is left with what is behind the frame,
and without a frame it still holds the buffer. -/
theorem split?_verdict (maxPayload : Nat) (buffer : Bytes) :
    (∀ f rest, split? maxPayload buffer = .ok (some (f, rest)) ↔
      ∃ front, f.appendTo [] = .ok front ∧ buffer = front ++ rest ∧
        f.payload.length ≤ maxPayload) ∧
    (split? maxPayload buffer = .ok none ↔
      buffer.length < headerSize ∨
        ∃ frameId typeId n rest, buffer = header frameId typeId n ++ rest ∧
          0 ≤ n.toInt ∧ n.toInt ≤ maxPayload ∧ (rest.length : Int) < n.toInt) ∧
    (∀ e, split? maxPayload buffer = .error e ↔
      ∃ frameId typeId n rest, buffer = header frameId typeId n ++ rest ∧
        (n < 0 ∧ e = .negativeLength n ∨
          (maxPayload : Int) < n.toInt ∧ e = .payloadTooLarge n.toInt.toNat maxPayload)) ∧
    (∀ more,
      (∀ f rest, split? maxPayload buffer = .ok (some (f, rest)) →
        split? maxPayload (buffer ++ more) = .ok (some (f, rest ++ more))) ∧
      ∀ e, split? maxPayload buffer = .error e →
        split? maxPayload (buffer ++ more) = .error e) ∧
    (∀ r : FrameReader, r.limits.maxPayload = maxPayload → r.arena.bytes = buffer →
      match split? maxPayload buffer with
      | .ok (some (f, rest)) =>
          ∀ src, ∃ r', r.next src = (.done f, r', src) ∧ r'.arena.bytes = rest
      | .ok none => ∃ r', r.next {} = (.pending, r', {}) ∧ r'.arena.bytes = buffer
      | .error e => ∀ src, r.next src = (.failed e, r, src)) := by
  refine ⟨fun f rest => split?_eq_some_iff_appendTo, ?_, ?_, ?_, ?_⟩
  · by_cases hshort : buffer.length < headerSize
    · exact ⟨fun _ => .inl hshort, fun _ => split?_of_short hshort⟩
    obtain ⟨frameId, typeId, n, rest, rfl⟩ := exists_header_append (Nat.le_of_not_lt hshort)
    constructor
    · intro h
      exact .inr ⟨frameId, typeId, n, rest, rfl, split?_header_eq_none.mp h⟩
    · rintro (h | ⟨frameId', typeId', n', rest', hbuffer, hpart⟩)
      · exact absurd h hshort
      · rw [hbuffer]
        exact split?_header_eq_none.mpr hpart
  · intro e
    constructor
    · intro h
      obtain ⟨frameId, typeId, n, rest, rfl⟩ :=
        exists_header_append (headerSize_le_of_split?_error h)
      exact ⟨frameId, typeId, n, rest, rfl, split?_header_eq_error.mp h⟩
    · rintro ⟨frameId, typeId, n, rest, rfl, hcause⟩
      exact split?_header_eq_error.mpr hcause
  · exact fun more => ⟨fun _ _ h => split?_append_of_some h more,
      fun _ h => split?_append_of_error h more⟩
  · rintro r rfl rfl
    cases hsplit : split? r.limits.maxPayload r.arena.bytes with
    | error e => exact FrameReader.next_of_refused hsplit
    | ok answer =>
        cases answer with
        | none => exact ⟨_, FrameReader.next_of_silent hsplit, r.bytes_prepared⟩
        | some taken => exact fun src => ⟨_, FrameReader.next_of_found hsplit src⟩

/-- The first of two frames is found at the limit that its payload just meets,
and is found behind more bytes as well. -/
theorem split?_verdict_two_frames :
    split? 2 ((⟨1, 100, [7, 8]⟩ : Frame).bytes ++ (⟨2, 100, []⟩ : Frame).bytes ++ [9]) =
      .ok (some (⟨1, 100, [7, 8]⟩, (⟨2, 100, []⟩ : Frame).bytes ++ [9])) :=
  have hfound : split? 2 ((⟨1, 100, [7, 8]⟩ : Frame).bytes ++ (⟨2, 100, []⟩ : Frame).bytes) =
      .ok (some (⟨1, 100, [7, 8]⟩, (⟨2, 100, []⟩ : Frame).bytes)) := by decide +kernel
  ((split?_verdict 2 ((⟨1, 100, [7, 8]⟩ : Frame).bytes ++ (⟨2, 100, []⟩ : Frame).bytes)).2.2.2.1
    [9]).1 _ _ hfound

end Frame

end Parley
