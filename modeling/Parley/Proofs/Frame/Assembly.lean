/-
Messages assembled as frames.

`Registry.frame` is the frame that a message becomes, found without a buffer:
the payload first and the header from its length. Assembling a message in an
arena, with the length of the payload filled in afterwards, yields the same
frame behind whatever was there (`bytes_appendMessage`), and fails for the
same reasons (`fst_appendMessage`).
-/
import Parley.Registry
import Parley.Proofs.Frame.Split

namespace Parley

/-- A frame whose payload is within a limit, and within what its length field
can say. -/
def Frame.within (maxPayload : Nat) (f : Frame) : Except FrameError Frame :=
  if maxPayload < f.payload.length then .error (.payloadTooLarge f.payload.length maxPayload)
  else if maxLength < f.payload.length then .error (.payloadTooLarge f.payload.length maxLength)
  else .ok f

/-- The payload that a message is written as, or why there is none. -/
def RegistryEntry.payload (entry : RegistryEntry) (m : Message) : Except FrameError Bytes := do
  let fields ← entry.fields m
  match Field.failureOf? fields with
  | some e => .error e
  | none => .ok (Field.bytesOf fields)

/-- The frame that a message becomes under a frame id, or why there is none. -/
def Registry.frame (r : Registry) (maxPayload : Nat) (frameId : Int32) (m : Message) :
    Except FrameError Frame := do
  let entry ← r.lookupFor m
  let payload ← entry.payload m
  Frame.within maxPayload { frameId, typeId := entry.wireId, payload }

/-- A computation in two steps has a value if both steps have one. -/
theorem bind_eq_ok {ε α β : Type} {x : Except ε α} {f : α → Except ε β} {y : β} :
    x >>= f = .ok y ↔ ∃ a, x = .ok a ∧ f a = .ok y := by
  cases x with
  | error e => simp [bind, Except.bind]
  | ok a => simp [bind, Except.bind]

/-- A computation in two steps fails where one of them does. -/
theorem bind_eq_error {ε α β : Type} {x : Except ε α} {f : α → Except ε β} {e : ε} :
    x >>= f = .error e ↔ x = .error e ∨ ∃ a, x = .ok a ∧ f a = .error e := by
  cases x with
  | error e => simp [bind, Except.bind]
  | ok a => simp [bind, Except.bind]

/-! ### What is refused, and why -/

section Refusals

variable {maxPayload : Nat} {frameId : Int32} {m : Message} {f g : Frame} {e : FrameError}

theorem Frame.within_eq_ok :
    g.within maxPayload = .ok f ↔
      g = f ∧ f.payload.length ≤ maxPayload ∧ f.payload.length ≤ maxLength := by
  unfold within
  split
  next hmax =>
    constructor
    · intro h
      cases h
    · rintro ⟨rfl, h, -⟩
      exact absurd hmax (Nat.not_lt.mpr h)
  next hmax =>
    split
    next hfits =>
      constructor
      · intro h
        cases h
      · rintro ⟨rfl, -, h⟩
        exact absurd hfits (Nat.not_lt.mpr h)
    next hfits =>
      constructor
      · intro h
        cases h
        exact ⟨rfl, Nat.le_of_not_lt hmax, Nat.le_of_not_lt hfits⟩
      · rintro ⟨rfl, -, -⟩
        rfl

theorem Frame.isTransportFailure_of_within (h : g.within maxPayload = .error e) :
    e.isTransportFailure = false := by
  unfold within at h
  split at h
  · cases h
    rfl
  · split at h
    · cases h
      rfl
    · cases h

theorem Field.isTransportFailure_of_failureOf? {fields : List Field}
    (h : failureOf? fields = some e) : e.isTransportFailure = false := by
  obtain ⟨f, -, hf⟩ := List.exists_of_findSome?_eq_some h
  unfold failure? at hf
  split at hf
  · split at hf
    · cases hf
    · cases hf
      rfl
  · cases hf

theorem RegistryEntry.isTransportFailure_of_payload {entry : RegistryEntry}
    (h : entry.payload m = .error e) : e.isTransportFailure = false := by
  rcases bind_eq_error.mp h with hfields | ⟨fields, -, hfailure⟩
  · unfold fields at hfields
    split at hfields
    · cases hfields
    · cases hfields
      rfl
  · split at hfailure
    next e' hfails =>
      cases hfailure
      exact Field.isTransportFailure_of_failureOf? hfails
    next => cases hfailure

/-- A message that becomes no frame is never refused for a failure of the stream. -/
theorem Registry.isTransportFailure_of_frame {r : Registry}
    (h : r.frame maxPayload frameId m = .error e) : e.isTransportFailure = false := by
  rcases bind_eq_error.mp h with hlookup | ⟨entry, -, h⟩
  · unfold lookupFor lookupType at hlookup
    split at hlookup
    · cases hlookup
    · cases hlookup
      rfl
  · rcases bind_eq_error.mp h with hpayload | ⟨payload, -, hwithin⟩
    · exact RegistryEntry.isTransportFailure_of_payload hpayload
    · exact Frame.isTransportFailure_of_within hwithin

end Refusals

/-! ### Assembly in place -/

/-- Fields are written up to the first that does not fit. -/
theorem Arena.snd_write (a : Arena) (fields : List Field) :
    (a.write fields).2 = Field.failureOf? fields := by
  induction fields generalizing a with
  | nil => rfl
  | cons f rest ih =>
      rw [Field.failureOf?, List.findSome?_cons, Arena.write]
      cases hf : f.failure? with
      | some e => rfl
      | none => exact ih _

/-- Encoding appends the payload that a message is written as. -/
theorem RegistryEntry.encode_of_payload {entry : RegistryEntry} {m : Message} {payload : Bytes}
    (h : entry.payload m = .ok payload) (arena : Arena) :
    (entry.encode m arena).2 = none ∧
      (entry.encode m arena).1.bytes = arena.bytes ++ payload := by
  obtain ⟨fields, hfields, hpayload⟩ := bind_eq_ok.mp h
  split at hpayload
  next => cases hpayload
  next hfits =>
    cases hpayload
    have hwrite := arena.bytes_write_of_fits fields hfits
    rw [encode, hfields]
    exact ⟨hwrite.2, hwrite.1⟩

/-- Encoding fails for the reason for which a message has no payload. -/
theorem RegistryEntry.encode_of_error {entry : RegistryEntry} {m : Message} {e : FrameError}
    (h : entry.payload m = .error e) (arena : Arena) : (entry.encode m arena).2 = some e := by
  rcases bind_eq_error.mp h with hfields | ⟨fields, hfields, hfailure⟩
  · rw [encode, hfields]
  · split at hfailure
    next e' hfails =>
      cases hfailure
      rw [encode, hfields]
      exact (arena.snd_write fields).trans hfails
    next => cases hfailure

/-- Filling in the length of a payload completes the header before it. -/
theorem Arena.patch?_header {a : Arena} {before payload : Bytes} {frameId : Int32} {typeId : Int16}
    (n placeholder : Int32)
    (h : a.bytes = before ++ Frame.header frameId typeId placeholder ++ payload) :
    ∃ a', a.patch? (before.length + 6) n = some a' ∧
      a'.bytes = before ++ Frame.header frameId typeId n ++ payload := by
  have hlong : before.length + 6 + 4 ≤ a.length := by
    simp only [length, h, List.length_append, Frame.length_header, Frame.headerSize]
    omega
  refine ⟨_, by rw [patch?, if_pos hlong], ?_⟩
  have hfront : (before ++ Bytes.ofInt32 frameId ++ Bytes.ofInt16 typeId).length
      = before.length + 6 := by simp
  have hhole : (before ++ Bytes.ofInt32 frameId ++ Bytes.ofInt16 typeId
      ++ Bytes.ofInt32 placeholder).length = before.length + 6 + 4 := by simp
  have htake : a.bytes.take (before.length + 6)
      = before ++ Bytes.ofInt32 frameId ++ Bytes.ofInt16 typeId := by
    rw [h, Frame.header, ← hfront]
    simp only [← List.append_assoc]
    rw [List.append_assoc _ (Bytes.ofInt32 placeholder), List.take_left]
  have hdrop : a.bytes.drop (before.length + 6 + 4) = payload := by
    rw [h, Frame.header, ← hhole]
    simp only [← List.append_assoc]
    rw [List.drop_left]
  dsimp only
  rw [htake, hdrop, Frame.header]
  simp only [List.append_assoc]

namespace Arena

variable (arena : Arena) {r : Registry} {maxPayload : Nat} {frameId : Int32} {m : Message}
  {f : Frame} {e : FrameError}

/-- **Assembly yields the frame of a message**: it is appended behind what was
there, and the length of its payload is reported. -/
theorem appendMessage_of_frame (h : r.frame maxPayload frameId m = .ok f) :
    (arena.appendMessage r maxPayload frameId m).1 = .ok f.payload.length ∧
      (arena.appendMessage r maxPayload frameId m).2.bytes = arena.bytes ++ f.bytes := by
  obtain ⟨entry, hlookup, h⟩ := bind_eq_ok.mp h
  obtain ⟨payload, hpayload, h⟩ := bind_eq_ok.mp h
  obtain ⟨rfl, hmax, hfits⟩ := Frame.within_eq_ok.mp h
  dsimp only at hmax hfits
  rw [appendMessage, hlookup]
  dsimp only
  set opened := ((arena.put (Bytes.ofInt32 frameId)).put (Bytes.ofInt16 entry.wireId)).put
    (Bytes.ofInt32 0) with hopened
  obtain ⟨hdone, hbytes⟩ := RegistryEntry.encode_of_payload hpayload opened
  generalize entry.encode m opened = outcome at hdone hbytes ⊢
  obtain ⟨written, result⟩ := outcome
  dsimp only at hdone hbytes
  subst hdone
  have hheader : written.bytes
      = arena.bytes ++ Frame.header frameId entry.wireId 0 ++ payload := by
    rw [hbytes, hopened]
    simp only [bytes_put, Frame.header, List.append_assoc]
  have hlength : written.length - arena.length - Frame.headerSize = payload.length := by
    simp only [length, hheader, List.length_append, Frame.length_header]
    omega
  dsimp only
  rw [hlength, if_neg (Nat.not_lt.mpr hmax), if_neg (Nat.not_lt.mpr hfits)]
  obtain ⟨patched, hpatch, hpatched⟩ :=
    patch?_header (Int32.ofNat payload.length) 0 hheader
  refine ⟨rfl, ?_⟩
  rw [length, hpatch, Option.getD_some, hpatched, Frame.bytes, List.append_assoc]

/-- A message that becomes no frame is refused for the same reason. -/
theorem appendMessage_of_error (h : r.frame maxPayload frameId m = .error e) :
    (arena.appendMessage r maxPayload frameId m).1 = .error e := by
  rw [appendMessage]
  rcases bind_eq_error.mp h with hlookup | ⟨entry, hlookup, h⟩
  · rw [hlookup]
  rw [hlookup]
  dsimp only
  set opened := ((arena.put (Bytes.ofInt32 frameId)).put (Bytes.ofInt16 entry.wireId)).put
    (Bytes.ofInt32 0) with hopened
  rcases bind_eq_error.mp h with hpayload | ⟨payload, hpayload, h⟩
  · have hfails := RegistryEntry.encode_of_error hpayload opened
    generalize entry.encode m opened = outcome at hfails ⊢
    obtain ⟨written, result⟩ := outcome
    dsimp only at hfails
    subst hfails
    rfl
  · obtain ⟨hdone, hbytes⟩ := RegistryEntry.encode_of_payload hpayload opened
    generalize entry.encode m opened = outcome at hdone hbytes ⊢
    obtain ⟨written, result⟩ := outcome
    dsimp only at hdone hbytes
    subst hdone
    have hlength : written.length - arena.length - Frame.headerSize = payload.length := by
      simp only [length, hbytes, hopened, bytes_put, List.length_append, Bytes.length_ofInt32,
        Bytes.length_ofInt16, Frame.headerSize]
      omega
    dsimp only
    rw [hlength]
    unfold Frame.within at h
    dsimp only at h
    split at h
    next hmax => rw [if_pos hmax]; cases h; rfl
    next hmax =>
      rw [if_neg hmax]
      split at h
      next hfits => rw [if_pos hfits]; cases h; rfl
      next => cases h

end Arena

end Parley
