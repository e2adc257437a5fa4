/-
The two ways to write a frame.

One encoder is handed a payload and writes header and payload in one go. The
other writes a header without a length, lets a codec append what it likes, and
fills in the length when it is known. `appendMessage_agrees` says that they
agree: behind whatever the arena held, assembly in place leaves what writing
the frame of the same payload appends, and it fails exactly where the codec
alone fails or its payload is above a limit. What the arena held before is
never touched (`isPrefix_appendMessage`).
-/
import Parley.Proofs.Frame.Assembly

namespace Parley

/-! ### What is written stays behind what was there -/

theorem Arena.isPrefix_write (a : Arena) (fields : List Field) :
    a.bytes <+: (a.write fields).1.bytes := by
  induction fields generalizing a with
  | nil => exact List.prefix_refl _
  | cons f rest ih =>
      rw [write]
      cases f.failure? with
      | some e => exact List.prefix_refl _
      | none =>
          have hput : a.bytes <+: (a.putField f).bytes := by
            rw [bytes_putField]
            exact List.prefix_append _ _
          exact hput.trans (ih _)

theorem RegistryEntry.isPrefix_encode (entry : RegistryEntry) (m : Message) (arena : Arena) :
    arena.bytes <+: (entry.encode m arena).1.bytes := by
  unfold encode
  cases entry.fields m with
  | ok fields => exact arena.isPrefix_write fields
  | error e => exact List.prefix_refl _

/-- What lies before the position of a patch stays. -/
theorem Arena.isPrefix_patch? {a a' : Arena} {position : Nat} {n : Int32} {front : Bytes}
    (h : a.patch? position n = some a') (hfront : front <+: a.bytes)
    (hbefore : front.length ≤ position) : front <+: a'.bytes := by
  unfold patch? at h
  split at h
  · cases h
    obtain ⟨rest, hrest⟩ := hfront
    dsimp only
    rw [List.append_assoc, ← hrest, List.take_append, List.take_of_length_le hbefore,
      List.append_assoc]
    exact List.prefix_append _ _
  · cases h

namespace Arena

variable (arena : Arena) (r : Registry) (maxPayload : Nat) (frameId : Int32) (m : Message)

/-- **Assembly never touches what an arena held before**, whether it succeeds or not. -/
theorem isPrefix_appendMessage :
    arena.bytes <+: (arena.appendMessage r maxPayload frameId m).2.bytes := by
  unfold appendMessage
  split
  next => exact List.prefix_refl _
  next entry hlookup =>
    dsimp only
    set opened := ((arena.put (Bytes.ofInt32 frameId)).put (Bytes.ofInt16 entry.wireId)).put
      (Bytes.ofInt32 0) with hopened
    have hheader : arena.bytes <+: opened.bytes := by
      simp only [hopened, bytes_put, List.append_assoc]
      exact List.prefix_append _ _
    have hwritten := hheader.trans (entry.isPrefix_encode m opened)
    generalize entry.encode m opened = outcome at hwritten ⊢
    obtain ⟨written, failure⟩ := outcome
    cases failure with
    | some e => exact hwritten
    | none =>
        dsimp only at hwritten ⊢
        split
        · exact hwritten
        split
        · exact hwritten
        cases hpatch : written.patch? (arena.length + 6)
            (Int32.ofNat (written.length - arena.length - Frame.headerSize)) with
        | none => exact hwritten
        | some patched => exact isPrefix_patch? hpatch hwritten (Nat.le_add_right _ _)

end Arena

/-! ### The payload on its own -/

section Alone

variable {entry : RegistryEntry} {m : Message} {capacity : Nat}

/-- What a codec writes into an empty arena is the payload of the message. -/
theorem RegistryEntry.payload_of_encode (h : (entry.encode m (.withCapacity capacity)).2 = none) :
    entry.payload m = .ok (entry.encode m (.withCapacity capacity)).1.bytes := by
  cases hpayload : entry.payload m with
  | ok payload => exact congrArg _ (encode_of_payload hpayload (.withCapacity capacity)).2.symm
  | error e => cases h.symm.trans (encode_of_error hpayload _)

theorem RegistryEntry.payload_of_encode_fails {e : FrameError}
    (h : (entry.encode m (.withCapacity capacity)).2 = some e) : entry.payload m = .error e := by
  cases hpayload : entry.payload m with
  | ok payload => cases h.symm.trans (encode_of_payload hpayload _).1
  | error e' =>
      cases h.symm.trans (encode_of_error hpayload _)
      rfl

end Alone

/-- A codec never fails for a type that is not registered. -/
theorem RegistryEntry.payload_ne_unknownType (entry : RegistryEntry) (m : Message)
    (name : String) : entry.payload m ≠ .error (.unknownType name) := by
  intro h
  rcases bind_eq_error.mp h with hfields | ⟨fields, -, hfailure⟩
  · unfold fields at hfields
    split at hfields <;> cases hfields
  · split at hfailure
    next e hfails =>
      cases hfailure
      obtain ⟨f, -, hf⟩ := List.exists_of_findSome?_eq_some hfails
      unfold Field.failure? at hf
      split at hf
      · split at hf <;> cases hf
      · cases hf
    next => cases hfailure

theorem Frame.within_ne_unknownType (maxPayload : Nat) (f : Frame) (name : String) :
    f.within maxPayload ≠ .error (.unknownType name) := by
  intro h
  unfold within at h
  split at h
  · cases h
  · split at h <;> cases h

/-- The only refusal that names an unknown type is for a message without an entry. -/
theorem Registry.lookupFor_of_frame_unknownType {r : Registry} {maxPayload : Nat} {frameId : Int32}
    {m : Message} {name : String}
    (h : r.frame maxPayload frameId m = .error (.unknownType name)) :
    r.lookupFor m = .error (.unknownType name) := by
  rcases bind_eq_error.mp h with hlookup | ⟨entry, -, h⟩
  · exact hlookup
  rcases bind_eq_error.mp h with hpayload | ⟨payload, -, hwithin⟩
  · exact absurd hpayload (entry.payload_ne_unknownType m name)
  · exact absurd hwithin (Frame.within_ne_unknownType _ _ name)

/-! ### The agreement -/

namespace Arena

variable (arena : Arena) (r : Registry) (maxPayload : Nat) (frameId : Int32) (m : Message)

theorem appendMessage_of_unregistered {e : FrameError} (h : r.lookupFor m = .error e) :
    e = .unknownType m.type.name ∧
      arena.appendMessage r maxPayload frameId m = (.error e, arena) := by
  constructor
  · unfold Registry.lookupFor Registry.lookupType at h
    split at h
    · cases h
    · exact (Except.error.inj h).symm
  · rw [appendMessage, h]

/-- **The two encoders agree.** A message without an entry is refused and the
arena is left as it was, and no other message is refused for that. Otherwise
compare with what the codec of the entry writes into an empty arena, of
whatever capacity. Assembly succeeds exactly if the codec does and its payload
is within both limits, and yields the length of that payload; the arena then
holds what it held before and behind it what writing the frame of that payload
writes. A payload above a limit is refused with its true length and that limit,
and a failure of the codec is passed on. In every case what the arena held
before is still at its front. -/
theorem appendMessage_agrees (arena : Arena) (r : Registry) (maxPayload : Nat) (frameId : Int32)
    (m : Message) :
    let outcome := arena.appendMessage r maxPayload frameId m
    (∀ e, r.lookupFor m = .error e →
      e = .unknownType m.type.name ∧ outcome = (.error e, arena)) ∧
    (∀ name, outcome.1 = .error (.unknownType name) → outcome.2 = arena) ∧
    (∀ entry, r.lookupFor m = .ok entry → ∀ capacity,
      let alone := entry.encode m (.withCapacity capacity)
      (∀ length, outcome.1 = .ok length ↔
        alone.2 = none ∧ length = alone.1.length ∧ length ≤ maxPayload ∧ length ≤ maxLength) ∧
      (∀ length, outcome.1 = .ok length →
        ∃ front, Frame.appendTo ⟨frameId, entry.wireId, alone.1.bytes⟩ [] = .ok front ∧
          outcome.2.bytes = arena.bytes ++ front) ∧
      (alone.2 = none → maxPayload < alone.1.length →
        outcome.1 = .error (.payloadTooLarge alone.1.length maxPayload)) ∧
      (alone.2 = none → alone.1.length ≤ maxPayload → maxLength < alone.1.length →
        outcome.1 = .error (.payloadTooLarge alone.1.length maxLength)) ∧
      ∀ e, alone.2 = some e → outcome.1 = .error e) ∧
    arena.bytes <+: outcome.2.bytes := by
  intro outcome
  refine ⟨fun e => appendMessage_of_unregistered arena r maxPayload frameId m, ?_, ?_,
    arena.isPrefix_appendMessage r maxPayload frameId m⟩
  · intro name hfails
    cases hframe : r.frame maxPayload frameId m with
    | ok f =>
        have hdone := (appendMessage_of_frame arena hframe).1
        cases hdone.symm.trans hfails
    | error e =>
        cases (appendMessage_of_error arena hframe).symm.trans hfails
        have hlookup := Registry.lookupFor_of_frame_unknownType hframe
        exact congrArg Prod.snd
          (appendMessage_of_unregistered arena r maxPayload frameId m hlookup).2
  · intro entry hlookup capacity alone
    have hframe : r.frame maxPayload frameId m = (do
        let payload ← entry.payload m
        Frame.within maxPayload ⟨frameId, entry.wireId, payload⟩) := by
      rw [Registry.frame, hlookup]
      rfl
    cases hfailure : alone.2 with
    | some e =>
        rw [RegistryEntry.payload_of_encode_fails hfailure] at hframe
        have hfails : outcome.1 = .error e := appendMessage_of_error arena hframe
        simp [hfails]
    | none =>
        rw [RegistryEntry.payload_of_encode hfailure] at hframe
        set f : Frame := ⟨frameId, entry.wireId, alone.1.bytes⟩ with hf
        have hlength : alone.1.length = f.payload.length := rfl
        change r.frame maxPayload frameId m = f.within maxPayload at hframe
        rw [hlength]
        unfold Frame.within at hframe
        split at hframe
        next hbig =>
          have hfails : outcome.1 = _ := appendMessage_of_error arena hframe
          simp only [hfails, reduceCtorEq, false_iff, false_implies, implies_true, true_and,
            true_imp_iff, and_true]
          exact ⟨fun _ ⟨_, hn⟩ => by omega, fun hle => by omega⟩
        next hmax =>
          split at hframe
          next hbig =>
            have hfails : outcome.1 = _ := appendMessage_of_error arena hframe
            simp only [hfails, reduceCtorEq, false_iff, false_implies, implies_true, true_and,
              true_imp_iff, and_true]
            exact ⟨fun _ ⟨_, hn⟩ => by omega, fun hgt => by omega⟩
          next hfits =>
            obtain ⟨hdone, hbytes⟩ : outcome.1 = _ ∧ outcome.2.bytes = _ :=
              appendMessage_of_frame arena hframe
            simp only [hdone, Except.ok.injEq, reduceCtorEq, true_and, false_implies, implies_true,
              true_imp_iff, and_true]
            refine ⟨fun n => ⟨?_, fun hn => hn.1.symm⟩, ?_, by omega, fun hle => by omega⟩
            · rintro rfl
              omega
            · exact fun _ _ => ⟨f.bytes, if_pos (by omega), hbytes⟩

/-- Behind three bytes of an arena, a failure becomes the frame of its payload at
a limit that it just meets, and below that limit it is refused. -/
theorem appendMessage_agrees_behind_three :
    let arena : Arena := ⟨[1, 2, 3], 64, 0⟩
    let m : Message := ⟨.failure, ⟨106, "no"⟩⟩
    (∃ front, Frame.appendTo ⟨7, 1, [0, 106, 0, 0, 0, 2, 110, 111]⟩ [] = .ok front ∧
      (arena.appendMessage .catalog 8 7 m).2.bytes = [1, 2, 3] ++ front) ∧
    (arena.appendMessage .catalog 7 7 m).1 = .error (.payloadTooLarge 8 7) := by
  intro arena m
  let entry : RegistryEntry := ⟨failureWireId, .failure, MessageType.failure.codec⟩
  have hlookup : Registry.catalog.lookupFor m = .ok entry := rfl
  have halone : ((entry.encode m (.withCapacity 0)).1.bytes, (entry.encode m (.withCapacity 0)).2)
      = ([0, 106, 0, 0, 0, 2, 110, 111], none) := by decide +kernel
  obtain ⟨hpayload, hdone⟩ := Prod.mk.inj halone
  have hlength : (entry.encode m (.withCapacity 0)).1.length = 8 := congrArg List.length hpayload
  obtain ⟨hok, hframe, -⟩ := (appendMessage_agrees arena .catalog 8 7 m).2.2.1 entry hlookup 0
  obtain ⟨-, -, hbig, -⟩ := (appendMessage_agrees arena .catalog 7 7 m).2.2.1 entry hlookup 0
  constructor
  · have hfound := hframe 8 ((hok 8).mpr ⟨hdone, hlength.symm, Nat.le_refl 8, by decide⟩)
    rw [hpayload] at hfound
    exact hfound
  · have hrefused := hbig hdone (by rw [hlength]; decide)
    rwa [hlength] at hrefused

end Arena

end Parley
