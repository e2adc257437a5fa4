/-
What comes back of a message.

In the catalog every message is encoded, unless one of its lengths or counts
does not fit, and the entry of the wire type id reads the payload back to the
last byte. What comes back is the message, except that a class that was
answered without code comes back as the answer that there is none
(`Registry.catalog_returns`).
-/
import Parley.Proofs.Message.Catalog

namespace Parley

namespace Message

/-- The lengths and counts that stand in the payload of a message. -/
def extents (m : Message) : List Nat :=
  (m.type.codec.fields m.payload).filterMap Field.length?

/-- An answered class of which the code could not be obtained. -/
def IsBareClass (m : Message) : Prop :=
  ∃ d : ClassData, d.code = [] ∧ m = .reply .getClass (some d)

theorem normalForm_of_isBareClass {m : Message} (h : m.IsBareClass) :
    m.normalForm = .reply .getClass none := by
  obtain ⟨d, hcode, rfl⟩ := h
  have hbare : d.hasCode = false := by rw [ClassData.hasCode, hcode]; rfl
  change (⟨.reply .getClass, Option.filter ClassData.hasCode (some d)⟩ : Message) = _
  rw [Option.filter_some, hbare]
  rfl

theorem normalForm_of_not_isBareClass {m : Message} (h : ¬ m.IsBareClass) :
    m.normalForm = m := by
  unfold normalForm
  split
  next answer =>
    cases answer with
    | none => rfl
    | some d =>
        have hcode : d.hasCode = true := by
          by_contra hbare
          refine h ⟨d, ?_, rfl⟩
          simpa [ClassData.hasCode] using hbare
        rw [Option.filter_some, hcode]
        rfl
  next => rfl

end Message

/-- Fields fail to be written for the first length that does not fit. -/
theorem Field.exists_of_failureOf? {fields : List Field} {e : FrameError}
    (h : failureOf? fields = some e) :
    ∃ n ∈ fields.filterMap length?, maxLength < n ∧ e = .payloadTooLarge n maxLength := by
  obtain ⟨f, hf, hfailure⟩ := List.exists_of_findSome?_eq_some h
  unfold failure? at hfailure
  split at hfailure
  next n hlength =>
    split at hfailure
    next => cases hfailure
    next hbig =>
      cases hfailure
      exact ⟨n, List.mem_filterMap.mpr ⟨f, hf, hlength⟩, Nat.lt_of_not_le hbig, rfl⟩
  next => cases hfailure

/-- Fields that are written have lengths that fit. -/
theorem Field.le_of_failureOf? {fields : List Field} (h : failureOf? fields = none) {n : Nat}
    (hn : n ∈ fields.filterMap length?) : n ≤ maxLength := by
  obtain ⟨f, hf, hlength⟩ := List.mem_filterMap.mp hn
  exact (failure?_eq_none hlength).mp (List.findSome?_eq_none_iff.mp h f hf)

namespace Registry

/-- **What the catalog has written comes back.** A message of whatever type has
an entry, which refuses it only for a length or count that does not fit.
Otherwise the entry of the wire type id reads all bytes of the payload, and
they come back as the message, or as the answer that there is no class if the
message answers a class without code. -/
theorem catalog_returns (m : Message) (arena : Arena) :
    ∃ entry, catalog.lookupFor m = .ok entry ∧ entry.type = m.type ∧
      match entry.encode m arena with
      | (_, some e) => ∃ n ∈ m.extents, maxLength < n ∧ e = .payloadTooLarge n maxLength
      | (written, none) =>
        (∀ n ∈ m.extents, n ≤ maxLength) ∧
          ∃ payload entry' value,
            written.bytes = arena.bytes ++ payload ∧
            catalog.lookupId entry.wireId = .ok entry' ∧
            entry'.codec.read payload = .ok value [] ∧
            entry'.decode payload = .ok ⟨entry'.type, value⟩ ∧
            (m.IsBareClass → (⟨entry'.type, value⟩ : Message) = .reply .getClass none) ∧
            (¬ m.IsBareClass → (⟨entry'.type, value⟩ : Message) = m) := by
  refine ⟨.standard m.type, lookupFor_catalog m, rfl, ?_⟩
  have hfields : (RegistryEntry.standard m.type).fields m
      = .ok (m.type.codec.fields m.payload) := dif_pos rfl
  have hfailure := arena.snd_write (m.type.codec.fields m.payload)
  rw [RegistryEntry.encode, hfields]
  dsimp only
  cases hwrite : arena.write (m.type.codec.fields m.payload) with
  | mk written outcome =>
      rw [hwrite] at hfailure
      dsimp only at hfailure
      subst hfailure
      cases hfits : Field.failureOf? (m.type.codec.fields m.payload) with
      | some e => exact Field.exists_of_failureOf? hfits
      | none =>
          have hbytes := (arena.bytes_write_of_fits _ hfits).1
          rw [hwrite] at hbytes
          obtain ⟨value, hread, hform⟩ := m.read_codec hfits []
          rw [List.append_nil] at hread
          have hdecode := RegistryEntry.decode_standard m hfits
          rw [← hform] at hdecode
          refine ⟨fun n hn => Field.le_of_failureOf? hfits hn, m.type.codec.bytes m.payload,
            .standard m.type, value, hbytes, lookupId_catalog m.type, hread, hdecode, ?_, ?_⟩
          · intro hbare
            exact hform.trans (Message.normalForm_of_isBareClass hbare)
          · intro hwhole
            exact hform.trans (Message.normalForm_of_not_isBareClass hwhole)

end Registry

end Parley
