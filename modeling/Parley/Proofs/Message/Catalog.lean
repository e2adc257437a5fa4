/-
The catalog as a registry.

The registry of the whole catalog has an entry for every type of message, found
by the type as well as by its wire type id. So a message that becomes a frame
there is carried by the frame as its normal form (`decode_of_frame`).
-/
import Parley.Proofs.Frame.Assembly
import Parley.Proofs.Message.RoundTrip
import Mathlib.Data.List.Nodup

namespace Parley

/-! ### Registering types -/

theorem lookup_map_of_mem {α β κ : Type} [BEq κ] [LawfulBEq κ] {f : α → κ} (g : α → β)
    {xs : List α} (hnodup : (xs.map f).Nodup) {x : α} (h : x ∈ xs) :
    (xs.map fun y => (f y, g y)).lookup (f x) = some (g x) := by
  induction xs with
  | nil => cases h
  | cons y rest ih =>
      rw [List.map_cons, List.nodup_cons] at hnodup
      rw [List.map_cons, List.lookup_cons]
      rcases List.mem_cons.mp h with rfl | h
      · rw [beq_self_eq_true]
      · have hne : (f x == f y) = false := by
          apply beq_eq_false_iff_ne.mpr
          intro heq
          exact hnodup.1 (heq ▸ List.mem_map_of_mem h)
        rw [hne]
        exact ih hnodup.2 h

namespace Registry

/-- Types are registered one by one if neither their ids nor the types
themselves are taken. -/
theorem registerAll_of_nodup (r : Registry) (types : List MessageType)
    (hids : (r.byId.map Prod.fst ++ types.map MessageType.wireId).Nodup)
    (htypes : (r.byType.map Prod.fst ++ types).Nodup) :
    r.registerAll types =
      (.ok (), ⟨r.byId ++ types.map fun t => (t.wireId, .standard t),
        r.byType ++ types.map fun t => (t, .standard t)⟩) := by
  induction types generalizing r with
  | nil => simp [registerAll]
  | cons t rest ih =>
      have hid : r.byId.lookup t.wireId = none := by
        apply List.lookup_eq_none_iff.mpr
        intro p hp
        have hdisjoint := (List.nodup_append.mp hids).2.2
        exact bne_iff_ne.mpr
          (hdisjoint _ (List.mem_map_of_mem hp) _ List.mem_cons_self).symm
      have htype : r.byType.lookup t = none := by
        apply List.lookup_eq_none_iff.mpr
        intro p hp
        have hdisjoint := (List.nodup_append.mp htypes).2.2
        exact bne_iff_ne.mpr
          (hdisjoint _ (List.mem_map_of_mem hp) _ List.mem_cons_self).symm
      have hregister : r.register t.wireId t = (.ok (), r.enter (.standard t)) := by
        rw [register, registerWith, hid]
        dsimp only
        rw [htype]
        rfl
      rw [registerAll, Vocabulary.ofCatalog_self, hregister]
      dsimp only
      rw [ih]
      · simp [enter, RegistryEntry.standard]
      · simpa [enter, RegistryEntry.standard] using hids
      · simpa [enter, RegistryEntry.standard] using htypes

end Registry

theorem MessageType.mem_all (t : MessageType) : t ∈ MessageType.all := by
  cases t with
  | failure => decide
  | request r => cases r <;> decide
  | reply r => cases r <;> decide
  | broadcast b => cases b <;> decide

theorem MessageType.nodup_wireId_all : (MessageType.all.map MessageType.wireId).Nodup := by
  decide

namespace Registry

/-- The catalog has an entry for every type. -/
theorem catalog_eq :
    catalog = ⟨MessageType.all.map fun t => (t.wireId, .standard t),
      MessageType.all.map fun t => (t, .standard t)⟩ := by
  have hall := base.registerAll_of_nodup MessageType.catalog (by decide) (by decide)
  rw [catalog, registerCatalog, hall]
  rfl

theorem lookupFor_catalog (m : Message) : catalog.lookupFor m = .ok (.standard m.type) := by
  have hlookup := lookup_map_of_mem (f := id) (RegistryEntry.standard : MessageType → RegistryEntry)
    (by decide : (MessageType.all.map id).Nodup) (MessageType.mem_all m.type)
  rw [lookupFor, lookupType, catalog_eq]
  dsimp only [id] at hlookup ⊢
  rw [hlookup]

theorem lookupId_catalog (t : MessageType) : catalog.lookupId t.wireId = .ok (.standard t) := by
  have hlookup := lookup_map_of_mem (RegistryEntry.standard : MessageType → RegistryEntry)
    MessageType.nodup_wireId_all (MessageType.mem_all t)
  rw [lookupId, catalog_eq]
  dsimp only
  rw [hlookup]

end Registry

/-! ### Frames of the catalog -/

/-- A message has a payload in the catalog exactly if all its lengths and counts fit. -/
theorem RegistryEntry.payload_standard {m : Message} {payload : Bytes} :
    (standard m.type).payload m = .ok payload ↔
      m.type.codec.Fits m.payload ∧ payload = m.type.codec.bytes m.payload := by
  have hfields : (standard m.type).fields m = .ok (m.type.codec.fields m.payload) := by
    exact dif_pos rfl
  have hfits : m.type.codec.Fits m.payload ↔
      Field.failureOf? (m.type.codec.fields m.payload) = none := Iff.rfl
  rw [RegistryEntry.payload, hfields, hfits]
  cases hfailure : Field.failureOf? (m.type.codec.fields m.payload) with
  | some e => simp [bind, Except.bind, hfailure]
  | none => simp [bind, Except.bind, hfailure, eq_comm, Codec.bytes]

theorem RegistryEntry.decode_standard (m : Message) (hfits : m.type.codec.Fits m.payload) :
    (standard m.type).decode (m.type.codec.bytes m.payload) = .ok m.normalForm := by
  obtain ⟨payload, hread, hform⟩ := m.read_codec hfits []
  rw [List.append_nil] at hread
  rw [RegistryEntry.decode]
  change (m.type.codec.read.whole (m.type.codec.bytes m.payload) >>= fun payload =>
    Except.ok (⟨m.type, payload⟩ : Message)) = _
  rw [Decoder.whole_of_ok hread, ← hform]
  rfl

namespace Registry

variable {maxPayload : Nat} {frameId : Int32} {m : Message} {f : Frame}

/-- The frame of a message bears its frame id and is within the limits. -/
theorem frame_eq_ok {r : Registry} (h : r.frame maxPayload frameId m = .ok f) :
    f.frameId = frameId ∧ f.payload.length ≤ maxPayload ∧ f.payload.length ≤ maxLength := by
  obtain ⟨entry, -, h⟩ := bind_eq_ok.mp h
  obtain ⟨payload, -, h⟩ := bind_eq_ok.mp h
  obtain ⟨rfl, hmax, hfits⟩ := Frame.within_eq_ok.mp h
  exact ⟨rfl, hmax, hfits⟩

/-- **The frame of a message carries its normal form.** -/
theorem decode_of_frame (h : catalog.frame maxPayload frameId m = .ok f) :
    f.decode catalog = .ok m.normalForm := by
  obtain ⟨entry, hentry, h⟩ := bind_eq_ok.mp h
  rw [lookupFor_catalog] at hentry
  cases hentry
  obtain ⟨payload, hpayload, h⟩ := bind_eq_ok.mp h
  obtain ⟨hfits, rfl⟩ := RegistryEntry.payload_standard.mp hpayload
  obtain ⟨rfl, -, -⟩ := Frame.within_eq_ok.mp h
  change (catalog.lookupId m.type.wireId >>= fun entry =>
    entry.decode (m.type.codec.bytes m.payload)) = _
  rw [lookupId_catalog]
  exact RegistryEntry.decode_standard m hfits

end Registry

end Parley
