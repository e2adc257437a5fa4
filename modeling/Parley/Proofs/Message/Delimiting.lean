/-
Payloads of the catalog say where they end.

Every layout of the catalog is self-delimiting, an answered class and
properties among them: what a payload is read as does not depend on what comes
behind it, and no part of an accepted payload is accepted. So a payload that is
cut off is found too short, one that is too long has its surplus counted, and
no payload at all makes a read leave its bounds
(`Registry.catalog_selfDelimiting`).
-/
import Parley.Proofs.Frame.Delimiting
import Parley.Proofs.Message.Canonical

namespace Parley

open Decoder (SelfDelimiting)

/-! ### The layouts of the catalog -/

namespace Codec

theorem loader_selfDelimiting : loader.read.SelfDelimiting :=
  map_selfDelimiting (pair_selfDelimiting .i32 .text)

theorem classData_selfDelimiting : classData.read.SelfDelimiting :=
  map_selfDelimiting (pair_selfDelimiting .text (pair_selfDelimiting .i32 .blob))

theorem member_selfDelimiting : member.read.SelfDelimiting :=
  map_selfDelimiting (pair_selfDelimiting .text (pair_selfDelimiting .text .text))

theorem stackEntry_selfDelimiting : stackEntry.read.SelfDelimiting :=
  map_selfDelimiting
    (pair_selfDelimiting .text (pair_selfDelimiting .text (pair_selfDelimiting .text .i32)))

theorem thread_selfDelimiting : thread.read.SelfDelimiting :=
  map_selfDelimiting
    (pair_selfDelimiting .i64
      (pair_selfDelimiting .text (pair_selfDelimiting .text stackEntry_selfDelimiting.list)))

theorem properties_selfDelimiting : properties.read.SelfDelimiting :=
  map_selfDelimiting (pair_selfDelimiting .text .text).list

/-- The byte that says whether a class follows also says where the answer ends. -/
theorem classReply_selfDelimiting : classReply.read.SelfDelimiting := by
  refine SelfDelimiting.bool.bind fun found => ?_
  split
  next => exact classData_selfDelimiting.bind fun _ => .pure _
  next => exact .pure _

end Codec

theorem RequestType.codec_selfDelimiting (r : RequestType) : r.codec.read.SelfDelimiting := by
  cases r with
  | ping | getProperties | getClassLoaders | getThreads => exact .pure ()
  | getLoaderClasses => exact .i32
  | getField => exact Codec.member_selfDelimiting
  | setProperty => exact Codec.map_selfDelimiting (Codec.pair_selfDelimiting .text .text)
  | getClass => exact Codec.map_selfDelimiting (Codec.pair_selfDelimiting .i32 .text)
  | redefine =>
      exact Codec.map_selfDelimiting
        (Codec.pair_selfDelimiting .i32 (Codec.pair_selfDelimiting .text .blob))
  | setField =>
      exact Codec.map_selfDelimiting
        (Codec.pair_selfDelimiting Codec.member_selfDelimiting .text)

theorem RequestType.replyCodec_selfDelimiting (r : RequestType) :
    r.replyCodec.read.SelfDelimiting := by
  cases r with
  | ping | setProperty => exact .pure ()
  | getProperties => exact Codec.properties_selfDelimiting
  | getClassLoaders => exact Codec.loader_selfDelimiting.list
  | getLoaderClasses =>
      exact Codec.map_selfDelimiting (Codec.pair_selfDelimiting .i32 SelfDelimiting.text.list)
  | getClass => exact Codec.classReply_selfDelimiting
  | redefine | setField => exact Codec.map_selfDelimiting .text
  | getField =>
      exact Codec.map_selfDelimiting
        (Codec.pair_selfDelimiting Codec.member_selfDelimiting .text)
  | getThreads => exact Codec.thread_selfDelimiting.list

theorem BroadcastType.codec_selfDelimiting (b : BroadcastType) :
    b.codec.read.SelfDelimiting := by
  cases b with
  | loaderDiscovered => exact Codec.loader_selfDelimiting
  | classUpdated => exact Codec.classData_selfDelimiting

/-- All layouts of the catalog are self-delimiting. -/
theorem MessageType.codec_selfDelimiting (t : MessageType) : t.codec.read.SelfDelimiting := by
  cases t with
  | failure => exact Codec.map_selfDelimiting (Codec.pair_selfDelimiting .i16 .text)
  | request r => exact r.codec_selfDelimiting
  | reply r => exact r.replyCodec_selfDelimiting
  | broadcast b => exact b.codec_selfDelimiting

/-! ### Payloads -/

/-- What a read leaves of a payload, whether it yields a value or not. -/
def Decoder.left {α : Type} (d : Decoder α) (payload : Bytes) : Bytes :=
  match d payload with
  | .ok _ rest => rest
  | .error _ rest => rest

theorem Decoder.SelfDelimiting.left_suffix {α : Type} {d : Decoder α} (hd : d.SelfDelimiting)
    (payload : Bytes) : d.left payload <:+ payload := by
  unfold left
  split
  next h => exact hd.suffix_of_ok h
  next h => exact (hd.fails h).1

namespace RegistryEntry

variable {entry : RegistryEntry} {payload : Bytes}

theorem decode_eq_ok {m : Message} (h : entry.decode payload = .ok m) :
    ∃ x, entry.codec.read.whole payload = .ok x := by
  obtain ⟨x, hwhole, -⟩ := bind_eq_ok.mp h
  exact ⟨x, hwhole⟩

/-- A payload is refused for what the read of it is refused for. -/
theorem decode_eq_error {e : FrameError} :
    entry.decode payload = .error e ↔ entry.codec.read.whole payload = .error e := by
  constructor
  · intro h
    rcases bind_eq_error.mp h with hwhole | ⟨x, -, hm⟩
    · exact hwhole
    · cases hm
  · exact fun h => bind_eq_error.mpr (.inl h)

end RegistryEntry

namespace Registry

/-- **Payloads of the catalog are self-delimiting.** If an entry of the catalog
accepts a payload, then every part of it that is cut off behind is found too
short, by a read that needs more bytes than remain there, and with any bytes
behind it the payload is refused for just these. A payload that is not accepted
is refused because a read found too little, a negative length or a text that is
not UTF-8, or because bytes are left over. Whether it fails or not, reading a
payload leaves a rest of it, so no read goes beyond its end. -/
theorem catalog_selfDelimiting {wireId : Int16} {entry : RegistryEntry}
    (hentry : catalog.lookupId wireId = .ok entry) :
    (∀ payload m, entry.decode payload = .ok m →
      (∀ cut, cut <+: payload → cut ≠ payload →
        ∃ needed remaining, entry.decode cut = .error (.truncated needed remaining) ∧
          remaining < needed) ∧
      ∀ more, more ≠ [] →
        entry.decode (payload ++ more) = .error (.trailingBytes more.length)) ∧
    (∀ payload e, entry.decode payload = .error e →
      (∃ needed remaining, e = .truncated needed remaining ∧ remaining < needed ∧
        remaining ≤ payload.length) ∨
      (∃ n, e = .negativeLength n ∧ n < 0) ∨ e = .invalidUtf8 ∨
      ∃ count, e = .trailingBytes count ∧ 0 < count ∧ count ≤ payload.length) ∧
    ∀ payload, entry.codec.read.left payload <:+ payload := by
  obtain ⟨t, rfl⟩ := exists_of_lookupId_catalog hentry
  have hread : t.codec.read.SelfDelimiting := t.codec_selfDelimiting
  refine ⟨fun payload m haccepted => ⟨?_, ?_⟩, ?_, hread.left_suffix⟩
  · intro cut hcut hne
    obtain ⟨x, hwhole⟩ := RegistryEntry.decode_eq_ok haccepted
    obtain ⟨missing, rfl⟩ := hcut
    have hmissing : missing ≠ [] := by
      rintro rfl
      exact hne (List.append_nil cut).symm
    obtain ⟨needed, remaining, hshort, hneeded⟩ := hread.whole_of_cut hwhole rfl hmissing
    exact ⟨needed, remaining, RegistryEntry.decode_eq_error.mpr hshort, hneeded⟩
  · intro more hmore
    obtain ⟨x, hwhole⟩ := RegistryEntry.decode_eq_ok haccepted
    exact RegistryEntry.decode_eq_error.mpr (hread.whole_of_extended hwhole hmore)
  · intro payload e hrefused
    obtain ⟨left, hleft, hcause | ⟨hmore, rfl⟩⟩ :=
      hread.whole_eq_error (RegistryEntry.decode_eq_error.mp hrefused)
    · cases hcause with
      | truncated hshort => exact .inl ⟨_, _, rfl, hshort, hleft.length_le⟩
      | negativeLength hneg => exact .inr (.inl ⟨_, rfl, hneg⟩)
      | invalidUtf8 => exact .inr (.inr (.inl rfl))
    · exact .inr (.inr (.inr ⟨_, rfl, List.length_pos_iff.mpr hmore, hleft.length_le⟩))

/-- The classes of a loader are refused without their last byte, and with two
more. -/
theorem catalog_selfDelimiting_loaderClasses :
    let entry := RegistryEntry.standard (.reply .getLoaderClasses)
    let payload : Bytes := [0, 0, 0, 1, 0, 0, 0, 1, 0, 0, 0, 2, 111, 107]
    (∃ needed remaining,
      entry.decode payload.dropLast = .error (.truncated needed remaining) ∧
        remaining < needed) ∧
    entry.decode (payload ++ [7, 7]) = .error (.trailingBytes 2) := by
  intro entry payload
  have haccepted : entry.decode payload = .ok (.reply .getLoaderClasses ⟨1, ["ok"]⟩) := by
    decide +kernel
  obtain ⟨hcut, hextended⟩ :=
    (catalog_selfDelimiting (lookupId_catalog (.reply .getLoaderClasses))).1 payload _ haccepted
  exact ⟨hcut payload.dropLast (List.dropLast_prefix payload) (by decide),
    hextended [7, 7] (by decide)⟩

end Registry

end Parley
