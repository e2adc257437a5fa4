/-
Messages read back as their normal forms.

Every layout of the catalog reads back what it wrote, except that an answered
class without code reads back as none at all. A table of properties reads back
because its keys are in order: each pair goes behind those before it.
-/
import Parley.Message.Layout
import Parley.Proofs.Frame.RoundTrip

namespace Parley

/-! ### Tables of properties -/

theorem keyPrecedes_asymm {a b : String} (h : keyPrecedes a b) : ¬ keyPrecedes b a :=
  fun h' => List.lt_irrefl _ (List.lt_trans h h')

/-- A key behind all others goes to the end. -/
theorem setPair_of_forall_precedes {key value : String} {pairs : List (String × String)}
    (h : ∀ p ∈ pairs, keyPrecedes p.1 key) :
    setPair key value pairs = pairs ++ [(key, value)] := by
  induction pairs with
  | nil => rfl
  | cons p rest ih =>
      obtain ⟨k, v⟩ := p
      obtain ⟨hk, hrest⟩ := List.forall_mem_cons.mp h
      have hne : key ≠ k := by
        rintro rfl
        exact keyPrecedes_asymm hk hk
      rw [setPair, if_neg hne, if_neg (keyPrecedes_asymm hk), ih hrest]
      rfl

namespace PropertyTable

theorem entries_foldl_set {pairs : List (String × String)} (t : PropertyTable)
    (h : (t.entries ++ pairs).Pairwise fun a b => keyPrecedes a.1 b.1) :
    (pairs.foldl (fun t p => t.set p.1 p.2) t).entries = t.entries ++ pairs := by
  induction pairs generalizing t with
  | nil => exact (List.append_nil _).symm
  | cons p rest ih =>
      have hlast : (t.set p.1 p.2).entries = t.entries ++ [p] :=
        setPair_of_forall_precedes fun q hq =>
          (List.pairwise_append.mp h).2.2 q hq p List.mem_cons_self
      have hback : t.entries ++ [p] ++ rest = t.entries ++ p :: rest := by simp
      rw [List.foldl_cons, ih, hlast, hback]
      rw [hlast, hback]
      exact h

/-- A table is the table of its own entries. -/
theorem ofList_entries (t : PropertyTable) : ofList t.entries = t := by
  have hentries : (ofList t.entries).entries = t.entries := entries_foldl_set empty t.sorted
  generalize ofList t.entries = t' at hentries
  cases t
  cases t'
  cases hentries
  rfl

end PropertyTable

/-! ### The layouts of the catalog -/

namespace Codec

theorem loader_readsBack : loader.ReadsBack :=
  map_readsBack (pair_readsBack i32_readsBack text_readsBack) fun _ => rfl

theorem classData_readsBack : classData.ReadsBack :=
  map_readsBack (pair_readsBack text_readsBack (pair_readsBack i32_readsBack blob_readsBack))
    fun _ => rfl

theorem member_readsBack : member.ReadsBack :=
  map_readsBack (pair_readsBack text_readsBack (pair_readsBack text_readsBack text_readsBack))
    fun _ => rfl

theorem stackEntry_readsBack : stackEntry.ReadsBack :=
  map_readsBack
    (pair_readsBack text_readsBack
      (pair_readsBack text_readsBack (pair_readsBack text_readsBack i32_readsBack)))
    fun _ => rfl

theorem thread_readsBack : thread.ReadsBack :=
  map_readsBack
    (pair_readsBack i64_readsBack
      (pair_readsBack text_readsBack
        (pair_readsBack text_readsBack (list_readsBack stackEntry_readsBack))))
    fun _ => rfl

theorem failure_readsBack : failure.ReadsBack :=
  map_readsBack (pair_readsBack i16_readsBack text_readsBack) fun _ => rfl

theorem properties_readsBack : properties.ReadsBack :=
  map_readsBack (list_readsBack (pair_readsBack text_readsBack text_readsBack))
    PropertyTable.ofList_entries

/-- A class reads back if it has code. -/
theorem classReply_readsAs : classReply.ReadsAs (Option.filter ClassData.hasCode) := by
  intro answer hfits rest
  have hnone : (bool.read >>= fun found =>
      if found then (classData.read >>= fun d => pure (some d)) else pure none : Decoder _)
      (bool.bytes false ++ rest) = .ok none rest := by
    rw [Decoder.bind_of_ok (bool_readsBack false rfl rest)]
    rfl
  cases answer with
  | none => exact hnone
  | some d =>
      cases hcode : d.hasCode with
      | false =>
          have hfields : classReply.fields (some d) = bool.fields false := by
            simp [classReply, hcode, bool]
          rw [bytes, hfields, Option.filter_some, hcode]
          exact hnone
      | true =>
          have hfields : classReply.fields (some d) = bool.fields true ++ classData.fields d := by
            simp [classReply, hcode, bool]
          rw [Fits, hfields, Field.failureOf?_append_eq_none] at hfits
          rw [bytes, hfields, Field.bytesOf_append, List.append_assoc, Option.filter_some, hcode]
          change (bool.read >>= fun found =>
            if found then (classData.read >>= fun d => pure (some d)) else pure none : Decoder _)
              (bool.bytes true ++ (classData.bytes d ++ rest)) = _
          rw [Decoder.bind_of_ok (bool_readsBack true rfl _)]
          change (classData.read >>= fun d => pure (some d)) _ = _
          rw [Decoder.bind_of_ok (classData_readsBack d hfits.2 rest)]
          rfl

end Codec

theorem RequestType.codec_readsBack (r : RequestType) : r.codec.ReadsBack := by
  cases r with
  | ping | getProperties | getClassLoaders | getThreads => exact Codec.unit_readsBack
  | getLoaderClasses => exact Codec.i32_readsBack
  | getField => exact Codec.member_readsBack
  | setProperty =>
      exact Codec.map_readsBack (Codec.pair_readsBack Codec.text_readsBack Codec.text_readsBack)
        fun _ => rfl
  | getClass =>
      exact Codec.map_readsBack (Codec.pair_readsBack Codec.i32_readsBack Codec.text_readsBack)
        fun _ => rfl
  | redefine =>
      exact Codec.map_readsBack
        (Codec.pair_readsBack Codec.i32_readsBack
          (Codec.pair_readsBack Codec.text_readsBack Codec.blob_readsBack))
        fun _ => rfl
  | setField =>
      exact Codec.map_readsBack (Codec.pair_readsBack Codec.member_readsBack Codec.text_readsBack)
        fun _ => rfl

theorem RequestType.replyCodec_readsBack {r : RequestType} (h : r ≠ .getClass) :
    r.replyCodec.ReadsBack := by
  cases r with
  | ping | setProperty => exact Codec.unit_readsBack
  | getProperties => exact Codec.properties_readsBack
  | getClassLoaders => exact Codec.list_readsBack Codec.loader_readsBack
  | getLoaderClasses =>
      exact Codec.map_readsBack
        (Codec.pair_readsBack Codec.i32_readsBack (Codec.list_readsBack Codec.text_readsBack))
        fun _ => rfl
  | getClass => exact absurd rfl h
  | redefine | setField => exact Codec.map_readsBack Codec.text_readsBack fun _ => rfl
  | getField =>
      exact Codec.map_readsBack (Codec.pair_readsBack Codec.member_readsBack Codec.text_readsBack)
        fun _ => rfl
  | getThreads => exact Codec.list_readsBack Codec.thread_readsBack

theorem BroadcastType.codec_readsBack (b : BroadcastType) : b.codec.ReadsBack := by
  cases b with
  | loaderDiscovered => exact Codec.loader_readsBack
  | classUpdated => exact Codec.classData_readsBack

/-! ### Messages -/

namespace Message

@[simp] theorem type_normalForm (m : Message) : m.normalForm.type = m.type := by
  unfold normalForm
  split
  · rfl
  · rfl

@[simp] theorem kind_normalForm (m : Message) : m.normalForm.kind = m.kind := by
  rw [kind, type_normalForm]
  rfl

@[simp] theorem normalForm_request (r : RequestType) (payload : r.Payload) :
    (request r payload).normalForm = request r payload := rfl

/-- A message of which every length and count fits reads back as its normal form. -/
theorem read_codec (m : Message) (hfits : m.type.codec.Fits m.payload) (rest : Bytes) :
    ∃ payload, m.type.codec.read (m.type.codec.bytes m.payload ++ rest) = .ok payload rest ∧
      (⟨m.type, payload⟩ : Message) = m.normalForm := by
  obtain ⟨type, payload⟩ := m
  cases type with
  | failure => exact ⟨_, Codec.failure_readsBack payload hfits rest, rfl⟩
  | request r => exact ⟨_, r.codec_readsBack payload hfits rest, rfl⟩
  | broadcast b => exact ⟨_, b.codec_readsBack payload hfits rest, rfl⟩
  | reply r =>
      by_cases hclass : r = .getClass
      · subst hclass
        exact ⟨_, Codec.classReply_readsAs payload hfits rest, rfl⟩
      · refine ⟨_, RequestType.replyCodec_readsBack hclass payload hfits rest, ?_⟩
        cases r with
        | getClass => exact absurd rfl hclass
        | _ => rfl

end Message

end Parley
