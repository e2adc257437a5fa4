/-
What is written again of an accepted payload.

A payload that the catalog accepts need not be the one that it writes of the
same message. Two layouts are lax: every byte but zero says that a class
follows, and a class without code may follow, while properties may come in any
order and under the same key again. What is written instead is never longer,
reads back as the normal form of the message, and is written again unchanged
(`Registry.catalog_canonicalises`). Where nothing of this is used, the payload
is the written form, byte for byte.
-/
import Mathlib.Algebra.GroupWithZero.Nat
import Parley.Proofs.Frame.Unique
import Parley.Proofs.Message.Fidelity

namespace Parley

/-! ### Tables made of pairs in any order -/

/-- Putting a pair in place adds at most its own weight to that of all pairs. -/
theorem sum_setPair_le (weight : String × String → Nat) (key value : String)
    (pairs : List (String × String)) :
    ((setPair key value pairs).map weight).sum ≤ weight (key, value) + (pairs.map weight).sum := by
  induction pairs with
  | nil => simp [setPair]
  | cons p rest ih =>
      obtain ⟨k, v⟩ := p
      rw [setPair]
      split
      · simp only [List.map_cons, List.sum_cons]
        omega
      · split
        · simp only [List.map_cons, List.sum_cons]
          omega
        · simp only [List.map_cons, List.sum_cons]
          omega

namespace PropertyTable

variable (t : PropertyTable) (pairs : List (String × String))

theorem sum_foldl_set_le (weight : String × String → Nat) :
    ((pairs.foldl (fun t p => t.set p.1 p.2) t).entries.map weight).sum
      ≤ (t.entries.map weight).sum + (pairs.map weight).sum := by
  induction pairs generalizing t with
  | nil => exact Nat.le_refl _
  | cons p rest ih =>
      have hset : ((t.set p.1 p.2).entries.map weight).sum
          ≤ weight p + (t.entries.map weight).sum := sum_setPair_le weight p.1 p.2 t.entries
      have hrest := ih (t.set p.1 p.2)
      rw [List.foldl_cons, List.map_cons, List.sum_cons]
      omega

/-- The entries of a table weigh no more than the pairs that it was made of. -/
theorem sum_ofList_le (weight : String × String → Nat) :
    ((ofList pairs).entries.map weight).sum ≤ (pairs.map weight).sum := by
  have hsum := sum_foldl_set_le empty pairs weight
  rwa [empty, List.map_nil, List.sum_nil, Nat.zero_add] at hsum

theorem mem_foldl_set {p : String × String}
    (h : p ∈ (pairs.foldl (fun t p => t.set p.1 p.2) t).entries) : p ∈ t.entries ∨ p ∈ pairs := by
  induction pairs generalizing t with
  | nil => exact .inl h
  | cons q rest ih =>
      rcases ih (t.set q.1 q.2) h with hset | hrest
      · rcases mem_setPair hset with rfl | hold
        · exact .inr List.mem_cons_self
        · exact .inl hold
      · exact .inr (List.mem_cons_of_mem q hrest)

/-- The entries of a table are among the pairs that it was made of. -/
theorem mem_of_mem_ofList {p : String × String} (h : p ∈ (ofList pairs).entries) : p ∈ pairs := by
  rcases mem_foldl_set empty pairs h with hempty | hpairs
  · cases hempty
  · exact hpairs

/-- Pairs are the entries of their table if their keys are in order. -/
theorem entries_ofList_eq :
    (ofList pairs).entries = pairs ↔ pairs.Pairwise fun p q => keyPrecedes p.1 q.1 := by
  constructor
  · intro h
    rw [← h]
    exact (ofList pairs).sorted
  · intro h
    exact entries_foldl_set empty h

end PropertyTable

/-! ### The layouts of the catalog -/

namespace Codec

theorem loader_strict : loader.Strict :=
  map_strict (pair_strict i32_strict text_strict) fun _ => rfl

theorem classData_strict : classData.Strict :=
  map_strict (pair_strict text_strict (pair_strict i32_strict blob_strict)) fun _ => rfl

theorem member_strict : member.Strict :=
  map_strict (pair_strict text_strict (pair_strict text_strict text_strict)) fun _ => rfl

theorem stackEntry_strict : stackEntry.Strict :=
  map_strict
    (pair_strict text_strict (pair_strict text_strict (pair_strict text_strict i32_strict)))
    fun _ => rfl

theorem thread_strict : thread.Strict :=
  map_strict
    (pair_strict i64_strict
      (pair_strict text_strict (pair_strict text_strict (list_strict stackEntry_strict))))
    fun _ => rfl

/-- The pairs of properties on the wire. -/
def pairs : Codec (List (String × String)) := (text.pair text).list

theorem pairs_strict : pairs.Strict := list_strict (pair_strict text_strict text_strict)

theorem pairs_readsBack : pairs.ReadsBack :=
  list_readsBack (pair_readsBack text_readsBack text_readsBack)

/-- The written form of pairs takes four bytes and those of each pair. -/
theorem length_bytes_pairs (ps : List (String × String)) :
    (pairs.bytes ps).length = 4 + (ps.map fun p => ((text.pair text).bytes p).length).sum := by
  rw [pairs, bytes_list, List.length_append, Bytes.length_bigEndian, List.length_flatMap]

section Properties

variable {payload : Bytes} {t : PropertyTable}

/-- Properties are the table of the pairs on the wire. -/
theorem read_properties (h : properties.read payload = .ok t []) :
    ∃ ps, pairs.read payload = .ok ps [] ∧ t = .ofList ps := by
  obtain ⟨ps, left, hread, hpure⟩ := Decoder.bind_eq_ok h
  obtain ⟨rfl, rfl⟩ := Decoder.pure_eq_ok hpure
  exact ⟨ps, hread, rfl⟩

/-- The table of pairs that were read can be written, and takes no more bytes. -/
theorem properties_rewritten {ps : List (String × String)} (h : pairs.read payload = .ok ps []) :
    properties.Fits (.ofList ps) ∧ (properties.bytes (.ofList ps)).length ≤ payload.length := by
  obtain ⟨rfl, hfits⟩ := pairs_strict h
  obtain ⟨hcount, hitems⟩ := fits_list.mp hfits
  constructor
  · have hfewer := PropertyTable.sum_ofList_le ps fun _ => 1
    simp only [List.map_const', List.sum_replicate_nat, Nat.mul_one] at hfewer
    exact fits_list.mpr ⟨Nat.le_trans hfewer hcount,
      fun p hp => hitems p (PropertyTable.mem_of_mem_ofList ps hp)⟩
  · have hlighter := PropertyTable.sum_ofList_le ps fun p => ((text.pair text).bytes p).length
    change (pairs.bytes (PropertyTable.ofList ps).entries).length ≤ _
    rw [List.append_nil, length_bytes_pairs, length_bytes_pairs]
    omega

/-- The table of pairs that were read is written as they stood there exactly if
their keys were in order. -/
theorem properties_unchanged {ps : List (String × String)} (h : pairs.read payload = .ok ps []) :
    properties.bytes (.ofList ps) = payload ↔ ps.Pairwise fun p q => keyPrecedes p.1 q.1 := by
  have hrewritten := (properties_rewritten h).1
  obtain ⟨rfl, hfits⟩ := pairs_strict h
  rw [List.append_nil, ← PropertyTable.entries_ofList_eq]
  change pairs.bytes (PropertyTable.ofList ps).entries = pairs.bytes ps ↔ _
  constructor
  · intro heq
    have hentries := pairs_readsBack (PropertyTable.ofList ps).entries hrewritten []
    rw [heq, pairs_readsBack ps hfits []] at hentries
    injection hentries with hsame
    exact hsame.symm
  · intro heq
    rw [heq]

end Properties

section ClassReply

variable {payload : Bytes} {answer : Option ClassData}

/-- An answered class is a byte that says whether it follows, and the class. -/
theorem read_classReply (h : classReply.read payload = .ok answer []) :
    payload = [0] ∧ answer = none ∨
      ∃ presence d, presence ≠ 0 ∧ answer = some d ∧
        payload = presence :: classData.bytes d ∧ classData.Fits d := by
  obtain ⟨found, left, hpresence, hclass⟩ := Decoder.bind_eq_ok h
  obtain ⟨byte, left', hbyte, hpure⟩ := Decoder.bind_eq_ok hpresence
  obtain ⟨rfl, rfl⟩ := Decoder.pure_eq_ok hpure
  obtain ⟨front, left'', htake, hpure⟩ := Decoder.bind_eq_ok hbyte
  obtain ⟨rfl, rfl⟩ := Decoder.pure_eq_ok hpure
  obtain ⟨hlength, rfl⟩ := Decoder.take_eq_ok htake
  obtain ⟨presence, rfl⟩ := List.length_eq_one_iff.mp hlength
  have hback : UInt8.ofNat (Bytes.toNat [presence]) = presence := by
    simp [Bytes.toNat]
  rw [hback] at hclass
  by_cases hzero : presence = 0
  · subst hzero
    obtain ⟨rfl, rfl⟩ := Decoder.pure_eq_ok hclass
    exact .inl ⟨rfl, rfl⟩
  · rw [if_pos (bne_iff_ne.mpr hzero)] at hclass
    obtain ⟨d, left''', hd, hpure⟩ := Decoder.bind_eq_ok hclass
    obtain ⟨rfl, rfl⟩ := Decoder.pure_eq_ok hpure
    obtain ⟨rfl, hfits⟩ := classData_strict hd
    rw [List.append_nil]
    exact .inr ⟨presence, d, hzero, rfl, rfl, hfits⟩

theorem fields_classReply_some (d : ClassData) :
    classReply.fields (some d)
      = if d.hasCode then .bool true :: classData.fields d else [.bool false] := rfl

/-- An answer that was read can be written, and takes no more bytes. -/
theorem classReply_rewritten (h : classReply.read payload = .ok answer []) :
    classReply.Fits answer ∧ (classReply.bytes answer).length ≤ payload.length := by
  rcases read_classReply h with ⟨rfl, rfl⟩ | ⟨presence, d, -, rfl, rfl, hfits⟩
  · exact ⟨rfl, Nat.le_refl _⟩
  · rw [Fits, bytes, fields_classReply_some]
    cases d.hasCode with
    | false => exact ⟨rfl, Nat.succ_le_succ (Nat.zero_le _)⟩
    | true => exact ⟨hfits, Nat.le_refl _⟩

/-- An answer that was read is written as it stood there exactly if it began
with a zero, or with a one before a class that has code. -/
theorem classReply_unchanged (h : classReply.read payload = .ok answer []) :
    classReply.bytes answer = payload ↔
      payload.head? = some 0 ∨ payload.head? = some 1 ∧ ∃ d, answer = some d ∧ d.code ≠ [] := by
  rcases read_classReply h with ⟨rfl, rfl⟩ | ⟨presence, d, hpresent, rfl, rfl, -⟩
  · exact iff_of_true rfl (.inl rfl)
  · rw [bytes, fields_classReply_some]
    cases hcode : d.hasCode with
    | false =>
        have hbare : d.code = [] := by simpa [ClassData.hasCode] using hcode
        refine iff_of_false ?_ ?_
        · intro heq
          exact hpresent (List.cons.inj heq).1.symm
        · rintro (hzero | ⟨-, d', hd, hcode'⟩)
          · exact hpresent (Option.some.inj hzero)
          · cases hd
            exact hcode' hbare
    | true =>
        have hfull : d.code ≠ [] := by
          intro hbare
          simp [ClassData.hasCode, hbare] at hcode
        constructor
        · intro heq
          exact .inr ⟨congrArg some (List.cons.inj heq).1.symm, d, rfl, hfull⟩
        · rintro (hzero | ⟨hone, -⟩)
          · exact absurd (Option.some.inj hzero) hpresent
          · cases Option.some.inj hone
            rfl

end ClassReply

end Codec

theorem RequestType.codec_strict (r : RequestType) : r.codec.Strict := by
  cases r with
  | ping | getProperties | getClassLoaders | getThreads => exact Codec.unit_strict
  | getLoaderClasses => exact Codec.i32_strict
  | getField => exact Codec.member_strict
  | setProperty =>
      exact Codec.map_strict (Codec.pair_strict Codec.text_strict Codec.text_strict) fun _ => rfl
  | getClass =>
      exact Codec.map_strict (Codec.pair_strict Codec.i32_strict Codec.text_strict) fun _ => rfl
  | redefine =>
      exact Codec.map_strict
        (Codec.pair_strict Codec.i32_strict (Codec.pair_strict Codec.text_strict Codec.blob_strict))
        fun _ => rfl
  | setField =>
      exact Codec.map_strict (Codec.pair_strict Codec.member_strict Codec.text_strict) fun _ => rfl

theorem RequestType.replyCodec_strict {r : RequestType} (hclass : r ≠ .getClass)
    (hproperties : r ≠ .getProperties) : r.replyCodec.Strict := by
  cases r with
  | ping | setProperty => exact Codec.unit_strict
  | getProperties => exact absurd rfl hproperties
  | getClassLoaders => exact Codec.list_strict Codec.loader_strict
  | getLoaderClasses =>
      exact Codec.map_strict
        (Codec.pair_strict Codec.i32_strict (Codec.list_strict Codec.text_strict)) fun _ => rfl
  | getClass => exact absurd rfl hclass
  | redefine | setField => exact Codec.map_strict Codec.text_strict fun _ => rfl
  | getField =>
      exact Codec.map_strict (Codec.pair_strict Codec.member_strict Codec.text_strict) fun _ => rfl
  | getThreads => exact Codec.list_strict Codec.thread_strict

theorem BroadcastType.codec_strict (b : BroadcastType) : b.codec.Strict := by
  cases b with
  | loaderDiscovered => exact Codec.loader_strict
  | classUpdated => exact Codec.classData_strict

/-- All layouts but those of an answered class and of properties are strict. -/
theorem MessageType.codec_strict {t : MessageType} (hclass : t ≠ .reply .getClass)
    (hproperties : t ≠ .reply .getProperties) : t.codec.Strict := by
  cases t with
  | failure =>
      exact Codec.map_strict (Codec.pair_strict Codec.i16_strict Codec.text_strict) fun _ => rfl
  | request r => exact r.codec_strict
  | reply r =>
      exact RequestType.replyCodec_strict (fun h => hclass (congrArg reply h))
        fun h => hproperties (congrArg reply h)
  | broadcast b => exact b.codec_strict

/-! ### Messages -/

namespace Message

/-- A payload that was read can be written, and takes no more bytes. -/
theorem rewritten {m : Message} {payload : Bytes}
    (h : m.type.codec.read payload = .ok m.payload []) :
    m.type.codec.Fits m.payload ∧ (m.type.codec.bytes m.payload).length ≤ payload.length := by
  obtain ⟨type, value⟩ := m
  by_cases hclass : type = .reply .getClass
  · subst hclass
    exact Codec.classReply_rewritten h
  by_cases hproperties : type = .reply .getProperties
  · subst hproperties
    obtain ⟨ps, hps, rfl⟩ := Codec.read_properties h
    exact Codec.properties_rewritten hps
  · obtain ⟨rfl, hfits⟩ := MessageType.codec_strict hclass hproperties h
    rw [List.append_nil]
    exact ⟨hfits, Nat.le_refl _⟩

end Message

namespace RegistryEntry

/-- A payload that an entry of the catalog decodes is read to the last byte. -/
theorem read_of_decode_standard {t : MessageType} {payload : Bytes} {m : Message}
    (h : (standard t).decode payload = .ok m) :
    t = m.type ∧ m.type.codec.read payload = .ok m.payload [] := by
  obtain ⟨value, hwhole, hm⟩ := bind_eq_ok.mp h
  cases hm
  exact ⟨rfl, Decoder.whole_eq_ok.mp hwhole⟩

/-- A message of which every length fits is encoded as its written form. -/
theorem encode_standard {m : Message} (hfits : m.type.codec.Fits m.payload) (arena : Arena) :
    ((standard m.type).encode m arena).2 = none ∧
      ((standard m.type).encode m arena).1.bytes
        = arena.bytes ++ m.type.codec.bytes m.payload :=
  encode_of_payload (payload_standard.mpr ⟨hfits, rfl⟩) arena

/-- A message and its normal form are encoded alike. -/
theorem encode_normalForm (m : Message) (arena : Arena) :
    (standard m.type).encode m.normalForm arena = (standard m.type).encode m arena := by
  by_cases hbare : m.IsBareClass
  · rw [Message.normalForm_of_isBareClass hbare]
    obtain ⟨d, hcode, rfl⟩ := hbare
    have hwritten : Codec.classReply.fields (some d) = Codec.classReply.fields none := by
      rw [Codec.fields_classReply_some, ClassData.hasCode, hcode]
      rfl
    exact congrArg arena.write hwritten.symm
  · rw [Message.normalForm_of_not_isBareClass hbare]

end RegistryEntry

namespace Registry

/-- The entries of the catalog are the standard ones. -/
theorem exists_of_lookupId_catalog {wireId : Int16} {entry : RegistryEntry}
    (h : catalog.lookupId wireId = .ok entry) : ∃ t, entry = .standard t := by
  unfold lookupId at h
  split at h
  next e hlookup =>
    obtain ⟨front, back, hall, -⟩ := List.lookup_eq_some_iff.mp hlookup
    have hmem : (wireId, e) ∈ catalog.byId := by
      rw [hall]
      exact List.mem_append_right front List.mem_cons_self
    rw [catalog_eq] at hmem
    obtain ⟨t, -, ht⟩ := List.mem_map.mp hmem
    exact ⟨t, (Except.ok.inj h).symm.trans (Prod.mk.inj ht).2.symm⟩
  next => cases h

/-- **Writing an accepted payload again makes it canonical.** Whatever payload
an entry of the catalog accepts, the message is encoded, in no more bytes than
the payload has. What is written decodes to the normal form of the message and
is written of that again. It is the payload itself for all types but two. For
an answered class it is so exactly if the payload begins with a zero, or with a
one before a class that has code; for properties exactly if the keys on the
wire are strictly increasing in the order of their bytes. -/
theorem catalog_canonicalises {wireId : Int16} {entry : RegistryEntry} {payload : Bytes}
    {m : Message} (hentry : catalog.lookupId wireId = .ok entry)
    (hread : entry.decode payload = .ok m) :
    ∃ canonical : Bytes,
      (∀ arena, (entry.encode m arena).2 = none ∧
        (entry.encode m arena).1.bytes = arena.bytes ++ canonical) ∧
      canonical.length ≤ payload.length ∧
      entry.decode canonical = .ok m.normalForm ∧
      (m.IsBareClass → m.normalForm = .reply .getClass none) ∧
      (¬ m.IsBareClass → m.normalForm = m) ∧
      (∀ arena, (entry.encode m.normalForm arena).2 = none ∧
        (entry.encode m.normalForm arena).1.bytes = arena.bytes ++ canonical) ∧
      (entry.type ≠ .reply .getClass → entry.type ≠ .reply .getProperties →
        canonical = payload) ∧
      (entry.type = .reply .getClass →
        (canonical = payload ↔ payload.head? = some 0 ∨
          payload.head? = some 1 ∧ ∃ d, m = .reply .getClass (some d) ∧ d.code ≠ [])) ∧
      (entry.type = .reply .getProperties →
        ∃ ps, Codec.pairs.read payload = .ok ps [] ∧ m = .reply .getProperties (.ofList ps) ∧
          (canonical = payload ↔ ps.Pairwise fun p q => keyPrecedes p.1 q.1)) := by
  obtain ⟨t, rfl⟩ := exists_of_lookupId_catalog hentry
  obtain ⟨rfl, hvalue⟩ := RegistryEntry.read_of_decode_standard hread
  obtain ⟨hfits, hshorter⟩ := Message.rewritten hvalue
  refine ⟨m.type.codec.bytes m.payload, RegistryEntry.encode_standard hfits, hshorter,
    RegistryEntry.decode_standard m hfits, Message.normalForm_of_isBareClass,
    Message.normalForm_of_not_isBareClass, ?_, ?_, ?_, ?_⟩
  · intro arena
    rw [RegistryEntry.encode_normalForm]
    exact RegistryEntry.encode_standard hfits arena
  · intro hclass hproperties
    obtain ⟨hwritten, -⟩ := MessageType.codec_strict hclass hproperties hvalue
    rw [hwritten, List.append_nil]
    rfl
  · intro hclass
    obtain ⟨type, answer⟩ := m
    cases hclass
    have hsame : ∀ d, (⟨.reply .getClass, answer⟩ : Message) = .reply .getClass (some d) ↔
        answer = some d := by
      simp [Message.reply]
    simp only [hsame]
    exact Codec.classReply_unchanged hvalue
  · intro hproperties
    obtain ⟨type, table⟩ := m
    cases hproperties
    obtain ⟨ps, hps, rfl⟩ := Codec.read_properties hvalue
    exact ⟨ps, hps, rfl, Codec.properties_unchanged hps⟩

/-- Two keys in the wrong order on the wire are written in the right one. -/
theorem catalog_sorts_two_keys :
    let payload := Codec.pairs.bytes [("b", ""), ("a", "")]
    let m : Message := .reply .getProperties (.ofList [("b", ""), ("a", "")])
    (RegistryEntry.standard (.reply .getProperties)).decode payload = .ok m ∧
      ∃ canonical : Bytes, canonical ≠ payload ∧ canonical.length ≤ payload.length ∧
        (RegistryEntry.standard (.reply .getProperties)).decode canonical = .ok m := by
  intro payload m
  have hpairs : Codec.pairs.read payload = .ok [("b", ""), ("a", "")] [] :=
    Codec.pairs_readsBack [("b", ""), ("a", "")] rfl []
  have htable : Codec.properties.read payload = .ok (.ofList [("b", ""), ("a", "")]) [] :=
    Decoder.bind_of_ok hpairs _
  have hread : (RegistryEntry.standard (.reply .getProperties)).decode payload = .ok m :=
    bind_eq_ok.mpr ⟨_, Decoder.whole_of_ok htable, rfl⟩
  obtain ⟨canonical, -, hshorter, hback, -, -, -, -, -, hproperties⟩ :=
    catalog_canonicalises (lookupId_catalog (.reply .getProperties)) hread
  obtain ⟨ps, hps, -, hunchanged⟩ := hproperties rfl
  rw [hpairs] at hps
  injection hps with hps
  refine ⟨hread, canonical, fun hsame => ?_, hshorter, hback⟩
  have hsorted := hunchanged.mp hsame
  rw [← hps] at hsorted
  exact absurd hsorted (by decide)

end Registry

end Parley
