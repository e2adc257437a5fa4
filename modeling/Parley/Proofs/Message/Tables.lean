/-
The two tables of a registry, whatever was registered.

A call to register is accepted or refused. Whatever calls are made on the
registry that knows the failure reply alone, its tables stay inverse to each
other: what is found by an id is what is found by its type, and nothing has two
entries. No entry is ever changed or lost, a call to register a type that is
refused changes nothing, and the types of the catalog are taken up to the first
that is refused (`Registry.tables_stay_inverse`). So it is whatever types of its
own a program has beside the catalog.
-/
import Parley.Proofs.Message.Registration
import Mathlib.Data.List.TakeWhile

namespace Parley

open scoped List

variable {τ : Type} [Vocabulary τ]

/-- A call to register a type, or the types of the catalog. -/
inductive Registration (τ : Type) [Vocabulary τ]
  | register (wireId : Int16) (type : τ)
  | registerWith (wireId : Int16) (type : τ) (codec : Codec (Vocabulary.Payload type))
  | registerCatalog

/-- The entry that a call is to make, if it is to make one. -/
def Registration.entry? : Registration τ → Option (RegistryEntry τ)
  | .register wireId type => some ⟨wireId, type, Vocabulary.codec type⟩
  | .registerWith wireId type codec => some ⟨wireId, type, codec⟩
  | .registerCatalog => none

namespace Registry

variable {r : Registry τ} {entries : List (RegistryEntry τ)} {entry : RegistryEntry τ}

/-! ### Listings -/

/-- What is registered is all listed. -/
theorem Paired.perm_entries (h : r.Paired entries) : r.entries ~ entries := by
  refine (List.mergeSort_perm _ _).trans (List.Perm.of_eq ?_)
  rw [h.byId, List.map_map]
  exact List.map_id _

theorem Paired.pairwise_entries (h : r.Paired entries) :
    r.entries.Pairwise fun a b => a.wireId < b.wireId := by
  have hsorted : r.entries.Pairwise fun a b => a.wireId ≤ b.wireId := by
    have hle : r.entries.Pairwise fun a b => decide (a.wireId ≤ b.wireId) = true := by
      refine List.pairwise_mergeSort ?_ ?_ _
      · intro a b c hab hbc
        simp only [decide_eq_true_eq] at *
        exact Int16.le_trans hab hbc
      · intro a b
        simpa using Int16.le_total a.wireId b.wireId
    simpa only [decide_eq_true_eq] using hle
  have hids : (r.entries.map RegistryEntry.wireId).Nodup :=
    (h.perm_entries.map _).nodup_iff.mpr h.ids
  refine (hsorted.and (List.pairwise_map.mp hids)).imp ?_
  rintro a b ⟨hle, hne⟩
  exact Int16.lt_of_le_of_ne hle hne

/-! ### Calls -/

variable [DecidableEq τ]

/-- Whether a call is accepted, and the registry that it leaves. -/
def perform (r : Registry τ) : Registration τ → Except FrameError Unit × Registry τ
  | .register wireId type => r.register wireId type
  | .registerWith wireId type codec => r.registerWith wireId type codec
  | .registerCatalog => r.registerCatalog

/-- What a sequence of calls leads to. -/
def performAll (r : Registry τ) (calls : List (Registration τ)) : Registry τ :=
  calls.foldl (fun r call => (r.perform call).2) r

/-- The id and the type of a type of the catalog have no entries. -/
def isFree (r : Registry τ) (t : MessageType) : Bool :=
  r.admits t.wireId (Vocabulary.ofCatalog t)

/-- The types of the catalog before the first of which the id or the type has an
entry. -/
def admitted (r : Registry τ) : List MessageType := MessageType.catalog.takeWhile r.isFree

/-! ### Registering -/

namespace Paired

/-- The refusal of a registration is that of its entry. -/
theorem perform_cases (h : r.Paired entries) (call : Registration τ)
    (hcall : call.entry? = some entry) :
    r.admits entry.wireId entry.type = true ∧ r.perform call = (.ok (), r.enter entry) ∧
        (r.enter entry).Paired (entries ++ [entry]) ∨
      r.admits entry.wireId entry.type = false ∧ ∃ e, r.perform call = (.error e, r) := by
  cases call with
  | register wireId type =>
      cases hcall
      exact h.registerWith_cases wireId type (Vocabulary.codec type)
  | registerWith wireId type codec =>
      cases hcall
      exact h.registerWith_cases wireId type codec
  | registerCatalog => cases hcall

/-- A call is accepted where its entry is admitted. -/
theorem perform_eq_ok (h : r.Paired entries) (call : Registration τ)
    (hcall : call.entry? = some entry) :
    (r.perform call).1 = .ok () ↔ r.admits entry.wireId entry.type = true := by
  rcases h.perform_cases call hcall with ⟨hadmits, hperform, -⟩ | ⟨hadmits, e, hperform⟩
  · simp [hadmits, hperform]
  · simp [hadmits, hperform]

/-! ### The catalog -/

/-- What an entry of another id and type leaves of the rest. -/
theorem register_enter (entry : RegistryEntry τ) {wireId : Int16} {t : τ}
    (hid : wireId ≠ entry.wireId) (htype : t ≠ entry.type) :
    (r.enter entry).admits wireId t = r.admits wireId t ∧
      ((r.enter entry).register wireId t).1 = (r.register wireId t).1 := by
  have hbyId : (r.enter entry).byId.lookup wireId = r.byId.lookup wireId := by
    simp [Registry.enter, List.lookup_append, List.lookup_cons, beq_false_of_ne hid]
  have hbyType : (r.enter entry).byType.lookup t = r.byType.lookup t := by
    simp [Registry.enter, List.lookup_append, List.lookup_cons, beq_false_of_ne htype]
  constructor
  · rw [admits, admits, lookupId, lookupId, lookupType, lookupType, hbyId, hbyType]
  · rw [register, register, registerWith, registerWith, hbyId, hbyType]
    cases r.byId.lookup wireId with
    | some existing => rfl
    | none => cases r.byType.lookup t <;> rfl

/-- Types under ids of their own are taken up to the first that is refused. What
is free and what is refused can be told before any of them is taken. -/
theorem registerAll (h : r.Paired entries) {types : List MessageType}
    (hids : (types.map MessageType.wireId).Nodup) {free : MessageType → Bool}
    {answer : MessageType → Except FrameError Unit}
    (hfree : ∀ t ∈ types, r.isFree t = free t ∧
      (r.register t.wireId (Vocabulary.ofCatalog t)).1 = answer t) :
    (r.registerAll types).2.Paired (entries ++ (types.takeWhile free).map .standard) ∧
      (r.registerAll types).1 = (types.find? fun t => !free t).elim (.ok ()) answer := by
  induction types generalizing r entries with
  | nil => simpa [Registry.registerAll] using h
  | cons t rest ih =>
      rw [List.map_cons, List.nodup_cons] at hids
      obtain ⟨hfree', hanswer⟩ := hfree t List.mem_cons_self
      rw [Registry.registerAll]
      rcases h.registerWith_cases t.wireId (Vocabulary.ofCatalog t)
          (Vocabulary.codec (Vocabulary.ofCatalog t)) with
        ⟨hadmits, hregister, hpaired⟩ | ⟨hadmits, e, hregister⟩
      · -- The types that follow meet the new entry neither by id nor by type.
        have hrest (u : MessageType) (hu : u ∈ rest) :
            (r.enter (.standard t)).isFree u = free u ∧
              ((r.enter (.standard t)).register u.wireId (Vocabulary.ofCatalog u)).1
                = answer u := by
          have hid : u.wireId ≠ t.wireId := by
            intro heq
            exact hids.1 (heq ▸ List.mem_map_of_mem hu)
          have htype : (Vocabulary.ofCatalog u : τ) ≠ Vocabulary.ofCatalog t :=
            fun heq => hid (congrArg _ (Vocabulary.ofCatalog_injective heq))
          obtain ⟨hadmits, hregister⟩ := register_enter (r := r) (.standard t) hid htype
          obtain ⟨hfree, hanswer⟩ := hfree u (List.mem_cons_of_mem t hu)
          exact ⟨hadmits.trans hfree, hregister.trans hanswer⟩
        obtain ⟨hrestPaired, hrestAnswer⟩ := ih hpaired hids.2 hrest
        have htaken : free t = true := hfree'.symm.trans hadmits
        rw [register, hregister, List.takeWhile_cons_of_pos htaken, List.map_cons,
          List.find?_cons_of_neg (by simp [htaken]), List.append_cons]
        exact ⟨hrestPaired, hrestAnswer⟩
      · have htaken : free t = false := hfree'.symm.trans hadmits
        rw [register, hregister] at hanswer ⊢
        rw [List.takeWhile_cons_of_neg (by simp [htaken]),
          List.find?_cons_of_pos (by simp [htaken]), List.map_nil, List.append_nil]
        exact ⟨h, hanswer⟩

/-- The types of the catalog are taken up to the first that is refused. -/
theorem registerCatalog (h : r.Paired entries) :
    r.registerCatalog.2.Paired (entries ++ r.admitted.map .standard) ∧
      r.registerCatalog.1 = (MessageType.catalog.find? fun t => !r.isFree t).elim (.ok ())
        fun t => (r.register t.wireId (Vocabulary.ofCatalog t)).1 :=
  h.registerAll (by decide) fun _ _ => ⟨rfl, rfl⟩

/-- The catalog is refused where not all of its types are taken. -/
theorem registerCatalog_eq_ok (h : r.Paired entries) :
    r.registerCatalog.1 = .ok () ↔ r.admitted = MessageType.catalog := by
  rw [h.registerCatalog.2, admitted, List.takeWhile_eq_self_iff]
  cases hfirst : MessageType.catalog.find? fun t => !r.isFree t with
  | none =>
      refine iff_of_true rfl fun t ht => ?_
      simpa using List.find?_eq_none.mp hfirst t ht
  | some t =>
      have hrefused : r.isFree t = false := by simpa using List.find?_some hfirst
      refine iff_of_false ?_ fun hall => ?_
      · intro haccepted
        have hfree := (h.perform_eq_ok (.register t.wireId (Vocabulary.ofCatalog t)) rfl).mp
          haccepted
        exact Bool.false_ne_true (hrefused.symm.trans hfree)
      · exact Bool.false_ne_true (hrefused.symm.trans (hall t (List.mem_of_find?_eq_some hfirst)))

/-! ### Sequences of calls -/

/-- A call adds entries and takes none away. -/
theorem perform (h : r.Paired entries) (call : Registration τ) :
    ∃ more, (r.perform call).2.Paired (entries ++ more) := by
  cases hcall : call.entry? with
  | some entry =>
      rcases h.perform_cases call hcall with ⟨-, hperform, hpaired⟩ | ⟨-, e, hperform⟩
      · exact ⟨[entry], by rw [hperform]; exact hpaired⟩
      · exact ⟨[], by rw [hperform, List.append_nil]; exact h⟩
  | none =>
      cases call with
      | registerCatalog => exact ⟨_, h.registerCatalog.1⟩
      | register wireId type => cases hcall
      | registerWith wireId type codec => cases hcall

theorem performAll (h : r.Paired entries) (calls : List (Registration τ)) :
    ∃ more, (r.performAll calls).Paired (entries ++ more) := by
  induction calls generalizing r entries with
  | nil => exact ⟨[], by rw [List.append_nil]; exact h⟩
  | cons call rest ih =>
      obtain ⟨more, hperform⟩ := h.perform call
      obtain ⟨others, hrest⟩ := ih hperform
      exact ⟨more ++ others, by rw [← List.append_assoc]; exact hrest⟩

end Paired

/-! ### Main result -/

/-- **The two tables stay inverse to each other.** Whatever types a program knows, and
whatever calls were made, an entry is found by an id exactly if the id is its own
and it is found by its type, and so it is with what is found for a message. The
listing has each entry once, by increasing id, and the failure reply keeps its
entry. Further calls leave what is found as it is. A call for one type makes its
entry if neither id nor type has one, and changes nothing otherwise. A call for
the catalog makes the entries of the types before the first of which the id or
the type has one. -/
theorem tables_stay_inverse (calls : List (Registration τ)) :
    let r : Registry τ := base.performAll calls
    (∀ id entry,
      r.lookupId id = .ok entry ↔ r.lookupType entry.type = .ok entry ∧ entry.wireId = id) ∧
    (∀ m entry,
      r.lookupFor m = .ok entry ↔ entry.type = m.1 ∧ r.lookupId entry.wireId = .ok entry) ∧
    ((∀ entry, entry ∈ r.entries ↔ r.lookupId entry.wireId = .ok entry) ∧
      r.entries.Pairwise (fun a b => a.wireId < b.wireId) ∧
      (r.entries.map RegistryEntry.type).Nodup ∧ r.size = r.entries.length) ∧
    r.lookupId failureWireId = .ok (.standard .failure) ∧
    (∀ later id entry,
      r.lookupId id = .ok entry → (r.performAll later).lookupId id = .ok entry) ∧
    (∀ call new, call.entry? = some new →
      ((r.perform call).1 = .ok () ↔ r.admits new.wireId new.type = true) ∧
      ((r.perform call).1 = .ok () → ∀ entry,
        (r.perform call).2.lookupId entry.wireId = .ok entry ↔
          r.lookupId entry.wireId = .ok entry ∨ entry = new) ∧
      ((r.perform call).1 ≠ .ok () → (r.perform call).2 = r)) ∧
    (∀ entry, (r.perform .registerCatalog).2.lookupId entry.wireId = .ok entry ↔
      r.lookupId entry.wireId = .ok entry ∨ ∃ t ∈ r.admitted, entry = .standard t) ∧
    ((r.perform .registerCatalog).1 = .ok () ↔ r.admitted = MessageType.catalog) := by
  intro r
  obtain ⟨more, hr⟩ : ∃ more, r.Paired ([.standard .failure] ++ more) :=
    paired_base.performAll calls
  have hfound (entry : RegistryEntry τ) :
      r.lookupId entry.wireId = .ok entry ↔ entry ∈ [.standard .failure] ++ more := by
    rw [hr.lookupId_eq_ok, and_iff_left rfl]
  refine ⟨?inverse, ?lookups, ⟨?listed, hr.pairwise_entries, ?types, ?size⟩, ?failure, ?later,
    ?one, ?catalog, hr.registerCatalog_eq_ok⟩
  case inverse =>
    intro id entry
    rw [hr.lookupId_eq_ok, hr.lookupType_eq_ok, and_iff_left rfl]
  case lookups =>
    intro m entry
    rw [lookupFor, hr.lookupType_eq_ok, hfound, and_comm]
  case listed =>
    intro entry
    rw [hfound, hr.perm_entries.mem_iff]
  case types => exact (hr.perm_entries.map _).nodup_iff.mpr hr.types
  case size => rw [hr.perm_entries.length_eq, size, hr.byId, List.length_map]
  case failure => exact (hfound (.standard .failure)).mpr List.mem_cons_self
  case later =>
    intro later id entry hentry
    obtain ⟨others, hlater⟩ := hr.performAll later
    rw [hr.lookupId_eq_ok] at hentry
    rw [hlater.lookupId_eq_ok]
    exact ⟨List.mem_append_left _ hentry.1, hentry.2⟩
  case one =>
    intro call new hcall
    refine ⟨hr.perform_eq_ok call hcall, ?_⟩
    rcases hr.perform_cases call hcall with ⟨-, hperform, hpaired⟩ | ⟨-, e, hperform⟩
    · rw [hperform]
      refine ⟨fun _ entry => ?_, fun hrefused => absurd rfl hrefused⟩
      rw [hpaired.lookupId_eq_ok, and_iff_left rfl, hfound, List.mem_append, List.mem_singleton]
    · rw [hperform]
      refine ⟨fun haccepted => ?_, fun _ => rfl⟩
      cases haccepted
  case catalog =>
    intro entry
    rw [perform, hr.registerCatalog.1.lookupId_eq_ok, and_iff_left rfl, hfound, List.mem_append,
      List.mem_map]
    simp only [eq_comm]

/-- An id below zero is as good as any other, and one type has no two ids. -/
example :
    let r : Registry := base.performAll [.register (-7) (.reply .ping)]
    (r.perform .registerCatalog).1 = .error (.duplicateType (MessageType.reply .ping).name) := by
  decide +kernel

/-- Types beside those of the catalog have no id in common with each other. -/
example :
    letI : Vocabulary (MessageType ⊕ String) :=
      .beside (fun _ => Unit) id (fun _ => .broadcast) fun _ => .unit
    let r : Registry (MessageType ⊕ String) :=
      base.performAll [.registerCatalog, .register 900 (.inr "Note")]
    (r.perform (.register 900 (.inr "Other"))).1 = .error (.duplicateTypeId 900 "Note") ∧
      r.size = 24 := by
  decide +kernel

end Registry

end Parley
