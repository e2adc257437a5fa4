/-
Registries that came about by registration.

A registration that was accepted takes an id and a type that had no entry. So in
a registry that was built up by registering types, both tables list the same
entries, each under a key of its own, and what is found one way is found the
other way too (`Built.lookupFor_of_lookupId`, `Built.lookupId_of_lookupFor`).
-/
import Parley.Proofs.Message.Catalog

namespace Parley.Registry

variable {τ : Type} [Vocabulary τ] {r : Registry τ} {entries : List (RegistryEntry τ)}
  {entry : RegistryEntry τ}

/-- Both tables list the same entries, under different ids and different types. -/
structure Paired (r : Registry τ) (entries : List (RegistryEntry τ)) : Prop where
  byId : r.byId = entries.map fun e => (e.wireId, e)
  byType : r.byType = entries.map fun e => (e.type, e)
  ids : (entries.map RegistryEntry.wireId).Nodup
  types : (entries.map RegistryEntry.type).Nodup

/-- The registry that knows the failure reply alone has one entry. -/
theorem paired_base : (base : Registry τ).Paired [.standard .failure] :=
  ⟨rfl, rfl, List.nodup_singleton _, List.nodup_singleton _⟩

/-! ### Lookups -/

section Lookup

variable {κ : Type} [BEq κ] [LawfulBEq κ] {f : RegistryEntry τ → κ} {key : κ}

/-- What is not found is not there. -/
theorem not_mem_of_lookup_map (h : (entries.map fun e => (f e, e)).lookup key = none) :
    key ∉ entries.map f := by
  intro hmem
  obtain ⟨e, he, rfl⟩ := List.mem_map.mp hmem
  have hne := List.lookup_eq_none_iff.mp h (f e, e) (List.mem_map_of_mem he)
  simp at hne

/-- What is found under a key is the entry whose key it is. -/
theorem lookup_map_eq_some (hkeys : (entries.map f).Nodup) :
    (entries.map fun e => (f e, e)).lookup key = some entry ↔ entry ∈ entries ∧ f entry = key := by
  constructor
  · intro h
    obtain ⟨front, back, heq, -⟩ := List.lookup_eq_some_iff.mp h
    have hmem : (key, entry) ∈ entries.map fun e => (f e, e) := by simp [heq]
    obtain ⟨e, he, hpair⟩ := List.mem_map.mp hmem
    obtain ⟨hkey, rfl⟩ := Prod.mk.inj hpair
    exact ⟨he, hkey⟩
  · rintro ⟨hmem, rfl⟩
    exact lookup_map_of_mem id hkeys hmem

end Lookup

theorem Paired.lookupId_eq_ok (h : r.Paired entries) {wireId : Int16} :
    r.lookupId wireId = .ok entry ↔ entry ∈ entries ∧ entry.wireId = wireId := by
  rw [← lookup_map_eq_some h.ids, ← h.byId, lookupId]
  cases r.byId.lookup wireId <;> simp

variable [DecidableEq τ]

theorem Paired.lookupType_eq_ok (h : r.Paired entries) {type : τ} :
    r.lookupType type = .ok entry ↔ entry ∈ entries ∧ entry.type = type := by
  rw [← lookup_map_eq_some h.types, ← h.byType, lookupType]
  cases r.byType.lookup type <;> simp

/-! ### Registering -/

/-- Neither the id nor the type has an entry. -/
def admits (r : Registry τ) (wireId : Int16) (type : τ) : Bool :=
  !(r.lookupId wireId).isOk && !(r.lookupType type).isOk

namespace Paired

/-- A new entry has an id and a type of its own. -/
theorem enter (h : r.Paired entries) {e : RegistryEntry τ}
    (hid : r.byId.lookup e.wireId = none) (htype : r.byType.lookup e.type = none) :
    (r.enter e).Paired (entries ++ [e]) where
  byId := by rw [Registry.enter, h.byId, List.map_append]; rfl
  byType := by rw [Registry.enter, h.byType, List.map_append]; rfl
  ids := by
    rw [h.byId] at hid
    rw [List.map_append, List.map_singleton]
    exact List.Nodup.append h.ids (List.nodup_singleton _)
      (List.disjoint_singleton.mpr (not_mem_of_lookup_map hid))
  types := by
    rw [h.byType] at htype
    rw [List.map_append, List.map_singleton]
    exact List.Nodup.append h.types (List.nodup_singleton _)
      (List.disjoint_singleton.mpr (not_mem_of_lookup_map htype))

/-- A registration is refused where it finds an entry of its id or type, and adds
an entry otherwise. -/
theorem registerWith_cases (h : r.Paired entries) (wireId : Int16) (type : τ)
    (codec : Codec (Vocabulary.Payload type)) :
    r.admits wireId type = true ∧
        r.registerWith wireId type codec = (.ok (), r.enter ⟨wireId, type, codec⟩) ∧
        (r.enter ⟨wireId, type, codec⟩).Paired (entries ++ [⟨wireId, type, codec⟩]) ∨
      r.admits wireId type = false ∧ ∃ e, r.registerWith wireId type codec = (.error e, r) := by
  rw [registerWith, admits, lookupId, lookupType]
  cases hid : r.byId.lookup wireId with
  | some existing => exact Or.inr ⟨rfl, _, rfl⟩
  | none =>
      dsimp only
      cases htype : r.byType.lookup type with
      | some existing => exact Or.inr ⟨rfl, _, rfl⟩
      | none => exact Or.inl ⟨rfl, rfl, h.enter hid htype⟩

end Paired

/-! ### What was built -/

/-- The registries that registration leads to. -/
inductive Built : Registry τ → Prop
  | base : Built base
  | register {r : Registry τ} {wireId : Int16} {type : τ}
      {codec : Codec (Vocabulary.Payload type)} :
      Built r → Built (r.registerWith wireId type codec).2

/-- **Registration keeps the two tables in step.** -/
theorem Built.paired (h : r.Built) : ∃ entries, r.Paired entries := by
  induction h with
  | base => exact ⟨_, paired_base⟩
  | @register r wireId type codec _ ih =>
      obtain ⟨entries, hpaired⟩ := ih
      rcases hpaired.registerWith_cases wireId type codec with
        ⟨-, hregister, hmore⟩ | ⟨-, e, hregister⟩
      · exact ⟨_, by rw [hregister]; exact hmore⟩
      · exact ⟨entries, by rw [hregister]; exact hpaired⟩

theorem Built.registerAll (h : r.Built) (types : List MessageType) :
    (r.registerAll types).2.Built := by
  induction types generalizing r with
  | nil => exact h
  | cons t rest ih =>
      have hnext : (r.register t.wireId (Vocabulary.ofCatalog t)).2.Built := h.register
      rw [Registry.registerAll]
      generalize r.register t.wireId (Vocabulary.ofCatalog t) = outcome at hnext
      obtain ⟨result, r'⟩ := outcome
      cases result with
      | ok u => exact ih hnext
      | error e => exact hnext

theorem built_catalog : catalog.Built := Built.base.registerAll MessageType.catalog

section Messages

variable {r : Registry} {entry : RegistryEntry} {m : Message}

/-- The entry that is found by an id is the entry of its type. -/
theorem Built.lookupFor_of_lookupId (h : r.Built) {typeId : Int16}
    (hentry : r.lookupId typeId = .ok entry) (hm : m.type = entry.type) :
    r.lookupFor m = .ok entry := by
  obtain ⟨entries, hpaired⟩ := h.paired
  exact hpaired.lookupType_eq_ok.mpr ⟨(hpaired.lookupId_eq_ok.mp hentry).1, hm.symm⟩

/-- The entry of a type is found by its id. -/
theorem Built.lookupId_of_lookupFor (h : r.Built) (hentry : r.lookupFor m = .ok entry) :
    r.lookupId entry.wireId = .ok entry ∧ entry.type = m.type := by
  obtain ⟨entries, hpaired⟩ := h.paired
  obtain ⟨hmem, htype⟩ := hpaired.lookupType_eq_ok.mp hentry
  exact ⟨hpaired.lookupId_eq_ok.mpr ⟨hmem, rfl⟩, htype⟩

end Messages

end Parley.Registry
