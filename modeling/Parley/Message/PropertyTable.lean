/-
Property tables: texts under distinct keys, in the byte order of the keys.

`PropertyTable.set` keeps the order and replaces what a key had, so a table
built from a list of pairs holds the last value given for each key.
-/
import Parley.Bytes

namespace Parley

/-- The order of keys: lexicographic by the bytes of their UTF-8 form. -/
def keyPrecedes (a b : String) : Prop :=
  Bytes.ofText a < Bytes.ofText b

instance (a b : String) : Decidable (keyPrecedes a b) :=
  inferInstanceAs (Decidable (Bytes.ofText a < Bytes.ofText b))

/-- Puts a value under a key into pairs that are in order. -/
def setPair (key value : String) : List (String × String) → List (String × String)
  | [] => [(key, value)]
  | (k, v) :: rest =>
    if key = k then (key, value) :: rest
    else if keyPrecedes key k then (key, value) :: (k, v) :: rest
    else (k, v) :: setPair key value rest

theorem Bytes.ofText_injective {a b : String} (h : Bytes.ofText a = Bytes.ofText b) : a = b := by
  have := congrArg Bytes.text? h
  simpa using this

theorem keyPrecedes_of_ne_of_not {a b : String} (hne : a ≠ b) (h : ¬ keyPrecedes a b) :
    keyPrecedes b a := by
  have hle : Bytes.ofText b ≤ Bytes.ofText a := List.not_lt.mp h
  rcases List.le_iff_lt_or_eq.mp hle with hlt | heq
  · exact hlt
  · exact absurd (Bytes.ofText_injective heq).symm hne

theorem mem_setPair {key value : String} {pairs : List (String × String)} {p : String × String}
    (h : p ∈ setPair key value pairs) : p = (key, value) ∨ p ∈ pairs := by
  induction pairs with
  | nil => simp_all [setPair]
  | cons q rest ih =>
    obtain ⟨k, v⟩ := q
    unfold setPair at h
    split at h
    · simp_all only [List.mem_cons]; grind
    · split at h
      · simp_all only [List.mem_cons]
      · simp only [List.mem_cons] at h ⊢
        rcases h with h | h
        · exact Or.inr (Or.inl h)
        · rcases ih h with h | h
          · exact Or.inl h
          · exact Or.inr (Or.inr h)

theorem pairwise_setPair (key value : String) {pairs : List (String × String)}
    (h : pairs.Pairwise fun a b => keyPrecedes a.1 b.1) :
    (setPair key value pairs).Pairwise fun a b => keyPrecedes a.1 b.1 := by
  induction pairs with
  | nil => simp [setPair]
  | cons q rest ih =>
    obtain ⟨k, v⟩ := q
    rw [List.pairwise_cons] at h
    unfold setPair
    split
    · next heq => subst heq; exact List.pairwise_cons.mpr ⟨h.1, h.2⟩
    · next hne =>
      split
      · next hlt =>
        refine List.pairwise_cons.mpr ⟨?_, List.pairwise_cons.mpr h⟩
        intro p hp
        rcases List.mem_cons.mp hp with rfl | hp
        · exact hlt
        · exact List.lt_trans hlt (h.1 p hp)
      · next hnlt =>
        refine List.pairwise_cons.mpr ⟨?_, ih h.2⟩
        intro p hp
        rcases mem_setPair hp with rfl | hp
        · exact keyPrecedes_of_ne_of_not hne hnlt
        · exact h.1 p hp

/-- Texts under distinct keys. -/
structure PropertyTable where
  /-- The keys and values, in the order of the keys. -/
  entries : List (String × String)
  sorted : entries.Pairwise fun a b => keyPrecedes a.1 b.1 := by simp
deriving DecidableEq

namespace PropertyTable

def empty : PropertyTable := { entries := [] }

/-- How many keys have a value. -/
def size (t : PropertyTable) : Nat := t.entries.length

/-- Gives a key a value, in place of the one it had. -/
def set (t : PropertyTable) (key value : String) : PropertyTable where
  entries := setPair key value t.entries
  sorted := pairwise_setPair key value t.sorted

/-- The table of a list of pairs, in which the last value given for a key counts. -/
def ofList (pairs : List (String × String)) : PropertyTable :=
  pairs.foldl (fun t p => t.set p.1 p.2) empty

/-- The value under a key. -/
def get? (t : PropertyTable) (key : String) : Option String :=
  t.entries.lookup key

end PropertyTable

end Parley
