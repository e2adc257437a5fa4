/-
What trimming leaves of a text, and what is left behind a beginning.

A trimmed text has no blank at either end (`Text.Bare`), and it is the only
such text that differs from the given one by blanks around it
(`trimmed_eq_iff`).
-/
import Mathlib.Data.List.DropRight
import Parley.Text.Blank

namespace Parley.Text

/-- There is no blank at either end of a text. -/
structure Bare (cs : List Char) : Prop where
  head : ∀ c ∈ cs.head?, ¬ isBlank c
  last : ∀ c ∈ cs.getLast?, ¬ isBlank c

/-- All characters of a text are blank. -/
def Blank (cs : List Char) : Prop := ∀ c ∈ cs, isBlank c

theorem dropWhile_of_head {cs : List Char} (h : ∀ c ∈ cs.head?, ¬ isBlank c) :
    cs.dropWhile isBlank = cs := by
  cases cs with
  | nil => rfl
  | cons c cs => exact List.dropWhile_cons_of_neg (h c rfl)

theorem head?_dropWhile (cs : List Char) : ∀ c ∈ (cs.dropWhile isBlank).head?, ¬ isBlank c := by
  intro c hc
  have hnot := List.head?_dropWhile_not isBlank cs
  rw [Option.mem_def.mp hc] at hnot
  simpa using hnot

/-- Blanks around a text without blanks at its ends are trimmed away. -/
theorem trimmed_padded {left core right : List Char} (hleft : Blank left) (hcore : Bare core)
    (hright : Blank right) : trimmed (left ++ core ++ right) = core := by
  have hback : (core ++ right).reverse.dropWhile isBlank = core.reverse := by
    have hlast : ∀ c ∈ core.reverse.head?, ¬ isBlank c := by simpa using hcore.last
    have hblank : ∀ c ∈ right.reverse, isBlank c := by simpa [Blank] using hright
    rw [List.reverse_append, List.dropWhile_append_of_pos hblank, dropWhile_of_head hlast]
  rw [trimmed, List.append_assoc, List.dropWhile_append_of_pos hleft]
  cases core with
  | nil =>
      have hnothing : right.dropWhile isBlank = [] := List.dropWhile_eq_nil_iff.mpr hright
      simp [hnothing]
  | cons c cs =>
      have hfront : (c :: cs ++ right).dropWhile isBlank = c :: cs ++ right :=
        dropWhile_of_head (by simpa using hcore.head)
      rw [hfront, hback, List.reverse_reverse]

theorem exists_padding (cs : List Char) :
    ∃ left right, cs = left ++ trimmed cs ++ right ∧ Blank left ∧ Blank right := by
  have hback : trimmed cs ++ (cs.dropWhile isBlank).rtakeWhile isBlank = cs.dropWhile isBlank :=
    List.rdropWhile_append_rtakeWhile
  refine ⟨cs.takeWhile isBlank, (cs.dropWhile isBlank).rtakeWhile isBlank, ?_, ?_, ?_⟩
  · rw [List.append_assoc, hback, List.takeWhile_append_dropWhile]
  · intro c hc
    exact List.mem_takeWhile_imp hc
  · intro c hc
    exact List.mem_rtakeWhile_imp hc

theorem bare_trimmed (cs : List Char) : Bare (trimmed cs) := by
  constructor
  · intro c hc
    obtain ⟨rest, hrest⟩ : trimmed cs <+: cs.dropWhile isBlank := List.rdropWhile_prefix isBlank _
    apply head?_dropWhile cs
    rw [← hrest, List.head?_append, Option.mem_def.mp hc]
    rfl
  · intro c hc
    apply head?_dropWhile (cs.dropWhile isBlank).reverse
    simpa [trimmed] using hc

theorem Bare.last_of_suffix {part cs : List Char} (h : Bare cs) (hsuffix : part <:+ cs) :
    ∀ c ∈ part.getLast?, ¬ isBlank c := by
  intro c hc
  obtain ⟨front, rfl⟩ := hsuffix
  apply h.last
  rw [List.getLast?_append, Option.mem_def.mp hc]
  rfl

/-- A text without blanks at its ends stays one when others are put behind it
that do not end with a blank. -/
theorem Bare.append {front back : List Char} (hfront : Bare front) (hne : front ≠ [])
    (hback : ∀ c ∈ back.getLast?, ¬ isBlank c) : Bare (front ++ back) := by
  constructor
  · intro c hc
    apply hfront.head
    rwa [List.head?_append_of_ne_nil _ hne] at hc
  · intro c hc
    rw [List.getLast?_append, Option.mem_def, Option.or_eq_some_iff] at hc
    rcases hc with hc | ⟨-, hc⟩
    · exact hback c hc
    · exact hfront.last c hc

/-- **Trimming takes off the blanks at both ends and nothing else.** -/
theorem trimmed_eq_iff {cs core : List Char} :
    trimmed cs = core ↔
      Bare core ∧ ∃ left right, cs = left ++ core ++ right ∧ Blank left ∧ Blank right := by
  constructor
  · rintro rfl
    exact ⟨bare_trimmed cs, exists_padding cs⟩
  · rintro ⟨hcore, left, right, rfl, hleft, hright⟩
    exact trimmed_padded hleft hcore hright

theorem trimmed_of_bare {cs : List Char} (h : Bare cs) : trimmed cs = cs :=
  trimmed_eq_iff.mpr ⟨h, [], [], (List.append_nil cs).symm, by simp [Blank], by simp [Blank]⟩

end Parley.Text
