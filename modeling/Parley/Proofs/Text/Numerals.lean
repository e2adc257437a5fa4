/-
Which texts denote numbers.

A number is read from the digits behind at most one plus sign, however many
zeros they begin with, and it is the decimal number that these digits denote
(`number?_eq_some`).
-/
import Mathlib.Data.Option.Basic
import Parley.Text.Decimal

namespace Parley.Text

/-- One or more decimal digits. -/
structure Digits (cs : List Char) : Prop where
  ne_nil : cs ≠ []
  isDigit : ∀ c ∈ cs, c.isDigit

theorem digit?_of_isDigit {c : Char} (h : c.isDigit) : digit? c = some (c.toNat - '0'.toNat) := by
  simp only [Char.isDigit, Bool.and_eq_true, decide_eq_true_eq] at h
  exact if_pos h

theorem digit?_of_not_isDigit {c : Char} (h : ¬ c.isDigit) : digit? c = none := by
  simp only [Char.isDigit, Bool.and_eq_true, decide_eq_true_eq] at h
  exact if_neg h

theorem digitsAfter?_eq_some {cs : List Char} {m n : Nat} :
    digitsAfter? m cs = some n ↔ (∀ c ∈ cs, c.isDigit) ∧ n = Nat.ofDigitChars 10 cs m := by
  induction cs generalizing m with
  | nil =>
      rw [digitsAfter?, Option.some_inj, eq_comm]
      simp
  | cons c cs ih =>
      rw [digitsAfter?, List.forall_mem_cons]
      by_cases hc : c.isDigit
      · simp [digit?_of_isDigit hc, ih, hc, Nat.ofDigitChars_cons]
      · simp [digit?_of_not_isDigit hc, hc]

theorem digits?_eq_some {cs : List Char} {n : Nat} :
    digits? cs = some n ↔ Digits cs ∧ n = Nat.ofDigitChars 10 cs 0 := by
  unfold digits?
  split
  next =>
    constructor
    · intro h
      cases h
    · rintro ⟨hdigits, -⟩
      exact absurd rfl hdigits.ne_nil
  next hsome =>
    rw [digitsAfter?_eq_some]
    constructor
    · rintro ⟨hdigits, hn⟩
      exact ⟨⟨hsome, hdigits⟩, hn⟩
    · rintro ⟨hdigits, hn⟩
      exact ⟨hdigits.isDigit, hn⟩

/-- **A number is written as digits behind at most one plus sign.** -/
theorem number?_eq_some {max n : Nat} {cs : List Char} :
    number? max cs = some n ↔
      ∃ sign digits, cs = sign ++ digits ∧ (sign = [] ∨ sign = ['+']) ∧ Digits digits ∧
        n = Nat.ofDigitChars 10 digits 0 ∧ n ≤ max := by
  unfold number?
  dsimp only
  rw [Option.filter_eq_some_iff, decide_eq_true_eq]
  split
  next rest =>
    rw [digits?_eq_some]
    constructor
    · rintro ⟨⟨hdigits, hn⟩, hmax⟩
      exact ⟨['+'], rest, rfl, .inr rfl, hdigits, hn, hmax⟩
    · rintro ⟨sign, digits, hcs, rfl | rfl, hdigits, hn, hmax⟩
      · -- a plus sign is no digit
        rw [List.nil_append] at hcs
        have hplus := hdigits.isDigit '+' (by simp [← hcs])
        exact absurd hplus (by decide)
      · cases hcs
        exact ⟨⟨hdigits, hn⟩, hmax⟩
  next hplus =>
    rw [digits?_eq_some]
    constructor
    · rintro ⟨⟨hdigits, hn⟩, hmax⟩
      exact ⟨[], cs, rfl, .inl rfl, hdigits, hn, hmax⟩
    · rintro ⟨sign, digits, rfl, rfl | rfl, hdigits, hn, hmax⟩
      · exact ⟨⟨hdigits, hn⟩, hmax⟩
      · exact absurd rfl (hplus digits)

end Parley.Text
