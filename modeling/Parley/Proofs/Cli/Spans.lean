/-
Which texts name a span of time.

A span is written as digits behind at most one plus sign, with a unit at the
end and blanks around (`Spells`). The units overlap: `ms` ends like `s` and
begins like `m`, and the first that stands at the end of a text decides. It is
the right one, since what is left of it has to end with a digit
(`splitUnit_of_digit`). So the texts that are accepted are those of the grammar
whose span can be counted in 64 bits and is long enough
(`parseWait_reads_grammar`).
-/
import Mathlib.Algebra.Group.Nat.Defs
import Parley.Cli.Wait
import Parley.Proofs.Text.Numerals
import Parley.Proofs.Text.Trimming

namespace Parley.Cli

open Text (Digits Bare Blank)

/-! ### The grammar -/

/-- The endings of a span with the milliseconds of their units. Without an
ending the unit is the second. -/
inductive Ending : List Char → Nat → Prop
  | millis : Ending ['m', 's'] 1
  | seconds : Ending ['s'] 1000
  | minutes : Ending ['m'] 60000
  | none : Ending [] 1000

/-- A span without the blanks around it: the number that its digits denote and
the milliseconds of its unit. -/
inductive Spells : List Char → Nat → Nat → Prop
  | intro {sign digits ending : List Char} {unit : Nat} :
      sign = [] ∨ sign = ['+'] → Digits digits → Ending ending unit →
        Spells (sign ++ digits ++ ending) (Nat.ofDigitChars 10 digits 0) unit

/-! ### Units -/

theorem before?_eq_some {ending cs front : List Char} :
    before? ending cs = some front ↔ cs = front ++ ending := by
  unfold before?
  split
  next hends =>
    obtain ⟨rest, rfl⟩ := List.isSuffixOf_iff_suffix.mp hends
    have htake : (rest ++ ending).take ((rest ++ ending).length - ending.length) = rest := by simp
    rw [htake, Option.some_inj, List.append_left_inj]
  next hends =>
    constructor
    · intro h
      cases h
    · rintro rfl
      exact absurd (List.isSuffixOf_iff_suffix.mpr (List.suffix_append _ _)) hends

theorem before?_eq_none {ending cs : List Char} (h : ∀ front, cs ≠ front ++ ending) :
    before? ending cs = none := by
  rw [Option.eq_none_iff_forall_ne_some]
  intro front hfront
  exact h front (before?_eq_some.mp hfront)

/-- The number and the unit of a text are all of it. -/
theorem splitUnit_cases (cs : List Char) :
    ∃ number ending unit, splitUnit cs = (number, unit) ∧ Ending ending unit ∧
      cs = number ++ ending := by
  simp only [splitUnit, units, List.findSome?_cons, List.findSome?_nil]
  cases hmillis : before? ['m', 's'] cs with
  | some number => exact ⟨number, _, _, rfl, .millis, before?_eq_some.mp hmillis⟩
  | none =>
      cases hseconds : before? ['s'] cs with
      | some number => exact ⟨number, _, _, rfl, .seconds, before?_eq_some.mp hseconds⟩
      | none =>
          cases hminutes : before? ['m'] cs with
          | some number => exact ⟨number, _, _, rfl, .minutes, before?_eq_some.mp hminutes⟩
          | none => exact ⟨cs, _, _, rfl, .none, (List.append_nil cs).symm⟩

/-- Nothing that ends otherwise stands at the end of a text that ends with a digit. -/
theorem before?_of_digit {front : List Char} (hdigit : ∀ c ∈ front.getLast?, c.isDigit)
    (rest : List Char) {c : Char} (hc : ¬ c.isDigit) : before? (rest ++ [c]) front = none := by
  apply before?_eq_none
  rintro more rfl
  apply hc
  apply hdigit
  simp

/-- Behind a digit no unit is found but the one that stands there. -/
theorem splitUnit_of_digit {front ending : List Char} {unit : Nat} (hending : Ending ending unit)
    (hdigit : ∀ c ∈ front.getLast?, c.isDigit) : splitUnit (front ++ ending) = (front, unit) := by
  have hfound : before? ending (front ++ ending) = some front := before?_eq_some.mpr rfl
  cases hending with
  | millis => simp [splitUnit, units, hfound]
  | seconds =>
      -- what is left of `ms` would end with an `m` where a digit stands
      have hmillis : before? ['m', 's'] (front ++ ['s']) = none := by
        apply before?_eq_none
        intro more h
        have hfront : front = more ++ ['m'] := by
          apply List.append_cancel_right
          rw [h, List.append_assoc]
          rfl
        have hm : 'm'.isDigit := by
          apply hdigit
          simp [hfront]
        exact absurd hm (by decide)
      simp [splitUnit, units, hmillis, hfound]
  | minutes =>
      have hother (ending : List Char) : before? (ending ++ ['s']) (front ++ ['m']) = none := by
        apply before?_eq_none
        intro more h
        have hends := congrArg List.getLast? h
        simp at hends
      have hmillis := hother ['m']
      have hseconds := hother []
      simp only [List.cons_append, List.nil_append] at hmillis hseconds
      simp [splitUnit, units, hmillis, hseconds, hfound]
  | none =>
      have hmillis := before?_of_digit hdigit ['m'] (c := 's') (by decide)
      have hseconds := before?_of_digit hdigit [] (c := 's') (by decide)
      have hminutes := before?_of_digit hdigit [] (c := 'm') (by decide)
      simp only [List.cons_append, List.nil_append] at hmillis hseconds hminutes
      simp [splitUnit, units, hmillis, hseconds, hminutes]

/-! ### What is accepted -/

/-- The product of the number and the unit counts if neither exceeds 64 bits. -/
theorem millis?_of_splitUnit {cs number : List Char} {unit n : Nat}
    (hsplit : splitUnit cs = (number, unit)) :
    millis? cs = some n ↔
      ∃ m, Text.number? Text.maxU64 number = some m ∧ n = m * unit ∧ n < 2 ^ 64 := by
  have hbound : n ≤ Text.maxU64 ↔ n < 2 ^ 64 := by
    unfold Text.maxU64
    omega
  rw [millis?, hsplit, Option.filter_eq_some_iff, Option.map_eq_some_iff, decide_eq_true_eq, hbound]
  constructor
  · rintro ⟨⟨m, hm, rfl⟩, hfits⟩
    exact ⟨m, hm, rfl, hfits⟩
  · rintro ⟨m, hm, rfl, hfits⟩
    exact ⟨⟨m, hm, rfl⟩, hfits⟩

theorem getLast?_isDigit (sign : List Char) {digits : List Char} (hdigits : Digits digits) :
    ∀ c ∈ (sign ++ digits).getLast?, c.isDigit := by
  intro c hc
  rw [List.getLast?_append_of_ne_nil _ hdigits.ne_nil] at hc
  exact hdigits.isDigit c (List.mem_of_getLast? hc)

/-- A text without blanks around it is accepted if it is spelled as a span that
64 bits can count. -/
theorem millis?_eq_some {cs : List Char} {n : Nat} :
    millis? cs = some n ↔
      ∃ number unit, Spells cs number unit ∧ number < 2 ^ 64 ∧ n = number * unit ∧ n < 2 ^ 64 := by
  constructor
  · intro h
    obtain ⟨number, ending, unit, hsplit, hending, rfl⟩ := splitUnit_cases cs
    obtain ⟨m, hm, hn, hfits⟩ := (millis?_of_splitUnit hsplit).mp h
    obtain ⟨sign, digits, rfl, hsign, hdigits, rfl, hbound⟩ := Text.number?_eq_some.mp hm
    exact ⟨_, unit, .intro hsign hdigits hending, Nat.lt_succ_of_le hbound, hn, hfits⟩
  · rintro ⟨_, unit, @⟨sign, digits, ending, _, hsign, hdigits, hending⟩, hbound, hn, hfits⟩
    have hsplit := splitUnit_of_digit hending (getLast?_isDigit sign hdigits)
    rw [millis?_of_splitUnit hsplit]
    refine ⟨_, Text.number?_eq_some.mpr ?_, hn, hfits⟩
    exact ⟨_, _, rfl, hsign, hdigits, rfl, Nat.le_of_lt_succ hbound⟩

theorem not_isBlank_of_isDigit {c : Char} (h : c.isDigit) : ¬ Text.isBlank c := by
  simp only [Char.isDigit, Bool.and_eq_true, decide_eq_true_eq, ge_iff_le,
    UInt32.le_iff_toNat_le] at h
  change 48 ≤ c.toNat ∧ c.toNat ≤ 57 at h
  simp [Text.isBlank, Text.Ranges.contains, Text.blanks]
  omega

/-- A span begins with a sign or a digit and ends with a digit or a letter. -/
theorem Spells.bare {cs : List Char} {number unit : Nat} (h : Spells cs number unit) : Bare cs := by
  obtain @⟨sign, digits, ending, _, hsign, hdigits, hending⟩ := h
  have hnumber : Bare (sign ++ digits) := by
    constructor
    · intro c hc
      rcases hsign with rfl | rfl
      · apply not_isBlank_of_isDigit
        apply hdigits.isDigit
        exact List.mem_of_head? hc
      · cases hc
        decide
    · intro c hc
      apply not_isBlank_of_isDigit
      exact getLast?_isDigit sign hdigits c hc
  apply hnumber.append
  · simp [hdigits.ne_nil]
  · cases hending with
    | millis | seconds => simp [Text.isBlank, Text.Ranges.contains, Text.blanks]
    | minutes => simp [Text.isBlank, Text.Ranges.contains, Text.blanks]
    | none => simp

/-- Blanks around a span do not matter. -/
theorem spells_trimmed {cs : List Char} {number unit : Nat} :
    Spells (Text.trimmed cs) number unit ↔
      ∃ left text right, cs = left ++ text ++ right ∧ Blank left ∧ Blank right ∧
        Spells text number unit := by
  constructor
  · intro h
    obtain ⟨left, right, hcs, hleft, hright⟩ := Text.exists_padding cs
    exact ⟨left, _, right, hcs, hleft, hright, h⟩
  · rintro ⟨left, text, right, rfl, hleft, hright, h⟩
    rwa [Text.trimmed_padded hleft h.bare hright]

theorem parseWait_eq_ok {input : String} {d : Duration} :
    parseWait input = .ok d ↔
      ∃ n, millis? (Text.trimmed input.toList) = some n ∧ 10 ≤ n ∧ d.nanos = n * 10 ^ 6 := by
  have hmin : minWait.millis = 10 := rfl
  have hduration (n : Nat) : Duration.ofMillis n = d ↔ d.nanos = n * 10 ^ 6 := by
    cases d
    simp [Duration.ofMillis, eq_comm]
  unfold parseWait
  dsimp only
  rw [Text.trim, String.toList_ofList, hmin]
  cases millis? (Text.trimmed input.toList) with
  | none => simp
  | some n =>
      dsimp only
      by_cases hshort : n < 10
      · simp [hshort, Nat.not_le_of_lt hshort]
      · simp [hshort, hduration, Nat.le_of_not_lt hshort]

theorem parseWait_cases (input : String) :
    (∃ d, parseWait input = .ok d) ∨ ∃ message, parseWait input = .error ⟨.usage, message⟩ := by
  unfold parseWait
  dsimp only
  split
  next => exact .inr ⟨_, rfl⟩
  next =>
    split
    next => exact .inr ⟨_, rfl⟩
    next => exact .inl ⟨_, rfl⟩

/-- **A span of time is accepted if it is spelled as one, can be counted in 64
bits and is long enough.** The accepted texts are those that consist of at most
one plus sign, decimal digits and a unit, with blanks around, where the number
and the milliseconds that it comes to stay below `2 ^ 64` and there are at least
ten of these; the span is then exactly that long. All other texts are refused
as a wrong use of the command. -/
theorem parseWait_reads_grammar (input : String) :
    (∀ d, parseWait input = .ok d ↔
      ∃ left text right number unit,
        input.toList = left ++ text ++ right ∧ Blank left ∧ Blank right ∧
          Spells text number unit ∧ number < 2 ^ 64 ∧ number * unit < 2 ^ 64 ∧
          10 ≤ number * unit ∧ d.nanos = number * unit * 10 ^ 6) ∧
      ((∃ d, parseWait input = .ok d) ∨ ∃ message, parseWait input = .error ⟨.usage, message⟩) := by
  constructor
  · intro d
    rw [parseWait_eq_ok]
    constructor
    · rintro ⟨n, hmillis, hlong, hd⟩
      obtain ⟨number, unit, hspells, hnumber, rfl, hfits⟩ := millis?_eq_some.mp hmillis
      obtain ⟨left, text, right, hinput, hleft, hright, hspells⟩ := spells_trimmed.mp hspells
      exact ⟨left, text, right, number, unit, hinput, hleft, hright, hspells, hnumber, hfits, hlong,
        hd⟩
    · rintro ⟨left, text, right, number, unit, hinput, hleft, hright, hspells, hnumber, hfits,
        hlong, hd⟩
      have htrimmed : Spells (Text.trimmed input.toList) number unit :=
        spells_trimmed.mpr ⟨left, text, right, hinput, hleft, hright, hspells⟩
      exact ⟨_, millis?_eq_some.mpr ⟨number, unit, htrimmed, hnumber, rfl, hfits⟩, hlong, hd⟩
  · exact parseWait_cases input

/-- A minute, with a sign and a zero in front and blanks around, has 60 seconds. -/
example : parseWait " +01m\n" = parseWait "60" := by decide

end Parley.Cli
