/-
Endpoints displayed and read again.

Of the spellings that are read, a display uses one for each kind of endpoint:
`tcp://` before an address and `unix:` before a path. Read again, an address
comes back as it was, and so does a path, unless it begins with two slashes:
those are taken for a part of the scheme. Where a third slash follows, the same
path is left; where none follows, an absolute path has become a relative one,
or nothing at all (`Endpoint.display_names_same_iff`).
-/
import Parley.Proofs.Text.Trimming
import Parley.Transport.Endpoint

namespace Parley

theorem Text.after?_eq_some {beginning cs rest : List Char} :
    Text.after? beginning cs = some rest ↔ cs = beginning ++ rest := by
  induction beginning generalizing cs with
  | nil => simp [Text.after?]
  | cons b bs ih =>
      cases cs with
      | nil => simp [Text.after?]
      | cons c cs =>
          rw [Text.after?]
          split
          next heq => simp [ih, heq]
          next hne => simp [Ne.symm hne]

namespace Endpoint

/-! ### What is accepted -/

theorem parseAddress_eq_ok {cs : List Char} {e : Endpoint} (h : parseAddress cs = .ok e) :
    e = .tcp (String.ofList cs) ∧ cs ≠ [] := by
  unfold parseAddress at h
  split at h
  next => cases h
  next => cases h
  next hsplit =>
    split at h
    next =>
      cases h
      constructor
      · rfl
      · rintro rfl
        cases hsplit
    next => cases h

theorem parsePath_eq_ok {cs : List Char} {e : Endpoint} (h : parsePath cs = .ok e) :
    ∃ path, e = .unix (String.ofList path) ∧ path ≠ [] ∧ path <:+ cs := by
  unfold parsePath at h
  dsimp only at h
  split at h
  next => cases h
  next hsome =>
    cases h
    refine ⟨_, rfl, by simpa using hsome, ?_⟩
    cases hafter : Text.after? ['/', '/'] cs with
    | none => exact List.suffix_refl _
    | some rest =>
        rw [Text.after?_eq_some.mp hafter]
        exact List.suffix_append _ _

/-- Whatever its spelling, an accepted text ends with an address that is
accepted on its own, or with a path. -/
theorem parseTrimmed_cases {cs : List Char} {e : Endpoint} (h : parseTrimmed cs = .ok e) :
    (∃ address, address <:+ cs ∧ parseAddress address = .ok e) ∨
      ∃ path, e = .unix (String.ofList path) ∧ path ≠ [] ∧ path <:+ cs := by
  unfold parseTrimmed at h
  split at h
  next => cases h
  next hsome =>
    split at h
    next address hafter =>
      left
      rw [Text.after?_eq_some.mp hafter]
      exact ⟨address, List.suffix_append _ _, h⟩
    next =>
      split at h
      next rest hafter =>
        right
        obtain ⟨path, he, hpath, hsuffix⟩ := parsePath_eq_ok h
        rw [Text.after?_eq_some.mp hafter]
        exact ⟨path, he, hpath, hsuffix.trans (List.suffix_append _ _)⟩
      next =>
        split at h
        next => cases h
        next =>
          split at h
          next =>
            cases h
            right
            exact ⟨cs, rfl, by simpa using hsome, List.suffix_refl _⟩
          next =>
            left
            exact ⟨cs, List.suffix_refl _, h⟩

theorem parse_eq_ok {input : String} {e : Endpoint} :
    parse input = .ok e ↔ parseTrimmed (Text.trimmed input.toList) = .ok e := by
  rw [parse]
  cases parseTrimmed (Text.trimmed input.toList) with
  | ok e' => simp
  | error fault => simp

/-! ### What is displayed -/

theorem parseTrimmed_tcp (address : List Char) :
    parseTrimmed ("tcp://".toList ++ address) = parseAddress address := by
  simp [parseTrimmed, Text.after?]

theorem parseTrimmed_unix (path : List Char) :
    parseTrimmed ("unix:".toList ++ path) = parsePath path := by
  simp [parseTrimmed, Text.after?]

section Displayed

variable {input : String}

/-- Nothing is trimmed off a scheme with the end of an accepted text behind it. -/
theorem trimmed_scheme {scheme part : List Char} (hscheme : Text.Bare scheme) (hne : scheme ≠ [])
    (hpart : part <:+ Text.trimmed input.toList) :
    Text.trimmed (scheme ++ part) = scheme ++ part := by
  apply Text.trimmed_of_bare
  apply hscheme.append hne
  exact (Text.bare_trimmed _).last_of_suffix hpart

/-- A displayed address reads as the address. -/
theorem parse_display_tcp {address : List Char} {e : Endpoint}
    (hpart : address <:+ Text.trimmed input.toList) (h : parseAddress address = .ok e) :
    parse e.display = .ok e := by
  obtain ⟨rfl, -⟩ := parseAddress_eq_ok h
  have hscheme : Text.Bare "tcp://".toList := by
    constructor
    · simp [Text.isBlank, Text.Ranges.contains, Text.blanks]
    · simp [Text.isBlank, Text.Ranges.contains, Text.blanks]
  have hdisplay : (tcp (String.ofList address)).display.toList = "tcp://".toList ++ address := by
    simp [display]
  rw [parse_eq_ok, hdisplay, trimmed_scheme hscheme (by simp) hpart, parseTrimmed_tcp, h]

/-- A displayed path reads as what stands behind the scheme. -/
theorem parse_display_unix {path : List Char} {e : Endpoint}
    (hpart : path <:+ Text.trimmed input.toList) :
    parse (unix (String.ofList path)).display = .ok e ↔ parsePath path = .ok e := by
  have hscheme : Text.Bare "unix:".toList := by
    constructor
    · simp [Text.isBlank, Text.Ranges.contains, Text.blanks]
    · simp [Text.isBlank, Text.Ranges.contains, Text.blanks]
  have hdisplay : (unix (String.ofList path)).display.toList = "unix:".toList ++ path := by
    simp [display]
  rw [parse_eq_ok, hdisplay, trimmed_scheme hscheme (by simp) hpart, parseTrimmed_unix]

end Displayed

/-! ### Slashes in front of a path -/

theorem segments_ne_nil (cs : List Char) : segments cs ≠ [] := by
  cases cs with
  | nil => simp [segments]
  | cons c cs =>
      rw [segments]
      split
      next => simp
      next => split <;> simp

/-- A slash in front of a path stands behind an empty segment. -/
theorem segments_slash (cs : List Char) : segments ('/' :: cs) = [] :: segments cs := by
  rw [segments]
  cases h : segments cs with
  | nil => exact absurd h (segments_ne_nil cs)
  | cons first rest => rfl

/-- Two slashes in front of a path make no difference to it exactly if a third
one follows: without it the path does not start at the root. -/
theorem same_of_two_slashes (rest : List Char) :
    same (.unix (String.ofList ('/' :: '/' :: rest))) (.unix (String.ofList rest)) = true
      ↔ rest.head? = some '/' := by
  have hslashes : pathParts (String.ofList ('/' :: '/' :: rest))
      = ⟨true, false, (segments rest).filter fun s => !(s.isEmpty || s = ['.'])⟩ := by
    simp [pathParts, segments_slash]
  rw [same, beq_iff_eq, hslashes]
  constructor
  · intro h
    have habsolute := congrArg PathParts.absolute h
    simpa [pathParts] using habsolute
  · intro h
    simp [pathParts, h]

/-- The path of an endpoint begins with two slashes, and with no more. -/
def TwoSlashed : Endpoint → Prop
  | tcp _ => False
  | unix path => ∃ rest, path.toList = '/' :: '/' :: rest ∧ rest.head? ≠ some '/'

theorem twoSlashed_unix {path : List Char} :
    (unix (String.ofList path)).TwoSlashed
      ↔ ∃ rest, path = '/' :: '/' :: rest ∧ rest.head? ≠ some '/' := by
  simp [TwoSlashed]

theorem same_refl (e : Endpoint) : e.same e = true := by
  cases e <;> simp [same]

/-- What stands behind the scheme reads as the same path unless it begins with
just two slashes. -/
theorem parsePath_names_same_iff {path : List Char} (hne : path ≠ []) :
    (∃ e, parsePath path = .ok e ∧ (unix (String.ofList path)).same e = true)
      ↔ ¬ (unix (String.ofList path)).TwoSlashed := by
  rw [twoSlashed_unix]
  cases hafter : Text.after? ['/', '/'] path with
  | none =>
      have hself : parsePath path = .ok (.unix (String.ofList path)) := by
        simp [parsePath, hafter, hne]
      constructor
      · rintro - ⟨rest, rfl, -⟩
        cases hafter
      · intro _
        exact ⟨_, hself, same_refl _⟩
  | some rest =>
      obtain rfl : path = '/' :: '/' :: rest := Text.after?_eq_some.mp hafter
      constructor
      · rintro ⟨e, he, hsame⟩ ⟨rest', hrest, hhead⟩
        cases hrest
        simp only [parsePath, hafter, Option.getD_some] at he
        split at he
        next => cases he
        next =>
          cases he
          exact hhead ((same_of_two_slashes rest).mp hsame)
      · intro hslashes
        have hhead : rest.head? = some '/' := by
          by_contra hhead
          exact hslashes ⟨rest, rfl, hhead⟩
        have hsome : rest ≠ [] := by
          rintro rfl
          cases hhead
        refine ⟨.unix (String.ofList rest), ?_, (same_of_two_slashes rest).mpr hhead⟩
        simp [parsePath, hafter, hsome]

/-! ### Displayed and read again -/

/-- **A displayed endpoint reads as the same endpoint, unless its path begins
with just two slashes.** Whatever its spelling, the display of an accepted
endpoint is accepted again and names the same endpoint exactly if it is an
address, or a path that does not begin with two slashes and no third: those
are taken for a part of the scheme. -/
theorem display_names_same_iff {input : String} {e : Endpoint} (h : parse input = .ok e) :
    (∃ e', parse e.display = .ok e' ∧ e.same e' = true) ↔ ¬ e.TwoSlashed := by
  rcases parseTrimmed_cases (parse_eq_ok.mp h) with
    ⟨address, hpart, haddress⟩ | ⟨path, rfl, hne, hpart⟩
  · obtain ⟨rfl, -⟩ := parseAddress_eq_ok haddress
    constructor
    · intro _ hslashes
      exact hslashes
    · intro _
      exact ⟨_, parse_display_tcp hpart haddress, same_refl _⟩
  · simp only [parse_display_unix hpart]
    exact parsePath_names_same_iff hne

/-- A path behind the scheme and two slashes, with blanks around. -/
theorem display_names_same_run :
    parse " unix:///run/agent.sock\n" = .ok (.unix "/run/agent.sock") ∧
      ∃ e, parse (unix "/run/agent.sock").display = .ok e ∧
        (unix "/run/agent.sock").same e = true := by
  have haccepted : parse " unix:///run/agent.sock\n" = .ok (.unix "/run/agent.sock") := by decide
  have hslashes : ¬ (unix "/run/agent.sock").TwoSlashed := by
    rintro ⟨rest, hrest, -⟩
    simp at hrest
  exact ⟨haccepted, (display_names_same_iff haccepted).mpr hslashes⟩

/-- The display of a path with two slashes in front names a path elsewhere. -/
theorem two_slashes_lose_root :
    parse "//tmp/agent.sock" = .ok (.unix "//tmp/agent.sock") ∧
      parse (unix "//tmp/agent.sock").display = .ok (.unix "tmp/agent.sock") ∧
      (unix "//tmp/agent.sock").same (.unix "tmp/agent.sock") = false := by
  decide

end Endpoint

end Parley
