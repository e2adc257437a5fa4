/-
Decoders know where their value ends.

A decoder is self-delimiting if what it consumes for a value says by itself
where it stops (`Decoder.SelfDelimiting`): behind it any bytes may follow, and
if a part of it is missing the decoder runs short rather than to fail for
another reason or to be content with less. Wherever such a decoder fails, it
has stayed within its payload. The primitive reads are self-delimiting, and the
ways in which decoders are put together keep them so, whatever counts and
lengths stand in the payload.
-/
import Parley.Proofs.Frame.Unique

namespace Parley

/-- The failures of a read on a payload, with what was left of it: too little
was left, a length was negative, or a text was not UTF-8. -/
inductive FrameError.OfRead : FrameError → Bytes → Prop
  | truncated {needed : Nat} {left : Bytes} :
      left.length < needed → OfRead (.truncated needed left.length) left
  | negativeLength {n : Int32} {left : Bytes} : n < 0 → OfRead (.negativeLength n) left
  | invalidUtf8 {left : Bytes} : OfRead .invalidUtf8 left

namespace Decoder

variable {α β : Type}

/-- A decoder runs short: it finds fewer bytes than the next of its reads needs. -/
def RunsShort (d : Decoder α) (bs : Bytes) : Prop :=
  ∃ needed left, d bs = .error (.truncated needed left.length) left ∧ left.length < needed

/-- A decoder that stops by itself. -/
structure SelfDelimiting (d : Decoder α) : Prop where
  /-- The consumed bytes decide on the value, and a part of them is too short. -/
  stops : ∀ {bs x rest}, d bs = .ok x rest →
    ∃ front, bs = front ++ rest ∧ (∀ more, d (front ++ more) = .ok x more) ∧
      ∀ cut missing, front = cut ++ missing → missing ≠ [] → d.RunsShort cut
  /-- A failure leaves a rest of the payload, and is one of those of a read. -/
  fails : ∀ {bs e rest}, d bs = .error e rest → rest <:+ bs ∧ e.OfRead rest

/-- Decoders in sequence fail where one of them does. -/
theorem bind_eq_error {bs rest : Bytes} {e : FrameError} {d : Decoder α} {f : α → Decoder β}
    (h : (d >>= f) bs = .error e rest) :
    d bs = .error e rest ∨ ∃ x left, d bs = .ok x left ∧ f x left = .error e rest := by
  change EStateM.bind d f bs = .error e rest at h
  unfold EStateM.bind at h
  split at h
  next x left hfirst => exact .inr ⟨x, left, hfirst, h⟩
  next hfirst =>
    cases h
    exact .inl hfirst

theorem bind_of_error {bs rest : Bytes} {e : FrameError} {d : Decoder α}
    (h : d bs = .error e rest) (f : α → Decoder β) : (d >>= f) bs = .error e rest := by
  change EStateM.bind d f bs = .error e rest
  rw [EStateM.bind, h]

theorem RunsShort.bind {d : Decoder α} {bs : Bytes} (h : d.RunsShort bs) (f : α → Decoder β) :
    (d >>= f).RunsShort bs := by
  obtain ⟨needed, left, hfails, hshort⟩ := h
  exact ⟨needed, left, bind_of_error hfails f, hshort⟩

namespace SelfDelimiting

/-- A read leaves a rest of the payload, whether it yields a value or not. -/
theorem suffix_of_ok {d : Decoder α} (hd : d.SelfDelimiting) {bs rest : Bytes} {x : α}
    (h : d bs = .ok x rest) : rest <:+ bs := by
  obtain ⟨front, rfl, -, -⟩ := hd.stops h
  exact List.suffix_append _ _

/-! ### The primitive reads -/

theorem pure (x : α) : SelfDelimiting (Pure.pure x : Decoder α) where
  stops h := by
    obtain ⟨rfl, rfl⟩ := pure_eq_ok h
    refine ⟨[], rfl, fun _ => rfl, fun cut missing hfront hmissing => ?_⟩
    exact absurd (List.append_eq_nil_iff.mp hfront.symm).2 hmissing
  fails h := by cases h

/-- A refusal of what was read, for a cause of its own. -/
theorem throw {e : FrameError} (he : ∀ left, e.OfRead left) :
    SelfDelimiting (MonadExcept.throw e : Decoder α) where
  stops h := by cases h
  fails h := by
    cases h
    exact ⟨List.suffix_refl _, he _⟩

theorem take (n : Nat) : SelfDelimiting (take n) where
  stops h := by
    obtain ⟨hlength, rfl⟩ := take_eq_ok h
    refine ⟨_, rfl, take_append hlength, fun cut missing hfront hmissing => ?_⟩
    have hshort : cut.length < n := by
      have hpositive := List.length_pos_iff.mpr hmissing
      rw [← hlength, hfront, List.length_append]
      omega
    exact ⟨n, cut, if_neg (Nat.not_le.mpr hshort), hshort⟩
  fails h := by
    unfold Decoder.take at h
    split at h
    next => cases h
    next hshort =>
      cases h
      exact ⟨List.suffix_refl _, .truncated (Nat.lt_of_not_le hshort)⟩

/-! ### Reads in sequence -/

/-- **Self-delimiting reads in sequence are one.** A part of what both consume is
a part of what the first consumes, or all of that and a part of the rest. -/
theorem bind {d : Decoder α} {f : α → Decoder β} (hd : d.SelfDelimiting)
    (hf : ∀ x, (f x).SelfDelimiting) : (d >>= f).SelfDelimiting where
  stops h := by
    obtain ⟨x, left, hfirst, hsecond⟩ := bind_eq_ok h
    obtain ⟨front, rfl, hd, hcut⟩ := hd.stops hfirst
    obtain ⟨front', rfl, hf, hcut'⟩ := (hf x).stops hsecond
    refine ⟨front ++ front', (List.append_assoc _ _ _).symm, fun more => ?_, ?_⟩
    · rw [List.append_assoc, bind_of_ok (hd _), hf]
    · intro cut missing hboth hmissing
      rcases List.append_eq_append_iff.mp hboth with
        ⟨cut', rfl, hfront'⟩ | ⟨missing', hfront, rfl⟩
      · obtain ⟨needed, left, hfails, hshort⟩ := hcut' cut' missing hfront' hmissing
        exact ⟨needed, left, (bind_of_ok (hd cut') f).trans hfails, hshort⟩
      · by_cases hnil : missing' = []
        · subst hnil
          rw [List.append_nil] at hfront
          subst hfront
          obtain ⟨needed, left, hfails, hshort⟩ := hcut' [] front' rfl hmissing
          have hall := hd []
          rw [List.append_nil] at hall
          exact ⟨needed, left, (bind_of_ok hall f).trans hfails, hshort⟩
        · exact (hcut cut missing' hfront hnil).bind f
  fails h := by
    rcases bind_eq_error h with hfirst | ⟨x, left, hfirst, hsecond⟩
    · exact hd.fails hfirst
    · obtain ⟨hrest, he⟩ := (hf x).fails hsecond
      exact ⟨hrest.trans (hd.suffix_of_ok hfirst), he⟩

theorem u8 : Decoder.u8.SelfDelimiting := (take 1).bind fun _ => pure _

theorem bool : Decoder.bool.SelfDelimiting := u8.bind fun _ => pure _

theorem i16 : Decoder.i16.SelfDelimiting := (take 2).bind fun _ => pure _

theorem i32 : Decoder.i32.SelfDelimiting := (take 4).bind fun _ => pure _

theorem i64 : Decoder.i64.SelfDelimiting := (take 8).bind fun _ => pure _

theorem length : Decoder.length.SelfDelimiting := by
  refine i32.bind fun n => ?_
  split
  next hneg => exact throw fun _ => .negativeLength hneg
  next => exact pure _

theorem blob : Decoder.blob.SelfDelimiting := length.bind take

theorem text : Decoder.text.SelfDelimiting := by
  refine blob.bind fun bs => ?_
  split
  next => exact pure _
  next => exact throw fun _ => .invalidUtf8

theorem times {item : Decoder α} (h : item.SelfDelimiting) (n : Nat) :
    (item.times n).SelfDelimiting := by
  induction n with
  | zero => exact pure _
  | succ n ih => exact h.bind fun _ => ih.bind fun _ => pure _

theorem list {item : Decoder α} (h : item.SelfDelimiting) : item.list.SelfDelimiting :=
  length.bind h.times

/-! ### Whole payloads -/

section Whole

variable {d : Decoder α} (hd : d.SelfDelimiting) {payload : Bytes} {x : α}
include hd

/-- A payload of which a part is missing is found too short. -/
theorem whole_of_cut (h : d.whole payload = .ok x) {cut missing : Bytes}
    (hpayload : payload = cut ++ missing) (hmissing : missing ≠ []) :
    ∃ needed remaining, d.whole cut = .error (.truncated needed remaining) ∧
      remaining < needed := by
  obtain ⟨front, hfront, -, hcut⟩ := hd.stops (whole_eq_ok.mp h)
  rw [List.append_nil] at hfront
  subst hfront
  obtain ⟨needed, left, hfails, hshort⟩ := hcut cut missing hpayload hmissing
  refine ⟨needed, left.length, ?_, hshort⟩
  rw [whole, bind_of_error hfails]

/-- Bytes behind a payload are counted. -/
theorem whole_of_extended (h : d.whole payload = .ok x) {more : Bytes} (hmore : more ≠ []) :
    d.whole (payload ++ more) = .error (.trailingBytes more.length) := by
  obtain ⟨front, hfront, hstops, -⟩ := hd.stops (whole_eq_ok.mp h)
  rw [List.append_nil] at hfront
  subst hfront
  have hfinish : finish more = .error (.trailingBytes more.length) more :=
    if_neg (by rwa [List.isEmpty_iff])
  rw [whole, bind_of_ok (hstops more), bind_of_error hfinish]

/-- A payload that is not read whole is refused for a failure of a read, or
because bytes are left over. -/
theorem whole_eq_error {e : FrameError} (h : d.whole payload = .error e) :
    ∃ left, left <:+ payload ∧
      (e.OfRead left ∨ left ≠ [] ∧ e = .trailingBytes left.length) := by
  unfold whole at h
  split at h
  next => cases h
  next e' left hread =>
    cases h
    rcases bind_eq_error hread with hfails | ⟨y, mid, hvalue, hrest⟩
    · obtain ⟨hleft, hcause⟩ := hd.fails hfails
      exact ⟨left, hleft, .inl hcause⟩
    rcases bind_eq_error hrest with hfinish | ⟨u, mid', -, hpure⟩
    · unfold finish at hfinish
      split at hfinish
      next => cases hfinish
      next hmore =>
        cases hfinish
        exact ⟨left, hd.suffix_of_ok hvalue, .inr ⟨by rwa [List.isEmpty_iff] at hmore, rfl⟩⟩
    · cases hpure

end Whole

end SelfDelimiting

end Decoder

/-! ### Layouts put together -/

namespace Codec

variable {α β : Type} {c : Codec α}

theorem pair_selfDelimiting {d : Codec β} (hc : c.read.SelfDelimiting)
    (hd : d.read.SelfDelimiting) : (c.pair d).read.SelfDelimiting :=
  hc.bind fun _ => hd.bind fun _ => .pure _

theorem map_selfDelimiting (hc : c.read.SelfDelimiting) {make : α → β} {parts : β → α} :
    (c.map make parts).read.SelfDelimiting :=
  hc.bind fun _ => .pure _

end Codec

end Parley
