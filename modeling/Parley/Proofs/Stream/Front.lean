/-
Reading up to the first failure.

A reader that stops at the first failure sees of its source only the bytes in
front of it. `FrameReader.finds_next` says what one call does to these bytes
and to the failure behind them: it takes a frame off, refuses a header, meets
the failure, or waits. What arrives adds to the front until a failure has
arrived, and nothing from then on (`Source.front_push`, `Source.front_push_of_halt`).
-/
import Parley.Proofs.Stream.Reading
import Mathlib.Data.List.TakeWhile

namespace Parley

/-! ### The front of a source -/

theorem Arrival.bytes_of_hiccup {a : Arrival} {e : FrameError} (h : a.hiccup? = some e) :
    a.bytes = [] := by
  cases a with
  | data bs =>
      by_cases hnil : bs = []
      · exact hnil
      · rw [hiccup?, if_neg hnil] at h
        cases h
  | ended => rfl
  | failed e => rfl

namespace Source

/-- The bytes that are delivered before a failure shows. -/
def front (s : Source) : Bytes :=
  s.rest ++ (s.arrivals.takeWhile (·.hiccup?.isNone)).flatMap Arrival.bytes

/-- The first failure that shows, or the end where a source has run out. -/
def halt? (s : Source) : Option FrameError :=
  (s.arrivals.findSome? Arrival.hiccup?).or (if s.exhausted then some .connectionClosed else none)

variable {s : Source} {a : Arrival} {later : List Arrival}

/-- An arrival that shows no failure stands in front of what comes later. -/
theorem front_cons (hrest : s.rest = []) (harrivals : s.arrivals = a :: later)
    (ha : a.hiccup? = none) :
    s.front = a.bytes ++ ({ s with arrivals := later } : Source).front ∧
      s.halt? = ({ s with arrivals := later } : Source).halt? := by
  constructor
  · simp [front, hrest, harrivals, ha]
  · simp [halt?, harrivals, ha]

/-- Nothing is delivered where the next arrival is a failure. -/
theorem front_cons_of_hiccup (hrest : s.rest = []) (harrivals : s.arrivals = a :: later)
    {e : FrameError} (ha : a.hiccup? = some e) : s.front = [] ∧ s.halt? = some e := by
  constructor
  · simp [front, hrest, harrivals, ha]
  · simp [halt?, harrivals, ha]

/-! ### A single read -/

/-- What one read does: it takes bytes off the front, meets the failure behind
an empty front, is interrupted, or waits. -/
inductive Meets (s : Source) : ReadResult → Source → Prop
  | received {bs : Bytes} {s' : Source} : bs ≠ [] → s.front = bs ++ s'.front →
      s.halt? = s'.halt? → Meets s (.received bs) s'
  | closed {s' : Source} : s.front = [] → s.halt? = some .connectionClosed →
      Meets s (.received []) s'
  | failed {e : IoError} {s' : Source} : e.kind ≠ .interrupted → s.front = [] →
      s.halt? = some (.io e) → Meets s (.failed e) s'
  | interrupted {e : IoError} {s' : Source} : e.kind = .interrupted → s'.front = s.front →
      s'.halt? = s.halt? → Meets s (.failed e) s'
  | pending : s.front = [] → s.halt? = none → Meets s .pending s

/-- A delivery with room takes bytes off the front. -/
theorem meets_deliver {bs : Bytes} {room : Nat} (hbs : bs ≠ []) (hroom : 0 < room) {s' : Source}
    (hfront : s.front = bs ++ ({ s' with rest := [] } : Source).front)
    (hhalt : s.halt? = s'.halt?) : s.Meets (s'.deliver bs room).1 (s'.deliver bs room).2 := by
  refine .received ?_ ?_ hhalt
  · exact fun hnil => hbs (eq_nil_of_take hroom hnil)
  · rw [hfront]
    simp [deliver, front, ← List.append_assoc]

theorem meets_read (s : Source) {room : Nat} (hroom : 0 < room) :
    s.Meets (s.read room).1 (s.read room).2 := by
  unfold read
  split
  next hrest => exact meets_deliver hrest hroom (by simp [front]) rfl
  next hrest =>
    have hrest : s.rest = [] := not_not.mp hrest
    split
    next harrivals =>
      have hfront : s.front = [] := by simp [front, hrest, harrivals]
      cases hended : s.exhausted with
      | true => exact .closed hfront (by simp [halt?, harrivals, hended])
      | false => exact .pending hfront (by simp [halt?, harrivals, hended])
    next later harrivals =>
      obtain ⟨hfront, hhalt⟩ := front_cons_of_hiccup hrest harrivals rfl
      exact .closed hfront hhalt
    next e later harrivals =>
      by_cases hkind : e.kind = .interrupted
      · obtain ⟨hfront, hhalt⟩ := front_cons hrest harrivals (if_pos hkind)
        exact .interrupted hkind hfront.symm hhalt.symm
      · obtain ⟨hfront, hhalt⟩ := front_cons_of_hiccup hrest harrivals (if_neg hkind)
        exact .failed hkind hfront hhalt
    next bs later harrivals =>
      by_cases hnil : bs = []
      · obtain ⟨hfront, hhalt⟩ := front_cons_of_hiccup hrest harrivals (if_pos hnil)
        subst hnil
        simpa [deliver] using Meets.closed hfront hhalt
      · obtain ⟨hfront, hhalt⟩ := front_cons hrest harrivals (if_neg hnil)
        refine meets_deliver hnil hroom ?_ hhalt
        rw [hfront]
        simp [front, hrest, Arrival.bytes]

/-! ### What arrives later -/

/-- As long as no failure has arrived, what arrives adds to the front. -/
theorem front_push (h : s.halt? = none) (a : Arrival) :
    (s.push a).front = s.front ++ a.bytes ∧ (s.push a).halt? = a.hiccup? := by
  obtain ⟨hnone, hended⟩ := Option.or_eq_none_iff.mp h
  have hcalm : ∀ b ∈ s.arrivals, b.hiccup?.isNone = true := by
    intro b hb
    rw [List.findSome?_eq_none_iff.mp hnone b hb]
    rfl
  constructor
  · rw [front, push, List.takeWhile_append_of_pos hcalm, front,
      List.takeWhile_eq_self_iff.mpr hcalm, List.flatMap_append, List.append_assoc]
    cases ha : a.hiccup? with
    | none => simp [ha]
    | some e => simp [ha, Arrival.bytes_of_hiccup ha]
  · rw [halt?, push, List.findSome?_append, hnone]
    simp [hended]

/-- What arrives behind a failure is never seen. -/
theorem front_push_of_halt {e : FrameError} (h : s.halt? = some e) (hended : s.exhausted = false)
    (a : Arrival) : (s.push a).front = s.front ∧ (s.push a).halt? = some e := by
  have hsome : s.arrivals.findSome? Arrival.hiccup? = some e := by
    simpa [halt?, hended] using h
  have hstops : (s.arrivals.takeWhile (·.hiccup?.isNone)).length ≠ s.arrivals.length := by
    intro hlength
    have hall := List.takeWhile_eq_self_iff.mp
      ((List.takeWhile_prefix _).eq_of_length hlength)
    obtain ⟨b, hb, hhiccup⟩ := List.exists_of_findSome?_eq_some hsome
    have hcalm := hall b hb
    rw [hhiccup] at hcalm
    cases hcalm
  constructor
  · rw [front, push, List.takeWhile_append, if_neg hstops, front]
  · simp [push, halt?, hsome]

end Source

/-! ### A call for the next frame -/

namespace FrameReader

/-- The bytes from which frames can be taken before a failure shows. -/
def ahead (r : FrameReader) (src : Source) : Bytes :=
  r.arena.bytes ++ src.front

/-- What a call for the next frame does to the bytes ahead and to the failure
behind them. What is left after a call that fails is not looked at. -/
inductive Finds (maxPayload : Nat) :
    Bytes → Option FrameError → Progress Frame → Bytes → Option FrameError → Prop
  | frame {text rest : Bytes} {halt? : Option FrameError} {f : Frame} :
      Frame.split? maxPayload text = .ok (some (f, rest)) →
        Finds maxPayload text halt? (.done f) rest halt?
  | refused {text rest : Bytes} {halt? halt'? : Option FrameError} {e : FrameError} :
      Frame.split? maxPayload text = .error e →
        Finds maxPayload text halt? (.failed e) rest halt'?
  | halted {text rest : Bytes} {halt'? : Option FrameError} {e : FrameError} :
      Frame.split? maxPayload text = .ok none →
        Finds maxPayload text (some e) (.failed e) rest halt'?
  | waiting {text : Bytes} :
      Frame.split? maxPayload text = .ok none →
        Finds maxPayload text none .pending text none

section

variable {maxPayload : Nat} {text rest : Bytes} {halt? halt'? : Option FrameError}

theorem Finds.of_done {f : Frame} (h : Finds maxPayload text halt? (.done f) rest halt'?) :
    Frame.split? maxPayload text = .ok (some (f, rest)) ∧ halt'? = halt? := by
  cases h with
  | frame hsplit => exact ⟨hsplit, rfl⟩

theorem Finds.of_failed {e : FrameError} (h : Finds maxPayload text halt? (.failed e) rest halt'?) :
    Frame.split? maxPayload text = .error e ∨
      Frame.split? maxPayload text = .ok none ∧ halt? = some e := by
  cases h with
  | refused hsplit => exact Or.inl hsplit
  | halted hsplit => exact Or.inr ⟨hsplit, rfl⟩

theorem Finds.of_pending (h : Finds maxPayload text halt? .pending rest halt'?) :
    Frame.split? maxPayload text = .ok none ∧ rest = text ∧ halt? = none ∧ halt'? = none := by
  cases h with
  | waiting hsplit => exact ⟨hsplit, rfl, rfl, rfl⟩

end

/-- **What one call finds** depends on the bytes ahead and the failure behind
them alone. -/
theorem finds_next (r : FrameReader) (src : Source) :
    Finds r.limits.maxPayload (r.ahead src) src.halt? (r.next src).1
      ((r.next src).2.1.ahead (r.next src).2.2) (r.next src).2.2.halt? := by
  have hmeets {r : FrameReader} (src : Source) {result : ReadResult} {src' : Source}
      (hsplit : Frame.split? r.limits.maxPayload r.arena.bytes = .ok none)
      (hread : src.read r.prepared.arena.room = (result, src')) : src.Meets result src' := by
    have hroom : 0 < r.prepared.arena.room :=
      Nat.lt_of_lt_of_le (by decide) (r.chunkSize_le_room hsplit)
    have hmeets := src.meets_read hroom
    rwa [hread] at hmeets
  -- an empty front leaves what was collected
  have hshort {r : FrameReader} {src : Source} (hfront : src.front = [])
      (hsplit : Frame.split? r.limits.maxPayload r.arena.bytes = .ok none) :
      Frame.split? r.limits.maxPayload (r.ahead src) = .ok none := by
    rw [ahead, hfront, List.append_nil, hsplit]
  fun_induction next r src with
  | case1 r src e hsplit => exact .refused (Frame.split?_append_of_error hsplit _)
  | case2 r src f rest hsplit =>
      have hrest := Frame.eq_drop_of_split?_eq_some hsplit
      subst hrest
      exact .frame (Frame.split?_append_of_some hsplit _)
  | case3 r src hsplit src' hread =>
      cases hmeets src hsplit hread with
      | pending hfront hhalt =>
          have hahead : r.prepared.ahead src = r.ahead src := by simp [ahead]
          rw [hahead, hhalt]
          exact .waiting (hshort hfront hsplit)
  | case4 r src hsplit e src' hread hkind ih =>
      cases hmeets src hsplit hread with
      | failed hother => exact absurd hkind hother
      | interrupted _ hfront hhalt =>
          have hahead : r.prepared.ahead src' = r.ahead src := by simp [ahead, hfront]
          rw [limits_prepared, hahead, hhalt] at ih
          exact ih
  | case5 r src hsplit e src' hread hkind =>
      cases hmeets src hsplit hread with
      | failed _ hfront hhalt =>
          rw [hhalt]
          exact .halted (hshort hfront hsplit)
      | interrupted hkind' => exact absurd hkind' hkind
  | case6 r src hsplit src' hread =>
      cases hmeets src hsplit hread with
      | received hne => exact absurd rfl hne
      | closed hfront hhalt =>
          rw [hhalt]
          exact .halted (hshort hfront hsplit)
  | case7 r src hsplit bs src' hread hne ih =>
      cases hmeets src hsplit hread with
      | received _ hfront hhalt =>
          have hahead : (r.prepared.collect bs).ahead src' = r.ahead src := by
            simp [ahead, collect, hfront]
          rw [limits_collect, limits_prepared, hahead, ← hhalt] at ih
          exact ih
      | closed => exact absurd rfl hne

end FrameReader

end Parley
