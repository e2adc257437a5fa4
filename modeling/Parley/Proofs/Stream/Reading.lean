/-
Reading frames from a source that is cut anywhere.

What matters of a source to a reader is its text, the bytes that it will
deliver, and its hiccups, the failures and empty reads that callers get to
see. `FrameReader.call_next` says what one call does in these terms alone, so
neither the pieces in which the text arrives nor interrupted reads nor the
capacity of the buffer show. `Frame.verdicts` is what repeated splitting of
the whole text yields, and `calls_independent_of_cuts` says that repeated
calls yield the same, with the hiccups woven in.
-/
import Parley.Stream.FrameReader
import Parley.Proofs.Frame.Split
import Parley.Proofs.Frame.Room

namespace Parley

/-! ### What a source holds -/

namespace Arrival

/-- The data of an arrival. -/
def bytes : Arrival → Bytes
  | data bs => bs
  | _ => []

/-- The failure that a caller gets to see when an arrival is met. An
interruption shows nowhere, and a read of no bytes looks like the end. -/
def hiccup? : Arrival → Option FrameError
  | data bs => if bs = [] then some .connectionClosed else none
  | ended => some .connectionClosed
  | failed e => if e.kind = .interrupted then none else some (.io e)

end Arrival

namespace Source

/-- All the bytes that are left to read. -/
def text (s : Source) : Bytes :=
  s.rest ++ s.arrivals.flatMap Arrival.bytes

/-- The failures that readers will get to see before the text is read. -/
def hiccups (s : Source) : List FrameError :=
  s.arrivals.filterMap Arrival.hiccup?

/-! ### A single read -/

section Read

variable {s s' : Source} {room : Nat}

theorem exhausted_read (s : Source) (room : Nat) : (s.read room).2.exhausted = s.exhausted := by
  unfold read deliver
  split
  · rfl
  · split <;> rfl

/-- A read takes what it receives off the front of the text. -/
theorem read_received {bs : Bytes} (h : s.read room = (.received bs, s')) (hne : bs ≠ []) :
    s.text = bs ++ s'.text ∧ s.hiccups = s'.hiccups := by
  unfold read at h
  split at h
  next hrest =>
    simp only [deliver, Prod.mk.injEq, ReadResult.received.injEq] at h
    obtain ⟨rfl, rfl⟩ := h
    simp [text, hiccups, ← List.append_assoc]
  next hrest =>
    have hrest : s.rest = [] := not_not.mp hrest
    split at h
    next => split at h <;> simp_all
    next => simp_all
    next => simp_all
    next piece later harrivals =>
      simp only [deliver, Prod.mk.injEq, ReadResult.received.injEq] at h
      obtain ⟨rfl, rfl⟩ := h
      have hpiece : piece ≠ [] := by
        rintro rfl
        simp at hne
      simp [text, hiccups, hrest, harrivals, Arrival.bytes, Arrival.hiccup?, hpiece,
        ← List.append_assoc]

/-- Nothing fits into some room only if there is nothing. -/
theorem eq_nil_of_take {bs : Bytes} (hroom : 0 < room) (h : bs.take room = []) : bs = [] :=
  (List.take_eq_nil_iff.mp h).resolve_left (Nat.ne_of_gt hroom)

/-- A read with room that receives nothing has met an empty piece or an end,
or the source has run out. -/
theorem read_received_nil (h : s.read room = (.received [], s')) (hroom : 0 < room) :
    s'.text = s.text ∧
      (s.hiccups = .connectionClosed :: s'.hiccups ∨
        s' = s ∧ s.text = [] ∧ s.hiccups = [] ∧ s.exhausted = true) := by
  unfold read at h
  split at h
  next hrest =>
    simp only [deliver, Prod.mk.injEq, ReadResult.received.injEq] at h
    exact absurd (eq_nil_of_take hroom h.1) hrest
  next hrest =>
    have hrest : s.rest = [] := not_not.mp hrest
    split at h
    next harrivals =>
      split at h
      next hended =>
        simp only [Prod.mk.injEq, true_and] at h
        subst h
        exact ⟨rfl, Or.inr ⟨rfl, by simp [text, hrest, harrivals], by simp [hiccups, harrivals],
          hended⟩⟩
      next => simp at h
    next later harrivals =>
      simp only [Prod.mk.injEq, true_and] at h
      subst h
      exact ⟨by simp [text, harrivals, Arrival.bytes], Or.inl (by
        simp [hiccups, harrivals, Arrival.hiccup?])⟩
    next => simp at h
    next piece later harrivals =>
      simp only [deliver, Prod.mk.injEq, ReadResult.received.injEq] at h
      obtain ⟨hnil, rfl⟩ := h
      have hpiece := eq_nil_of_take hroom hnil
      subst hpiece
      exact ⟨by simp [text, hrest, harrivals, Arrival.bytes], Or.inl (by
        simp [hiccups, harrivals, Arrival.hiccup?])⟩

/-- A failed read takes no byte away, and shows unless it was interrupted. -/
theorem read_failed {e : IoError} (h : s.read room = (.failed e, s')) :
    s'.text = s.text ∧
      s.hiccups = if e.kind = .interrupted then s'.hiccups else .io e :: s'.hiccups := by
  unfold read at h
  split at h
  next => simp [deliver] at h
  next hrest =>
    have hrest : s.rest = [] := not_not.mp hrest
    split at h
    next => split at h <;> simp at h
    next => simp at h
    next e' later harrivals =>
      simp only [Prod.mk.injEq, ReadResult.failed.injEq] at h
      obtain ⟨rfl, rfl⟩ := h
      refine ⟨by simp [text, harrivals, Arrival.bytes], ?_⟩
      by_cases hkind : e'.kind = .interrupted
      · simp [hiccups, harrivals, Arrival.hiccup?, hkind]
      · simp [hiccups, harrivals, Arrival.hiccup?, hkind]
    next => simp [deliver] at h

/-- A read waits only where nothing is left and more may come. -/
theorem read_pending (h : s.read room = (.pending, s')) :
    s' = s ∧ s.text = [] ∧ s.hiccups = [] ∧ s.exhausted = false := by
  unfold read at h
  split at h
  next => simp [deliver] at h
  next hrest =>
    have hrest : s.rest = [] := not_not.mp hrest
    split at h
    next harrivals =>
      split at h
      next => simp at h
      next hended =>
        simp only [Prod.mk.injEq, true_and] at h
        subst h
        exact ⟨rfl, by simp [text, hrest, harrivals], by simp [hiccups, harrivals],
          by simpa using hended⟩
    next => simp at h
    next => simp at h
    next => simp [deliver] at h

end Read

end Source

/-! ### A call for the next frame -/

/-- What a call for the next frame does to what is left to read, the text and
the hiccups before and after: it takes a frame off, refuses the header at the
front, or lets one hiccup show. Where nothing is left it finds the end or
waits. -/
inductive FrameReader.Call (maxPayload : Nat) (ended : Bool) :
    Bytes → List FrameError → Progress Frame → Bytes → List FrameError → Prop
  | frame {text rest : Bytes} {hiccups : List FrameError} {f : Frame} :
      Frame.split? maxPayload text = .ok (some (f, rest)) →
        Call maxPayload ended text hiccups (.done f) rest hiccups
  | refused {text : Bytes} {hiccups : List FrameError} {e : FrameError} :
      Frame.split? maxPayload text = .error e →
        Call maxPayload ended text hiccups (.failed e) text hiccups
  | hiccup {text : Bytes} {hiccups : List FrameError} {e : FrameError} :
      Call maxPayload ended text (e :: hiccups) (.failed e) text hiccups
  | dry {text : Bytes} :
      Frame.split? maxPayload text = .ok none →
        Call maxPayload ended text [] (if ended then .failed .connectionClosed else .pending)
          text []

/-- The causes for which a header is refused. -/
def FrameError.refusesHeader : FrameError → Bool
  | negativeLength _ | payloadTooLarge _ _ => true
  | _ => false

namespace FrameReader

/-- The bytes that have not become frames yet, collected or still to come. -/
def unread (r : FrameReader) (src : Source) : Bytes :=
  r.arena.bytes ++ src.text

@[simp] theorem bytes_prepared (r : FrameReader) : r.prepared.arena.bytes = r.arena.bytes := by
  simp [prepared]

@[simp] theorem limits_prepared (r : FrameReader) : r.prepared.limits = r.limits := by
  rw [prepared]

@[simp] theorem limits_collect (r : FrameReader) (bs : Bytes) :
    (r.collect bs).limits = r.limits := by
  rw [collect]

/-- A reader reads only while its buffer is short, so the length with a chunk
more is a 64-bit number. -/
theorem length_add_chunkSize_le (r : FrameReader)
    (h : Frame.split? r.limits.maxPayload r.arena.bytes = .ok none) :
    r.arena.length + chunkSize ≤ 0xffffffffffffffff := by
  have hshort := Frame.length_lt_of_split?_none h
  have hlength : r.arena.length = r.arena.bytes.length := rfl
  have hchunk : chunkSize = 8192 := rfl
  have hheader : Frame.headerSize = 10 := rfl
  have hmax : maxLength = 2147483647 := rfl
  omega

/-- Hence there always is room for a chunk. -/
theorem chunkSize_le_room (r : FrameReader)
    (h : Frame.split? r.limits.maxPayload r.arena.bytes = .ok none) :
    chunkSize ≤ r.prepared.arena.room := by
  have hprepared : r.prepared.arena = r.arena.ensureWritable chunkSize := by rw [prepared]
  rw [hprepared]
  exact Arena.le_room_ensureWritable (r.length_add_chunkSize_le h)

theorem limits_next (r : FrameReader) (src : Source) : (r.next src).2.1.limits = r.limits := by
  fun_induction next r src <;> simp_all [consume]

theorem exhausted_next (r : FrameReader) (src : Source) :
    (r.next src).2.2.exhausted = src.exhausted := by
  fun_induction next r src with
  | case1 | case2 => rfl
  | case3 r src _ src' hread | case5 r src _ e src' hread | case6 r src _ src' hread =>
      simpa [hread] using src.exhausted_read r.prepared.arena.room
  | case4 r src _ e src' hread _ ih | case7 r src _ bs src' hread _ ih =>
      rw [ih]
      simpa [hread] using src.exhausted_read r.prepared.arena.room

/-- **What one call does.** A call sees of its source and its buffer no more
than the text that is left and the hiccups on the way. -/
theorem call_next (r : FrameReader) (src : Source) :
    Call r.limits.maxPayload src.exhausted (r.unread src) src.hiccups (r.next src).1
      ((r.next src).2.1.unread (r.next src).2.2) (r.next src).2.2.hiccups := by
  fun_induction next r src with
  | case1 r src e hsplit => exact .refused (Frame.split?_append_of_error hsplit _)
  | case2 r src f rest hsplit =>
      have hrest := Frame.eq_drop_of_split?_eq_some hsplit
      subst hrest
      exact .frame (Frame.split?_append_of_some hsplit _)
  | case3 r src hsplit src' hread =>
      obtain ⟨rfl, htext, hhiccups, hended⟩ := Source.read_pending hread
      have hunread : r.prepared.unread src' = r.unread src' := by simp [unread]
      have hdry : Frame.split? r.limits.maxPayload (r.unread src') = .ok none := by
        rw [unread, htext, List.append_nil, hsplit]
      rw [hunread, hhiccups, hended]
      exact .dry hdry
  | case4 r src hsplit e src' hread hkind ih =>
      obtain ⟨htext, hhiccups⟩ := Source.read_failed hread
      have hended := src.exhausted_read r.prepared.arena.room
      rw [if_pos hkind] at hhiccups
      rw [hread] at hended
      rw [limits_prepared, hended] at ih
      simpa [unread, htext, hhiccups] using ih
  | case5 r src hsplit e src' hread hkind =>
      obtain ⟨htext, hhiccups⟩ := Source.read_failed hread
      rw [if_neg hkind] at hhiccups
      have hunread : r.prepared.unread src' = r.unread src := by simp [unread, htext]
      rw [hunread, hhiccups]
      exact .hiccup
  | case6 r src hsplit src' hread =>
      have hroom : 0 < r.prepared.arena.room :=
        Nat.lt_of_lt_of_le (by decide) (r.chunkSize_le_room hsplit)
      obtain ⟨htext, hcause⟩ := Source.read_received_nil hread hroom
      have hunread : r.prepared.unread src' = r.unread src := by simp [unread, htext]
      rw [hunread]
      rcases hcause with hhiccups | ⟨rfl, hnil, hhiccups, hended⟩
      · rw [hhiccups]
        exact .hiccup
      · have hdry : Frame.split? r.limits.maxPayload (r.unread src') = .ok none := by
          rw [unread, hnil, List.append_nil, hsplit]
        rw [hhiccups, hended]
        exact .dry hdry
  | case7 r src hsplit bs src' hread hne ih =>
      obtain ⟨htext, hhiccups⟩ := Source.read_received hread hne
      have hended := src.exhausted_read r.prepared.arena.room
      rw [hread] at hended
      have hunread : (r.prepared.collect bs).unread src' = r.unread src := by
        simp [unread, collect, htext]
      rw [limits_collect, limits_prepared, hended, hunread] at ih
      rw [hhiccups]
      exact ih

/-! ### Refused headers -/

/-- A reader that has collected a header to be refused does no more than to
refuse it. -/
theorem next_of_refused {r : FrameReader} {e : FrameError}
    (h : Frame.split? r.limits.maxPayload r.arena.bytes = .error e) (src : Source) :
    r.next src = (.failed e, r, src) := by
  rw [next]
  split
  next e' h' =>
    cases h.symm.trans h'
    rfl
  next h' => cases h.symm.trans h'
  next h' => cases h.symm.trans h'

/-- A reader that refuses a header has collected it and keeps it. -/
theorem refused_of_next {r : FrameReader} {src : Source} {e : FrameError}
    (h : (r.next src).1 = .failed e) (he : e.refusesHeader = true) :
    Frame.split? (r.next src).2.1.limits.maxPayload (r.next src).2.1.arena.bytes = .error e := by
  fun_induction next r src with
  | case1 r src e' hsplit =>
      cases h
      exact hsplit
  | case2 | case3 => cases h
  | case4 r src hsplit e' src' hread hkind ih => exact ih h
  | case5 | case6 =>
      cases h
      cases he
  | case7 r src hsplit bs src' hread hne ih => exact ih h

end FrameReader

/-! ### Repeated calls -/

/-- What repeated splitting of a whole text yields in a number of attempts: its
frames in order, and then over and over the refusal of the header that follows
them, or else that the end is reached or more has to come. -/
def Frame.verdicts (maxPayload : Nat) (ended : Bool) : Nat → Bytes → List (Progress Frame)
  | 0, _ => []
  | n + 1, text =>
    match split? maxPayload text with
    | .ok (some (f, rest)) => .done f :: verdicts maxPayload ended n rest
    | .error e => .failed e :: verdicts maxPayload ended n text
    | .ok none =>
      (if ended then .failed .connectionClosed else .pending) :: verdicts maxPayload ended n text

/-- `Weave l r m`: the list `m` has the items of `l` and of `r`, each in their
order. -/
inductive Weave {α : Type} : List α → List α → List α → Prop
  | nil : Weave [] [] []
  | left {a : α} {l r m : List α} : Weave l r m → Weave (a :: l) r (a :: m)
  | right {a : α} {l r m : List α} : Weave l r m → Weave l (a :: r) (a :: m)

theorem Weave.eq_of_nil {α : Type} {l r m : List α} (h : Weave l r m) (hnil : l = []) : m = r := by
  induction h with
  | nil => rfl
  | left => cases hnil
  | right _ ih => rw [ih hnil]

/-- The value of an operation that has come to its end. -/
def Progress.value? {α : Type} : Progress α → Option α
  | done value => some value
  | _ => none

/-- The text before a call is the frame that the call yields, if it yields one,
and the text after it. -/
theorem FrameReader.Call.text_eq {maxPayload : Nat} {ended : Bool} {text rest : Bytes}
    {hiccups ahead : List FrameError} {outcome : Progress Frame}
    (h : Call maxPayload ended text hiccups outcome rest ahead) :
    text = outcome.value?.toList.flatMap Frame.bytes ++ rest := by
  cases h with
  | frame hsplit =>
      obtain ⟨htext, -, -⟩ := Frame.split?_eq_some.mp hsplit
      simpa [Progress.value?] using htext
  | refused => rfl
  | hiccup => rfl
  | dry => cases ended <;> rfl

/-- A call that yields a frame has split it off. -/
theorem FrameReader.Call.split_of_done {maxPayload : Nat} {ended : Bool} {text rest : Bytes}
    {hiccups ahead : List FrameError} {f : Frame}
    (h : Call maxPayload ended text hiccups (.done f) rest ahead) :
    Frame.split? maxPayload text = .ok (some (f, rest)) := by
  generalize houtcome : Progress.done f = outcome at h
  cases h with
  | frame hsplit =>
      cases houtcome
      exact hsplit
  | refused => cases houtcome
  | hiccup => cases houtcome
  | dry => cases ended <;> cases houtcome

/-- A call that waits has found no frame. -/
theorem FrameReader.Call.split_of_pending {maxPayload : Nat} {ended : Bool} {text rest : Bytes}
    {hiccups ahead : List FrameError}
    (h : Call maxPayload ended text hiccups .pending rest ahead) :
    Frame.split? maxPayload text = .ok none := by
  generalize houtcome : Progress.pending = outcome at h
  cases h with
  | frame => cases houtcome
  | refused => cases houtcome
  | hiccup => cases houtcome
  | dry hsplit => exact hsplit

/-- A call on a stream that nothing disturbs fails only on a header that is
refused, and nothing disturbs what comes after it. -/
theorem FrameReader.Call.of_calm {maxPayload : Nat} {text rest : Bytes}
    {ahead : List FrameError} {outcome : Progress Frame}
    (h : Call maxPayload false text [] outcome rest ahead) :
    ahead = [] ∧ ∀ e, outcome = .failed e → Frame.split? maxPayload text = .error e := by
  cases h with
  | frame => exact ⟨rfl, fun e he => nomatch he⟩
  | refused hsplit =>
      refine ⟨rfl, ?_⟩
      intro e he
      cases he
      exact hsplit
  | dry => exact ⟨rfl, fun e he => nomatch he⟩

namespace FrameReader

/-- What comes of repeated calls: their outcomes, and the reader and the
source after them. -/
structure Run where
  outcomes : List (Progress Frame)
  reader : FrameReader
  source : Source

/-- Calls for the next frame one after the other, whatever they yield. -/
def calls : Nat → FrameReader → Source → Run
  | 0, r, src => ⟨[], r, src⟩
  | n + 1, r, src =>
    let (outcome, r, src) := r.next src
    let later := calls n r src
    { later with outcomes := outcome :: later.outcomes }

/-- Once a header is refused, every later call refuses it, and nothing is read. -/
theorem calls_of_refused {r : FrameReader} {e : FrameError}
    (h : Frame.split? r.limits.maxPayload r.arena.bytes = .error e) (n : Nat) (src : Source) :
    r.calls n src = ⟨List.replicate n (.failed e), r, src⟩ := by
  induction n with
  | zero => rfl
  | succ n ih =>
      rw [calls, next_of_refused h]
      dsimp only
      rw [ih, List.replicate_succ]

/-- **Calls yield the verdicts on the text**, between which the hiccups that
were met show in their order. -/
theorem weave_calls (n : Nat) (r : FrameReader) (src : Source) :
    ∃ met k, src.hiccups = met ++ (r.calls n src).source.hiccups ∧ met.length + k = n ∧
      Weave (met.map .failed)
        (Frame.verdicts r.limits.maxPayload src.exhausted k (r.unread src))
        (r.calls n src).outcomes := by
  induction n generalizing r src with
  | zero => exact ⟨[], 0, rfl, rfl, .nil⟩
  | succ n ih =>
      obtain ⟨met, k, hmet, hk, hweave⟩ := ih (r.next src).2.1 (r.next src).2.2
      have hcall := r.call_next src
      rw [limits_next, exhausted_next] at hweave
      rw [calls]
      dsimp only
      generalize (r.next src).1 = outcome at hcall ⊢
      generalize ((r.next src).2.1.calls n (r.next src).2.2).outcomes = later at hweave ⊢
      generalize ((r.next src).2.1.calls n (r.next src).2.2).source.hiccups = ahead at hmet ⊢
      generalize (r.next src).2.1.unread (r.next src).2.2 = rest at hcall hweave
      generalize (r.next src).2.2.hiccups = hiccups at hcall hmet
      generalize src.hiccups = before at hcall ⊢
      cases hcall with
      | frame hsplit =>
          refine ⟨met, k + 1, hmet, by omega, ?_⟩
          rw [Frame.verdicts, hsplit]
          exact .right hweave
      | refused hsplit =>
          refine ⟨met, k + 1, hmet, by omega, ?_⟩
          rw [Frame.verdicts, hsplit]
          exact .right hweave
      | hiccup =>
          refine ⟨_ :: met, k, congrArg _ hmet, by simp only [List.length_cons]; omega, ?_⟩
          exact .left hweave
      | dry hsplit =>
          refine ⟨met, k + 1, hmet, by omega, ?_⟩
          rw [Frame.verdicts, hsplit]
          exact .right hweave

/-- Every byte of the text is in a frame that a call yielded, or is still there
to be read. -/
theorem text_calls (n : Nat) (r : FrameReader) (src : Source) :
    r.unread src = ((r.calls n src).outcomes.filterMap Progress.value?).flatMap Frame.bytes
      ++ (r.calls n src).reader.unread (r.calls n src).source := by
  induction n generalizing r src with
  | zero => rfl
  | succ n ih =>
      have hlater := ih (r.next src).2.1 (r.next src).2.2
      rw [(r.call_next src).text_eq, hlater, ← List.append_assoc]
      cases h : (r.next src).1 <;> simp [calls, h, Progress.value?, List.filterMap_cons]

/-- Once a call has refused a header, all later calls refuse it. -/
theorem calls_of_refused_mem {e : FrameError} (he : e.refusesHeader = true) (n : Nat)
    (r : FrameReader) (src : Source) (h : .failed e ∈ (r.calls n src).outcomes) (k : Nat) :
    (r.calls n src).reader.calls k (r.calls n src).source
      = ⟨List.replicate k (.failed e), (r.calls n src).reader, (r.calls n src).source⟩ := by
  induction n generalizing r src with
  | zero => cases h
  | succ n ih =>
      rw [calls] at h ⊢
      dsimp only at h ⊢
      rcases List.mem_cons.mp h with hfirst | hlater
      · have hrefused := refused_of_next hfirst.symm he
        rw [calls_of_refused hrefused n]
        exact calls_of_refused hrefused k _
      · exact ih _ _ hlater

/-- **Reading does not depend on how a text is cut.** However a text is cut into
pieces, with interruptions anywhere, and at whatever capacity the buffer
starts, repeated calls yield the verdicts on the whole text. Failures and
empty reads in between show once each and in order, and no byte is lost to
them. A header that is refused is refused by every later call, and nothing
more is read. -/
theorem calls_independent_of_cuts (limits : FrameLimits) (src : Source) (n : Nat) :
    let run := (ofLimits limits).calls n src
    (src.hiccups = [] →
      run.outcomes = Frame.verdicts limits.maxPayload src.exhausted n src.text) ∧
    (∃ met k, src.hiccups = met ++ run.source.hiccups ∧ met.length + k = n ∧
      Weave (met.map .failed) (Frame.verdicts limits.maxPayload src.exhausted k src.text)
        run.outcomes) ∧
    src.text = (run.outcomes.filterMap Progress.value?).flatMap Frame.bytes
      ++ run.reader.unread run.source ∧
    ∀ e, e.refusesHeader = true → .failed e ∈ run.outcomes →
      ∀ k, run.reader.calls k run.source
        = ⟨List.replicate k (.failed e), run.reader, run.source⟩ := by
  intro run
  have hunread : (ofLimits limits).unread src = src.text := rfl
  have hlimits : (ofLimits limits).limits = limits := rfl
  obtain ⟨met, k, hmet, hk, hweave⟩ := weave_calls n (ofLimits limits) src
  rw [hunread, hlimits] at hweave
  refine ⟨?_, ⟨met, k, hmet, hk, hweave⟩, ?_, ?_⟩
  · intro hsmooth
    rw [hsmooth] at hmet
    obtain rfl : met = [] := (List.append_eq_nil_iff.mp hmet.symm).1
    obtain rfl : k = n := by simpa using hk
    exact hweave.eq_of_nil rfl
  · rw [← hunread]
    exact text_calls n _ src
  · intro e he hmem k
    exact calls_of_refused_mem he n _ src hmem k

end FrameReader

end Parley
