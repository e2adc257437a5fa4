/-
Writing whole frames to a sink.

However a sink takes bytes, in pieces, with interruptions, or not at all, what
a call adds to it is its own frame: all of it if the call succeeds, a
beginning of it if the connection is lost, and nothing if no frame could be
made (`executeAll_sound`). What an earlier call left in the writer's arena
never shows. The failures that count as lost connections are exactly those
that the sink reports, since no layout reports such a failure.
-/
import Parley.Stream.FrameWriter
import Parley.Proofs.Frame.Assembly

namespace Parley

/-! ### What becomes of bytes -/

/-- After such a write the connection is lost. -/
def WriteTurn.isFatal : WriteTurn → Bool
  | accept n => n == 0
  | fail e => e.kind != .interrupted
  | stall => false

/-- After such a flush the connection is lost. -/
def FlushTurn.isFatal : FlushTurn → Bool
  | none => false
  | some e => e.kind != .interrupted

/-- A failure of the stream that is not an interruption. -/
def FrameError.isLasting : FrameError → Bool
  | io e => e.kind != .interrupted
  | connectionClosed => true
  | _ => false

namespace Sink

/-- The connection was lost between two states of a sink: among the turns taken
in between there is a fatal one. -/
def Lost (before after : Sink) : Prop :=
  (∃ used, before.writes = used ++ after.writes ∧ ∃ t ∈ used, t.isFatal = true) ∨
    ∃ used, before.flushes = used ++ after.flushes ∧ ∃ t ∈ used, FlushTurn.isFatal t = true

/-- Nothing holds a sink up, now or later. -/
def Flowing (s : Sink) : Prop :=
  s.stalled = false ∧ ∀ t ∈ s.writes, t ≠ .stall

/-- The outcome of writing bytes agrees with the turns that were taken. -/
theorem drain_turns (turns : List WriteTurn) (bs : Bytes) :
    ∃ used, turns = used ++ (drain turns bs).turns ∧
      ((∃ t ∈ used, t.isFatal = true) ↔ ∃ e, (drain turns bs).progress = .failed e) := by
  fun_induction drain turns bs with
  | case1 turns => exact ⟨[], rfl, by simp⟩
  | case2 bs => exact ⟨[], rfl, by simp⟩
  | case3 turns bs => exact ⟨[.accept 0], rfl, by simp [WriteTurn.isFatal]⟩
  | case4 n turns bs _ hn later ih =>
      obtain ⟨used, hused, hfatal⟩ := ih
      refine ⟨.accept n :: used, congrArg _ hused, ?_⟩
      simpa [WriteTurn.isFatal, hn] using hfatal
  | case5 e turns bs _ hkind ih =>
      obtain ⟨used, hused, hfatal⟩ := ih
      refine ⟨.fail e :: used, congrArg _ hused, ?_⟩
      simpa [WriteTurn.isFatal, hkind] using hfatal
  | case6 e turns bs _ hkind => exact ⟨[.fail e], rfl, by simp [WriteTurn.isFatal, hkind]⟩
  | case7 turns bs => exact ⟨[.stall], rfl, by simp [WriteTurn.isFatal]⟩

theorem isLasting_of_drain {turns : List WriteTurn} {bs : Bytes} {e : FrameError}
    (h : (drain turns bs).progress = .failed e) : e.isLasting = true := by
  fun_induction drain turns bs with
  | case1 | case2 | case7 => cases h
  | case3 =>
      cases h
      rfl
  | case4 n turns bs _ hn later ih => exact ih h
  | case5 e' turns bs _ hkind ih => exact ih h
  | case6 e' turns bs _ hkind =>
      cases h
      simpa [FrameError.isLasting] using hkind

theorem left_eq_nil_of_drain {turns : List WriteTurn} {bs : Bytes}
    (h : (drain turns bs).progress = .done ()) : (drain turns bs).left = [] := by
  fun_induction drain turns bs with
  | case1 | case2 => rfl
  | case3 | case6 | case7 => cases h
  | case4 n turns bs _ hn later ih => exact ih h
  | case5 e' turns bs _ hkind ih => exact ih h

theorem drain_ne_pending {turns : List WriteTurn} (h : ∀ t ∈ turns, t ≠ .stall) (bs : Bytes) :
    (drain turns bs).progress ≠ .pending := by
  fun_induction drain turns bs with
  | case1 | case2 | case3 | case6 => simp
  | case4 n turns bs _ hn later ih => exact ih fun t ht => h t (List.mem_cons_of_mem _ ht)
  | case5 e' turns bs _ hkind ih => exact ih fun t ht => h t (List.mem_cons_of_mem _ ht)
  | case7 turns bs => exact absurd rfl (h _ List.mem_cons_self)

/-- The outcome of a flush agrees with the turns that were taken. -/
theorem settleFlush_turns (turns : List FlushTurn) :
    ∃ used, turns = used ++ (settleFlush turns).2 ∧
      ((∃ t ∈ used, FlushTurn.isFatal t = true) ↔ ∃ e, (settleFlush turns).1 = .failed e) := by
  fun_induction settleFlush turns with
  | case1 => exact ⟨[], rfl, by simp⟩
  | case2 turns => exact ⟨[none], rfl, by simp [FlushTurn.isFatal]⟩
  | case3 e turns hkind ih =>
      obtain ⟨used, hused, hfatal⟩ := ih
      refine ⟨some e :: used, congrArg _ hused, ?_⟩
      simpa [FlushTurn.isFatal, hkind] using hfatal
  | case4 e turns hkind => exact ⟨[some e], rfl, by simp [FlushTurn.isFatal, hkind]⟩

theorem isLasting_of_settleFlush {turns : List FlushTurn} {e : FrameError}
    (h : (settleFlush turns).1 = .failed e) : e.isLasting = true := by
  fun_induction settleFlush turns with
  | case1 | case2 => cases h
  | case3 e' turns hkind ih => exact ih h
  | case4 e' turns hkind =>
      cases h
      simpa [FrameError.isLasting] using hkind

theorem settleFlush_ne_pending (turns : List FlushTurn) : (settleFlush turns).1 ≠ .pending := by
  fun_induction settleFlush turns <;> simp_all

/-- What sending bytes does to a sink, given how far it came. -/
structure Sends (bs : Bytes) (progress : Progress Unit) (before after : Sink) : Prop where
  /-- The sink takes a beginning of the bytes, and all of them in case of success. -/
  taken : ∃ sent, sent <+: bs ∧ after.taken = before.taken ++ sent ∧
    (progress = .done () → sent = bs)
  /-- It fails exactly if one of the turns that it takes is fatal. -/
  turns : ∃ writes flushes, before.writes = writes ++ after.writes ∧
    before.flushes = flushes ++ after.flushes ∧
    ((∃ t ∈ writes, t.isFatal = true) ∨ (∃ t ∈ flushes, FlushTurn.isFatal t = true) ↔
      ∃ e, progress = .failed e)
  lasting : ∀ e, progress = .failed e → e.isLasting = true
  /-- A sink that nothing holds up answers, and nothing holds it up afterwards. -/
  flowing : before.Flowing → progress ≠ .pending ∧ after.Flowing

namespace Sends

variable {bs cs : Bytes} {progress : Progress Unit} {before between after : Sink}

/-- The connection is lost exactly if sending fails. -/
theorem lost_iff (h : Sends bs progress before after) :
    before.Lost after ↔ ∃ e, progress = .failed e := by
  obtain ⟨writes, flushes, hwrites, hflushes, hfatal⟩ := h.turns
  rw [← hfatal]
  constructor
  · rintro (⟨used, hused, hlost⟩ | ⟨used, hused, hlost⟩)
    · rw [hwrites] at hused
      rw [List.append_cancel_right hused]
      exact Or.inl hlost
    · rw [hflushes] at hused
      rw [List.append_cancel_right hused]
      exact Or.inr hlost
  · rintro (hlost | hlost)
    · exact Or.inl ⟨writes, hwrites, hlost⟩
    · exact Or.inr ⟨flushes, hflushes, hlost⟩

/-- Sending more after a success is sending all of it. -/
theorem append (h : Sends bs (.done ()) before between) (h' : Sends cs progress between after) :
    Sends (bs ++ cs) progress before after where
  taken := by
    obtain ⟨sent, -, htaken, hall⟩ := h.taken
    obtain ⟨sent', hprefix, htaken', hall'⟩ := h'.taken
    rw [hall rfl] at htaken
    refine ⟨bs ++ sent', (List.prefix_append_right_inj bs).mpr hprefix, ?_, ?_⟩
    · rw [htaken', htaken, List.append_assoc]
    · intro hdone
      rw [hall' hdone]
  turns := by
    obtain ⟨writes, flushes, hwrites, hflushes, hfatal⟩ := h.turns
    obtain ⟨writes', flushes', hwrites', hflushes', hfatal'⟩ := h'.turns
    refine ⟨writes ++ writes', flushes ++ flushes', ?_, ?_, ?_⟩
    · rw [hwrites, hwrites', List.append_assoc]
    · rw [hflushes, hflushes', List.append_assoc]
    · have hnone : ¬ ((∃ t ∈ writes, t.isFatal = true) ∨
          ∃ t ∈ flushes, FlushTurn.isFatal t = true) := by
        rw [hfatal]
        rintro ⟨e, he⟩
        cases he
      rw [← hfatal']
      simp only [List.mem_append, or_and_right, exists_or]
      rw [or_or_or_comm]
      exact or_iff_right hnone
  lasting := h'.lasting
  flowing hflowing := h'.flowing (h.flowing hflowing).2

end Sends

/-- What a sink takes of bytes and what it leaves make up the bytes. -/
theorem taken_write (s : Sink) (bs : Bytes) :
    ∃ sent, bs = sent ++ (s.write bs).2.1 ∧ (s.write bs).2.2.taken = s.taken ++ sent := by
  unfold write
  split
  · exact ⟨[], rfl, by simp⟩
  · exact ⟨_, (taken_append_left_drain s.writes bs).symm, rfl⟩

theorem left_eq_nil_of_write {s : Sink} {bs : Bytes} (h : (s.write bs).1 = .done ()) :
    (s.write bs).2.1 = [] := by
  unfold write at h ⊢
  split
  next hstalled =>
    rw [if_pos hstalled] at h
    split at h
    next hnil => exact hnil
    next => cases h
  next hstalled =>
    rw [if_neg hstalled] at h
    exact left_eq_nil_of_drain h

theorem sends_write (s : Sink) (bs : Bytes) :
    Sends bs (s.write bs).1 s (s.write bs).2.2 where
  taken := by
    obtain ⟨sent, hbs, htaken⟩ := s.taken_write bs
    refine ⟨sent, ⟨_, hbs.symm⟩, htaken, ?_⟩
    intro hdone
    rw [left_eq_nil_of_write hdone, List.append_nil] at hbs
    exact hbs.symm
  turns := by
    unfold write
    split
    next hstalled =>
      refine ⟨[], [], rfl, rfl, ?_⟩
      by_cases hnil : bs = [] <;> simp [hnil]
    next hstalled =>
      obtain ⟨used, hused, hfatal⟩ := drain_turns s.writes bs
      exact ⟨used, [], hused, rfl, by simpa using hfatal⟩
  lasting e h := by
    unfold write at h
    split at h
    next =>
      dsimp only at h
      split at h <;> cases h
    next => exact isLasting_of_drain h
  flowing := by
    rintro ⟨hstalled, hscript⟩
    obtain ⟨used, hused, -⟩ := drain_turns s.writes bs
    have hprogress := drain_ne_pending hscript bs
    unfold write
    rw [hstalled, if_neg Bool.false_ne_true]
    refine ⟨hprogress, ?_, ?_⟩
    · dsimp only
      split
      next hpending => exact absurd hpending hprogress
      next => rfl
    · intro t ht
      refine hscript t ?_
      rw [hused]
      exact List.mem_append_right _ ht

theorem sends_flush (s : Sink) : Sends [] s.flush.1 s s.flush.2 where
  taken := ⟨[], List.prefix_rfl, by simp [flush], fun _ => rfl⟩
  turns := by
    obtain ⟨used, hused, hfatal⟩ := settleFlush_turns s.flushes
    refine ⟨[], used, rfl, hused, ?_⟩
    rw [← show s.flush.1 = (settleFlush s.flushes).1 from rfl] at hfatal
    simpa using hfatal
  lasting _ h := isLasting_of_settleFlush h
  flowing h := ⟨settleFlush_ne_pending s.flushes, h⟩

/-- Writing bytes and flushing sends them. -/
theorem sends_send (bs : Bytes) (s : Sink) :
    Sends bs (FrameWriter.send bs s).1 s (FrameWriter.send bs s).2 := by
  have hwrite := s.sends_write bs
  unfold FrameWriter.send
  generalize s.write bs = outcome at hwrite ⊢
  obtain ⟨progress, left, between⟩ := outcome
  cases progress with
  | done u =>
      have hflush := hwrite.append between.sends_flush
      rwa [List.append_nil] at hflush
  | failed e => exact hwrite
  | pending => exact hwrite

end Sink

/-! ### Calls of a writer -/

/-- The same progress towards another value. -/
def Progress.map {α β : Type} (f : α → β) : Progress α → Progress β
  | done value => .done (f value)
  | failed e => .failed e
  | pending => .pending

namespace FrameWriter

/-- What a writer can be told to write. -/
inductive Command
  | message (registry : Registry) (frameId : Int32) (message : Message)
  | frame (frame : Frame)

/-- The frame that a command is about, or why there is none. -/
def Command.frame? (maxPayload : Nat) : Command → Except FrameError Frame
  | message registry frameId m => registry.frame maxPayload frameId m
  | frame f => f.within maxPayload

/-- What a command reports once its frame is written: for a message the length
of the payload. -/
def Command.report : Command → Frame → Option Nat
  | message _ _ _, f => some f.payload.length
  | frame _, _ => none

/-- Carries out a command. -/
def execute (w : FrameWriter) (sink : Sink) :
    Command → Progress (Option Nat) × FrameWriter × Sink
  | .message registry frameId m =>
    let (progress, w, sink) := w.writeMessage registry frameId m sink
    (progress.map some, w, sink)
  | .frame f =>
    let (progress, w, sink) := w.writeFrame f sink
    (progress.map fun _ => none, w, sink)

/-- A command that was carried out, with the sink before and after. -/
structure Record where
  command : Command
  before : Sink
  outcome : Progress (Option Nat)
  after : Sink

/-- Carries out commands one after the other, whatever comes of them. -/
def executeAll : List Command → FrameWriter → Sink → List Record × FrameWriter × Sink
  | [], w, sink => ([], w, sink)
  | c :: rest, w, sink =>
    let (outcome, w, after) := w.execute sink c
    let (records, w, last) := executeAll rest w after
    (⟨c, sink, outcome, after⟩ :: records, w, last)

/-- A call has added some bytes to the sink, a beginning of its own frame. -/
def Record.Adds (maxPayload : Nat) (c : Record) (sent : Bytes) : Prop :=
  c.after.taken = c.before.taken ++ sent ∧
    ∃ f, c.command.frame? maxPayload = .ok f ∧ sent <+: f.bytes

/-- What a call may do: it adds its own frame to the sink, or a beginning of it,
or nothing. -/
structure Record.Sound (maxPayload : Nat) (c : Record) : Prop where
  /-- A call that succeeds has added its whole frame, and its report is right. -/
  whole : ∀ report, c.outcome = .done report →
    ∃ f, c.command.frame? maxPayload = .ok f ∧ c.after.taken = c.before.taken ++ f.bytes ∧
      report = c.command.report f
  /-- A call that fails by the stream has added a beginning of its frame. -/
  cut : ∀ e, c.outcome = .failed e → e.isTransportFailure = true → ∃ sent, c.Adds maxPayload sent
  /-- A call that fails otherwise had no frame and left the sink alone. -/
  refused : ∀ e, c.outcome = .failed e → e.isTransportFailure = false →
    c.command.frame? maxPayload = .error e ∧ c.after = c.before
  /-- A call that still waits has added a beginning of its frame. -/
  waiting : c.outcome = .pending → ∃ sent, c.Adds maxPayload sent
  /-- A call fails by the stream exactly if the connection is lost. -/
  lost : c.before.Lost c.after ↔ ∃ e, c.outcome = .failed e ∧ e.isTransportFailure = true
  /-- No interruption shows. -/
  lasting : ∀ e, c.outcome = .failed (.io e) → e.kind ≠ .interrupted
  /-- A sink that nothing holds up answers, and nothing holds it up afterwards. -/
  flowing : c.before.Flowing → c.outcome ≠ .pending ∧ c.after.Flowing

variable {maxPayload : Nat} {command : Command} {before after : Sink} {f : Frame} {e : FrameError}

theorem isTransportFailure_of_isLasting (h : e.isLasting = true) :
    e.isTransportFailure = true := by
  cases e <;> first | rfl | cases h

/-- A call is sound that sends its frame. -/
theorem Record.sound_of_sends {progress : Progress Unit}
    (hframe : command.frame? maxPayload = .ok f) (h : Sink.Sends f.bytes progress before after) :
    Record.Sound maxPayload
      ⟨command, before, progress.map fun _ => command.report f, after⟩ := by
  obtain ⟨sent, hprefix, htaken, hall⟩ := h.taken
  have hadds : Record.Adds maxPayload
      ⟨command, before, progress.map fun _ => command.report f, after⟩ sent :=
    ⟨htaken, f, hframe, hprefix⟩
  have hfailed {e : FrameError}
      (he : progress.map (fun _ => command.report f) = .failed e) : progress = .failed e := by
    cases progress <;> cases he
    rfl
  refine
    { whole := ?_
      cut := fun _ _ _ => ⟨sent, hadds⟩
      refused := ?_
      waiting := fun _ => ⟨sent, hadds⟩
      lost := ?_
      lasting := ?_
      flowing := ?_ }
  · intro report hdone
    cases progress with
    | done u =>
        cases hdone
        exact ⟨f, hframe, by rw [htaken, hall rfl], rfl⟩
    | failed e => cases hdone
    | pending => cases hdone
  · intro e he hother
    have := isTransportFailure_of_isLasting (h.lasting e (hfailed he))
    rw [hother] at this
    cases this
  · rw [h.lost_iff]
    constructor
    · rintro ⟨e, rfl⟩
      exact ⟨e, rfl, isTransportFailure_of_isLasting (h.lasting e rfl)⟩
    · rintro ⟨e, he, -⟩
      exact ⟨e, hfailed he⟩
  · intro e he
    simpa [FrameError.isLasting] using h.lasting (.io e) (hfailed he)
  · intro hflowing
    obtain ⟨hanswer, hafter⟩ := h.flowing hflowing
    refine ⟨fun hpending => hanswer ?_, hafter⟩
    cases progress <;> cases hpending
    rfl

/-- A call is sound that fails because there is no frame. -/
theorem Record.sound_of_error (hframe : command.frame? maxPayload = .error e)
    (he : e.isTransportFailure = false) :
    Record.Sound maxPayload ⟨command, before, .failed e, before⟩ where
  whole _ h := by cases h
  cut _ h htransport := by
    cases h
    cases he.symm.trans htransport
  refused _ h _ := by
    cases h
    exact ⟨hframe, rfl⟩
  waiting h := by cases h
  lost := by
    constructor
    · rintro (⟨used, hused, t, ht, -⟩ | ⟨used, hused, t, ht, -⟩)
      · rw [List.self_eq_append_left.mp hused] at ht
        cases ht
      · rw [List.self_eq_append_left.mp hused] at ht
        cases ht
    · rintro ⟨_, h, htransport⟩
      cases h
      cases he.symm.trans htransport
  lasting _ h := by
    cases h
    cases he
  flowing h := ⟨by simp, h⟩

/-! ### What a call adds -/

theorem bytes_stage_of_frame (w : FrameWriter) {registry : Registry} {frameId : Int32}
    {m : Message} (h : registry.frame w.limits.maxPayload frameId m = .ok f) :
    (w.stage registry frameId m).1 = .ok f.payload.length ∧
      (w.stage registry frameId m).2.arena.bytes = f.bytes := by
  obtain ⟨hlength, hbytes⟩ := w.arena.clear.appendMessage_of_frame h
  rw [Arena.bytes_clear, List.nil_append] at hbytes
  exact ⟨hlength, hbytes⟩

theorem stage_of_error (w : FrameWriter) {registry : Registry} {frameId : Int32}
    {m : Message} (h : registry.frame w.limits.maxPayload frameId m = .error e) :
    (w.stage registry frameId m).1 = .error e :=
  w.arena.clear.appendMessage_of_error h

theorem writeMessage_of_frame (w : FrameWriter) (sink : Sink) {registry : Registry}
    {frameId : Int32} {m : Message}
    (h : registry.frame w.limits.maxPayload frameId m = .ok f) :
    (w.writeMessage registry frameId m sink).1
        = (send f.bytes sink).1.map (fun _ => f.payload.length) ∧
      (w.writeMessage registry frameId m sink).2.2 = (send f.bytes sink).2 := by
  obtain ⟨hlength, hbytes⟩ := w.bytes_stage_of_frame h
  rw [writeMessage]
  generalize w.stage registry frameId m = staged at hlength hbytes
  obtain ⟨result, w'⟩ := staged
  dsimp only at hlength hbytes
  subst hlength
  dsimp only
  rw [hbytes]
  generalize send f.bytes sink = sent
  obtain ⟨progress, after⟩ := sent
  cases progress with
  | done u => exact ⟨rfl, rfl⟩
  | failed e => exact ⟨rfl, rfl⟩
  | pending => exact ⟨rfl, rfl⟩

theorem writeMessage_of_error (w : FrameWriter) (sink : Sink) {registry : Registry}
    {frameId : Int32} {m : Message}
    (h : registry.frame w.limits.maxPayload frameId m = .error e) :
    (w.writeMessage registry frameId m sink).1 = .failed e ∧
      (w.writeMessage registry frameId m sink).2.2 = sink := by
  have hfails := w.stage_of_error h
  rw [writeMessage]
  generalize w.stage registry frameId m = staged at hfails
  obtain ⟨result, w'⟩ := staged
  dsimp only at hfails
  subst hfails
  exact ⟨rfl, rfl⟩

theorem limits_writeMessage (w : FrameWriter) (sink : Sink) (registry : Registry)
    (frameId : Int32) (m : Message) :
    (w.writeMessage registry frameId m sink).2.1.limits = w.limits := by
  have hstage : (w.stage registry frameId m).2.limits = w.limits := rfl
  rw [writeMessage]
  generalize w.stage registry frameId m = staged at hstage
  obtain ⟨result, w'⟩ := staged
  cases result with
  | error e => exact hstage
  | ok length =>
      dsimp only
      generalize send w'.arena.bytes sink = sent
      obtain ⟨progress, after⟩ := sent
      cases progress with
      | done u => exact hstage
      | failed e => exact hstage
      | pending => exact hstage

theorem writeFrame_of_frame (w : FrameWriter) (sink : Sink) {g : Frame}
    (h : g.within w.limits.maxPayload = .ok f) :
    (w.writeFrame g sink).1 = (send f.bytes sink).1 ∧
      (w.writeFrame g sink).2.2 = (send f.bytes sink).2 := by
  obtain ⟨rfl, hmax, hfits⟩ := Frame.within_eq_ok.mp h
  simp only [writeFrame, if_neg (Nat.not_lt.mpr hmax), Frame.appendTo, if_pos hfits,
    Arena.bytes_ensureWritable, Arena.bytes_clear, List.nil_append, and_self]

theorem writeFrame_of_error (w : FrameWriter) (sink : Sink) {g : Frame}
    (h : g.within w.limits.maxPayload = .error e) :
    (w.writeFrame g sink).1 = .failed e ∧ (w.writeFrame g sink).2.2 = sink := by
  unfold Frame.within at h
  split at h
  next hmax =>
    cases h
    rw [writeFrame, if_pos hmax]
    exact ⟨rfl, rfl⟩
  next hmax =>
    split at h
    next hfits =>
      cases h
      simp only [writeFrame, if_neg hmax, Frame.appendTo, if_neg (Nat.not_le.mpr hfits), and_self]
    next => cases h

theorem limits_writeFrame (w : FrameWriter) (sink : Sink) (g : Frame) :
    (w.writeFrame g sink).2.1.limits = w.limits := by
  by_cases hmax : w.limits.maxPayload < g.payload.length
  · rw [writeFrame, if_pos hmax]
  · by_cases hfits : g.payload.length ≤ maxLength
    · simp only [writeFrame, if_neg hmax, Frame.appendTo, if_pos hfits]
    · simp only [writeFrame, if_neg hmax, Frame.appendTo, if_neg hfits]

/-- A command that is about a frame sends it, whatever the arena holds. -/
theorem execute_of_frame (w : FrameWriter) (sink : Sink)
    (h : command.frame? w.limits.maxPayload = .ok f) :
    (w.execute sink command).1 = (send f.bytes sink).1.map (fun _ => command.report f) ∧
      (w.execute sink command).2.2 = (send f.bytes sink).2 := by
  cases command with
  | message registry frameId m =>
      obtain ⟨hprogress, hsink⟩ := w.writeMessage_of_frame sink h
      refine ⟨?_, hsink⟩
      change (w.writeMessage registry frameId m sink).1.map some = _
      rw [hprogress]
      cases (send f.bytes sink).1 with
      | done u => rfl
      | failed e => rfl
      | pending => rfl
  | frame g =>
      obtain ⟨hprogress, hsink⟩ := w.writeFrame_of_frame sink h
      refine ⟨?_, hsink⟩
      change (w.writeFrame g sink).1.map (fun _ => none) = _
      rw [hprogress]
      rfl

/-- A command that is about no frame fails before anything is sent. -/
theorem execute_of_error (w : FrameWriter) (sink : Sink)
    (h : command.frame? w.limits.maxPayload = .error e) :
    (w.execute sink command).1 = .failed e ∧ (w.execute sink command).2.2 = sink := by
  cases command with
  | message registry frameId m =>
      obtain ⟨hprogress, hsink⟩ := w.writeMessage_of_error sink h
      refine ⟨?_, hsink⟩
      change (w.writeMessage registry frameId m sink).1.map some = _
      rw [hprogress]
      rfl
  | frame g =>
      obtain ⟨hprogress, hsink⟩ := w.writeFrame_of_error sink h
      refine ⟨?_, hsink⟩
      change (w.writeFrame g sink).1.map (fun _ => none) = _
      rw [hprogress]
      rfl

theorem limits_execute (w : FrameWriter) (sink : Sink) (command : Command) :
    (w.execute sink command).2.1.limits = w.limits := by
  cases command with
  | message registry frameId m => exact w.limits_writeMessage sink registry frameId m
  | frame g => exact w.limits_writeFrame sink g

theorem isTransportFailure_of_frame? (h : command.frame? maxPayload = .error e) :
    e.isTransportFailure = false := by
  cases command with
  | message registry frameId m => exact Registry.isTransportFailure_of_frame h
  | frame g => exact Frame.isTransportFailure_of_within h

/-- Carrying out a command is sound. -/
theorem execute_sound (w : FrameWriter) (sink : Sink) (command : Command) :
    Record.Sound w.limits.maxPayload
      ⟨command, sink, (w.execute sink command).1, (w.execute sink command).2.2⟩ := by
  cases h : command.frame? w.limits.maxPayload with
  | ok f =>
      obtain ⟨houtcome, hafter⟩ := w.execute_of_frame sink h
      rw [hafter, houtcome]
      exact Record.sound_of_sends h (Sink.sends_send f.bytes sink)
  | error e =>
      obtain ⟨houtcome, hafter⟩ := w.execute_of_error sink h
      rw [hafter, houtcome]
      exact Record.sound_of_error h (isTransportFailure_of_frame? h)

/-- What a sound call adds is nothing or a beginning of its own frame. -/
theorem Record.Sound.adds {c : Record} (h : c.Sound maxPayload) :
    ∃ sent, c.after.taken = c.before.taken ++ sent ∧ (sent = [] ∨ c.Adds maxPayload sent) := by
  cases houtcome : c.outcome with
  | done length =>
      obtain ⟨f, hframe, htaken, -⟩ := h.whole length houtcome
      exact ⟨f.bytes, htaken, Or.inr ⟨htaken, f, hframe, List.prefix_rfl⟩⟩
  | failed e =>
      cases he : e.isTransportFailure with
      | true =>
          obtain ⟨sent, hsent⟩ := h.cut e houtcome he
          exact ⟨sent, hsent.1, Or.inr hsent⟩
      | false =>
          obtain ⟨-, hsame⟩ := h.refused e houtcome he
          exact ⟨[], by rw [hsame, List.append_nil], Or.inl rfl⟩
  | pending =>
      obtain ⟨sent, hsent⟩ := h.waiting houtcome
      exact ⟨sent, hsent.1, Or.inr hsent⟩

/-! ### Sequences of calls -/

/-- The arena does not matter: writers with the same limits do the same. -/
theorem execute_eq_of_limits {w w' : FrameWriter} (h : w.limits = w'.limits) (sink : Sink)
    (command : Command) :
    (w.execute sink command).1 = (w'.execute sink command).1 ∧
      (w.execute sink command).2.2 = (w'.execute sink command).2.2 := by
  cases hframe : command.frame? w.limits.maxPayload with
  | ok f =>
      obtain ⟨houtcome, hsink⟩ := w.execute_of_frame sink hframe
      rw [h] at hframe
      obtain ⟨houtcome', hsink'⟩ := w'.execute_of_frame sink hframe
      exact ⟨houtcome.trans houtcome'.symm, hsink.trans hsink'.symm⟩
  | error e =>
      obtain ⟨houtcome, hsink⟩ := w.execute_of_error sink hframe
      rw [h] at hframe
      obtain ⟨houtcome', hsink'⟩ := w'.execute_of_error sink hframe
      exact ⟨houtcome.trans houtcome'.symm, hsink.trans hsink'.symm⟩

theorem executeAll_cons (c : Command) (rest : List Command) (w : FrameWriter) (sink : Sink) :
    executeAll (c :: rest) w sink =
      (⟨c, sink, (w.execute sink c).1, (w.execute sink c).2.2⟩ ::
          (executeAll rest (w.execute sink c).2.1 (w.execute sink c).2.2).1,
        (executeAll rest (w.execute sink c).2.1 (w.execute sink c).2.2).2) := rfl

/-- What a call adds if it succeeds. -/
def Record.wrote (maxPayload : Nat) (c : Record) : Bytes :=
  match c.outcome, c.command.frame? maxPayload with
  | .done _, .ok f => f.bytes
  | _, _ => []

/-- The call has neither failed by the stream nor been held up. -/
def Record.Intact (c : Record) : Prop :=
  c.outcome ≠ .pending ∧ ∀ e, c.outcome = .failed e → e.isTransportFailure = false

theorem Record.Sound.taken_of_intact {c : Record} (h : c.Sound maxPayload) (hintact : c.Intact) :
    c.after.taken = c.before.taken ++ c.wrote maxPayload := by
  unfold Record.wrote
  cases houtcome : c.outcome with
  | done report =>
      obtain ⟨f, hframe, htaken, -⟩ := h.whole report houtcome
      rw [hframe, htaken]
  | failed e =>
      obtain ⟨-, hsame⟩ := h.refused e houtcome (hintact.2 e houtcome)
      rw [hsame, List.append_nil]
  | pending => exact absurd houtcome hintact.1

/-- Records of calls that follow on one another. -/
inductive Chain (maxPayload : Nat) : Sink → List Record → Sink → Prop
  | nil (s : Sink) : Chain maxPayload s [] s
  | cons {c : Record} {later : List Record} {last : Sink} (hsound : c.Sound maxPayload)
      (hlater : Chain maxPayload c.after later last) :
      Chain maxPayload c.before (c :: later) last

/-- A sequence of calls is a chain of sound calls. -/
theorem executeAll_chain (commands : List Command) (w : FrameWriter) (sink : Sink) :
    Chain w.limits.maxPayload sink (w.executeAll commands sink).1
      (w.executeAll commands sink).2.2 := by
  induction commands generalizing w sink with
  | nil => exact .nil sink
  | cons c rest ih =>
      have hlater := ih (w.execute sink c).2.1 (w.execute sink c).2.2
      rw [w.limits_execute sink c] at hlater
      exact .cons (w.execute_sound sink c) hlater

theorem executeAll_eq_of_limits {w w' : FrameWriter} (h : w.limits = w'.limits)
    (commands : List Command) (sink : Sink) :
    (w.executeAll commands sink).1 = (w'.executeAll commands sink).1 ∧
      (w.executeAll commands sink).2.2 = (w'.executeAll commands sink).2.2 := by
  induction commands generalizing w w' sink with
  | nil => exact ⟨rfl, rfl⟩
  | cons c rest ih =>
      obtain ⟨houtcome, hsink⟩ := execute_eq_of_limits h sink c
      have hlimits : (w.execute sink c).2.1.limits = (w'.execute sink c).2.1.limits := by
        rw [limits_execute, limits_execute, h]
      obtain ⟨hrecords, hlast⟩ := ih hlimits (w.execute sink c).2.2
      rw [hsink] at hrecords hlast
      rw [executeAll_cons, executeAll_cons, houtcome, hsink, hrecords]
      exact ⟨rfl, hlast⟩

namespace Chain

variable {first last : Sink} {records : List Record}

theorem sound (h : Chain maxPayload first records last) : ∀ c ∈ records, c.Sound maxPayload := by
  induction h with
  | nil s => exact List.forall_mem_nil _
  | cons hsound hlater ih => exact List.forall_mem_cons.mpr ⟨hsound, ih⟩

/-- What a sink has taken is made of what each call added to it. -/
theorem pieces (h : Chain maxPayload first records last) :
    ∃ pieces, last.taken = first.taken ++ pieces.flatten ∧
      List.Forall₂ (fun c sent => sent = [] ∨ c.Adds maxPayload sent) records pieces := by
  induction h with
  | nil s => exact ⟨[], by simp, .nil⟩
  | cons hsound hlater ih =>
      obtain ⟨sent, htaken, hadds⟩ := hsound.adds
      obtain ⟨pieces, hpieces, hall⟩ := ih
      refine ⟨sent :: pieces, ?_, .cons hadds hall⟩
      rw [hpieces, htaken, List.flatten_cons, List.append_assoc]

/-- As long as the connection holds, a sink has taken whole frames. -/
theorem taken_of_intact (h : Chain maxPayload first records last)
    (hintact : ∀ c ∈ records, c.Intact) :
    last.taken = first.taken ++ records.flatMap (Record.wrote maxPayload) := by
  induction h with
  | nil s => simp
  | cons hsound hlater ih =>
      obtain ⟨hfirst, hrest⟩ := List.forall_mem_cons.mp hintact
      rw [ih hrest, hsound.taken_of_intact hfirst, List.flatMap_cons, List.append_assoc]

theorem answers (h : Chain maxPayload first records last) (hflowing : first.Flowing) :
    ∀ c ∈ records, c.outcome ≠ .pending := by
  induction h with
  | nil s => exact List.forall_mem_nil _
  | cons hsound hlater ih =>
      obtain ⟨hanswer, hafter⟩ := hsound.flowing hflowing
      exact List.forall_mem_cons.mpr ⟨hanswer, ih hafter⟩

end Chain

/-- **A writer writes whole frames up to the first failure of the stream.**
Each call adds its own frame, a beginning of it or nothing, as its outcome
tells; nothing that was in the arena before shows; and a call fails by the
stream exactly if the sink breaks off under it, since a layout never fails in
that way. -/
theorem executeAll_sound (w : FrameWriter) (commands : List Command) (sink : Sink) :
    (∀ c ∈ (w.executeAll commands sink).1, c.Sound w.limits.maxPayload) ∧
    (∃ pieces, (w.executeAll commands sink).2.2.taken = sink.taken ++ pieces.flatten ∧
      List.Forall₂ (fun c sent => sent = [] ∨ c.Adds w.limits.maxPayload sent)
        (w.executeAll commands sink).1 pieces) ∧
    ((∀ c ∈ (w.executeAll commands sink).1, c.Intact) →
      (w.executeAll commands sink).2.2.taken = sink.taken ++
        (w.executeAll commands sink).1.flatMap (Record.wrote w.limits.maxPayload)) ∧
    (sink.Flowing → ∀ c ∈ (w.executeAll commands sink).1, c.outcome ≠ .pending) ∧
    (∀ arena, (executeAll commands { w with arena } sink).1 = (w.executeAll commands sink).1 ∧
      (executeAll commands { w with arena } sink).2.2 = (w.executeAll commands sink).2.2) ∧
    (∀ (entry : RegistryEntry) m arena e, (entry.encode m arena).2 = some e →
      e.isTransportFailure = false) := by
  have hchain := executeAll_chain commands w sink
  refine ⟨hchain.sound, hchain.pieces, hchain.taken_of_intact, hchain.answers, ?_, ?_⟩
  · intro arena
    have hlimits : ({ w with arena } : FrameWriter).limits = w.limits := rfl
    exact executeAll_eq_of_limits hlimits commands sink
  · intro entry m arena e he
    cases hpayload : entry.payload m with
    | ok payload =>
        rw [(RegistryEntry.encode_of_payload hpayload arena).1] at he
        cases he
    | error e' =>
        rw [RegistryEntry.encode_of_error hpayload arena] at he
        cases he
        exact RegistryEntry.isTransportFailure_of_payload hpayload

end FrameWriter

end Parley
