/-
What becomes of the messages that a channel takes for writing.

Seen from the connection, a side takes messages into a queue, takes the first
one out and begins its frame, or passes it over if it becomes no frame, and
hands the frame that was begun to the connection piece by piece
(`Outbox.Step`). Whatever happens to a side is made of such steps
(`Side.outbox_step`).
-/
import Parley.Proofs.Channel.Calls
import Parley.Proofs.Channel.Delivery
import Parley.Proofs.Message.Catalog
import Parley.Proofs.Stream.Writing
import Mathlib.Logic.Relation

namespace Parley

open Relation

/-! ### The frames of queued messages -/

namespace PendingWrite

/-- The frame of a queued message, or why there is none. -/
def frame (maxPayload : Nat) (w : PendingWrite) : Except FrameError Frame :=
  Registry.catalog.frame maxPayload w.frameId w.message

/-- The message becomes a frame. -/
def fits (maxPayload : Nat) (w : PendingWrite) : Bool :=
  match w.frame maxPayload with
  | .ok _ => true
  | .error _ => false

/-- The written form of the frame, if there is one. -/
def wire (maxPayload : Nat) (w : PendingWrite) : Bytes :=
  match w.frame maxPayload with
  | .ok f => f.bytes
  | .error _ => []

/-- What the other side reads of the message. -/
def received (w : PendingWrite) : Int32 × Message := (w.frameId, w.message.normalForm)

variable {maxPayload : Nat} {w : PendingWrite}

theorem frame_of_fits (h : w.fits maxPayload = true) :
    ∃ f, w.frame maxPayload = .ok f ∧ w.wire maxPayload = f.bytes := by
  cases hframe : w.frame maxPayload with
  | ok f => exact ⟨f, rfl, by rw [wire, hframe]⟩
  | error e =>
      rw [fits, hframe] at h
      cases h

end PendingWrite

/-! ### Steps of an outbox -/

/-- What a side has to send, seen from the connection. -/
structure Outbox where
  writing : Bool
  accepted : List PendingWrite
  queue : List PendingWrite
  /-- What the connection has taken and not carried away. -/
  taken : Bytes
  /-- What is left of the frame that was begun. -/
  left : Bytes

namespace Outbox

/-- The outbox of a channel that has accepted some messages. -/
def of (t : Channel.Streams) (accepted : List PendingWrite) : Outbox :=
  ⟨t.writing, accepted, t.queue, t.taken, (t.current.map Outgoing.left).getD []⟩

/-- What happens to an outbox, apart from bytes that are carried away. -/
inductive Step (maxPayload : Nat) : Outbox → Outbox → Prop
  | accept {o : Outbox} (w : PendingWrite) : o.writing = true →
      Step maxPayload o { o with accepted := o.accepted ++ [w], queue := o.queue ++ [w] }
  | refuse {o : Outbox} {w : PendingWrite} {rest : List PendingWrite} : o.writing = true →
      o.queue = w :: rest → w.fits maxPayload = false →
      Step maxPayload o { o with queue := rest }
  | start {o : Outbox} {w : PendingWrite} {rest : List PendingWrite} : o.writing = true →
      o.queue = w :: rest → w.fits maxPayload = true → o.left = [] →
      Step maxPayload o { o with queue := rest, left := w.wire maxPayload }
  | send {o : Outbox} {sent left : Bytes} : o.left = sent ++ left →
      Step maxPayload o { o with taken := o.taken ++ sent, left }
  | cease {o : Outbox} :
      Step maxPayload o { o with writing := false, queue := [], left := [] }

end Outbox

namespace Channel

variable {σ : Type} {limits : FrameLimits} {c : Channel σ}

/-- A channel of the catalog that was started, under limits that stay. -/
structure Steady (limits : FrameLimits) (c : Channel σ) : Prop where
  registry : c.registry = .catalog
  started : c.workbench = .started
  reader : c.reader.limits = limits
  writer : c.writer.limits = limits

/-! ### Steps of the writer -/

theorem streams_conclude_ok (c : Channel σ) (w : PendingWrite) (length : Nat) :
    (c.conclude w (.ok length)).streams = { c.streams with current := none } := by
  refine (keeps_post _ ?_).streams
  intro j hj
  obtain ⟨l, -, rfl⟩ := List.mem_map.mp hj
  exact ⟨rfl, rfl⟩

theorem streams_conclude_refused (c : Channel σ) (w : PendingWrite) {e : FrameError}
    (h : e.isTransportFailure = false) :
    (c.conclude w (.error e)).streams = { c.streams with current := none } := by
  rw [conclude]
  dsimp only
  rw [h]
  rfl

/-- A failure of the stream ends the writer. -/
theorem streams_conclude_failed (hstarted : c.workbench = .started) (w : PendingWrite)
    {e : FrameError} (h : e.isTransportFailure = true) :
    (c.conclude w (.error e)).streams
      = { c.streams with writing := false, queue := [], current := none } := by
  have hkeeps : ({ c with current := none } : Channel σ).shutdown.2.streams
      = { c.streams with current := none } := (keeps_shutdown _ (by exact hstarted)).streams
  rw [conclude]
  dsimp only
  rw [if_pos h]
  change { ({ c with current := none } : Channel σ).shutdown.2.streams with
    writing := false, queue := [], current := none } = _
  rw [hkeeps]

/-- A step with the frame that is being written sends a part of it. -/
theorem outbox_push (h : c.workbench = .started) (accepted : List PendingWrite) (maxPayload : Nat)
    {out : Outgoing} (hcurrent : c.current = some out) :
    ReflTransGen (Outbox.Step maxPayload) (.of c.streams accepted)
      (.of (c.push out).streams accepted) := by
  obtain ⟨sent, hsent, htaken⟩ := c.sink.taken_write out.left
  have hleft : (Outbox.of c.streams accepted).left = out.left := by
    rw [Outbox.of, streams, hcurrent]
    rfl
  have hsend : Outbox.Step maxPayload (.of c.streams accepted)
      { Outbox.of c.streams accepted with
        taken := c.sink.taken ++ sent
        left := (c.sink.write out.left).2.1 } :=
    .send (hleft.trans hsent)
  have hlasting := (c.sink.sends_write out.left).lasting
  have hdone : (c.sink.write out.left).1 = .done () → (c.sink.write out.left).2.1 = [] :=
    Sink.left_eq_nil_of_write
  refine .trans (.single hsend) ?_
  unfold push
  generalize c.sink.write out.left = outcome at htaken hlasting hdone ⊢
  obtain ⟨progress, left, sink⟩ := outcome
  dsimp only at htaken hlasting hdone ⊢
  rw [← htaken]
  -- a failure ends the writer wherever it comes from
  have hceases (sink : Sink) (e : FrameError) (he : e.isLasting = true) :
      ReflTransGen (Outbox.Step maxPayload)
        { Outbox.of c.streams accepted with taken := sink.taken, left }
        (.of (({ c with sink } : Channel σ).conclude out.write (.error e)).streams accepted) := by
    rw [streams_conclude_failed (by exact h) out.write
      (FrameWriter.isTransportFailure_of_isLasting he)]
    exact .single .cease
  cases progress with
  | pending => exact .refl
  | failed e => exact hceases sink e (hlasting e rfl)
  | done u =>
      obtain rfl := hdone rfl
      dsimp only
      have hflush := sink.sends_flush
      have hsame : sink.flush.2.taken = sink.taken := rfl
      generalize sink.flush = flushed at hflush hsame ⊢
      obtain ⟨progress, after⟩ := flushed
      dsimp only at hflush hsame ⊢
      rw [← hsame]
      have hwritten : ReflTransGen (Outbox.Step maxPayload)
          { Outbox.of c.streams accepted with taken := after.taken, left := [] }
          (.of (({ c with sink := after } : Channel σ).conclude out.write (.ok out.length)).streams
            accepted) := by
        rw [streams_conclude_ok]
        exact .refl
      cases progress with
      | failed e => exact hceases after e (hflush.lasting e rfl)
      | done u => exact hwritten
      | pending => exact hwritten

/-- What a step of the writer does to the outbox. -/
theorem outbox_writeStep (h : c.Steady limits) (accepted : List PendingWrite) :
    ReflTransGen (Outbox.Step limits.maxPayload) (.of c.streams accepted)
      (.of c.writeStep.streams accepted) := by
  unfold writeStep
  split
  case isFalse => exact .refl
  next hwriting =>
    split
    next out hcurrent => exact outbox_push h.started accepted _ hcurrent
    next => exact .refl
    next w rest hcurrent hqueue =>
      rw [h.registry]
      have hleft : (Outbox.of c.streams accepted).left = [] := by
        rw [Outbox.of, streams, hcurrent]
        rfl
      cases hframe : w.frame limits.maxPayload with
      | ok f =>
          have hwriter :
              Registry.catalog.frame c.writer.limits.maxPayload w.frameId w.message = .ok f := by
            rw [h.writer]
            exact hframe
          have hstage := c.writer.bytes_stage_of_frame hwriter
          generalize c.writer.stage .catalog w.frameId w.message = staged at hstage
          obtain ⟨result, writer⟩ := staged
          obtain ⟨hresult, hbytes⟩ := hstage
          dsimp only at hresult hbytes
          subst hresult
          have hwire : w.wire limits.maxPayload = writer.arena.bytes := by
            rw [PendingWrite.wire, hframe, hbytes]
          have hfits : w.fits limits.maxPayload = true := by rw [PendingWrite.fits, hframe]
          have hstart := Outbox.Step.start (o := .of c.streams accepted) hwriting hqueue hfits hleft
          rw [hwire] at hstart
          exact .single hstart
      | error e =>
          have hwriter :
              Registry.catalog.frame c.writer.limits.maxPayload w.frameId w.message = .error e := by
            rw [h.writer]
            exact hframe
          have hstage := c.writer.stage_of_error hwriter
          generalize c.writer.stage .catalog w.frameId w.message = staged at hstage
          obtain ⟨result, writer⟩ := staged
          dsimp only at hstage
          subst hstage
          dsimp only
          rw [streams_conclude_refused _ w (Registry.isTransportFailure_of_frame hframe)]
          have hfits : w.fits limits.maxPayload = false := by rw [PendingWrite.fits, hframe]
          have hrefuse := Outbox.Step.refuse (o := .of c.streams accepted) hwriting hqueue hfits
          have hsame : { Outbox.of c.streams accepted with queue := rest }
              = { Outbox.of c.streams accepted with queue := rest, left := [] } := by
            rw [← hleft]
          rw [hsame] at hrefuse
          exact .single hrefuse

/-! ### What stays -/

/-- The writer leaves what is read and the limits alone. -/
theorem reader_conclude (h : c.workbench = .started) (w : PendingWrite)
    (result : Except FrameError Nat) :
    (c.conclude w result).reader = c.reader ∧ (c.conclude w result).source = c.source ∧
      (c.conclude w result).writer.limits = c.writer.limits := by
  have hstreams {t : Streams} (ht : (c.conclude w result).streams = t)
      (hreader : t.reader = c.reader) (hsource : t.source = c.source)
      (hwriter : t.writer = c.writer) :
      (c.conclude w result).reader = c.reader ∧ (c.conclude w result).source = c.source ∧
        (c.conclude w result).writer.limits = c.writer.limits :=
    ⟨(congrArg Streams.reader ht).trans hreader, (congrArg Streams.source ht).trans hsource,
      congrArg FrameWriter.limits ((congrArg Streams.writer ht).trans hwriter)⟩
  cases result with
  | ok length => exact hstreams (streams_conclude_ok c w length) rfl rfl rfl
  | error e =>
      cases he : e.isTransportFailure with
      | true => exact hstreams (streams_conclude_failed h w he) rfl rfl rfl
      | false => exact hstreams (streams_conclude_refused c w he) rfl rfl rfl

theorem reader_writeStep (h : c.workbench = .started) :
    c.writeStep.reader = c.reader ∧ c.writeStep.source = c.source ∧
      c.writeStep.writer.limits = c.writer.limits := by
  unfold writeStep
  split
  case isFalse => exact ⟨rfl, rfl, rfl⟩
  next =>
    split
    next out _ =>
      unfold push
      split
      · exact ⟨rfl, rfl, rfl⟩
      · exact reader_conclude (by exact h) _ _
      · split
        · exact reader_conclude (by exact h) _ _
        · exact reader_conclude (by exact h) _ _
    next => exact ⟨rfl, rfl, rfl⟩
    next w rest _ _ =>
      have hstage : (c.writer.stage c.registry w.frameId w.message).2.limits = c.writer.limits :=
        rfl
      generalize c.writer.stage c.registry w.frameId w.message = staged at hstage
      obtain ⟨result, writer⟩ := staged
      cases result with
      | ok length => exact ⟨rfl, rfl, hstage⟩
      | error e =>
          have hkept := reader_conclude (c := { c with queue := rest, writer }) (by exact h) w
            (.error e)
          exact ⟨hkept.1, hkept.2.1, hkept.2.2.trans hstage⟩

theorem Steady.of_core {c' : Channel σ} (h : c.Steady limits) (hcore : c'.core = c.core)
    (hreader : c'.reader.limits = c.reader.limits) (hwriter : c'.writer.limits = c.writer.limits) :
    c'.Steady limits where
  registry := (congrArg Core.registry hcore).trans h.registry
  started := (congrArg Core.workbench hcore).trans h.started
  reader := hreader.trans h.reader
  writer := hwriter.trans h.writer

theorem Steady.of_keeps {c' : Channel σ} (h : c.Steady limits) (hkeeps : c.Keeps c') :
    c'.Steady limits :=
  h.of_core hkeeps.core (congrArg (·.reader.limits) hkeeps.streams)
    (congrArg (·.writer.limits) hkeeps.streams)

theorem steady_collected (h : c.Steady limits) : c.collected.Steady limits :=
  h.of_core rfl (FrameReader.limits_next _ _) rfl

/-- A step of the reader, which may bring a message, leaves what is to be sent alone. -/
theorem steady_readStep (h : c.Steady limits) (accepted : List PendingWrite) :
    c.readStep.Steady limits ∧
      Outbox.of c.readStep.streams accepted = Outbox.of c.streams accepted := by
  have hcollected := steady_collected h
  have hread := c.readStep_cases
  have hcloses : c.collected.shutdown.2.endReading.Steady limits ∧
      Outbox.of c.collected.shutdown.2.endReading.streams accepted
        = Outbox.of c.streams accepted := by
    have hkeeps := (keeps_shutdown _ hcollected.started).trans (keeps_endReading _)
    refine ⟨hcollected.of_keeps hkeeps, ?_⟩
    rw [hkeeps.streams]
    rfl
  generalize c.readStep = c' at hread
  generalize Side.incoming c = brought at hread
  cases hread with
  | idle hidle => exact ⟨h, rfl⟩
  | @delivered f rest m _ _ _ _ =>
      have hstreams := c.collected.deliver_streams f.frameId m
      refine ⟨hcollected.of_core (c.collected.deliver_core f.frameId m) ?_ ?_, ?_⟩
      · exact congrArg (·.reader.limits) hstreams
      · exact congrArg (·.writer.limits) hstreams
      · rw [hstreams]
        rfl
  | dropped => exact hcloses
  | failed => exact hcloses
  | waiting => exact ⟨hcollected, rfl⟩

end Channel

/-! ### Sides -/

namespace Side

variable {σ : Type} {limits : FrameLimits} {s : Side σ}

/-- What a side has to send. -/
def outbox (s : Side σ) : Outbox := .of s.channel.streams s.accepted

theorem steady_opened (config : ChannelConfig) (writes : List WriteTurn)
    (flushes : List FlushTurn) (app : σ) :
    (opened config writes flushes app).channel.Steady config.limits :=
  ⟨rfl, rfl, rfl, rfl⟩

theorem steady_step (h : s.channel.Steady limits) (act : Act σ) :
    (s.step act).channel.Steady limits := by
  cases hplain : act.isPlain with
  | true => exact h.of_keeps (s.keeps_step h.started hplain)
  | false =>
      cases act with
      | call => exact h
      | advance index =>
          change (s.advance index).channel.Steady limits
          rcases s.advance_eq index with heq | ⟨order, stage, outcome, channel, -, hstep, heq⟩
          · rw [heq]
            exact h
          have hchannel : channel.Steady limits := by
            cases hstep with
            | failed => exact h
            | withdrawn => exact h.of_keeps (Channel.keeps_removeWaiter _ _)
            | known | unknown | numbered | guarded | waits | confirmed | queued =>
                exact ⟨h.registry, h.started, h.reader, h.writer⟩
          rw [heq, proceed_channel]
          exact hchannel
      | onTraffic listener => exact ⟨h.registry, h.started, h.reader, h.writer⟩
      | read => exact (Channel.steady_readStep h s.accepted).1
      | write =>
          obtain ⟨hreader, -, hwriter⟩ := Channel.reader_writeStep h.started
          exact h.of_core (s.channel.quiet_writeStep h.started).core
            (congrArg FrameReader.limits hreader) hwriter
      | finish index =>
          change (s.finish index).channel.Steady limits
          have hfinish := s.finish_cases index
          generalize s.finish index = s' at hfinish
          cases hfinish with
          | absent => exact h
          | aside | reply | unanswered | answered =>
              exact ⟨h.registry, h.started, h.reader, h.writer⟩
      | arrive a => exact ⟨h.registry, h.started, h.reader, h.writer⟩
      | endWriting =>
          change (if s.channel.cancelled then s.channel.endWriting else s.channel).Steady limits
          split
          · exact ⟨h.registry, h.started, h.reader, h.writer⟩
          · exact h
      | _ => cases hplain

/-- **What happens to a side happens to its outbox in steps.** -/
theorem outbox_step (h : s.channel.Steady limits) (act : Act σ) :
    ReflTransGen (Outbox.Step limits.maxPayload) s.outbox (s.step act).outbox := by
  have hsame {s' : Side σ} (heq : s'.outbox = s.outbox) :
      ReflTransGen (Outbox.Step limits.maxPayload) s.outbox s'.outbox := by
    rw [heq]
  cases hplain : act.isPlain with
  | true =>
      apply hsame
      rw [outbox, (s.keeps_step h.started hplain).streams, (s.same_step hplain).accepted]
      rfl
  | false =>
      cases act with
      | call => exact .refl
      | advance index =>
          change ReflTransGen _ s.outbox (s.advance index).outbox
          rcases s.advance_eq index with heq | ⟨order, stage, outcome, channel, -, hstep, heq⟩
          · rw [heq]
          rw [heq]
          cases hstep with
          | failed | withdrawn => exact .refl
          | known | unknown | numbered | guarded | waits | confirmed => exact .refl
          | queued htakes =>
              have hwriting : s.channel.writing = true := by
                rw [Channel.takesWrites, h.started] at htakes
                exact htakes
              exact .single (.accept _ hwriting)
      | onTraffic listener => exact .refl
      | read => exact hsame (Channel.steady_readStep h s.accepted).2
      | write => exact Channel.outbox_writeStep h s.accepted
      | finish index =>
          change ReflTransGen _ s.outbox (s.finish index).outbox
          have hfinish := s.finish_cases index
          generalize s.finish index = s' at hfinish
          cases hfinish with
          | absent | aside | reply | unanswered | answered => exact .refl
      | arrive a => exact .refl
      | endWriting =>
          change ReflTransGen _ s.outbox (Outbox.of
            (if s.channel.cancelled then s.channel.endWriting else s.channel).streams s.accepted)
          split
          · exact .single .cease
          · exact .refl
      | _ => cases hplain

end Side

end Parley
