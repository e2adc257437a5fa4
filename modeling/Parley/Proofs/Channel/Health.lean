/-
What keeps a channel open.

A channel that nobody closes stays open as long as its reader finds nothing
amiss and its sink never fails (`Side.healthy_step`). Interruptions, sinks that
stall and messages that become no frame close nothing.
-/
import Parley.Proofs.Channel.Outbox

namespace Parley

/-- The parts of a channel that say whether it is at work. -/
structure Channel.Life where
  lifecycle : Lifecycle
  cancelled : Bool
  reading : Bool
  writing : Bool

namespace Channel

variable {σ : Type} {c : Channel σ}

def life (c : Channel σ) : Life := ⟨c.lifecycle, c.cancelled, c.reading, c.writing⟩

/-- The channel is open, and its reader and its writer are at work. -/
def Healthy (c : Channel σ) : Prop :=
  c.isOpen = true ∧ c.cancelled = false ∧ c.reading = true ∧ c.writing = true

/-- The sink never breaks off. -/
def Smooth (c : Channel σ) : Prop :=
  (∀ t ∈ c.sink.writes, t.isFatal = false) ∧
    ∀ t ∈ c.sink.flushes, FlushTurn.isFatal t = false

theorem isOpen_of_life {c' : Channel σ} (hlife : c'.life = c.life) : c'.isOpen = c.isOpen :=
  congrArg (fun l : Life => l.lifecycle != .closed) hlife

theorem Healthy.of_life {c' : Channel σ} (h : c.Healthy) (hlife : c'.life = c.life) :
    c'.Healthy := by
  obtain ⟨hopen, hcancelled, hreading, hwriting⟩ := h
  refine ⟨?_, ?_, ?_, ?_⟩
  · exact (isOpen_of_life hlife).trans hopen
  · exact (congrArg Life.cancelled hlife).trans hcancelled
  · exact (congrArg Life.reading hlife).trans hreading
  · exact (congrArg Life.writing hlife).trans hwriting

/-! ### Steps that close nothing -/

theorem life_post (c : Channel σ) (jobs : List (Job σ)) :
    (c.post jobs).life = c.life ∧ (c.post jobs).sink = c.sink := by
  unfold post
  split
  · exact ⟨rfl, rfl⟩
  · exact ⟨rfl, rfl⟩

theorem life_deliver (c : Channel σ) (frameId : Int32) (m : Message) :
    (c.deliver frameId m).life = c.life ∧ (c.deliver frameId m).sink = c.sink := by
  unfold deliver
  split
  · exact life_post c _
  · exact life_post (c.removeWaiter frameId) _

theorem life_relayStep (c : Channel σ) :
    c.relayStep.life = c.life ∧ c.relayStep.sink = c.sink := by
  unfold relayStep
  split
  · split
    · exact ⟨rfl, rfl⟩
    · exact ⟨rfl, rfl⟩
  · exact ⟨rfl, rfl⟩

theorem life_addResponseListener (c : Channel σ) (frameId : Int32) (run : σ → Message → σ) :
    (c.addResponseListener frameId run).2.life = c.life ∧
      (c.addResponseListener frameId run).2.sink = c.sink := by
  have hconfirm (c : Channel σ) :
      (c.confirmWaiter frameId).2.life = c.life ∧ (c.confirmWaiter frameId).2.sink = c.sink := by
    unfold confirmWaiter
    split
    · exact ⟨rfl, rfl⟩
    · exact ⟨rfl, rfl⟩
  rw [addResponseListener, addWaiter]
  split
  · exact ⟨rfl, rfl⟩
  · rw [insertWaiter]
    by_cases hwaits : c.hasWaiter frameId = true
    · rw [if_pos hwaits]
      exact ⟨rfl, rfl⟩
    · rw [if_neg hwaits]
      exact hconfirm _

theorem life_pollReply (c : Channel σ) (h : ReplyHandle) :
    (c.pollReply h).2.2.life = c.life ∧ (c.pollReply h).2.2.sink = c.sink := by
  unfold pollReply
  split
  · exact ⟨rfl, rfl⟩
  · split
    · exact ⟨rfl, rfl⟩
    · exact ⟨rfl, rfl⟩
    · exact ⟨rfl, rfl⟩

theorem life_dropReply (c : Channel σ) (h : ReplyHandle) :
    (c.dropReply h).life = c.life ∧ (c.dropReply h).sink = c.sink := by
  unfold dropReply
  split
  · exact ⟨rfl, rfl⟩
  · exact ⟨rfl, rfl⟩

theorem life_conclude_ok (c : Channel σ) (w : PendingWrite) (length : Nat) :
    (c.conclude w (.ok length)).life = c.life ∧ (c.conclude w (.ok length)).sink = c.sink :=
  life_post _ _

/-- A writer whose sink never breaks off goes on. -/
theorem life_push (h : c.Smooth) (out : Outgoing) :
    (c.push out).life = c.life ∧ (c.push out).Smooth := by
  obtain ⟨hwrites, hflushes⟩ := h
  -- without a fatal turn nothing fails, and the turns that are left are some of those there were
  have hsends {bs : Bytes} {progress : Progress Unit} {before after : Sink}
      (hsends : Sink.Sends bs progress before after)
      (hbefore : (∀ t ∈ before.writes, t.isFatal = false) ∧
        ∀ t ∈ before.flushes, FlushTurn.isFatal t = false) :
      (∀ e, progress ≠ .failed e) ∧ (∀ t ∈ after.writes, t.isFatal = false) ∧
        ∀ t ∈ after.flushes, FlushTurn.isFatal t = false := by
    obtain ⟨writes, flushes, hw, hf, hfatal⟩ := hsends.turns
    rw [hw, hf] at hbefore
    obtain ⟨hwrites, hflushes⟩ := hbefore
    obtain ⟨hwrites, hafter⟩ := List.forall_mem_append.mp hwrites
    obtain ⟨hflushes, hafter'⟩ := List.forall_mem_append.mp hflushes
    refine ⟨?_, hafter, hafter'⟩
    intro e he
    rcases hfatal.mpr ⟨e, he⟩ with ⟨t, ht, hbad⟩ | ⟨t, ht, hbad⟩
    · cases (hwrites t ht).symm.trans hbad
    · cases (hflushes t ht).symm.trans hbad
  have hwrite := hsends (c.sink.sends_write out.left) ⟨hwrites, hflushes⟩
  unfold push
  generalize c.sink.write out.left = outcome at hwrite
  obtain ⟨progress, left, sink⟩ := outcome
  dsimp only at hwrite
  cases progress with
  | pending => exact ⟨rfl, hwrite.2⟩
  | failed e => exact absurd rfl (hwrite.1 e)
  | done u =>
      have hflush := hsends sink.sends_flush hwrite.2
      dsimp only
      generalize sink.flush = flushed at hflush
      obtain ⟨progress, after⟩ := flushed
      dsimp only at hflush
      have hwritten : (({ c with sink := after } : Channel σ).conclude out.write
            (.ok out.length)).life = c.life ∧
          (({ c with sink := after } : Channel σ).conclude out.write (.ok out.length)).Smooth := by
        obtain ⟨hlife, hsink⟩ :=
          life_conclude_ok ({ c with sink := after } : Channel σ) out.write out.length
        refine ⟨hlife, ?_⟩
        rw [Smooth, hsink]
        exact hflush.2
      cases progress with
      | failed e => exact absurd rfl (hflush.1 e)
      | done u => exact hwritten
      | pending => exact hwritten

theorem life_writeStep (h : c.Smooth) :
    c.writeStep.life = c.life ∧ c.writeStep.Smooth := by
  unfold writeStep
  split
  case isFalse => exact ⟨rfl, h⟩
  next =>
    split
    next out _ => exact life_push h out
    next => exact ⟨rfl, h⟩
    next w rest _ _ =>
      cases hframe : c.registry.frame c.writer.limits.maxPayload w.frameId w.message with
      | ok f =>
          have hstage := (c.writer.bytes_stage_of_frame hframe).1
          generalize c.writer.stage c.registry w.frameId w.message = staged at hstage
          obtain ⟨result, writer⟩ := staged
          dsimp only at hstage
          subst hstage
          exact ⟨rfl, h⟩
      | error e =>
          have hstage := c.writer.stage_of_error hframe
          have hrefused := Registry.isTransportFailure_of_frame hframe
          generalize c.writer.stage c.registry w.frameId w.message = staged at hstage
          obtain ⟨result, writer⟩ := staged
          dsimp only at hstage
          subst hstage
          dsimp only
          rw [conclude]
          dsimp only
          rw [hrefused]
          exact ⟨rfl, h⟩

/-! ### Steps that may close the channel -/

theorem isOpen_shutdown_endReading (c : Channel σ) :
    c.shutdown.2.endReading.isOpen = false ∧ c.shutdown.2.endReading.sink = c.sink := by
  unfold shutdown
  split
  next =>
    unfold clearWorkbench
    split
    · exact ⟨rfl, rfl⟩
    · exact ⟨rfl, rfl⟩
  next hclosed => exact ⟨Bool.eq_false_iff.mpr hclosed, rfl⟩

/-- The reader closes the channel or leaves it at work. -/
theorem life_readStep (c : Channel σ) :
    (c.readStep.life = c.life ∨ c.readStep.isOpen = false) ∧ c.readStep.sink = c.sink := by
  have hread := c.readStep_cases
  obtain ⟨hclosed, hsink⟩ := isOpen_shutdown_endReading c.collected
  generalize c.readStep = c' at hread
  generalize Side.incoming c = brought at hread
  cases hread with
  | idle => exact ⟨Or.inl rfl, rfl⟩
  | delivered =>
      obtain ⟨hlife, hsink⟩ := life_deliver c.collected _ _
      exact ⟨Or.inl hlife, hsink⟩
  | dropped => exact ⟨Or.inr hclosed, hsink⟩
  | failed => exact ⟨Or.inr hclosed, hsink⟩
  | waiting => exact ⟨Or.inl rfl, rfl⟩

end Channel

namespace Side

variable {σ : Type} {s : Side σ}

/-- The steps of somebody who closes the channel. -/
def Act.isShutdown : Act σ → Bool
  | .flip | .cancel | .clearWaiters | .clearWorkbench => true
  | _ => false

/-- Acts other than those of the reader and the writer close nothing, and the
workers stay at work unless they were told to stop. A reader that has ended
does not begin again. -/
theorem life_step {act : Act σ} (hact : act.isShutdown = false) (hread : act ≠ .read)
    (hwrite : act ≠ .write) :
    (s.step act).channel.isOpen = s.channel.isOpen ∧
      (s.channel.cancelled = false → (s.step act).channel.life = s.channel.life) ∧
      (s.step act).channel.sink.writes = s.channel.sink.writes ∧
      (s.step act).channel.sink.flushes = s.channel.sink.flushes ∧
      (s.channel.reading = false → (s.step act).channel.reading = false) := by
  have hboth {c : Channel σ} (hc : c.life = s.channel.life ∧ c.sink = s.channel.sink) :
      c.isOpen = s.channel.isOpen ∧
        (s.channel.cancelled = false → c.life = s.channel.life) ∧
        c.sink.writes = s.channel.sink.writes ∧ c.sink.flushes = s.channel.sink.flushes ∧
        (s.channel.reading = false → c.reading = false) := by
    rw [hc.2]
    exact ⟨Channel.isOpen_of_life hc.1, fun _ => hc.1, rfl, rfl,
      fun hended => (congrArg Channel.Life.reading hc.1).trans hended⟩
  cases act with
  | flip | cancel | clearWaiters | clearWorkbench => cases hact
  | read => exact absurd rfl hread
  | write => exact absurd rfl hwrite
  | call | onBroadcast | onTraffic | onWritten | arrive | release =>
      exact ⟨rfl, fun _ => rfl, rfl, rfl, id⟩
  | advance index =>
      apply hboth
      change (s.advance index).channel.life = _ ∧ (s.advance index).channel.sink = _
      rcases s.advance_eq index with heq | ⟨order, stage, outcome, channel, -, hstep, heq⟩
      · rw [heq]
        exact ⟨rfl, rfl⟩
      rw [heq]
      cases hstep with
      | failed | withdrawn | known | unknown | numbered | guarded | waits | confirmed | queued =>
          exact ⟨rfl, rfl⟩
  | listen frameId run => exact hboth (s.channel.life_addResponseListener frameId run)
  | poll index =>
      apply hboth
      change (s.poll index).channel.life = _ ∧ (s.poll index).channel.sink = _
      unfold poll
      split
      · exact ⟨rfl, rfl⟩
      · exact s.channel.life_pollReply _
  | forget index =>
      apply hboth
      change (s.forget index).channel.life = _ ∧ (s.forget index).channel.sink = _
      unfold forget
      split
      · exact ⟨rfl, rfl⟩
      · exact s.channel.life_dropReply _
  | relay => exact hboth s.channel.life_relayStep
  | finish index =>
      apply hboth
      change (s.finish index).channel.life = _ ∧ (s.finish index).channel.sink = _
      have hfinish := s.finish_cases index
      generalize s.finish index = s' at hfinish
      cases hfinish with
      | absent | aside | reply | unanswered | answered => exact ⟨rfl, rfl⟩
  | endReading | endWriting | endRelaying =>
      rw [step, onChannel]
      cases hcancelled : s.channel.cancelled with
      | true =>
          refine ⟨rfl, ?_, rfl, rfl, ?_⟩
          · intro hrunning
            cases hrunning
          · intro hended
            simp [Channel.endReading, Channel.endWriting, Channel.endRelaying, hended]
      | false => exact ⟨rfl, fun _ => rfl, rfl, rfl, id⟩

/-- **A channel that nobody closes is at work as long as it is open.** Once
closed it stays so. -/
theorem healthy_step (hsmooth : s.channel.Smooth)
    (hhealthy : s.channel.isOpen = true → s.channel.Healthy) (act : Act σ)
    (hact : act.isShutdown = false) :
    ((s.step act).channel.isOpen = true → s.channel.isOpen = true) ∧
      ((s.step act).channel.isOpen = true → (s.step act).channel.Healthy) ∧
      (s.step act).channel.Smooth := by
  have hkept {c : Channel σ} (hlife : c.life = s.channel.life) :
      (c.isOpen = true → s.channel.isOpen = true) ∧ (c.isOpen = true → c.Healthy) := by
    rw [Channel.isOpen_of_life hlife]
    constructor
    · exact id
    · intro hopen
      exact (hhealthy hopen).of_life hlife
  by_cases hread : act = .read
  · subst hread
    obtain ⟨hlife, hsink⟩ := s.channel.life_readStep
    change (s.channel.readStep.isOpen = true → _) ∧ (s.channel.readStep.isOpen = true → _) ∧ _
    refine ⟨?_, ?_, ?_⟩
    · rcases hlife with hlife | hclosed
      · exact (hkept hlife).1
      · rw [hclosed]
        intro hopen
        cases hopen
    · rcases hlife with hlife | hclosed
      · exact (hkept hlife).2
      · rw [hclosed]
        intro hopen
        cases hopen
    · change s.channel.readStep.Smooth
      rw [Channel.Smooth, hsink]
      exact hsmooth
  by_cases hwrite : act = .write
  · subst hwrite
    obtain ⟨hlife, hsmooth'⟩ := Channel.life_writeStep hsmooth
    exact ⟨(hkept hlife).1, (hkept hlife).2, hsmooth'⟩
  obtain ⟨hopen, hlife, hwrites, hflushes, -⟩ := life_step hact hread hwrite (s := s)
  rw [hopen, Channel.Smooth, hwrites, hflushes]
  refine ⟨id, ?_, hsmooth⟩
  intro hopen
  have hbefore := hhealthy hopen
  exact hbefore.of_life (hlife hbefore.2.1)

end Side

end Parley
