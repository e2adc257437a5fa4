/-
What the steps of a channel leave alone.

Most of what happens to a channel brings no reply to a handle, nothing to the
listener for all traffic, and no frame id (`Quiet`); most of that leaves the
streams alone too (`Keeps`). Each operation has its lemma here, so that an
invariant has to be looked at only where something is brought or taken.
-/
import Parley.Channel.Line

namespace Parley

variable {σ : Type}

theorem set_of_getElem? {α : Type} {l : List α} {index : Nat} {a : α} (h : l[index]? = some a) :
    l.set index a = l := by
  obtain ⟨hindex, rfl⟩ := List.getElem?_eq_some_iff.mp h
  exact List.set_getElem_self hindex

/-- The reply that a call of a listener brings to a handle, with its ticket. -/
def Job.reply? : Job σ → Option (Nat × Message)
  | .response (.handle ticket) m => some (ticket, m)
  | _ => none

/-- The call of the listener for all traffic, with the frame id and the message. -/
def Job.traffic? : Job σ → Option (TrafficListener σ × Int32 × Message)
  | .traffic listener frameId m => some (listener, frameId, m)
  | _ => none

/-- A call that brings no reply to a handle and nothing to the listener for all traffic. -/
def Job.IsAside (j : Job σ) : Prop := j.reply? = none ∧ j.traffic? = none

/-- The parts of a channel that tie replies to requests, apart from the queues of
waiters and calls. -/
structure Channel.Core (σ : Type) where
  registry : Registry
  workbench : Workbench
  onTraffic : Option (TrafficListener σ)
  nextFrameId : Nat
  nextTicket : Nat
  replies : List (Nat × Message)

/-- The parts of a channel through which bytes go. -/
structure Channel.Streams where
  reader : FrameReader
  source : Source
  writing : Bool
  queue : List PendingWrite
  current : Option Outgoing
  writer : FrameWriter
  taken : Bytes

namespace Channel

variable {c c' c'' : Channel σ}

def core (c : Channel σ) : Core σ :=
  ⟨c.registry, c.workbench, c.onTraffic, c.nextFrameId, c.nextTicket, c.replies⟩

def streams (c : Channel σ) : Streams :=
  ⟨c.reader, c.source, c.writing, c.queue, c.current, c.writer, c.sink.taken⟩

/-- The calls of listeners that are due, those in the pool first. -/
def jobs (c : Channel σ) : List (Job σ) := c.pool ++ c.events

/-- Nothing was brought that concerns a handle or the listener for all traffic. -/
structure Quiet (c c' : Channel σ) : Prop where
  core : c'.core = c.core
  waiters : ∃ new, (∀ w ∈ new, w.2.ticket? = none) ∧ c'.waiters.Sublist (c.waiters ++ new)
  jobs : ∃ new, (∀ j ∈ new, j.IsAside) ∧ c'.jobs.Sublist (c.jobs ++ new)

/-- Neither were the streams touched. -/
structure Keeps (c c' : Channel σ) : Prop extends Quiet c c' where
  streams : c'.streams = c.streams

theorem Quiet.of_sublist (hcore : c'.core = c.core) (hwaiters : c'.waiters.Sublist c.waiters)
    (hjobs : c'.jobs.Sublist c.jobs) : Quiet c c' where
  core := hcore
  waiters := ⟨[], List.forall_mem_nil _, by simpa using hwaiters⟩
  jobs := ⟨[], List.forall_mem_nil _, by simpa using hjobs⟩

theorem Quiet.trans (h : Quiet c c') (h' : Quiet c' c'') : Quiet c c'' where
  core := h'.core.trans h.core
  waiters := by
    obtain ⟨new, hnew, hsub⟩ := h.waiters
    obtain ⟨new', hnew', hsub'⟩ := h'.waiters
    refine ⟨new ++ new', List.forall_mem_append.mpr ⟨hnew, hnew'⟩, ?_⟩
    rw [← List.append_assoc]
    exact hsub'.trans (hsub.append_right new')
  jobs := by
    obtain ⟨new, hnew, hsub⟩ := h.jobs
    obtain ⟨new', hnew', hsub'⟩ := h'.jobs
    refine ⟨new ++ new', List.forall_mem_append.mpr ⟨hnew, hnew'⟩, ?_⟩
    rw [← List.append_assoc]
    exact hsub'.trans (hsub.append_right new')

theorem Keeps.of_sublist (hcore : c'.core = c.core) (hstreams : c'.streams = c.streams)
    (hwaiters : c'.waiters.Sublist c.waiters) (hjobs : c'.jobs.Sublist c.jobs) : Keeps c c' :=
  ⟨.of_sublist hcore hwaiters hjobs, hstreams⟩

theorem Keeps.refl (c : Channel σ) : Keeps c c :=
  .of_sublist rfl rfl (List.Sublist.refl _) (List.Sublist.refl _)

theorem Keeps.trans (h : Keeps c c') (h' : Keeps c' c'') : Keeps c c'' :=
  ⟨h.toQuiet.trans h'.toQuiet, h'.streams.trans h.streams⟩

variable (c)

/-! ### Closing -/

theorem keeps_flip : Keeps c c.flip :=
  .of_sublist rfl rfl (List.Sublist.refl _) (List.Sublist.refl _)

theorem keeps_cancel : Keeps c c.cancel :=
  .of_sublist rfl rfl (List.Sublist.refl _) (List.Sublist.refl _)

theorem keeps_clearWaiters : Keeps c c.clearWaiters :=
  .of_sublist rfl rfl (List.nil_sublist _) (List.Sublist.refl _)

/-- Once the workers have them, the streams and the queues are not let go. -/
theorem clearWorkbench_of_started (h : c.workbench = .started) : c.clearWorkbench = c := by
  rw [clearWorkbench, h]

theorem shutdown_of_started (h : c.workbench = .started) :
    c.shutdown.2 = if c.isOpen then c.flip.cancel.clearWaiters else c := by
  unfold shutdown
  split
  · exact clearWorkbench_of_started _ h
  · rfl

theorem keeps_shutdown (h : c.workbench = .started) : Keeps c c.shutdown.2 := by
  rw [shutdown_of_started c h]
  split
  · exact (keeps_flip c).trans ((keeps_cancel _).trans (keeps_clearWaiters _))
  · exact .refl c

theorem keeps_endReading : Keeps c c.endReading :=
  .of_sublist rfl rfl (List.Sublist.refl _) (List.Sublist.refl _)

theorem keeps_endRelaying : Keeps c c.endRelaying :=
  .of_sublist rfl rfl (List.Sublist.refl _) ((List.Sublist.refl _).append (List.nil_sublist _))

theorem quiet_endWriting : Quiet c c.endWriting :=
  .of_sublist rfl (List.Sublist.refl _) (List.Sublist.refl _)

/-! ### Waiting -/

theorem keeps_removeWaiter (frameId : Int32) : Keeps c (c.removeWaiter frameId) :=
  .of_sublist rfl rfl List.filter_sublist (List.Sublist.refl _)

theorem keeps_confirmWaiter (frameId : Int32) : Keeps c (c.confirmWaiter frameId).2 := by
  unfold confirmWaiter
  split
  · exact .refl c
  · exact keeps_removeWaiter c frameId

/-- A handle is not made to wait by the listener for one message. -/
theorem keeps_addResponseListener (frameId : Int32) (run : σ → Message → σ) :
    Keeps c (c.addResponseListener frameId run).2 := by
  unfold addResponseListener addWaiter
  split
  · exact .refl c
  next =>
    unfold insertWaiter
    split
    next h =>
      split at h
      · cases h
        exact .refl c
      · cases h
    next h =>
      split at h
      · cases h
      · cases h
        have hadded : Keeps c { c with waiters := c.waiters ++ [(frameId, .listener run)] } :=
          ⟨⟨rfl, ⟨[(frameId, .listener run)], by simp [Waiter.ticket?], List.Sublist.refl _⟩,
            ⟨[], List.forall_mem_nil _, by simp [jobs]⟩⟩, rfl⟩
        exact hadded.trans (keeps_confirmWaiter _ frameId)

theorem keeps_pollReply (h : ReplyHandle) : Keeps c (c.pollReply h).2.2 := by
  unfold pollReply
  split
  · exact .refl c
  · split
    · exact .refl c
    · exact keeps_removeWaiter c h.frameId
    · exact .refl c

theorem keeps_dropReply (h : ReplyHandle) : Keeps c (c.dropReply h) := by
  unfold dropReply
  split
  · exact .refl c
  · exact keeps_removeWaiter c h.frameId

/-! ### Calling listeners -/

theorem keeps_post {new : List (Job σ)} (h : ∀ j ∈ new, j.IsAside) : Keeps c (c.post new) := by
  unfold post
  split
  · refine ⟨⟨rfl, ⟨[], List.forall_mem_nil _, by simp⟩, ⟨new, h, ?_⟩⟩, rfl⟩
    simp [jobs]
  · exact .refl c

theorem keeps_relayStep : Keeps c c.relayStep := by
  unfold relayStep
  split
  · split
    · exact .refl c
    next job events hevents =>
      refine .of_sublist rfl rfl (List.Sublist.refl _) ?_
      simp [jobs, hevents]
  · exact .refl c

theorem jobs_withoutJob (index : Nat) : (c.withoutJob index).jobs.Sublist c.jobs :=
  (List.eraseIdx_sublist _ _).append_right _

theorem quiet_withoutJob (index : Nat) : Quiet c (c.withoutJob index) :=
  .of_sublist rfl (List.Sublist.refl _) (c.jobs_withoutJob index)

/-! ### Writing -/

theorem quiet_writing (queue : List PendingWrite) (current : Option Outgoing) (writer : FrameWriter)
    (sink : Sink) (outcomes : List (Nat × Except FrameError Nat)) :
    Quiet c { c with queue, current, writer, sink, outcomes } :=
  .of_sublist rfl (List.Sublist.refl _) (List.Sublist.refl _)

theorem quiet_conclude (h : c.workbench = .started) (w : PendingWrite)
    (result : Except FrameError Nat) : Quiet c (c.conclude w result) := by
  cases result with
  | ok length =>
      refine (quiet_writing c c.queue none c.writer c.sink _).trans (keeps_post _ ?_).toQuiet
      intro j hj
      obtain ⟨l, -, rfl⟩ := List.mem_map.mp hj
      exact ⟨rfl, rfl⟩
  | error e =>
      rw [conclude]
      split
      · refine (quiet_writing c c.queue none c.writer c.sink c.outcomes).trans ?_
        refine (keeps_shutdown _ ?_).toQuiet.trans (quiet_endWriting _)
        exact h
      · exact quiet_writing c c.queue none c.writer c.sink _

theorem quiet_push (h : c.workbench = .started) (out : Outgoing) : Quiet c (c.push out) := by
  unfold push
  split
  · exact quiet_writing c c.queue _ c.writer _ c.outcomes
  · refine (quiet_writing c c.queue c.current c.writer _ c.outcomes).trans
      (quiet_conclude _ ?_ _ _)
    exact h
  · split
    · refine (quiet_writing c c.queue c.current c.writer _ c.outcomes).trans
        (quiet_conclude _ ?_ _ _)
      exact h
    · refine (quiet_writing c c.queue c.current c.writer _ c.outcomes).trans
        (quiet_conclude _ ?_ _ _)
      exact h

theorem quiet_writeStep (h : c.workbench = .started) : Quiet c c.writeStep := by
  unfold writeStep
  split
  · split
    · exact quiet_push c h _
    · exact (Keeps.refl c).toQuiet
    · split
      · refine (quiet_writing c _ c.current _ c.sink c.outcomes).trans (quiet_conclude _ ?_ _ _)
        exact h
      · exact quiet_writing c _ _ _ c.sink c.outcomes
  · exact (Keeps.refl c).toQuiet

end Channel

/-! ### Acts -/

/-- What the handle of a request stands for. -/
def Asked.write (a : Asked) : PendingWrite :=
  ⟨a.handle.ticket, a.handle.frameId, .request a.handle.expects a.payload⟩

namespace Side

variable (s : Side σ)

/-- Acts that bring nothing, send nothing and move no bytes. -/
def Act.isPlain : Act σ → Bool
  | .call _ | .advance _ | .onTraffic _ | .read | .write | .finish _ | .arrive _ | .endWriting =>
    false
  | _ => true

/-- Two states of a side in which the same was said. -/
structure Same (s s' : Side σ) : Prop where
  errands : s'.errands = s.errands
  asked : s'.asked.map Asked.write = s.asked.map Asked.write
  accepted : s'.accepted = s.accepted
  delivered : s'.delivered = s.delivered
  answered : s'.answered = s.answered

/-- What a handle remembers is no part of what was said. -/
theorem map_write_mark {index : Nat} {a : Asked} (hasked : s.asked[index]? = some a)
    (written settled : Bool) :
    (s.asked.set index (a.mark written settled)).map Asked.write = s.asked.map Asked.write := by
  have hwrite : (s.asked.map Asked.write)[index]? = some (a.mark written settled).write := by
    rw [List.getElem?_map, hasked]
    rfl
  rw [List.map_set, set_of_getElem? hwrite]

theorem same_poll (index : Nat) : Same s (s.poll index) := by
  unfold poll
  split
  · exact ⟨rfl, rfl, rfl, rfl, rfl⟩
  next a hopen =>
    exact ⟨rfl, s.map_write_mark (open?_eq_some.mp hopen).1 _ _, rfl, rfl, rfl⟩

theorem same_forget (index : Nat) : Same s (s.forget index) := by
  unfold forget
  split
  · exact ⟨rfl, rfl, rfl, rfl, rfl⟩
  next a hasked => exact ⟨rfl, s.map_write_mark hasked _ _, rfl, rfl, rfl⟩

/-- Plain acts change nothing of what was said. -/
theorem same_step {act : Act σ} (hplain : act.isPlain = true) : Same s (s.step act) := by
  cases act with
  | call | advance | onTraffic | read | write | finish | arrive | endWriting => cases hplain
  | poll index => exact s.same_poll index
  | forget index => exact s.same_forget index
  | _ => exact ⟨rfl, rfl, rfl, rfl, rfl⟩

/-- Plain acts keep what the channel has brought and sent. -/
theorem keeps_step (h : s.channel.workbench = .started) {act : Act σ}
    (hplain : act.isPlain = true) : s.channel.Keeps (s.step act).channel := by
  have hrefl := Channel.Keeps.refl s.channel
  have hset {c : Channel σ} (hcore : c.core = s.channel.core)
      (hstreams : c.streams = s.channel.streams) (hwaiters : c.waiters = s.channel.waiters)
      (hjobs : c.jobs = s.channel.jobs) : s.channel.Keeps c :=
    .of_sublist hcore hstreams (hwaiters ▸ List.Sublist.refl _) (hjobs ▸ List.Sublist.refl _)
  cases act with
  | call | advance | onTraffic | read | write | finish | arrive | endWriting => cases hplain
  | listen frameId run => exact s.channel.keeps_addResponseListener frameId run
  | onBroadcast listener => exact hset rfl rfl rfl rfl
  | onWritten listener => exact hset rfl rfl rfl rfl
  | poll index =>
      change s.channel.Keeps (s.poll index).channel
      unfold poll
      split
      · exact hrefl
      · exact s.channel.keeps_pollReply _
  | forget index =>
      change s.channel.Keeps (s.forget index).channel
      unfold forget
      split
      · exact hrefl
      · exact s.channel.keeps_dropReply _
  | relay => exact s.channel.keeps_relayStep
  | release => exact hset rfl rfl rfl rfl
  | flip => exact s.channel.keeps_flip
  | cancel => exact s.channel.keeps_cancel
  | clearWaiters => exact s.channel.keeps_clearWaiters
  | clearWorkbench =>
      change s.channel.Keeps s.channel.clearWorkbench
      rw [s.channel.clearWorkbench_of_started h]
      exact hrefl
  | endReading =>
      change s.channel.Keeps (if s.channel.cancelled then s.channel.endReading else s.channel)
      split
      · exact s.channel.keeps_endReading
      · exact hrefl
  | endRelaying =>
      change s.channel.Keeps (if s.channel.cancelled then s.channel.endRelaying else s.channel)
      split
      · exact s.channel.keeps_endRelaying
      · exact hrefl

/-- Acts that bring nothing and say nothing, though they may move bytes. -/
def Act.isMute : Act σ → Bool
  | .call _ | .advance _ | .onTraffic _ | .read | .finish _ => false
  | _ => true

theorem quiet_step (h : s.channel.workbench = .started) {act : Act σ} (hmute : act.isMute = true) :
    s.channel.Quiet (s.step act).channel ∧ Same s (s.step act) := by
  have hsame {c : Channel σ} : Same s { s with channel := c } := ⟨rfl, rfl, rfl, rfl, rfl⟩
  cases hplain : act.isPlain with
  | true => exact ⟨(s.keeps_step h hplain).toQuiet, s.same_step hplain⟩
  | false =>
      cases act with
      | call | advance | onTraffic | read | finish => cases hmute
      | write => exact ⟨s.channel.quiet_writeStep h, hsame⟩
      | arrive a =>
          exact ⟨.of_sublist rfl (List.Sublist.refl _) (List.Sublist.refl _), hsame⟩
      | endWriting =>
          refine ⟨?_, hsame⟩
          change s.channel.Quiet (if s.channel.cancelled then s.channel.endWriting else s.channel)
          split
          · exact s.channel.quiet_endWriting
          · exact (Channel.Keeps.refl _).toQuiet
      | _ => cases hplain

/-- What can become of a call of a listener that finishes. -/
inductive Finishes (index : Nat) : Side σ → Prop
  | absent : s.channel.pool[index]? = none → Finishes index s
  | aside {job : Job σ} {app : σ} : s.channel.pool[index]? = some job → job.IsAside →
      Finishes index { s with channel := s.channel.withoutJob index, app }
  | reply {ticket : Nat} {m : Message} :
      s.channel.pool[index]? = some (.response (.handle ticket) m) →
      Finishes index
        { s with
          channel :=
            { s.channel.withoutJob index with replies := s.channel.replies ++ [(ticket, m)] } }
  | unanswered {listener : TrafficListener σ} {frameId : Int32} {m : Message} {app : σ} :
      s.channel.pool[index]? = some (.traffic listener frameId m) →
      listener s.channel.registry s.app frameId m = (app, none) →
      Finishes index { s with channel := s.channel.withoutJob index, app }
  | answered {listener : TrafficListener σ} {frameId : Int32} {m answer : Message} {app : σ} :
      s.channel.pool[index]? = some (.traffic listener frameId m) →
      listener s.channel.registry s.app frameId m = (app, some answer) →
      Finishes index
        { s with
          channel := s.channel.withoutJob index
          app
          errands := s.errands ++ [(.reply frameId answer, .check)]
          answered := s.answered ++ [⟨frameId, m, s.app, answer⟩] }

theorem finish_cases (index : Nat) : s.Finishes index (s.finish index) := by
  unfold finish
  split
  next hnone => exact .absent hnone
  next job hjob =>
    cases job with
    | traffic listener frameId m =>
        dsimp only
        split
        next app hanswer => exact .unanswered hjob hanswer
        next app answer hanswer => exact .answered hjob hanswer
    | broadcast listener m => exact .aside hjob ⟨rfl, rfl⟩
    | written listener frameId m => exact .aside hjob ⟨rfl, rfl⟩
    | response waiter m =>
        cases waiter with
        | listener run => exact .aside hjob ⟨rfl, rfl⟩
        | handle ticket => exact .reply hjob

end Side

end Parley
