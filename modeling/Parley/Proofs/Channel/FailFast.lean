/-
Calls that fail fast.

A call to request that is refused leaves the channel as it was, also if others come
between its steps (`Channel.Trail.untouched`). One whose request was queued looks
at its handle (`Channel.Looks`) until it ends. If it ends with the reply, or with a
failure that the other side reported, it has done nothing to the channel; any other
end closes the channel, and every request of which no reply was delivered comes to
nothing. Whatever a call has ended with, nothing waits for its reply any longer
(`calls_fail_fast`).
-/
import Parley.Channel.Session
import Parley.Proofs.Channel.Accounts
import Parley.Proofs.Channel.Afloat
import Parley.Proofs.Channel.Correlation

namespace Parley

open scoped List

variable {σ : Type}

/-! ### Requests that are refused -/

/-- From this stage on the handle of a request waits. -/
def Stage.isLate : Stage → Bool
  | .confirm _ _ | .enqueue _ _ => true
  | _ => false

namespace Channel

/-- Nothing has changed but how many frame ids and tickets were taken. -/
def Untouched (c c' : Channel σ) : Prop :=
  c' = { c with nextFrameId := c'.nextFrameId, nextTicket := c'.nextTicket }

/-- A request that is refused leaves the channel as it was. -/
theorem untouched_request (c : Channel σ) (r : RequestType) (payload : r.Payload)
    {e : ChannelError} (h : (c.request r payload).1 = .error e) :
    c.Untouched (c.request r payload).2 := by
  have hwaiters := c.waiters_request_of_error r payload h
  suffices (c.request r payload).2 = { c with
      nextFrameId := (c.request r payload).2.nextFrameId
      nextTicket := (c.request r payload).2.nextTicket
      waiters := (c.request r payload).2.waiters } by
    rwa [hwaiters] at this
  rw [request] at h ⊢
  cases hsend : c.checkSend (.request r payload) with
  | error e => rfl
  | ok u =>
      rw [hsend] at h
      dsimp only at h ⊢
      rw [takeFrameId] at h ⊢
      by_cases hlimit : c.nextFrameId < frameIdLimit
      case neg =>
        rw [if_neg hlimit]
      rw [if_pos hlimit] at h ⊢
      dsimp only [takeTicket] at h ⊢
      rcases addWaiter_cases _ (Int32.ofNat c.nextFrameId) (.handle c.nextTicket) with
        ⟨-, heq⟩ | ⟨-, -, heq⟩ | ⟨-, -, heq⟩
      · rw [heq]
      · rw [heq]
      · rw [heq] at h ⊢
        dsimp only at h ⊢
        rcases enqueue_cases _ ⟨c.nextTicket, Int32.ofNat c.nextFrameId, .request r payload⟩ with
          heq | heq
        · rw [heq] at h
          cases h
        · rw [heq]
          rfl

variable {o : Order} {stage : Stage}

/-- The steps of a call up to its end, each with the channel before it and the channel
after it. Anything may come between two of them. -/
inductive Trail (o : Order) :
    Stage → List (Channel σ × Channel σ) → Except ChannelError WriteHandle → Prop
  | ended {c c' : Channel σ} {stage : Stage} {result : Except ChannelError WriteHandle} :
      c.advance o stage = (.ended result, c') → Trail o stage [(c, c')] result
  | next {c c' : Channel σ} {stage stage' : Stage} {steps : List (Channel σ × Channel σ)}
      {result : Except ChannelError WriteHandle} :
      c.advance o stage = (.next stage', c') → Trail o stage' steps result →
        Trail o stage ((c, c') :: steps) result

/-- While no handle waits, a step that leads to no such stage changes no more than
the counters. -/
theorem untouched_advance {c c' : Channel σ} {outcome : Advance}
    (hadvance : c.advance o stage = (outcome, c')) (hearly : stage.isLate = false)
    (hnext : ∀ stage', outcome = .next stage' → stage'.isLate = false) : c.Untouched c' := by
  have hstep : (c.advance o stage).1 = outcome ∧ (c.advance o stage).2 = c' := by
    rw [hadvance]
    exact ⟨rfl, rfl⟩
  obtain ⟨rfl, rfl⟩ := hstep
  cases stage with
  | confirm | enqueue => cases hearly
  | check =>
      rw [advance]
      split
      · rfl
      · split
        · rfl
        · rfl
  | number =>
      rw [advance, takeFrameId]
      by_cases hlimit : c.nextFrameId < frameIdLimit
      · rw [if_pos hlimit]
        rfl
      · rw [if_neg hlimit]
        rfl
  | guard ticket frameId =>
      rw [advance]
      split
      · rfl
      · rfl
  | await ticket frameId =>
      rw [advance, insertWaiter] at hnext ⊢
      by_cases hwaits : c.hasWaiter frameId = true
      · rw [if_pos hwaits]
        rfl
      · rw [if_neg hwaits] at hnext
        cases hnext _ rfl

/-- Once a handle waits, the call leads on to such stages, or fails as the channel is
closed. -/
theorem advance_of_isLate (c : Channel σ) (hlate : stage.isLate = true) :
    (∀ stage', (c.advance o stage).1 = .next stage' → stage'.isLate = true) ∧
      ∀ e, (c.advance o stage).1 = .ended (.error e) → e = .closed := by
  cases stage with
  | check | number | guard | await => cases hlate
  | confirm ticket frameId =>
      rw [advance, confirmWaiter, checkOpen]
      cases c.isOpen with
      | true =>
          constructor
          · rintro stage' ⟨⟩
            rfl
          · rintro e ⟨⟩
      | false =>
          constructor
          · rintro stage' ⟨⟩
          · rintro e ⟨⟩
            rfl
  | enqueue ticket frameId =>
      rw [advance]
      rcases c.enqueue_cases ⟨ticket, frameId, o.message⟩ with heq | heq
      · rw [heq]
        constructor
        · rintro stage' ⟨⟩
        · rintro e ⟨⟩
      · rw [heq]
        constructor
        · rintro stage' ⟨⟩
        · rintro e ⟨⟩
          rfl

namespace Trail

variable {steps : List (Channel σ × Channel σ)} {result : Except ChannelError WriteHandle}

theorem eq_closed (h : Trail o stage steps result) (hlate : stage.isLate = true)
    {e : ChannelError} (hfails : result = .error e) : e = .closed := by
  induction h with
  | @ended c c' stage result hadvance =>
      refine (c.advance_of_isLate (o := o) hlate).2 e ?_
      rw [hadvance, hfails]
  | @next c c' stage stage' steps result hadvance htrail ih =>
      refine ih ((c.advance_of_isLate (o := o) hlate).1 stage' ?_) hfails
      rw [hadvance]

/-- **A call that is refused for another reason than that the channel is closed has
left the channel as it was**, in each of its steps. -/
theorem untouched (h : Trail o stage steps result) {e : ChannelError} (hfails : result = .error e)
    (hopen : e ≠ .closed) : ∀ step ∈ steps, step.1.Untouched step.2 := by
  induction h with
  | @ended c c' stage result hadvance =>
      have hearly : stage.isLate = false := by
        refine Bool.eq_false_iff.mpr fun hlate => hopen ?_
        exact (Trail.ended hadvance).eq_closed hlate hfails
      refine List.forall_mem_singleton.mpr (untouched_advance hadvance hearly ?_)
      intro stage' h
      cases h
  | @next c c' stage stage' steps result hadvance htrail ih =>
      have hearly : stage.isLate = false := by
        refine Bool.eq_false_iff.mpr fun hlate => hopen ?_
        exact (Trail.next hadvance htrail).eq_closed hlate hfails
      refine List.forall_mem_cons.mpr ⟨untouched_advance hadvance hearly ?_, ih hfails⟩
      rintro later ⟨⟩
      exact Bool.eq_false_iff.mpr fun hlate => hopen (htrail.eq_closed hlate hfails)

end Trail

end Channel

/-- A call whose request is refused has ended with that, and the channel is as it was. -/
theorem Session.call_of_refused (session : Session σ) (r : RequestType) (payload : r.Payload)
    (limit : Duration) {e : ChannelError} (h : (session.channel.request r payload).1 = .error e) :
    (session.call r payload limit).outcome? session.calls.length = some (.error e) ∧
      session.channel.Untouched (session.call r payload limit).channel := by
  refine ⟨?_, session.channel.untouched_request r payload h⟩
  have hcalls : (session.call r payload limit).calls
      = session.calls ++ [⟨limit, .ended (.error e)⟩] := by
    rw [call]
    dsimp only
    rw [h]
  rw [outcome?, hcalls, List.getElem?_concat_length]

/-! ### Looks at a call -/

namespace Channel

variable {c c' : Channel σ} {h : ReplyHandle} {limit : Duration} {expired : Bool}

/-- A look at the handle of a request shows an error. -/
def HasFailed (c : Channel σ) (h : ReplyHandle) : Prop := ∃ e, (c.pollReply h).1 = some (.error e)

/-- No reply is handed to a handle, and none sets out to one. -/
structure HandsNothing (c c' : Channel σ) : Prop where
  due : c'.jobs.filterMap Job.reply? <+ c.jobs.filterMap Job.reply?
  replies : c'.replies = c.replies

theorem endsChannel_eq_false {α : Type} {result : Except ChannelError α}
    (h : (∃ value, result = .ok value) ∨ ∃ type text, result = .error (.remote type text)) :
    endsChannel result = false := by
  rcases h with ⟨value, rfl⟩ | ⟨type, text, rfl⟩
  · rfl
  · rfl

theorem endsChannel_eq_true {α : Type} {e : ChannelError} (h : ∀ type text, e ≠ .remote type text) :
    endsChannel (.error e : Except ChannelError α) = true := by
  cases e with
  | remote type text => exact absurd rfl (h type text)
  | _ => rfl

/-- What a look at a call shows, if anything, and the channel as the look leaves it
before the call closes it. -/
inductive Looks (c : Channel σ) (h : ReplyHandle) (limit : Duration) (expired : Bool) :
    Option (Except ChannelError h.expects.Reply) → Channel σ → Prop
  | settled {result : Except ChannelError h.expects.Reply} :
      (c.pollReply h).1 = some result → Looks c h limit expired (some result) (c.pollReply h).2.2
  | timedOut : (c.pollReply h).1 = none → expired = true →
      Looks c h limit expired (some (.error (.timeout limit))) (c.removeWaiter h.frameId)
  | goesOn : (c.pollReply h).1 = none → expired = false → Looks c h limit expired none c

theorem pollReply_of_none (hpoll : (c.pollReply h).1 = none) : (c.pollReply h).2.2 = c := by
  rcases c.pollReply_channel h with heq | ⟨-, hsome⟩
  · exact heq
  · rw [hpoll] at hsome
    cases hsome

/-- A look that shows the reply, or what the other side reported, leaves the channel
as it was. -/
theorem pollReply_of_answer {result : Except ChannelError h.expects.Reply}
    (hpoll : (c.pollReply h).1 = some result) (hanswer : endsChannel result = false) :
    (c.pollReply h).2.2 = c := by
  unfold pollReply at hpoll ⊢
  split at hpoll
  next hwritten => rw [if_pos hwritten]
  next hwritten =>
    rw [if_neg hwritten]
    split at hpoll
    next => rfl
    next e heq =>
      -- a request that was not written ends with the reason
      cases hpoll
      unfold pollWrite at heq
      split at heq
      · cases heq
      · cases heq
        cases hanswer
      · split at heq
        · cases heq
        · cases heq
          cases hanswer
    next => rfl

theorem pollCall_looks (c : Channel σ) {h : ReplyHandle} (hunsettled : h.settled = false)
    (limit : Duration) (expired : Bool) :
    ∃ c', c.Looks h limit expired (c.pollCall h limit expired).1 c' ∧
      (c.pollCall h limit expired).2.2
        = if (c.pollCall h limit expired).1.any endsChannel then c'.shutdown.2 else c' := by
  rw [pollCall]
  rcases hpoll : c.pollReply h with ⟨_ | result, written, c'⟩
  case some =>
    have hlooks : c.Looks h limit expired (some result) (c.pollReply h).2.2 :=
      .settled (congrArg Prod.fst hpoll)
    rw [hpoll] at hlooks
    exact ⟨c', hlooks, c'.afterCall_eq result⟩
  case none =>
    have hnone : (c.pollReply h).1 = none := congrArg Prod.fst hpoll
    obtain rfl : c' = c := (congrArg (·.2.2) hpoll).symm.trans (pollReply_of_none hnone)
    cases expired with
    | true =>
        exact ⟨_, .timedOut hnone rfl,
          congrArg (·.shutdown.2) (c'.dropReply_of_unsettled hunsettled)⟩
    | false => exact ⟨c', .goesOn hnone rfl, rfl⟩

theorem waiters_shutdown (hopen : c.isOpen = true) : c.shutdown.2.waiters = [] := by
  rw [shutdown, if_pos hopen]
  unfold clearWorkbench
  split
  · rfl
  · rfl

/-- A look takes at most the handle of the call out of the table. -/
theorem Looks.channel {outcome : Option (Except ChannelError h.expects.Reply)}
    (hlooks : c.Looks h limit expired outcome c') : c' = c ∨ c' = c.removeWaiter h.frameId := by
  cases hlooks with
  | settled => exact (c.pollReply_channel h).imp_right And.left
  | timedOut => exact Or.inr rfl
  | goesOn => exact Or.inl rfl

end Channel

namespace Side

variable {s : Side σ} {issued : List PendingWrite} {a : Asked} {limit : Duration} {expired : Bool}

/-- Nobody but the handle of a request waits on its frame id. -/
theorem Books.frameId_eq_iff (h : s.Books issued) (ha : a.write ∈ issued)
    {w : Int32 × Waiter σ} (hw : w ∈ s.channel.waiters) {ticket : Nat}
    (hticket : w.2.ticket? = some ticket) : w.1 = a.handle.frameId ↔ ticket = a.handle.ticket := by
  obtain ⟨i, hi, rfl, hid⟩ := h.awaits.waiters w hw ticket hticket
  rw [← hid]
  constructor
  · intro heq
    rw [List.inj_on_of_nodup_map h.issues.nodup_frameIds hi ha heq]
    rfl
  · intro heq
    rw [List.inj_on_of_nodup_map h.issues.tickets hi ha heq]
    rfl

/-- A handle that is given up waits no longer. -/
theorem Books.not_waiting_of_removed (h : s.Books issued) (ha : a.write ∈ issued) :
    a.handle.ticket ∉ (s.channel.removeWaiter a.handle.frameId).waitingTickets := by
  intro hwaits
  obtain ⟨w, hw, hticket⟩ := Channel.mem_waitingTickets.mp hwaits
  obtain ⟨hw, hne⟩ := List.mem_filter.mp hw
  exact of_decide_eq_true hne ((h.frameId_eq_iff ha hw hticket).mpr rfl)

/-- **A call that has ended does not wait any longer.** -/
theorem Books.not_waiting_of_looks (h : s.Books issued) (hticketed : s.Ticketed) (ha : a ∈ s.asked)
    {result : Except ChannelError a.handle.expects.Reply} {c : Channel σ}
    (hlooks : s.channel.Looks a.handle limit expired (some result) c) :
    a.handle.ticket ∉ c.waitingTickets := by
  have hremoved := h.not_waiting_of_removed (h.issued_of_asked ha)
  cases hlooks with
  | timedOut => exact hremoved
  | settled hpoll =>
      have hsome : (s.channel.pollReply a.handle).1.isSome := hpoll ▸ rfl
      rcases s.channel.pollReply_settles hsome with heq | ⟨heq, ⟨m, hm⟩ | hnobody⟩
      · exact heq ▸ hremoved
      · rw [heq]
        -- a reply that is kept is not waited for
        have hnodup := (List.nodup_append.mp hticketed.replies).1
        rw [Channel.replyTickets, List.append_assoc] at hnodup
        have hkept : a.handle.ticket ∈ s.channel.replies.map Prod.fst := List.mem_map_of_mem hm
        exact fun hwaits =>
          List.disjoint_of_nodup_append hnodup hwaits (List.mem_append_right _ hkept)
      · rw [heq]
        intro hwaits
        obtain ⟨w, hw, hticket⟩ := Channel.mem_waitingTickets.mp hwaits
        exact hnobody w hw hticket

/-- A message on the frame id of a request for which nobody waits is handed to no
handle. -/
theorem Books.handsNothing (h : s.Books issued) (ha : a.write ∈ issued)
    (hgone : a.handle.ticket ∉ s.channel.waitingTickets) {m : Message}
    (hincoming : incoming s.channel = some (a.handle.frameId, m)) :
    s.channel.HandsNothing s.channel.readTurn.2 := by
  have hread := s.channel.readTurn_cases
  rw [hincoming] at hread
  generalize s.channel.readTurn = turn at hread
  cases hread with
  | delivered =>
      have hcore := s.channel.collected.deliver_core a.handle.frameId m
      refine ⟨?_, congrArg Channel.Core.replies hcore⟩
      have hjobs := (s.channel.collected.deliver_jobs a.handle.frameId m).filterMap Job.reply?
      rw [List.filterMap_append] at hjobs
      have hnone : (s.channel.collected.jobsFor a.handle.frameId m).filterMap Job.reply? = [] := by
        refine List.filterMap_eq_nil_iff.mpr fun j hj => ?_
        cases hreply : j.reply? with
        | none => rfl
        | some r =>
            obtain ⟨ticket, m'⟩ := r
            obtain ⟨-, w, hw, hticket⟩ := Channel.waits_of_mem_jobsFor _ hj hreply
            have hw : (a.handle.frameId, w) ∈ s.channel.waiters := hw
            obtain rfl := (h.frameId_eq_iff ha hw hticket).mp rfl
            exact absurd (Channel.mem_waitingTickets.mpr ⟨_, hw, hticket⟩) hgone
      rwa [hnone, List.append_nil] at hjobs

end Side

namespace Scene

variable {s : Scene σ} {issued : List PendingWrite} {index : Nat} {a : Asked} {limit : Duration}
  {expired : Bool}

/-- A request of which no reply was delivered comes to nothing once its handle is out of
the table, whatever happens then. -/
theorem hasFailed_run (hbooks : s.side.Books issued) (hticketed : s.side.Ticketed)
    (ha : a ∈ s.side.asked) (hnone : ∀ m, (a.handle.frameId, m) ∉ s.side.delivered)
    (hgone : a.handle.ticket ∉ s.channel.waitingTickets) (more : List (Act σ)) :
    (s.run more).channel.HasFailed a.handle := by
  have hlost : a.handle.ticket ∉ s.channel.replyTickets := hbooks.lost ha hnone hgone
  exact Channel.pollReply_of_lost ((lost_run hticketed (hticketed.asked a ha) more).2 hlost)

theorem channel_closeIf (s : Scene σ) (cause : Bool) (closer : Closer) :
    (s.closeIf cause closer).channel = s.channel := by
  cases cause with
  | true => rfl
  | false => rfl

theorem tasks_closeIf (s : Scene σ) (cause : Bool) (closer : Closer) :
    (s.closeIf cause closer).tasks = if cause then s.tasks ++ [.flip closer] else s.tasks := by
  cases cause with
  | true => rfl
  | false => rfl

/-- A call that looks at its handle leaves the channel as the look does, and begins to
close it if it ends with an error that nobody has reported. -/
theorem await_looks (ha : s.side.open? index = some a)
    {outcome : Option (Except ChannelError a.handle.expects.Reply)} {c : Channel σ}
    (hlooks : s.channel.Looks a.handle limit expired outcome c) :
    (s.await index expired).channel = c ∧
      (s.await index expired).tasks
        = if outcome.any Channel.endsChannel then s.tasks ++ [.flip .caller] else s.tasks := by
  obtain ⟨hasked, hunsettled⟩ := Side.open?_eq_some.mp ha
  have hpolled : s.side.poll index = { s.side with
      channel := (s.channel.pollReply a.handle).2.2
      asked := s.side.asked.set index
        (a.mark (s.channel.pollReply a.handle).2.1 (s.channel.pollReply a.handle).1.isSome) } := by
    rw [Side.poll, ha]
    rfl
  have hchannel : (s.onSide (.poll index)).channel = (s.channel.pollReply a.handle).2.2 :=
    congrArg Side.channel hpolled
  cases hlooks with
  | @settled result hpoll =>
      have hawait : s.await index expired
          = (s.onSide (.poll index)).closeIf (Channel.endsChannel result) .caller := by
        rw [await, ha]
        dsimp only
        rw [hpoll]
      rw [hawait]
      exact ⟨(channel_closeIf _ _ _).trans hchannel, tasks_closeIf _ _ _⟩
  | timedOut hpoll hexpired =>
      have hawait : s.await index expired
          = ((s.onSide (.poll index)).onSide (.forget index)).begin (.flip .caller) := by
        rw [await, ha, hexpired]
        dsimp only
        rw [hpoll]
      -- the look has found nothing, so the handle that is dropped is not settled
      have hopen : (s.side.poll index).open? index
          = some (a.mark (s.channel.pollReply a.handle).2.1 false) := by
        rw [hpolled, hpoll, Side.open?_eq_some]
        exact ⟨List.getElem?_set_self (List.getElem?_eq_some_iff.mp hasked).1, rfl⟩
      rw [hawait]
      refine ⟨?_, rfl⟩
      change ((s.side.poll index).forget index).channel = _
      rw [Side.forget_of_open _ hopen]
      change (s.onSide (.poll index)).channel.removeWaiter a.handle.frameId = _
      rw [hchannel, Channel.pollReply_of_none hpoll]
  | goesOn hpoll hexpired =>
      have hawait : s.await index expired = s.onSide (.poll index) := by
        rw [await, ha, hexpired]
        dsimp only
        rw [hpoll]
      rw [hawait]
      exact ⟨hchannel.trans (Channel.pollReply_of_none hpoll), rfl⟩

/-! ### Closing by a call -/

/-- A shutdown that has begun has closed the channel, or taken no step yet. -/
theorem closed_of_flip {closer : Closer} (h : s.tasks[index]? = some (.flip closer))
    (acts : List (Act σ)) :
    (s.run acts).tasks[index]? = some (.flip closer) ∨ (s.run acts).channel.isOpen = false := by
  induction acts generalizing s with
  | nil => exact Or.inl h
  | cons act acts ih =>
      cases hown : act.isStepOf index with
      | false => exact ih (getElem?_step_of_not_isStepOf h hown)
      | true =>
          refine Or.inr ((movesOn_run (s.step act) acts).isOpen ?_)
          cases act with
          | proceed i =>
              obtain rfl : i = index := by simpa [Act.isStepOf] using hown
              change (s.proceed i).channel.isOpen = false
              rw [tasks_proceed h]
              change (s.channel.proceed (.flip closer)).2.isOpen = false
              rw [Channel.proceed]
              cases hopen : s.channel.isOpen with
              | true => rfl
              | false => exact (s.channel.isOpen_leave closer).trans hopen
          | _ => cases hown

/-- A shutdown that has begun is over once it has taken four steps. -/
theorem over_of_flip {closer : Closer} (h : s.tasks[index]? = some (.flip closer))
    (acts : List (Act σ)) (hsteps : 4 ≤ acts.countP (Act.isStepOf index)) :
    ∃ first, (s.run acts).tasks[index]? = some (.closed closer first) := by
  obtain ⟨later, hlater, hleft, hkept⟩ := task_run h acts
  have hover : later.isOver = true := by
    refine Task.isOver_of_left ?_
    have hbegun : (Task.flip closer : Task σ).left = 4 := rfl
    omega
  have hshuts :=
    hkept (fun task => task.closer? = some closer ∨ ∃ first, task = .closed closer first)
      ?_ (Or.inl rfl)
  · rcases hshuts with hcloser | ⟨first, rfl⟩
    · cases later with
      | started | closed | listened => cases hcloser
      | _ => cases hover
    · exact ⟨first, hlater⟩
  · rintro c task (hcloser | ⟨first, rfl⟩)
    · cases task with
      | flip closer' =>
          cases hcloser
          rw [Channel.proceed]
          cases c.isOpen with
          | true => exact Or.inl rfl
          | false => exact Or.inr ⟨false, rfl⟩
      | cancel | clearWaiters => exact Or.inl hcloser
      | clearWorkbench closer' =>
          cases hcloser
          exact Or.inr ⟨true, rfl⟩
      | _ => cases hcloser
    · exact Or.inr ⟨first, rfl⟩

/-- A shutdown that yields that it has closed the channel has done all there was to do. -/
theorem isShut_of_first (honce : s.ClosedOnce) {closer : Closer}
    (h : Task.closed closer true ∈ s.tasks) : s.IsShut := by
  have hcloses : s.tasks.countP Task.hasClosed ≠ 0 :=
    Nat.pos_iff_ne_zero.mp (List.countP_pos_iff.mpr ⟨_, h, rfl⟩)
  have hclosed : s.channel.isOpen = false := by
    refine Bool.eq_false_iff.mpr fun hopen => hcloses ?_
    rw [honce, if_pos hopen]
  refine ⟨hclosed, fun task htask hcloser => ?_⟩
  have hone : (s.tasks.filter Task.hasClosed).length = 1 := by
    rw [← List.countP_eq_length_filter, honce, hclosed]
    rfl
  obtain ⟨only, honly⟩ := List.length_eq_one_iff.mp hone
  have hall {task : Task σ} (htask : task ∈ s.tasks) (hcloser : task.hasClosed = true) :
      task = only := by
    have hmem := List.mem_filter.mpr ⟨htask, hcloser⟩
    rwa [honly, List.mem_singleton] at hmem
  rw [hall htask hcloser, ← hall h rfl]
  rfl

/-! ### What is kept throughout -/

/-- What holds of a scene from the creation of its channel on. -/
structure Kept (s : Scene σ) (issued : List PendingWrite) : Prop where
  orderly : s.side.Orderly
  books : s.side.Books issued
  ticketed : s.side.Ticketed
  sweeping : s.Sweeping

theorem kept_created (registry : Registry) (config : ChannelConfig) (writes : List WriteTurn)
    (flushes : List FlushTurn) (app : σ) :
    (created registry config writes flushes app).Kept [] where
  orderly := ⟨List.forall_mem_nil _, List.forall_mem_nil _⟩
  books := books_created registry config writes flushes app
  ticketed := Side.ticketed_created registry config writes flushes app
  sweeping := sweeping_created registry config writes flushes app

theorem Kept.run (h : s.Kept issued) (acts : List (Act σ)) :
    ∃ later, (s.run acts).Kept (issued ++ later) := by
  obtain ⟨horderly, later, hbooks⟩ := books_run h.books h.orderly acts
  exact ⟨later, horderly, hbooks, ticketed_run h.ticketed acts, sweeping_run h.sweeping acts⟩

/-- Once the shutdown that has closed the channel is over, a request of which no reply
was delivered has come to nothing. -/
theorem Kept.hasFailed (h : s.Kept issued) (hshut : s.IsShut) (ha : a ∈ s.side.asked)
    (hnone : ∀ m, (a.handle.frameId, m) ∉ s.side.delivered) (more : List (Act σ)) :
    (s.run more).channel.HasFailed a.handle := by
  refine hasFailed_run h.books h.ticketed ha hnone ?_ more
  intro hwaits
  obtain ⟨w, hw, hticket⟩ := Channel.mem_waitingTickets.mp hwaits
  have hconfirming := (waiters_of_isShut h.sweeping hshut).1 w hw _ hticket
  exact h.ticketed.not_mem_confirming ha w.1 hconfirming

/-! ### Failing fast -/

/-- A task closes the channel for a caller, whatever comes between its steps. -/
structure ShutsDown (s : Scene σ) (index : Nat) (more : List (Act σ)) : Prop where
  /-- The shutdown is over after four steps. -/
  finishes : 4 ≤ more.countP (Act.isStepOf index) →
    ∃ first, (s.run more).tasks[index]? = some (.closed .caller first)
  /-- Then the channel is closed, and if no other shutdown was the first, all is done. -/
  closed : ∀ first, (s.run more).tasks[index]? = some (.closed .caller first) →
    (s.run more).channel.isOpen = false ∧ (first = true → (s.run more).IsShut)
  /-- When the first shutdown is over, nothing is in the table but what calls are about
  to take back. -/
  cleared : (s.run more).IsShut →
    ∀ w ∈ (s.run more).channel.waiters, w.1 ∈ (s.run more).registering
  /-- All requests of which no reply was delivered have come to nothing then, for good. -/
  failed : (s.run more).IsShut → ∀ b ∈ (s.run more).side.asked,
    (∀ m, (b.handle.frameId, m) ∉ (s.run more).side.delivered) →
    ∀ further, ((s.run more).run further).channel.HasFailed b.handle

theorem Kept.shutsDown (h : s.Kept issued) (hflip : s.tasks[index]? = some (.flip .caller))
    (more : List (Act σ)) : s.ShutsDown index more := by
  obtain ⟨later, hlater⟩ := h.run more
  refine ⟨over_of_flip hflip more, fun first hfirst => ⟨?_, fun hwas => ?_⟩, ?_, ?_⟩
  · rcases closed_of_flip hflip more with hbegun | hclosed
    · cases hfirst.symm.trans hbegun
    · exact hclosed
  · cases hwas
    exact isShut_of_first hlater.sweeping.closing.closedOnce (List.mem_of_getElem? hfirst)
  · exact fun hshut => (waiters_of_isShut hlater.sweeping hshut).2
  · exact fun hshut b hb hnone => hlater.hasFailed hshut hb hnone

/-- The scene with its channel in another state. -/
def withChannel (s : Scene σ) (c : Channel σ) : Scene σ :=
  { s with side := { s.side with channel := c } }

/-- What comes of a call that looks at its request in a scene. The channel `called` is
the one after the call as a whole, and the scene `ended` the one in which it begins to
close the channel if it has to, for others to come between. -/
structure FailsFast (s ended : Scene σ) (a : Asked) (expired : Bool)
    (outcome : Option (Except ChannelError a.handle.expects.Reply)) (called : Channel σ) :
    Prop where
  /-- A call whose time is up ends. -/
  ends : expired = true → outcome.isSome
  /-- As long as it goes on it does nothing to the channel. -/
  goesOn : outcome = none →
    called = s.channel ∧ ended.channel = s.channel ∧ ended.tasks = s.tasks
  /-- If it ends with the reply or with what the other side reported, it has done nothing
  to the channel, and its handle is out of the table. -/
  spares : ∀ result, outcome = some result →
    (∃ reply, result = .ok reply) ∨ (∃ type text, result = .error (.remote type text)) →
    called = s.channel ∧ ended.channel = s.channel ∧ ended.tasks = s.tasks ∧
      a.handle.ticket ∉ s.channel.waitingTickets
  /-- Any other end closes a channel that is open. Nothing is in the table then, and all
  requests of which no reply was delivered have come to nothing, for good. -/
  closes : ∀ e, outcome = some (.error e) → (∀ type text, e ≠ .remote type text) →
    s.channel.isOpen = true → called.isOpen = false ∧ called.waiters = [] ∧
      ∀ b ∈ s.side.asked, (∀ m, (b.handle.frameId, m) ∉ s.side.delivered) →
        ∀ more, ((s.withChannel called).run more).channel.HasFailed b.handle
  /-- Where others come between, a shutdown begins. -/
  shuts : ∀ e, outcome = some (.error e) → (∀ type text, e ≠ .remote type text) →
    ended.tasks = s.tasks ++ [.flip .caller] ∧ ∀ more, ended.ShutsDown s.tasks.length more
  /-- Whatever the call has ended with, its handle never waits again, and a message that
  comes on its frame id is handed to no handle. -/
  late : outcome.isSome → ∀ more,
    a.handle.ticket ∉ (ended.run more).channel.waitingTickets ∧
      ∀ m, Side.incoming (ended.run more).channel = some (a.handle.frameId, m) →
        (ended.run more).channel.HandsNothing ((ended.run more).step .read).channel

namespace Kept

/-- A call that looks at its handle keeps what is kept throughout. -/
theorem await (h : s.Kept issued) (index : Nat) (expired : Bool) :
    ∃ later, (s.await index expired).Kept (issued ++ later) := h.run [.await index expired]

/-- Nothing is left of the requests of a channel that a call has closed. -/
theorem hasFailed_of_shutdown (h : s.Kept issued) {c : Channel σ}
    {outcome : Option (Except ChannelError a.handle.expects.Reply)}
    (hlooks : s.channel.Looks a.handle limit expired outcome c)
    (hnone : c.shutdown.2.waiters = []) {b : Asked} (hb : b ∈ s.side.asked)
    (hundelivered : ∀ m, (b.handle.frameId, m) ∉ s.side.delivered) (more : List (Act σ)) :
    ((s.withChannel c.shutdown.2).run more).channel.HasFailed b.handle := by
  have hlooked : s.channel.Silent c ∧ s.channel.Fades c := by
    rcases hlooks.channel with rfl | rfl
    · exact ⟨.of_rests (.refl _), .refl _⟩
    · exact ⟨s.channel.silent_removeWaiter _, s.channel.fades_removeWaiter _⟩
  have hbefore : ({ s.side with channel := c } : Side σ).Books issued :=
    h.books.of_silent hlooked.1 ⟨rfl, rfl, rfl, rfl, rfl⟩
  have hafter : (s.withChannel c.shutdown.2).side.Books issued :=
    hbefore.of_silent (.of_rests c.rests_shutdown) ⟨rfl, rfl, rfl, rfl, rfl⟩
  have hticketed : (s.withChannel c.shutdown.2).side.Ticketed :=
    h.ticketed.of_channel (hlooked.2.trans c.fades_shutdown) s.side.delivered
  refine hasFailed_run hafter hticketed hb hundelivered ?_ more
  change b.handle.ticket ∉ c.shutdown.2.waiters.filterMap _
  rw [hnone]
  exact List.not_mem_nil

/-- After a call has ended, what comes on its frame id is handed to no handle. -/
theorem late (h : s.Kept issued) (ha : s.side.open? index = some a)
    {result : Except ChannelError a.handle.expects.Reply} {c : Channel σ}
    (hlooks : s.channel.Looks a.handle limit expired (some result) c) (more : List (Act σ)) :
    a.handle.ticket ∉ ((s.await index expired).run more).channel.waitingTickets ∧
      ∀ m, Side.incoming ((s.await index expired).run more).channel
          = some (a.handle.frameId, m) →
        ((s.await index expired).run more).channel.HandsNothing
          (((s.await index expired).run more).step .read).channel := by
  have hasked : a ∈ s.side.asked := List.mem_of_getElem? (Side.open?_eq_some.mp ha).1
  have hissued : a.write ∈ issued := h.books.issued_of_asked hasked
  have hgone : a.handle.ticket ∉ (s.await index expired).channel.waitingTickets :=
    (await_looks ha hlooks).1 ▸ h.books.not_waiting_of_looks h.ticketed hasked hlooks
  have htaken : a.handle.ticket ∈ (s.await index expired).side.accepted.map (·.ticket) :=
    await_keeps (P := fun s' => a.handle.ticket ∈ s'.side.accepted.map PendingWrite.ticket)
      (fun _ _ _ h => h) (fun _ act _ h => List.map_subset _ (accepted_onSide act) h)
      (h.ticketed.asked a hasked) index expired
  obtain ⟨later, hended⟩ := h.await index expired
  have hstays := (lost_run hended.ticketed htaken more).1 hgone
  refine ⟨hstays, fun m hincoming => ?_⟩
  obtain ⟨later', hlater⟩ := hended.run more
  have hlate := hlater.books.handsNothing
    (List.mem_append_left _ (List.mem_append_left _ hissued)) hstays hincoming
  generalize (s.await index expired).run more = s' at hlate
  change s'.channel.HandsNothing s'.read.channel
  rw [Scene.read]
  split
  · exact ⟨List.Sublist.refl _, rfl⟩
  · rw [channel_closeIf]
    exact hlate

/-- **A call fails fast.** -/
theorem failsFast (h : s.Kept issued) (ha : s.side.open? index = some a) (limit : Duration)
    (expired : Bool) :
    s.FailsFast (s.await index expired) a expired (s.channel.pollCall a.handle limit expired).1
      (s.channel.pollCall a.handle limit expired).2.2 := by
  obtain ⟨hasked, hunsettled⟩ := Side.open?_eq_some.mp ha
  obtain ⟨c, hlooks, hcalled⟩ := s.channel.pollCall_looks hunsettled limit expired
  rw [hcalled]
  generalize (s.channel.pollCall a.handle limit expired).1 = outcome at hlooks
  obtain ⟨hchannel, htasks⟩ := await_looks ha hlooks
  have hcloses {e : ChannelError} (houtcome : outcome = some (.error e))
      (hown : ∀ type text, e ≠ .remote type text) : outcome.any Channel.endsChannel = true := by
    rw [houtcome]
    exact Channel.endsChannel_eq_true hown
  refine ⟨?ends, ?goesOn, ?spares, ?closes, ?shuts, ?late⟩
  case ends =>
    rintro rfl
    cases hlooks with
    | settled | timedOut => rfl
    | goesOn hpoll hexpired => cases hexpired
  case goesOn =>
    rintro rfl
    cases hlooks
    exact ⟨rfl, hchannel, htasks⟩
  case spares =>
    rintro result rfl hanswer
    have hgone :=
      h.books.not_waiting_of_looks h.ticketed (List.mem_of_getElem? hasked) hlooks
    have hends := Channel.endsChannel_eq_false hanswer
    have hsame : c = s.channel := by
      cases hlooks with
      | settled hpoll => exact Channel.pollReply_of_answer hpoll hends
      | timedOut => cases hends
    rw [Option.any_some, hends] at htasks ⊢
    exact ⟨hsame, hchannel.trans hsame, htasks, hsame ▸ hgone⟩
  case closes =>
    intro e houtcome hown hopen
    rw [if_pos (hcloses houtcome hown)]
    have hnone : c.shutdown.2.waiters = [] := by
      refine Channel.waiters_shutdown ?_
      rcases hlooks.channel with rfl | rfl
      · exact hopen
      · exact hopen
    exact ⟨c.isOpen_shutdown, hnone, fun b hb hundelivered more =>
      h.hasFailed_of_shutdown hlooks hnone hb hundelivered more⟩
  case shuts =>
    intro e houtcome hown
    rw [if_pos (hcloses houtcome hown)] at htasks
    obtain ⟨later, hended⟩ := h.await index expired
    refine ⟨htasks, hended.shutsDown ?_⟩
    rw [htasks]
    exact List.getElem?_concat_length
  case late =>
    intro hsome more
    obtain ⟨result, rfl⟩ := Option.isSome_iff_exists.mp hsome
    exact h.late ha hlooks more

end Kept

end Scene

/-- **Calls fail fast, and leave the channel alone otherwise.** A call whose request is
refused leaves the channel as it was, also if others come between its steps, unless it
is refused as the channel is closed. Take any moment of any run from the creation of a
channel on, any request that was queued and is not settled, and a look at the call that
waits for its reply. Whatever else is pending, the call has done nothing to the channel if it ends
with the reply or with what the other side reported. If it ends with any other error,
the channel is closed, nothing is left in the table, and all requests of which no reply
was delivered come to nothing. A message that comes on its frame id after it has
ended is handed to no handle. -/
theorem calls_fail_fast (registry : Registry) (config : ChannelConfig) (writes : List WriteTurn)
    (flushes : List FlushTurn) (app : σ) :
    (∀ (session : Session σ) (r : RequestType) (payload : r.Payload) (limit : Duration)
      (e : ChannelError), (session.channel.request r payload).1 = .error e →
      (session.call r payload limit).outcome? session.calls.length = some (.error e) ∧
        session.channel.Untouched (session.call r payload limit).channel) ∧
    (∀ (r : RequestType) (payload : r.Payload) (steps : List (Channel σ × Channel σ))
      (e : ChannelError), Channel.Trail (.request r payload) .check steps (.error e) →
      e ≠ .closed → ∀ step ∈ steps, step.1.Untouched step.2) ∧
    ∀ (acts : List (Scene.Act σ)) (index : Nat) (a : Asked),
      let s := (Scene.created registry config writes flushes app).run acts
      s.side.open? index = some a → ∀ (limit : Duration) (expired : Bool),
        s.FailsFast (s.await index expired) a expired
          (s.channel.pollCall a.handle limit expired).1
          (s.channel.pollCall a.handle limit expired).2.2 := by
  refine ⟨fun session r payload limit e => session.call_of_refused r payload limit,
    fun r payload steps e htrail => htrail.untouched rfl, ?_⟩
  intro acts index a s ha limit expired
  obtain ⟨later, hkept⟩ := (Scene.kept_created registry config writes flushes app).run acts
  exact hkept.failsFast ha limit expired

/-- The first of two requests is given up. The other one comes to nothing, and a late
reply to the first one is handed to no handle. -/
theorem given_up_request_takes_other_along :
    let ask : List (Scene.Act Unit) :=
      .side (.call (.request .ping ())) :: List.replicate 6 (.side (.advance 0))
    let reply : Arrival := .data (Frame.mk 0 (MessageType.reply .ping).wireId []).bytes
    let s := (Scene.created .catalog {} [] [] ()).run
      ([.start true, .proceed 0, .proceed 0] ++ ask ++ ask)
    let a : Asked := ⟨{ ticket := 0, frameId := 0, expects := .ping }, ()⟩
    let b : Asked := ⟨{ ticket := 1, frameId := 1, expects := .ping }, ()⟩
    let call := s.channel.pollCall a.handle (.ofMillis 5) true
    let late := (s.await 0 true).run [.side (.arrive reply)]
    s.side.asked = [a, b] ∧ s.channel.isOpen = true ∧
      call.1 = some (.error (.timeout (.ofMillis 5))) ∧
      (∀ more, ((s.withChannel call.2.2).run more).channel.HasFailed b.handle) ∧
      Side.incoming late.channel = some (0, .reply .ping ()) ∧
      (late.step .read).channel.jobs.filterMap Job.reply? = [] ∧
      (late.step .read).channel.replies = [] := by
  intro ask reply s a b call late
  have hasked : s.side.asked = [a, b] := by decide +kernel
  have hopen : s.channel.isOpen = true := by decide +kernel
  have hcall : call.1 = some (.error (.timeout (.ofMillis 5))) := by decide +kernel
  have hincoming : Side.incoming late.channel = some (0, .reply .ping ()) := by decide +kernel
  have hfast := (calls_fail_fast .catalog {} [] [] ()).2.2
    ([.start true, .proceed 0, .proceed 0] ++ ask ++ ask) 0 a
    (by rw [Side.open?, hasked]; rfl) (.ofMillis 5) true
  obtain ⟨-, -, hfailed⟩ := hfast.closes _ hcall (by rintro type text ⟨⟩) hopen
  have hlate := (hfast.late (hcall ▸ rfl) [.side (.arrive reply)]).2 _ hincoming
  have hdue : late.channel.jobs.filterMap Job.reply? = [] := by decide +kernel
  have hkept : late.channel.replies = [] := by decide +kernel
  have hdelivered : s.side.delivered = [] := by decide +kernel
  refine ⟨hasked, hopen, hcall, hfailed b ?_ fun m => ?_, hincoming, ?_, hlate.replies.trans hkept⟩
  · rw [hasked]
    exact List.mem_cons_of_mem _ (List.mem_singleton_self _)
  · rw [hdelivered]
    exact List.not_mem_nil
  · exact List.sublist_nil.mp (hdue ▸ hlate.due)

end Parley
