/-
Where the tickets of a side are.

Each call that sends takes a ticket. The ticket of a message is with the message
until it is with what came of the write, and the ticket of a request is also
with the handle that waits in the table, with a call that is due or with the
reply that was kept. Whatever happens to a channel brings back no ticket that
has been lost (`Channel.Fades`), and so no ticket is in two places, whatever
happens to a side (`Side.Ticketed`).
-/
import Parley.Proofs.Channel.Race

namespace Parley

open scoped List

variable {σ : Type}

namespace Channel

variable {c c' c'' : Channel σ}

/-- The tickets of messages, first those of which it is recorded what came of the
write. -/
def writeTickets (c : Channel σ) : List Nat :=
  c.outcomes.map Prod.fst ++ c.unwritten.map (·.ticket)

/-- The tickets of the handles that wait, of those for which a call is due, and of
those for which a reply is kept. -/
def replyTickets (c : Channel σ) : List Nat :=
  c.waiters.filterMap (·.2.ticket?) ++ c.jobs.filterMap Job.ticket? ++ c.replies.map Prod.fst

/-- Tickets are lost at most, and what is recorded stays recorded. -/
structure Fades (c c' : Channel σ) : Prop where
  nextTicket : c.nextTicket ≤ c'.nextTicket
  recorded : c.outcomes ⊆ c'.outcomes
  writes : c'.writeTickets <+ c.writeTickets
  replies : c'.replyTickets <+~ c.replyTickets

theorem Fades.trans (h : Fades c c') (h' : Fades c' c'') : Fades c c'' where
  nextTicket := Nat.le_trans h.nextTicket h'.nextTicket
  recorded := List.Subset.trans h.recorded h'.recorded
  writes := h'.writes.trans h.writes
  replies := h'.replies.trans h.replies

theorem Fades.of_sublist (hticket : c'.nextTicket = c.nextTicket)
    (houtcomes : c'.outcomes = c.outcomes) (hunwritten : c'.unwritten <+ c.unwritten)
    (hwaiters : c'.waiters <+ c.waiters) (hjobs : c'.jobs <+ c.jobs)
    (hreplies : c'.replies = c.replies) : Fades c c' where
  nextTicket := Nat.le_of_eq hticket.symm
  recorded := by
    rw [houtcomes]
    exact List.Subset.refl _
  writes := by
    rw [writeTickets, houtcomes]
    exact (List.Sublist.refl _).append (hunwritten.map _)
  replies := by
    rw [replyTickets, hreplies]
    exact (((hwaiters.filterMap _).append (hjobs.filterMap _)).append_right _).subperm

/-- What brings nothing that concerns a handle brings no ticket. -/
theorem Fades.of_quiet (h : Quiet c c') (houtcomes : c'.outcomes = c.outcomes)
    (hunwritten : c'.unwritten <+ c.unwritten) : Fades c c' where
  nextTicket := Nat.le_of_eq (congrArg Core.nextTicket h.core).symm
  recorded := by
    rw [houtcomes]
    exact List.Subset.refl _
  writes := by
    rw [writeTickets, houtcomes]
    exact (List.Sublist.refl _).append (hunwritten.map _)
  replies := by
    obtain ⟨newWaiters, hnoTicket, hwaiters⟩ := h.waiters
    obtain ⟨newJobs, haside, hjobs⟩ := h.jobs
    have hreplies : c'.replies = c.replies := congrArg Core.replies h.core
    have hnoWaiters : newWaiters.filterMap (·.2.ticket?) = [] :=
      List.filterMap_eq_nil_iff.mpr hnoTicket
    have hnoJobs : newJobs.filterMap Job.ticket? = [] := by
      refine List.filterMap_eq_nil_iff.mpr fun j hj => ?_
      have hreply := (haside j hj).1
      cases j with
      | response w m =>
          cases w with
          | handle ticket => cases hreply
          | listener run => rfl
      | _ => rfl
    have hwaiters := hwaiters.filterMap (·.2.ticket?)
    have hjobs := hjobs.filterMap Job.ticket?
    rw [List.filterMap_append, hnoWaiters, List.append_nil] at hwaiters
    rw [List.filterMap_append, hnoJobs, List.append_nil] at hjobs
    rw [replyTickets, hreplies]
    exact ((hwaiters.append hjobs).append_right _).subperm

theorem Fades.refl (c : Channel σ) : Fades c c :=
  .of_quiet (Keeps.refl c).toQuiet rfl (List.Sublist.refl _)

variable (c)

/-! ### Workers -/

theorem outcomes_post (jobs : List (Job σ)) :
    (c.post jobs).outcomes = c.outcomes ∧ (c.post jobs).unwritten = c.unwritten := by
  unfold post
  split
  · exact ⟨rfl, rfl⟩
  · exact ⟨rfl, rfl⟩

theorem fades_post_aside {jobs : List (Job σ)} (h : ∀ j ∈ jobs, j.IsAside) :
    Fades c (c.post jobs) := by
  obtain ⟨houtcomes, hunwritten⟩ := c.outcomes_post jobs
  exact .of_quiet (c.keeps_post h).toQuiet houtcomes (hunwritten ▸ List.Sublist.refl _)

/-- What is found in a table and what is left without it were in the table. -/
theorem lookup_filterMap_subperm {α β : Type} (f : α → Option β) (l : List (Int32 × α))
    (key : Int32) :
    (l.lookup key).toList.filterMap f ++ (l.filter (·.1 ≠ key)).filterMap (fun x => f x.2)
      <+~ l.filterMap fun x => f x.2 := by
  induction l with
  | nil => exact List.Subperm.refl _
  | cons x l ih =>
      obtain ⟨id, a⟩ := x
      by_cases hid : key = id
      · subst hid
        have hfound : ((key, a) :: l).lookup key = some a := by simp
        have hothers : ((key, a) :: l).filter (·.1 ≠ key) = l.filter (·.1 ≠ key) := by simp
        have hleft : (l.filter (·.1 ≠ key)).filterMap (fun x => f x.2)
            <+ l.filterMap fun x => f x.2 := List.filter_sublist.filterMap _
        rw [hfound, hothers, Option.toList_some, List.filterMap_cons, List.filterMap_cons]
        cases f a with
        | none => exact hleft.subperm
        | some b => exact (hleft.cons_cons b).subperm
      · have hfound : ((id, a) :: l).lookup key = l.lookup key := by
          rw [List.lookup_cons, beq_eq_false_iff_ne.mpr hid]
        have hothers : ((id, a) :: l).filter (·.1 ≠ key) = (id, a) :: l.filter (·.1 ≠ key) := by
          simp [Ne.symm hid]
        rw [hfound, hothers, List.filterMap_cons, List.filterMap_cons]
        cases f a with
        | none => exact ih
        | some b => exact List.perm_middle.subperm.trans ((List.subperm_cons b).mpr ih)

/-- The handle that waits on the frame id of a message is the one that is called. -/
theorem fades_deliver (frameId : Int32) (m : Message) : Fades c (c.deliver frameId m) := by
  unfold deliver
  split
  · apply fades_post_aside
    intro j hj
    obtain ⟨l, -, rfl⟩ := List.mem_map.mp hj
    exact ⟨rfl, rfl⟩
  · have hremoved : Fades c (c.removeWaiter frameId) :=
      .of_quiet (c.keeps_removeWaiter frameId).toQuiet rfl (List.Sublist.refl _)
    unfold post
    split
    case isFalse => exact hremoved
    refine ⟨Nat.le_refl _, List.Subset.refl _, List.Sublist.refl _, ?_⟩
    have htraffic : (c.onTraffic.toList.map fun l => Job.traffic l frameId m).filterMap Job.ticket?
        = [] := by
      rw [List.filterMap_map]
      exact List.filterMap_eq_nil_iff.mpr fun _ _ => rfl
    have hresponse : ((c.waiters.lookup frameId).toList.map fun w => Job.response w m).filterMap
        Job.ticket? = (c.waiters.lookup frameId).toList.filterMap Waiter.ticket? := by
      rw [List.filterMap_map]
      refine List.filterMap_congr fun w _ => ?_
      cases w <;> rfl
    have hmoved := lookup_filterMap_subperm Waiter.ticket? c.waiters frameId
    rw [← hresponse] at hmoved
    have hjobs (new : List (Job σ)) : (c.pool ++ (c.events ++ new)).filterMap Job.ticket?
        = c.jobs.filterMap Job.ticket? ++ new.filterMap Job.ticket? := by
      rw [← List.append_assoc, List.filterMap_append]
      rfl
    refine (List.subperm_append_right _).mpr ?_
    change (c.waiters.filter (·.1 ≠ frameId)).filterMap _
      ++ (c.pool ++ (c.events ++ (_ ++ _))).filterMap Job.ticket? <+~ _
    rw [hjobs, List.filterMap_append, htraffic, List.append_nil, ← List.append_assoc]
    refine List.perm_append_comm.subperm.trans ?_
    rw [← List.append_assoc]
    exact (List.subperm_append_right _).mpr hmoved

theorem fades_collected : Fades c c.collected :=
  .of_quiet c.quiet_collected rfl (List.Sublist.refl _)

theorem fades_readTurn : Fades c c.readTurn.2 := by
  have hread := c.readTurn_cases
  generalize c.readTurn = turn at hread
  generalize Side.incoming c = brought at hread
  cases hread with
  | idle => exact .refl c
  | delivered => exact c.fades_collected.trans (fades_deliver _ _ _)
  | nothing => exact c.fades_collected

/-- A message that is taken from those to be written is lost, or it is recorded
what came of it. -/
theorem fades_taken {w : PendingWrite} {queue : List PendingWrite}
    (h : c.unwritten = w :: queue) (writer : FrameWriter) (sink : Sink)
    (recorded : List (Nat × Except FrameError Nat))
    (hrecorded : recorded.map Prod.fst <+ [w.ticket]) :
    Fades c { c with
      queue, current := none, writer, sink, outcomes := c.outcomes ++ recorded } where
  nextTicket := Nat.le_refl _
  recorded := List.subset_append_left _ _
  writes := by
    rw [writeTickets, writeTickets, h, List.map_append, List.append_assoc, List.map_cons,
      ← List.singleton_append]
    exact (hrecorded.append_right _).append_left _
  replies := List.Subperm.refl _

theorem fades_writeTurn : Fades c c.writeTurn.2 := by
  have hwrite := c.writeTurn_cases
  generalize c.writeTurn = turn at hwrite
  cases hwrite with
  | idle => exact .refl c
  | @goesOn out queue writer sink hwriting hfirst =>
      refine .of_sublist rfl rfl ?_ (List.Sublist.refl _) (List.Sublist.refl _) rfl
      rw [hfirst]
      exact List.Sublist.refl _
  | @written w queue length sink hwriting hfirst =>
      refine (c.fades_taken hfirst c.writer sink [(w.ticket, .ok length)]
        (List.Sublist.refl _)).trans (fades_post_aside _ ?_)
      intro j hj
      obtain ⟨l, -, rfl⟩ := List.mem_map.mp hj
      exact ⟨rfl, rfl⟩
  | @refused w queue e writer sink hwriting hfirst =>
      exact c.fades_taken hfirst writer sink [(w.ticket, .error e)] (List.Sublist.refl _)
  | @failed w queue writer sink hwriting hfirst =>
      have hlost := c.fades_taken hfirst writer sink [] (List.nil_sublist _)
      rwa [List.append_nil] at hlost

theorem fades_relayStep : Fades c c.relayStep := by
  refine .of_quiet c.keeps_relayStep.toQuiet ?_ ?_
  · unfold relayStep
    split
    · split <;> rfl
    · rfl
  · have hunwritten : c.relayStep.unwritten = c.unwritten := by
      unfold relayStep
      split
      · split <;> rfl
      · rfl
    rw [hunwritten]

/-- A reply that is kept is due no longer. -/
theorem fades_reply {index ticket : Nat} {job : Job σ} (hjob : c.pool[index]? = some job)
    (hticket : job.ticket? = some ticket) (m : Message) :
    Fades c { c.withoutJob index with replies := c.replies ++ [(ticket, m)] } := by
  refine ⟨Nat.le_refl _, List.Subset.refl _, List.Sublist.refl _, List.Perm.subperm ?_⟩
  have hjobs : c.jobs.filterMap Job.ticket?
      ~ ticket :: (c.withoutJob index).jobs.filterMap Job.ticket? := by
    have hpool := filterMap_perm_eraseIdx Job.ticket? hjob
    rw [hticket] at hpool
    rw [jobs, jobs, List.filterMap_append, List.filterMap_append]
    exact hpool.append_right _
  calc c.waiters.filterMap (·.2.ticket?) ++ (c.withoutJob index).jobs.filterMap Job.ticket?
        ++ (c.replies ++ [(ticket, m)]).map Prod.fst
      = c.waiters.filterMap (·.2.ticket?) ++ (c.withoutJob index).jobs.filterMap Job.ticket?
        ++ c.replies.map Prod.fst ++ [ticket] := by
          rw [List.map_append, ← List.append_assoc]
          rfl
    _ ~ ticket :: (c.waiters.filterMap (·.2.ticket?)
        ++ (c.withoutJob index).jobs.filterMap Job.ticket? ++ c.replies.map Prod.fst) :=
          List.perm_append_singleton _ _
    _ ~ c.waiters.filterMap (·.2.ticket?)
        ++ ticket :: (c.withoutJob index).jobs.filterMap Job.ticket? ++ c.replies.map Prod.fst :=
          List.perm_middle.symm.append_right _
    _ ~ c.replyTickets := ((hjobs.symm.append_left _).append_right _)

theorem fades_endReading : Fades c c.endReading :=
  .of_quiet c.keeps_endReading.toQuiet rfl (List.Sublist.refl _)

theorem fades_endWriting : Fades c c.endWriting :=
  .of_quiet c.quiet_endWriting rfl (List.nil_sublist _)

theorem fades_endRelaying : Fades c c.endRelaying :=
  .of_quiet c.keeps_endRelaying.toQuiet rfl (List.Sublist.refl _)

theorem fades_leave (closer : Closer) : Fades c (c.leave closer) := by
  cases closer with
  | caller => exact .refl c
  | reader => exact c.fades_endReading
  | writer => exact c.fades_endWriting

/-! ### Handles and tasks -/

theorem fades_removeWaiter (frameId : Int32) : Fades c (c.removeWaiter frameId) :=
  .of_quiet (c.keeps_removeWaiter frameId).toQuiet rfl (List.Sublist.refl _)

theorem fades_launch : Fades c c.launch := by
  unfold launch
  split
  · exact .of_sublist rfl rfl (List.Sublist.refl _) (List.Sublist.refl _) (List.Sublist.refl _) rfl
  · exact .refl c

theorem fades_clearWorkbench : Fades c c.clearWorkbench := by
  unfold clearWorkbench
  split
  · exact .of_sublist rfl rfl ((List.Sublist.refl _).append (List.nil_sublist _))
      (List.Sublist.refl _) ((List.Sublist.refl _).append (List.nil_sublist _)) rfl
  · exact .refl c

theorem fades_proceed (task : Task σ) : Fades c (c.proceed task).2 := by
  have hproceed := c.proceed_cases task
  generalize c.proceed task = after at hproceed
  cases hproceed with
  | ended | declines | checks | refuses | collides | confirms => exact .refl c
  | claims =>
      exact .of_sublist rfl rfl (List.Sublist.refl _) (List.Sublist.refl _) (List.Sublist.refl _)
        rfl
  | launches => exact c.fades_launch
  | flips => exact .of_quiet c.keeps_flip.toQuiet rfl (List.Sublist.refl _)
  | cancels => exact .of_quiet c.keeps_cancel.toQuiet rfl (List.Sublist.refl _)
  | sweeps => exact .of_quiet c.keeps_clearWaiters.toQuiet rfl (List.Sublist.refl _)
  | leaves => exact c.fades_leave _
  | clears => exact c.fades_clearWorkbench.trans (fades_leave _ _)
  | withdraws => exact c.fades_removeWaiter _
  | @inserts frameId run =>
      -- a listener has no ticket
      have hnew : ∀ w ∈ [(frameId, Waiter.listener run)], w.2.ticket? = none := by
        simp [Waiter.ticket?]
      refine .of_quiet ⟨rfl, ⟨_, hnew, List.Sublist.refl _⟩, ⟨[], List.forall_mem_nil _, ?_⟩⟩ rfl
        (List.Sublist.refl _)
      rw [List.append_nil]
      exact List.Sublist.refl _

/-- A handle remembers only what was recorded. -/
theorem pollReply_written {h : ReplyHandle} (hwritten : (c.pollReply h).2.1 = true) :
    h.written = true ∨ ∃ length, (h.ticket, Except.ok length) ∈ c.outcomes := by
  unfold pollReply at hwritten
  split at hwritten
  next hknown => exact Or.inl hknown
  · split at hwritten
    next length hpoll =>
      refine Or.inr ⟨length, ?_⟩
      unfold pollWrite at hpoll
      split at hpoll
      next n hlookup =>
        cases hpoll
        exact mem_of_lookup hlookup
      · cases hpoll
      · split at hpoll <;> cases hpoll
    · cases hwritten
    · cases hwritten

end Channel

/-! ### Sides -/

theorem Stage.pending?_of_coming? {e : Order × Stage} {x : Nat × Int32}
    (h : Stage.coming? e = some x) :
    (Stage.pending? e).map (fun w => (w.ticket, w.frameId)) = some x := by
  obtain ⟨o, stage⟩ := e
  cases stage with
  | guard | await => exact h
  | _ => cases h

namespace Side

/-- What an act that is no step of a call does to the handles that were given
out: none of them is touched, or one of them remembers more. -/
inductive Marks (s : Side σ) (act : Act σ) : Prop
  | leaves (asked : (s.step act).asked = s.asked) (unsettled : s.settled? (.act act) = none)
  | marks {index : Nat} {a : Asked} (written settled : Bool) (found : s.asked[index]? = some a)
      (asked : (s.step act).asked = s.asked.set index (a.mark written settled))
      (remembers : a.handle.settled = true → settled = true)
      (settles : s.settled? (.act act)
        = if !a.handle.settled && settled then some a.handle.ticket else none)
      (recorded : written = true → a.handle.written = true ∨
        ∃ length, (a.handle.ticket, Except.ok length) ∈ s.channel.outcomes)

theorem marks_step (s : Side σ) {act : Act σ} (hact : ∀ index, act ≠ .advance index) :
    Marks s act := by
  cases act with
  | advance index => exact absurd rfl (hact index)
  | poll index =>
      have hstep : s.step (.poll index) = s.poll index := rfl
      cases hopen : s.open? index with
      | none =>
          refine .leaves ?_ (by rw [settled?, hopen]; rfl)
          rw [hstep, poll, hopen]
      | some a =>
          obtain ⟨hasked, hunsettled⟩ := open?_eq_some.mp hopen
          refine .marks (s.channel.pollReply a.handle).2.1
            (s.channel.pollReply a.handle).1.isSome hasked ?_ ?_ ?_ s.channel.pollReply_written
          · rw [hstep, poll, hopen]
          · intro hsettled
            cases hunsettled.symm.trans hsettled
          · rw [settled?, hopen, Option.filter_some, hunsettled]
            cases (s.channel.pollReply a.handle).1 with
            | none => rfl
            | some result => rfl
  | forget index =>
      have hstep : s.step (.forget index) = s.forget index := rfl
      cases hasked : s.asked[index]? with
      | none =>
          refine .leaves ?_ (by rw [settled?, open?, hasked]; rfl)
          rw [hstep, forget, hasked]
      | some a =>
          refine .marks a.handle.written true hasked ?_ (fun _ => rfl) ?_ Or.inl
          · rw [hstep, forget, hasked]
          · rw [settled?, open?, hasked, Option.filter_some]
            cases a.handle.settled with
            | true => rfl
            | false => rfl
  | finish index =>
      refine .leaves ?_ rfl
      change (s.finish index).asked = s.asked
      have hfinish := s.finish_cases index
      generalize s.finish index = s' at hfinish
      cases hfinish with
      | absent | aside | reply | unanswered | answered => rfl
  | _ => exact .leaves rfl rfl

/-- The messages that were taken or are to be taken, with their tickets. -/
def messages (s : Side σ) : List PendingWrite := s.accepted ++ s.errands.filterMap Stage.pending?

/-- No ticket is in two places. -/
structure Ticketed (s : Side σ) : Prop where
  messages : (s.messages.map (·.ticket)).Nodup
  bound : ∀ w ∈ s.messages, w.ticket < s.channel.nextTicket
  asked : ∀ a ∈ s.asked, a.handle.ticket ∈ s.accepted.map (·.ticket)
  writes : s.channel.writeTickets <+ s.accepted.map (·.ticket)
  replies : (s.channel.replyTickets ++ s.coming.map Prod.fst).Nodup
  replyBound : ∀ t ∈ s.channel.replyTickets, t < s.channel.nextTicket
  /-- A handle that remembers that its request was written is right. -/
  written : ∀ a ∈ s.asked, a.handle.written = true →
    ∃ length, (a.handle.ticket, Except.ok length) ∈ s.channel.outcomes

namespace Ticketed

variable {s s' : Side σ}

/-- The tickets of a side stay where they are, or are lost. -/
theorem of_fades (h : s.Ticketed) (hfades : s.channel.Fades s'.channel)
    (haccepted : s'.accepted = s.accepted)
    (hasked : ∀ a ∈ s'.asked, ∃ b ∈ s.asked, b.handle.ticket = a.handle.ticket ∧
      (a.handle.written = true → b.handle.written = true ∨
        ∃ length, (a.handle.ticket, Except.ok length) ∈ s'.channel.outcomes))
    (hmessages : s'.messages <+~ s.messages) (hcoming : s'.coming <+~ s.coming) :
    s'.Ticketed where
  messages := nodup_map_of_subperm hmessages h.messages
  bound := by
    intro w hw
    exact Nat.lt_of_lt_of_le (h.bound w (hmessages.subset hw)) hfades.nextTicket
  asked := by
    intro a ha
    obtain ⟨b, hb, hticket, -⟩ := hasked a ha
    rw [haccepted, ← hticket]
    exact h.asked b hb
  writes := haccepted ▸ hfades.writes.trans h.writes
  replies := nodup_of_subperm (hfades.replies.append (subperm_map Prod.fst hcoming)) h.replies
  replyBound := by
    intro t ht
    exact Nat.lt_of_lt_of_le (h.replyBound t (hfades.replies.subset ht)) hfades.nextTicket
  written := by
    intro a ha hwritten
    obtain ⟨b, hb, hticket, hknown⟩ := hasked a ha
    rcases hknown hwritten with hknown | hrecorded
    · obtain ⟨length, hmem⟩ := h.written b hb hknown
      exact ⟨length, hfades.recorded (hticket ▸ hmem)⟩
    · exact hrecorded

variable {c : Channel σ} {index : Nat} {order : Order} {stage stage' : Stage}

/-- A call that is yet to wait has its ticket among those of the messages. -/
theorem coming_bound (h : s.Ticketed) {x : Nat × Int32} (hx : x ∈ s.coming) :
    x.1 < s.channel.nextTicket := by
  obtain ⟨e, he, hcoming⟩ := List.mem_filterMap.mp hx
  obtain ⟨w, hw, rfl⟩ := Option.map_eq_some_iff.mp (Stage.pending?_of_coming? hcoming)
  exact h.bound w (List.mem_append_right _ (List.mem_filterMap.mpr ⟨e, he, hw⟩))

/-- Where a handle was given out, nothing is to be confirmed any more. -/
theorem not_mem_confirming (h : s.Ticketed) {a : Asked} (ha : a ∈ s.asked) (frameId : Int32) :
    (a.handle.ticket, frameId) ∉ s.confirming := by
  intro hmem
  obtain ⟨⟨order, stage⟩, he, hconfirming⟩ := List.mem_filterMap.mp hmem
  cases stage with
  | confirm ticket id =>
      cases hconfirming
      have hnodup := h.messages
      rw [Side.messages, List.map_append] at hnodup
      have hpending : ⟨a.handle.ticket, frameId, order.message⟩
          ∈ s.errands.filterMap Stage.pending? := List.mem_filterMap.mpr ⟨_, he, rfl⟩
      exact List.disjoint_of_nodup_append hnodup (h.asked a ha)
        (List.mem_map.mpr ⟨_, hpending, rfl⟩)
  | _ => cases hconfirming

/-- No two messages that were taken for writing have the same ticket. -/
theorem nodup_accepted (h : s.Ticketed) : (s.accepted.map (·.ticket)).Nodup := by
  have hnodup := h.messages
  rw [Side.messages, List.map_append] at hnodup
  exact (List.nodup_append.mp hnodup).1

/-- Nothing is recorded twice. -/
theorem nodup_recorded (h : s.Ticketed) :
    (s.channel.outcomes.map Prod.fst).Nodup ∧ (s.channel.replies.map Prod.fst).Nodup := by
  have haccepted := h.nodup_accepted
  constructor
  · exact (haccepted.sublist h.writes).sublist (List.sublist_append_left _ _)
  · exact (h.replies.sublist (List.sublist_append_left _ _)).sublist (List.sublist_append_right _ _)

/-- A call goes on with the ticket that it has. -/
theorem goesOn (h : s.Ticketed) (hcall : s.errands[index]? = some (order, stage))
    (hpending : Stage.pending? (order, stage') = Stage.pending? (order, stage))
    (hcoming : (Stage.coming? (order, stage')).toList <+~ (Stage.coming? (order, stage)).toList) :
    ({ s with errands := s.errands.set index (order, stage') } : Side σ).Ticketed := by
  refine h.of_fades (.refl _) rfl (fun a ha => ⟨a, ha, rfl, Or.inl⟩) ?_ ?_
  · exact ((filterMap_set_perm Stage.pending? hcall hpending).append_left _).subperm
  · refine (filterMap_perm_set Stage.coming? hcall (order, stage')).subperm.trans ?_
    refine ((List.subperm_append_right _).mpr hcoming).trans ?_
    exact (filterMap_perm_eraseIdx Stage.coming? hcall).symm.subperm

/-- A call ends, and what it has not given away is lost. -/
theorem fails (h : s.Ticketed) (index : Nat) (hfades : s.channel.Fades c) :
    ({ s with channel := c, errands := s.errands.eraseIdx index } : Side σ).Ticketed := by
  refine h.of_fades hfades rfl (fun a ha => ⟨a, ha, rfl, Or.inl⟩) ?_ ?_
  · exact (((List.eraseIdx_sublist _ _).filterMap _).append_left _).subperm
  · exact ((List.eraseIdx_sublist _ _).filterMap _).subperm

/-- A call takes the next ticket. -/
theorem takes (h : s.Ticketed) (hcall : s.errands[index]? = some (order, stage))
    (hnone : Stage.pending? (order, stage) = none) {frameId : Int32} (nextFrameId : Nat)
    (hpending :
      Stage.pending? (order, stage') = some ⟨s.channel.nextTicket, frameId, order.message⟩)
    (hcoming : (Stage.coming? (order, stage')).toList <+~ [(s.channel.nextTicket, frameId)]) :
    ({ s with
      channel := { s.channel with nextFrameId, nextTicket := s.channel.nextTicket + 1 }
      errands := s.errands.set index (order, stage') } : Side σ).Ticketed := by
  have hmessages : s.accepted ++ (s.errands.set index (order, stage')).filterMap Stage.pending?
      ~ ⟨s.channel.nextTicket, frameId, order.message⟩ :: s.messages := by
    have hset := filterMap_perm_set Stage.pending? hcall (order, stage')
    have herased := filterMap_perm_eraseIdx Stage.pending? hcall
    rw [hpending] at hset
    rw [hnone] at herased
    refine (hset.append_left _).trans (List.perm_middle.trans (List.Perm.cons _ ?_))
    exact herased.symm.append_left _
  have hcomes : (s.errands.set index (order, stage')).filterMap Stage.coming?
      <+~ (s.channel.nextTicket, frameId) :: s.coming := by
    refine (filterMap_perm_set Stage.coming? hcall (order, stage')).subperm.trans ?_
    exact hcoming.append ((List.eraseIdx_sublist _ _).filterMap _).subperm
  have hnew {t : Nat} (ht : t < s.channel.nextTicket) : t < s.channel.nextTicket + 1 :=
    Nat.lt_succ_of_lt ht
  refine ⟨?_, ?_, h.asked, h.writes, ?_, fun t ht => hnew (h.replyBound t ht), h.written⟩
  · refine (hmessages.map _).nodup_iff.mpr (List.nodup_cons.mpr ⟨?_, h.messages⟩)
    intro hmem
    obtain ⟨w, hw, heq⟩ := List.mem_map.mp hmem
    exact absurd heq (Nat.ne_of_lt (h.bound w hw))
  · intro w hw
    rcases List.mem_cons.mp (hmessages.subset hw) with rfl | hw
    · exact Nat.lt_succ_self _
    · exact hnew (h.bound w hw)
  · have hsub := (List.subperm_append_left s.channel.replyTickets).mpr (subperm_map Prod.fst hcomes)
    refine nodup_of_subperm (hsub.trans List.perm_middle.subperm) ?_
    refine List.nodup_cons.mpr ⟨?_, h.replies⟩
    intro hmem
    rcases List.mem_append.mp hmem with hmem | hmem
    · exact absurd rfl (Nat.ne_of_lt (h.replyBound _ hmem))
    · obtain ⟨x, hx, heq⟩ := List.mem_map.mp hmem
      exact absurd heq (Nat.ne_of_lt (h.coming_bound hx))

/-- A handle is put into the table. -/
theorem waits {ticket : Nat} {frameId : Int32} (h : s.Ticketed)
    (hcall : s.errands[index]? = some (order, .await ticket frameId)) :
    ({ s with
      channel := { s.channel with waiters := s.channel.waiters ++ [(frameId, .handle ticket)] }
      errands := s.errands.set index (order, .confirm ticket frameId) } : Side σ).Ticketed := by
  have hmessages := (filterMap_set_perm Stage.pending? hcall
    (b := (order, .confirm ticket frameId)) rfl).append_left s.accepted
  have hset := filterMap_perm_set Stage.coming? hcall (order, .confirm ticket frameId)
  have hcoming := filterMap_perm_eraseIdx Stage.coming? hcall
  have hticket : ticket < s.channel.nextTicket :=
    h.coming_bound (x := (ticket, frameId)) (hcoming.symm.subset List.mem_cons_self)
  have hplaced : ({ s.channel with
      waiters := s.channel.waiters ++ [(frameId, .handle ticket)] } : Channel σ).replyTickets
      ~ ticket :: s.channel.replyTickets := by
    rw [Channel.replyTickets, List.filterMap_append, List.append_assoc, List.append_assoc]
    refine List.perm_middle.trans ?_
    rw [Channel.replyTickets, List.append_assoc]
    exact List.Perm.refl _
  refine ⟨?_, ?_, h.asked, h.writes, ?_, ?_, h.written⟩
  · exact (hmessages.map _).nodup_iff.mpr h.messages
  · intro w hw
    exact h.bound w (hmessages.subset hw)
  · refine List.Perm.nodup_iff ?_ |>.mpr h.replies
    refine (hplaced.append (hset.map Prod.fst)).trans ?_
    refine List.Perm.trans ?_ ((hcoming.map Prod.fst).symm.append_left _)
    exact List.perm_middle.symm
  · intro t ht
    rcases List.mem_cons.mp (hplaced.subset ht) with rfl | ht
    · exact hticket
    · exact h.replyBound t ht

/-- A call has queued its message, and a handle may stand for it. -/
theorem queues {ticket : Nat} {frameId : Int32} (h : s.Ticketed)
    (hcall : s.errands[index]? = some (order, .enqueue ticket frameId)) {later : List Asked}
    (hlater : ∀ a ∈ later, a ∈ s.asked ∨ a.handle.ticket = ticket ∧ a.handle.written = false) :
    ({ s with
      channel :=
        { s.channel with queue := s.channel.queue ++ [⟨ticket, frameId, order.message⟩] }
      errands := s.errands.eraseIdx index
      accepted := s.accepted ++ [⟨ticket, frameId, order.message⟩]
      asked := later } : Side σ).Ticketed := by
  have hmessages : (s.accepted ++ [⟨ticket, frameId, order.message⟩])
      ++ (s.errands.eraseIdx index).filterMap Stage.pending? ~ s.messages := by
    rw [List.append_assoc]
    exact (filterMap_perm_eraseIdx Stage.pending? hcall).symm.append_left _
  have hcoming := filterMap_perm_eraseIdx Stage.coming? hcall
  refine ⟨?_, ?_, ?_, ?_, ?_, h.replyBound, ?_⟩
  · exact (hmessages.map _).nodup_iff.mpr h.messages
  · intro w hw
    exact h.bound w (hmessages.subset hw)
  · intro a ha
    dsimp only
    rw [List.map_append]
    rcases hlater a ha with ha | ⟨hticket, -⟩
    · exact List.mem_append_left _ (h.asked a ha)
    · exact List.mem_append_right _ (by simp [hticket])
  · dsimp only
    rw [Channel.writeTickets, Channel.unwritten, List.map_append, List.map_append,
      List.map_append, ← List.append_assoc, ← List.append_assoc]
    have hwrites := h.writes
    rw [Channel.writeTickets, Channel.unwritten, List.map_append, ← List.append_assoc] at hwrites
    exact hwrites.append (List.Sublist.refl _)
  · exact ((hcoming.map Prod.fst).symm.append_left _).nodup_iff.mpr h.replies
  · intro a ha hwritten
    rcases hlater a ha with ha | ⟨-, hnew⟩
    · exact h.written a ha hwritten
    · cases hnew.symm.trans hwritten

/-- **A step of a call puts no ticket in two places.** -/
theorem advance (h : s.Ticketed) (index : Nat) : (s.advance index).Ticketed := by
  rcases s.advance_eq index with heq | ⟨order, stage, outcome, channel, hcall, hstep, heq⟩
  · rw [heq]
    exact h
  rw [heq]
  cases hstep with
  | failed => exact h.fails index (.refl _)
  | withdrawn => exact h.fails index (s.channel.fades_removeWaiter _)
  | known hid => exact h.takes hcall rfl s.channel.nextFrameId rfl List.nil_subperm
  | unknown => exact h.goesOn hcall rfl (List.Subperm.refl _)
  | numbered hlimit =>
      by_cases hawaits : order.awaitsReply = true
      · rw [if_pos hawaits]
        exact h.takes hcall rfl _ rfl (List.Subperm.refl _)
      · rw [if_neg hawaits]
        exact h.takes hcall rfl _ rfl List.nil_subperm
  | guarded => exact h.goesOn hcall rfl (List.Subperm.refl _)
  | waits hfree => exact h.waits hcall
  | confirmed => exact h.goesOn hcall rfl (List.Subperm.refl _)
  | @queued ticket frameId htakes =>
      refine h.queues hcall ?_
      intro a ha
      cases order with
      | write m => exact Or.inl ha
      | reply id m => exact Or.inl ha
      | request r payload =>
          rcases List.mem_append.mp ha with ha | ha
          · exact Or.inl ha
          · rw [List.mem_singleton.mp ha]
            exact Or.inr ⟨rfl, rfl⟩

/-- Acts other than the steps of calls give out no handles and start calls at most,
and what a handle remembers of its write was recorded. -/
theorem of_step (h : s.Ticketed) {act : Act σ} (hact : ∀ index, act ≠ .advance index)
    (hfades : s.channel.Fades (s.step act).channel) : (s.step act).Ticketed := by
  have haccepted := s.accepted_step act hact
  obtain ⟨calls, herrands, hcheck⟩ := (s.requests_step act hact).2
  refine h.of_fades hfades haccepted ?_ ?_ ?_
  · intro a ha
    cases s.marks_step hact with
    | leaves hasked => exact ⟨a, hasked ▸ ha, rfl, Or.inl⟩
    | @marks index b written settled hfound hasked _ _ hrecorded =>
        rw [hasked] at ha
        rcases List.mem_or_eq_of_mem_set ha with ha | rfl
        · exact ⟨a, ha, rfl, Or.inl⟩
        · refine ⟨b, List.mem_of_getElem? hfound, rfl, fun hwritten => ?_⟩
          exact (hrecorded hwritten).imp_right fun ⟨length, hmem⟩ =>
            ⟨length, hfades.recorded hmem⟩
  · rw [Side.messages, haccepted, filterMap_of_calls herrands hcheck fun _ => rfl]
    exact List.Subperm.refl _
  · rw [Side.coming, filterMap_of_calls herrands hcheck fun _ => rfl]
    exact List.Subperm.refl _

end Ticketed

theorem ticketed_created (registry : Registry) (config : ChannelConfig) (writes : List WriteTurn)
    (flushes : List FlushTurn) (app : σ) :
    (created registry config writes flushes app).Ticketed where
  messages := List.nodup_nil
  bound := List.forall_mem_nil _
  asked := List.forall_mem_nil _
  writes := List.Sublist.refl _
  replies := List.nodup_nil
  replyBound := List.forall_mem_nil _
  written := List.forall_mem_nil _

/-- What the channel does on its own puts no ticket in two places. -/
theorem Ticketed.of_channel {s : Side σ} (h : s.Ticketed) {c : Channel σ}
    (hfades : s.channel.Fades c) (delivered : List (Int32 × Message)) :
    ({ s with channel := c, delivered } : Side σ).Ticketed :=
  h.of_fades hfades rfl (fun a ha => ⟨a, ha, rfl, Or.inl⟩) (List.Subperm.refl _)
    (List.Subperm.refl _)

end Side

namespace Scene

variable {s : Scene σ}

theorem fades_onSide {act : Side.Act σ} (hpermits : s.permits act = true)
    (hact : ∀ index, act ≠ .advance index) : s.channel.Fades (s.onSide act).channel := by
  have hwhen {c : Channel σ} (hc : s.channel.Fades c) :
      s.channel.Fades (if s.channel.cancelled then c else s.channel) := by
    split
    · exact hc
    · exact .refl _
  have hsame {c : Channel σ} (hcore : c.nextTicket = s.channel.nextTicket)
      (houtcomes : c.outcomes = s.channel.outcomes) (hunwritten : c.unwritten = s.channel.unwritten)
      (hreplies : c.replyTickets = s.channel.replyTickets) : s.channel.Fades c := by
    refine ⟨Nat.le_of_eq hcore.symm, ?_, ?_, ?_⟩
    · rw [houtcomes]
      exact List.Subset.refl _
    · rw [Channel.writeTickets, houtcomes, hunwritten]
      exact List.Sublist.refl _
    · rw [hreplies]
  cases act with
  | listen | read | write | flip | cancel | clearWaiters | clearWorkbench => cases hpermits
  | advance index => exact absurd rfl (hact index)
  | call | onBroadcast | onTraffic | onWritten | arrive | release => exact hsame rfl rfl rfl rfl
  | poll index =>
      change s.channel.Fades (s.side.poll index).channel
      rcases s.side.poll_channel index with heq | ⟨a, -, -, heq⟩
      · exact heq ▸ .refl _
      · exact heq ▸ s.channel.fades_removeWaiter _
  | forget index =>
      change s.channel.Fades (s.side.forget index).channel
      rcases s.side.forget_channel index with heq | ⟨a, -, heq⟩
      · exact heq ▸ .refl _
      · exact heq ▸ s.channel.fades_removeWaiter _
  | relay => exact s.channel.fades_relayStep
  | finish index =>
      change s.channel.Fades (s.side.finish index).channel
      have hwithout : s.channel.Fades (s.channel.withoutJob index) :=
        .of_quiet (s.channel.quiet_withoutJob index) rfl (List.Sublist.refl _)
      have hfinish := s.side.finish_cases index
      generalize s.side.finish index = s' at hfinish
      cases hfinish with
      | absent => exact .refl _
      | aside | unanswered | answered => exact hwithout
      | @reply ticket m hjob =>
          exact s.channel.fades_reply hjob rfl m
  | endReading => exact hwhen s.channel.fades_endReading
  | endWriting => exact hwhen s.channel.fades_endWriting
  | endRelaying => exact hwhen s.channel.fades_endRelaying

/-- **Whatever happens, no ticket is in two places.** -/
theorem ticketed_run (h : s.side.Ticketed) (acts : List (Act σ)) : (s.run acts).side.Ticketed := by
  refine keeps (P := fun s => s.side.Ticketed) ?_ ?_ ?_ ?_ ?_ h acts
  · intro s task hfresh h
    exact h
  · intro s index h
    cases htask : s.tasks[index]? with
    | none => rwa [proceed, htask]
    | some task =>
        rw [tasks_proceed htask]
        exact h.of_channel (s.channel.fades_proceed task) _
  · intro s hidle h
    exact h.of_channel s.channel.fades_readTurn _
  · intro s hidle h
    exact h.of_channel s.channel.fades_writeTurn _
  · intro s act hpermits h
    by_cases hadvance : ∃ index, act = .advance index
    · obtain ⟨index, rfl⟩ := hadvance
      exact h.advance index
    have hact (index : Nat) : act ≠ .advance index := fun heq => hadvance ⟨index, heq⟩
    exact h.of_step hact (fades_onSide hpermits hact)

end Scene

/-! ### Courses -/

namespace Channel

variable {c c' : Channel σ}

/-- Tasks lose tickets at most, whatever they lead to. -/
theorem Performs.fades {task result : Task σ} (h : Performs c task result c') : Fades c c' := by
  induction h with
  | ended => exact .refl _
  | @step c _ _ task _ _ hproceed _ ih =>
      have hfades := c.fades_proceed task
      rw [hproceed] at hfades
      exact hfades.trans ih

variable (c)

theorem fades_shutdown : Fades c c.shutdown.2 := (c.performs_shutdown .caller).fades

theorem fades_readStep : Fades c c.readStep := by
  have hturn := c.fades_readTurn
  rw [readStep_eq]
  generalize c.readTurn = turn at hturn
  obtain ⟨failed, c'⟩ := turn
  cases failed with
  | true => exact (hturn.trans c'.fades_shutdown).trans (fades_endReading _)
  | false => exact hturn

theorem fades_writeStep : Fades c c.writeStep := by
  have hturn := c.fades_writeTurn
  rw [writeStep_eq]
  generalize c.writeTurn = turn at hturn
  obtain ⟨failed, c'⟩ := turn
  cases failed with
  | true => exact (hturn.trans c'.fades_shutdown).trans (fades_endWriting _)
  | false => exact hturn

end Channel

namespace Side

variable {s : Side σ}

theorem Ticketed.happen (h : s.Ticketed) (e : Event σ) : (s.happen e).Ticketed := by
  cases e with
  | start runtime => exact h.of_channel (s.channel.performs_start runtime).fades s.delivered
  | act act =>
      rw [Side.happen]
      split
      case isFalse => exact h
      -- the acts of a scene in which no task is under way
      have hscene {act : Act σ} (hpermits : (⟨s, []⟩ : Scene σ).permits act = true)
          (hadvance : ∀ index, act ≠ .advance index) : s.channel.Fades (s.step act).channel :=
        Scene.fades_onSide (s := ⟨s, []⟩) hpermits hadvance
      cases act with
      | advance index => exact h.advance index
      | listen frameId run =>
          exact h.of_step (by simp) (s.channel.performs_listen frameId run).fades
      | read => exact h.of_step (by simp) s.channel.fades_readStep
      | write => exact h.of_step (by simp) s.channel.fades_writeStep
      | flip =>
          exact h.of_step (by simp) (.of_sublist rfl rfl (List.Sublist.refl _)
            (List.Sublist.refl _) (List.Sublist.refl _) rfl)
      | cancel => exact h.of_step (by simp) (s.channel.fades_proceed (.cancel .caller))
      | clearWaiters => exact h.of_step (by simp) (s.channel.fades_proceed (.clearWaiters .caller))
      | clearWorkbench => exact h.of_step (by simp) s.channel.fades_clearWorkbench
      | _ => exact h.of_step (by simp) (hscene rfl (by simp))

/-- **In no course is a ticket in two places.** -/
theorem Ticketed.course (h : s.Ticketed) (events : List (Event σ)) :
    (s.course events).Ticketed := by
  induction events generalizing s with
  | nil => exact h
  | cons e rest ih => exact ih (h.happen e)

end Side

end Parley
