/-
The books of a side whose channel is started and closed in steps.

A side keeps its books whatever the steps of those who start and close its
channel come between (`Scene.books_run`). So a request on whose frame id nothing
was delivered has no reply on its way; once its handle is out of the table, its
ticket is lost, and it stays lost (`Scene.lost_run`). And once the shutdown that
has closed the channel is over, nothing is in the table but what somebody has
put there and is about to take back (`Scene.waiters_of_isShut`).
-/
import Parley.Proofs.Channel.Ending

namespace Parley

open scoped List

variable {σ : Type}

/-! ### What brings nothing -/

namespace Channel

variable {c c' : Channel σ}

/-- No frame id is counted, no handle begins to wait, and no reply is brought but
those that were on their way. -/
structure Silent (c c' : Channel σ) : Prop where
  nextFrameId : c'.nextFrameId = c.nextFrameId
  nextTicket : c'.nextTicket = c.nextTicket
  waiters : ∀ w ∈ c'.waiters, w ∈ c.waiters ∨ w.2.ticket? = none
  replies : ∀ r ∈ c'.jobs.filterMap Job.reply? ++ c'.replies,
    r ∈ c.jobs.filterMap Job.reply? ++ c.replies

theorem Silent.of_sublist (hid : c'.nextFrameId = c.nextFrameId)
    (hticket : c'.nextTicket = c.nextTicket)
    (hwaiters : ∀ w ∈ c'.waiters, w ∈ c.waiters ∨ w.2.ticket? = none) (hjobs : c'.jobs <+ c.jobs)
    (hreplies : c'.replies = c.replies) : Silent c c' where
  nextFrameId := hid
  nextTicket := hticket
  waiters := hwaiters
  replies := by
    rw [hreplies]
    exact fun r hr => ((hjobs.filterMap _).append_right _).subset hr

/-- A reply on its way to a handle is a call of a waiter. -/
theorem mem_replies_jobs {ticket : Nat} {m : Message} :
    (ticket, m) ∈ c.jobs.filterMap Job.reply? ↔ (Waiter.handle ticket, m) ∈ c.responses := by
  rw [responses, List.mem_filterMap, List.mem_filterMap]
  constructor
  · rintro ⟨j, hj, hreply⟩
    refine ⟨j, hj, ?_⟩
    cases j with
    | response w m' =>
        cases w with
        | handle t =>
            cases hreply
            rfl
        | listener run => cases hreply
    | _ => cases hreply
  · rintro ⟨j, hj, hresponse⟩
    refine ⟨j, hj, ?_⟩
    cases j with
    | response w m' =>
        cases hresponse
        rfl
    | _ => cases hresponse

theorem Silent.of_rests (h : Rests c c') : Silent c c' := by
  have hcounters : c'.nextFrameId = c.nextFrameId ∧ c'.nextTicket = c.nextTicket ∧
      c'.replies = c.replies := by
    rcases h.ledger with hl | hl
    · exact ⟨congrArg Ledger.nextFrameId hl, congrArg Ledger.nextTicket hl,
        congrArg Ledger.replies hl⟩
    · exact ⟨congrArg Ledger.nextFrameId hl, congrArg Ledger.nextTicket hl,
        congrArg Ledger.replies hl⟩
  refine ⟨hcounters.1, hcounters.2.1, fun w hw => Or.inl (h.waiters.subset hw), ?_⟩
  rintro ⟨ticket, m⟩ hr
  rw [hcounters.2.2] at hr
  rcases List.mem_append.mp hr with hr | hr
  · exact List.mem_append_left _
      (mem_replies_jobs.mpr (h.responses.subset (mem_replies_jobs.mp hr)))
  · exact List.mem_append_right _ hr

variable (c)

theorem silent_removeWaiter (frameId : Int32) : Silent c (c.removeWaiter frameId) :=
  .of_sublist rfl rfl (fun _ hw => Or.inl (List.mem_of_mem_filter hw)) (List.Sublist.refl _) rfl

theorem silent_proceed (task : Task σ) : Silent c (c.proceed task).2 := by
  have hwaiters := c.waiters_proceed task
  have hleave (c : Channel σ) (closer : Closer) : Rests c (c.leave closer) := by
    cases closer with
    | caller => exact .refl c
    | reader => exact c.rests_endReading
    | writer => exact c.rests_endWriting
  have hproceed := c.proceed_cases task
  generalize c.proceed task = after at hproceed hwaiters
  cases hproceed with
  | launches => exact .of_rests c.rests_launch
  | leaves => exact .of_rests (hleave c _)
  | clears => exact .of_rests (c.rests_clearWorkbench.trans (hleave _ _))
  | _ => exact .of_sublist rfl rfl hwaiters (List.Sublist.refl _) rfl

theorem rests_writeTurn : Rests c c.writeTurn.2 := by
  have hwrite := c.writeTurn_cases
  generalize c.writeTurn = turn at hwrite
  cases hwrite with
  | idle => exact .refl c
  | goesOn | refused | failed => exact .of_ledger rfl (List.Sublist.refl _)
  | @written w queue length sink =>
      have htaken : Rests c { c with queue, sink } := .of_ledger rfl (List.Sublist.refl _)
      exact htaken.trans (rests_conclude { c with queue, sink } w (.ok length))

end Channel

namespace Side

variable {s s' : Side σ} {issued : List PendingWrite}

/-- Books are kept as long as nothing is said and nothing brought. -/
theorem Books.of_silent (h : s.Books issued) (hsilent : s.channel.Silent s'.channel)
    (hsame : s.Same s') : s'.Books issued where
  issues := h.issues.of_counters hsilent.nextFrameId (Nat.le_of_eq hsilent.nextTicket.symm)
  awaits := by
    rw [hsame.delivered]
    exact h.awaits.of_mem hsilent.waiters hsilent.replies
  requests := by
    rw [Side.requests, hsame.accepted, hsame.errands]
    exact h.requests
  asked := by
    rw [hsame.asked, hsame.accepted]
    exact h.asked

/-- The reader takes a turn. -/
theorem Books.afterReading (h : s.Books issued) : (Scene.afterReading s).Books issued := by
  have hcollected : s.channel.Silent s.channel.collected := .of_rests s.channel.rests_collected
  have hread := s.channel.readTurn_cases
  unfold Scene.afterReading
  generalize s.channel.readTurn = turn at hread
  generalize incoming s.channel = brought at hread
  have hnothing {c : Channel σ} (hsilent : s.channel.Silent c) :
      ({ s with channel := c, delivered := s.delivered ++ [] } : Side σ).Books issued :=
    h.of_silent hsilent ⟨rfl, rfl, rfl, List.append_nil _, rfl⟩
  cases hread with
  | idle => exact hnothing (.of_rests (.refl _))
  | nothing => exact hnothing hcollected
  | @delivered frameId m =>
      have hbefore : ({ s with channel := s.channel.collected } : Side σ).Books issued :=
        h.of_silent hcollected ⟨rfl, rfl, rfl, rfl, rfl⟩
      have hcore := s.channel.collected.deliver_core frameId m
      refine ⟨?_, hbefore.awaits.deliver frameId m, h.requests, h.asked⟩
      exact hbefore.issues.of_counters (congrArg Channel.Core.nextFrameId hcore)
        (Nat.le_of_eq (congrArg Channel.Core.nextTicket hcore).symm)

end Side

namespace Scene

variable {s : Scene σ} {issued : List PendingWrite}

/-- The acts of the side that are no steps of calls add nothing to the table. -/
theorem waiters_onSide {act : Side.Act σ} (hpermits : s.permits act = true)
    (hact : ∀ index, act ≠ .advance index) :
    (s.onSide act).channel.waiters ⊆ s.channel.waiters := by
  have hidle (h : act.isIdle = true) : (s.onSide act).channel.waiters ⊆ s.channel.waiters :=
    (s.side.rests_step h).waiters.subset
  cases act with
  | listen | read | write | flip | cancel | clearWaiters | clearWorkbench => cases hpermits
  | advance index => exact absurd rfl (hact index)
  | poll index =>
      change (s.side.poll index).channel.waiters ⊆ s.side.channel.waiters
      rcases s.side.poll_channel index with heq | ⟨a, -, -, heq⟩
      · exact heq ▸ List.Subset.refl _
      · exact heq ▸ List.filter_subset_self _
  | forget index =>
      change (s.side.forget index).channel.waiters ⊆ s.side.channel.waiters
      rcases s.side.forget_channel index with heq | ⟨a, -, heq⟩
      · exact heq ▸ List.Subset.refl _
      · exact heq ▸ List.filter_subset_self _
  | finish index =>
      change (s.side.finish index).channel.waiters ⊆ s.side.channel.waiters
      rw [(s.side.finish_waits index).1]
      exact List.Subset.refl _
  | _ => exact hidle rfl

/-- An act of the side keeps the books, in which a step of a call may enter a frame id. -/
theorem books_onSide (h : s.side.Books issued) (horderly : s.side.Orderly) {act : Side.Act σ}
    (hpermits : s.permits act = true) :
    ∃ later, (s.onSide act).side.Books (issued ++ later) := by
  have hnone {side : Side σ} (h' : side.Books issued) : ∃ later, side.Books (issued ++ later) :=
    ⟨[], (List.append_nil issued).symm ▸ h'⟩
  have hidle (hrests : act.isIdle = true) (hsame : s.side.Same (s.side.step act)) :
      ∃ later, (s.side.step act).Books (issued ++ later) :=
    hnone (h.of_silent (.of_rests (s.side.rests_step hrests)) hsame)
  have hremoved {side : Side σ} (frameId : Int32)
      (heq : side.channel = s.side.channel.removeWaiter frameId) :
      s.side.channel.Silent side.channel :=
    heq ▸ s.side.channel.silent_removeWaiter frameId
  cases act with
  | listen | read | write | flip | cancel | clearWaiters | clearWorkbench => cases hpermits
  | call order => exact hnone (h.call order)
  | advance index => exact h.advance horderly index
  | finish index => exact hnone (h.finish index)
  | poll index =>
      refine hnone (h.of_silent ?_ (s.side.same_poll index))
      rcases s.side.poll_channel index with heq | ⟨a, -, -, heq⟩
      · exact heq ▸ .of_rests (.refl _)
      · exact hremoved _ heq
  | forget index =>
      have hsame : s.side.Same (s.side.step (.forget index)) := s.side.same_step rfl
      refine hnone (h.of_silent ?_ hsame)
      rcases s.side.forget_channel index with heq | ⟨a, -, heq⟩
      · exact heq ▸ .of_rests (.refl _)
      · exact hremoved _ heq
  | _ => exact hidle rfl ⟨rfl, rfl, rfl, rfl, rfl⟩

/-- **Whatever happens, a side keeps its books**, also while its channel is being
started or closed. -/
theorem books_run (h : s.side.Books issued) (horderly : s.side.Orderly) (acts : List (Act σ)) :
    (s.run acts).side.Orderly ∧ ∃ later, (s.run acts).side.Books (issued ++ later) := by
  refine keeps (P := fun s => s.side.Orderly ∧ ∃ later, s.side.Books (issued ++ later))
    ?_ ?_ ?_ ?_ ?_ ⟨horderly, [], (List.append_nil issued).symm ▸ h⟩ acts
  · intro s task hfresh h
    exact h
  · intro s index h
    cases htask : s.tasks[index]? with
    | none => rwa [proceed, htask]
    | some task =>
        rw [tasks_proceed htask]
        obtain ⟨horderly, later, h⟩ := h
        exact ⟨⟨horderly.errands, horderly.accepted⟩, later,
          h.of_silent (s.channel.silent_proceed task) ⟨rfl, rfl, rfl, rfl, rfl⟩⟩
  · rintro s hidle ⟨horderly, later, h⟩
    exact ⟨⟨horderly.errands, horderly.accepted⟩, later, h.afterReading⟩
  · rintro s hidle ⟨horderly, later, h⟩
    exact ⟨⟨horderly.errands, horderly.accepted⟩, later,
      h.of_silent (.of_rests s.channel.rests_writeTurn) ⟨rfl, rfl, rfl, rfl, rfl⟩⟩
  · rintro s act hpermits ⟨horderly, later, h⟩
    obtain ⟨later', h'⟩ := books_onSide h horderly hpermits
    exact ⟨s.side.orderly_step horderly act, later ++ later', (List.append_assoc _ _ _).symm ▸ h'⟩

/-- A side whose channel was just created has nothing in its books. -/
theorem books_created (registry : Registry) (config : ChannelConfig) (writes : List WriteTurn)
    (flushes : List FlushTurn) (app : σ) :
    (created registry config writes flushes app).side.Books [] where
  issues := ⟨rfl, Nat.zero_le _, List.nodup_nil, List.forall_mem_nil _⟩
  awaits := ⟨List.forall_mem_nil _, List.forall_mem_nil _⟩
  requests := List.Subperm.refl _
  asked := List.Sublist.refl _

end Scene

/-! ### Lost tickets -/

namespace Channel

variable {c : Channel σ}

/-- The tickets of the handles that are in the table. -/
def waitingTickets (c : Channel σ) : List Nat := c.waiters.filterMap (·.2.ticket?)

theorem mem_waitingTickets {ticket : Nat} :
    ticket ∈ c.waitingTickets ↔ ∃ w ∈ c.waiters, w.2.ticket? = some ticket :=
  List.mem_filterMap

theorem waitingTickets_subset {c' : Channel σ}
    (h : ∀ w ∈ c'.waiters, w ∈ c.waiters ∨ w.2.ticket? = none) :
    c'.waitingTickets ⊆ c.waitingTickets := by
  intro ticket hticket
  obtain ⟨w, hw, heq⟩ := mem_waitingTickets.mp hticket
  rcases h w hw with hw | hnone
  · exact mem_waitingTickets.mpr ⟨w, hw, heq⟩
  · cases hnone.symm.trans heq

/-- A request of which nothing can come any more ends with an error. -/
theorem pollReply_of_lost {h : ReplyHandle} (hlost : h.ticket ∉ c.replyTickets) :
    ∃ e, (c.pollReply h).1 = some (.error e) := by
  simp only [replyTickets, List.mem_append, not_or] at hlost
  obtain ⟨⟨hwaiters, hjobs⟩, hreplies⟩ := hlost
  have harrival : c.pollArrival h = some (.error .closed) := by
    have hkept : c.replies.lookup h.ticket = none := by
      refine List.lookup_eq_none_iff.mpr fun r hr => bne_iff_ne.mpr fun heq => hreplies ?_
      exact heq ▸ List.mem_map_of_mem hr
    have hnobody : ∀ w ∈ c.waiters, w.2.ticket? ≠ some h.ticket :=
      fun w hw heq => hwaiters (List.mem_filterMap.mpr ⟨w, hw, heq⟩)
    have hnone : ∀ j ∈ c.events ++ c.pool, j.ticket? ≠ some h.ticket := by
      intro j hj heq
      refine hjobs (List.mem_filterMap.mpr ⟨j, ?_, heq⟩)
      exact List.mem_append.mpr (List.mem_append.mp hj).symm
    have hholds : c.holdsReply h.ticket = false := by
      rw [holdsReply, Bool.or_eq_false_iff, List.any_eq_false, List.any_eq_false]
      exact ⟨fun w hw => by simpa using hnobody w hw, fun j hj => by simpa using hnone j hj⟩
    rw [pollArrival, hkept]
    dsimp only
    rw [hholds]
    rfl
  unfold pollReply
  split
  · exact ⟨_, harrival⟩
  · split
    · exact ⟨_, harrival⟩
    · exact ⟨_, rfl⟩
    · exact ⟨_, harrival⟩

/-- A step of a call puts at most its own ticket into the table. -/
theorem tickets_advance {c' : Channel σ} {o : Order} {stage : Stage} {outcome : Advance}
    (h : Advances c o stage outcome c') :
    c'.waitingTickets ⊆ c.waitingTickets ∧ c'.replyTickets ⊆ c.replyTickets ∨
      ∃ ticket frameId, stage = .await ticket frameId ∧
        c'.waitingTickets ⊆ ticket :: c.waitingTickets ∧
        c'.replyTickets ⊆ ticket :: c.replyTickets := by
  cases h with
  | failed | known | unknown | numbered | guarded | confirmed | queued =>
      exact Or.inl ⟨List.Subset.refl _, List.Subset.refl _⟩
  | withdrawn =>
      exact Or.inl ⟨(List.filter_sublist.filterMap _).subset,
        (c.fades_removeWaiter _).replies.subset⟩
  | @waits ticket frameId =>
      have hwaiting : ({ c with waiters := c.waiters ++ [(frameId, .handle ticket)] } :
          Channel σ).waitingTickets ⊆ ticket :: c.waitingTickets := by
        rw [waitingTickets, List.filterMap_append]
        exact (List.perm_append_singleton _ _).subset
      refine Or.inr ⟨ticket, frameId, rfl, hwaiting, ?_⟩
      intro t ht
      rw [replyTickets, List.append_assoc] at ht ⊢
      rcases List.mem_append.mp ht with ht | ht
      · rcases List.mem_cons.mp (hwaiting ht) with rfl | ht
        · exact List.mem_cons_self
        · exact List.mem_cons_of_mem _ (List.mem_append_left _ ht)
      · exact List.mem_cons_of_mem _ (List.mem_append_right _ ht)

end Channel

namespace Side

variable {s : Side σ} {issued : List PendingWrite}

/-- A request on whose frame id nothing was delivered has lost its ticket as soon
as its handle is out of the table. -/
theorem Books.lost (h : s.Books issued) {a : Asked} (ha : a ∈ s.asked)
    (hnone : ∀ m, (a.handle.frameId, m) ∉ s.delivered)
    (hwaiters : a.handle.ticket ∉ s.channel.waitingTickets) :
    a.handle.ticket ∉ s.channel.replyTickets := by
  have hunanswered (m : Message) :
      (a.handle.ticket, m) ∉ s.channel.jobs.filterMap Job.reply? ++ s.channel.replies := by
    intro hmem
    obtain ⟨i, hi, hticket, hdelivered⟩ := h.awaits.replies _ hmem
    obtain rfl : i = a.write :=
      List.inj_on_of_nodup_map h.issues.tickets hi (h.issued_of_asked ha) hticket
    exact hnone m hdelivered
  intro hmem
  simp only [Channel.replyTickets, List.mem_append] at hmem
  rcases hmem with (hmem | hmem) | hmem
  · exact hwaiters hmem
  · obtain ⟨j, hj, hticket⟩ := List.mem_filterMap.mp hmem
    cases j with
    | response w m =>
        cases w with
        | handle t =>
            cases hticket
            exact hunanswered m (List.mem_append_left _ (List.mem_filterMap.mpr ⟨_, hj, rfl⟩))
        | listener run => cases hticket
    | _ => cases hticket
  · obtain ⟨⟨t, m⟩, hm, rfl⟩ := List.mem_map.mp hmem
    exact hunanswered m (List.mem_append_right _ hm)

/-- A message that was taken for writing is not the one of a call under way. -/
theorem Ticketed.ne_of_pending (h : s.Ticketed) {t : Nat} (ht : t ∈ s.accepted.map (·.ticket))
    {e : Order × Stage} (he : e ∈ s.errands) {w : PendingWrite} (hw : Stage.pending? e = some w) :
    t ≠ w.ticket := by
  have hnodup := h.messages
  rw [Side.messages, List.map_append] at hnodup
  rintro rfl
  exact List.disjoint_of_nodup_append hnodup ht
    (List.mem_map_of_mem (List.mem_filterMap.mpr ⟨e, he, hw⟩))

end Side

namespace Scene

variable {s : Scene σ} {ticket : Nat}

/-- A ticket that belongs to a message taken for writing does not come back into
the table once it is out of it, and if it is lost it stays lost. -/
theorem tickets_step (h : s.side.Ticketed) (htaken : ticket ∈ s.side.accepted.map (·.ticket))
    {act : Side.Act σ} (hpermits : s.permits act = true) :
    (ticket ∉ s.channel.waitingTickets → ticket ∉ (s.onSide act).channel.waitingTickets) ∧
      (ticket ∉ s.channel.replyTickets → ticket ∉ (s.onSide act).channel.replyTickets) := by
  by_cases hadvance : ∃ index, act = .advance index
  · obtain ⟨index, rfl⟩ := hadvance
    change (_ → ticket ∉ (s.side.advance index).channel.waitingTickets) ∧
      (_ → ticket ∉ (s.side.advance index).channel.replyTickets)
    rcases s.side.advance_eq index with heq | ⟨order, stage, outcome, c, hcall, hstep, heq⟩
    · rw [heq]
      exact ⟨id, id⟩
    rw [heq, Side.proceed_channel]
    rcases Channel.tickets_advance hstep with
      ⟨hwaiting, hreplies⟩ | ⟨t, id, rfl, hwaiting, hreplies⟩
    · exact ⟨fun hout hin => hout (hwaiting hin), fun hout hin => hout (hreplies hin)⟩
    · have hne : ticket ≠ t := h.ne_of_pending htaken (List.mem_of_getElem? hcall) rfl
      exact ⟨fun hout hin => hout (List.mem_of_ne_of_mem hne (hwaiting hin)),
        fun hout hin => hout (List.mem_of_ne_of_mem hne (hreplies hin))⟩
  · have hact (index : Nat) : act ≠ .advance index := fun heq => hadvance ⟨index, heq⟩
    have hwaiting : (s.onSide act).channel.waitingTickets ⊆ s.channel.waitingTickets :=
      Channel.waitingTickets_subset fun w hw => Or.inl (waiters_onSide hpermits hact hw)
    have hreplies := (fades_onSide hpermits hact).replies.subset
    exact ⟨fun hout hin => hout (hwaiting hin), fun hout hin => hout (hreplies hin)⟩

/-- Messages that were taken for writing stay so. -/
theorem accepted_onSide (act : Side.Act σ) :
    s.side.accepted ⊆ (s.onSide act).side.accepted := by
  by_cases hadvance : ∃ index, act = .advance index
  · obtain ⟨index, rfl⟩ := hadvance
    change s.side.accepted ⊆ (s.side.advance index).accepted
    rcases s.side.advance_eq index with heq | ⟨order, stage, outcome, c, hcall, hstep, heq⟩
    · rw [heq]
      exact List.Subset.refl _
    rw [heq]
    rcases outcome with _ | ⟨_ | w⟩
    · exact List.Subset.refl _
    · exact List.Subset.refl _
    · exact List.subset_append_left _ _
  · change s.side.accepted ⊆ (s.side.step act).accepted
    rw [s.side.accepted_step act fun index heq => hadvance ⟨index, heq⟩]
    exact List.Subset.refl _

/-- **What is lost stays lost**: no ticket of a message that was taken for writing
comes back into the table, and none of which nothing can come any more comes back
at all. -/
theorem lost_run (h : s.side.Ticketed) (htaken : ticket ∈ s.side.accepted.map (·.ticket))
    (acts : List (Act σ)) :
    (ticket ∉ s.channel.waitingTickets → ticket ∉ (s.run acts).channel.waitingTickets) ∧
      (ticket ∉ s.channel.replyTickets → ticket ∉ (s.run acts).channel.replyTickets) := by
  let Kept (s' : Scene σ) : Prop :=
    (ticket ∉ s.channel.waitingTickets → ticket ∉ s'.channel.waitingTickets) ∧
      (ticket ∉ s.channel.replyTickets → ticket ∉ s'.channel.replyTickets)
  have hless {s' : Scene σ} {c : Channel σ} (hkept : Kept s')
      (hwaiting : c.waitingTickets ⊆ s'.channel.waitingTickets)
      (hreplies : c.replyTickets ⊆ s'.channel.replyTickets) :
      (ticket ∉ s.channel.waitingTickets → ticket ∉ c.waitingTickets) ∧
        (ticket ∉ s.channel.replyTickets → ticket ∉ c.replyTickets) :=
    ⟨fun hout hin => hkept.1 hout (hwaiting hin), fun hout hin => hkept.2 hout (hreplies hin)⟩
  suffices hall : (s.run acts).side.Ticketed ∧
      ticket ∈ (s.run acts).side.accepted.map (·.ticket) ∧ Kept (s.run acts) from hall.2.2
  refine keeps (P := fun s' => s'.side.Ticketed ∧ ticket ∈ s'.side.accepted.map (·.ticket) ∧
    Kept s') ?_ ?_ ?_ ?_ ?_ ⟨h, htaken, id, id⟩ acts
  · intro s' task hfresh h
    exact h
  · rintro s' index ⟨hticketed, haccepted, hkept⟩
    cases htask : s'.tasks[index]? with
    | none =>
        rw [proceed, htask]
        exact ⟨hticketed, haccepted, hkept⟩
    | some task =>
        rw [tasks_proceed htask]
        exact ⟨hticketed.of_channel (s'.channel.fades_proceed task) _, haccepted,
          hless hkept (Channel.waitingTickets_subset (s'.channel.waiters_proceed task))
            (s'.channel.fades_proceed task).replies.subset⟩
  · rintro s' hidle ⟨hticketed, haccepted, hkept⟩
    exact ⟨hticketed.of_channel s'.channel.fades_readTurn _, haccepted,
      hless hkept (s'.channel.waiters_readTurn.filterMap _).subset
        s'.channel.fades_readTurn.replies.subset⟩
  · rintro s' hidle ⟨hticketed, haccepted, hkept⟩
    have hwaiters : s'.channel.writeTurn.2.waitingTickets = s'.channel.waitingTickets := by
      rw [Channel.waitingTickets, s'.channel.waiters_writeTurn, Channel.waitingTickets]
    exact ⟨hticketed.of_channel s'.channel.fades_writeTurn _, haccepted,
      hless hkept (hwaiters ▸ List.Subset.refl _) s'.channel.fades_writeTurn.replies.subset⟩
  · rintro s' act hpermits ⟨hticketed, haccepted, hkept⟩
    have hstep := tickets_step hticketed haccepted hpermits
    have hafter := ticketed_run hticketed [.side act]
    change (if s'.permits act then s'.onSide act else s').side.Ticketed at hafter
    rw [if_pos hpermits] at hafter
    exact ⟨hafter, (List.map_subset _ (accepted_onSide act)) haccepted,
      fun hout => hstep.1 (hkept.1 hout), fun hout => hstep.2 (hkept.2 hout)⟩

end Scene

/-! ### What is left in the table -/

namespace Scene

variable {s : Scene σ}

/-- The frame ids on which a listener or a handle has been put into the table by a
call that has yet to look whether the channel is still open. -/
def registering (s : Scene σ) : List Int32 :=
  s.tasks.filterMap Task.confirming? ++ s.side.confirming.map Prod.snd

/-- The shutdown that has closed the channel is over. -/
def IsShut (s : Scene σ) : Prop :=
  s.channel.isOpen = false ∧ ∀ task ∈ s.tasks, task.hasClosed = true → task.isOver = true

/-- The listeners in the table are those that their calls have yet to look after. -/
def ListenersConfirming (s : Scene σ) : Prop :=
  ∀ w ∈ s.channel.waiters, w.2.ticket? = none → w.1 ∈ s.tasks.filterMap Task.confirming?

/-- Once a shutdown has taken back what waits, only what calls have yet to look
after is in the table. -/
structure Sweeping (s : Scene σ) : Prop where
  closing : s.Closing
  listeners : ∀ task ∈ s.tasks, task.hasSwept = true → s.ListenersConfirming

theorem sweeping_created (registry : Registry) (config : ChannelConfig) (writes : List WriteTurn)
    (flushes : List FlushTurn) (app : σ) :
    (created registry config writes flushes app).Sweeping where
  closing := ⟨⟨List.forall_mem_nil _, List.forall_mem_nil _⟩,
    closedOnce_run registry config writes flushes app [], List.forall_mem_nil _,
    List.forall_mem_nil _⟩
  listeners := List.forall_mem_nil _

/-- The side changes, and no listener comes into the table. -/
theorem Sweeping.of_side (h : s.Sweeping) {side : Side σ}
    (hclosing : ({ s with side } : Scene σ).Closing)
    (hlisteners : ∀ w ∈ side.channel.waiters, w.2.ticket? = none → w ∈ s.channel.waiters) :
    ({ s with side } : Scene σ).Sweeping where
  closing := hclosing
  listeners task htask hdone w hw hnone :=
    h.listeners task htask hdone w (hlisteners w hw hnone) hnone

theorem Sweeping.begin (h : s.Sweeping) {task : Task σ} (hfresh : task.isFresh = true) :
    (s.begin task).Sweeping where
  closing := h.closing.begin hfresh
  listeners := by
    intro other hother hdone w hw hnone
    have hbefore := h.listeners other (mem_tasks_of_begin hfresh hother hdone) hdone w hw hnone
    rw [Scene.begin, List.filterMap_append]
    exact List.mem_append_left _ hbefore

/-- A step of a task on a channel whose table was swept adds a listener only to look
after it next. -/
theorem ListenersConfirming.proceed (h : s.ListenersConfirming) (hclosed : s.channel.isOpen = false)
    {index : Nat} {task : Task σ} (htask : s.tasks[index]? = some task) :
    ({ side := { s.side with channel := (s.channel.proceed task).2 }
       tasks := s.tasks.set index (s.channel.proceed task).1 } : Scene σ).ListenersConfirming := by
  have hbefore := filterMap_perm_eraseIdx Task.confirming? htask
  have hafter (later : Task σ) := filterMap_perm_set Task.confirming? htask later
  -- a task that has nothing to look after leaves the table as it was, or empties it
  have hother {c : Channel σ} {later : Task σ} (hwaiters : ∀ w ∈ c.waiters, w ∈ s.channel.waiters)
      (hnothing : task.confirming? = none) (w : Int32 × Waiter σ) (hw : w ∈ c.waiters)
      (hnone : w.2.ticket? = none) :
      w.1 ∈ (s.tasks.set index later).filterMap Task.confirming? := by
    have hmem := hbefore.subset (h w (hwaiters w hw) hnone)
    rw [hnothing] at hmem
    exact (hafter later).symm.subset (List.mem_append_right _ hmem)
  intro w hw hnone
  change w ∈ (s.channel.proceed task).2.waiters at hw
  change w.1 ∈ (s.tasks.set index (s.channel.proceed task).1).filterMap Task.confirming?
  have hproceed := s.channel.proceed_cases task
  generalize s.channel.proceed task = after at hproceed hw
  cases hproceed with
  | confirms hopen => cases hclosed.symm.trans hopen
  | claims hcreated =>
      rw [Channel.isOpen, hcreated] at hclosed
      cases hclosed
  | ended hover =>
      rw [set_of_getElem? htask]
      exact h w hw hnone
  | @inserts frameId run =>
      refine (hafter (.confirm frameId run)).symm.subset ?_
      rcases List.mem_append.mp hw with hw | hw
      · exact List.mem_cons_of_mem _ (hbefore.subset (h w hw hnone))
      · rw [List.mem_singleton.mp hw]
        exact List.mem_cons_self
  | @withdraws frameId run =>
      obtain ⟨hw, hne⟩ := List.mem_filter.mp hw
      rcases List.mem_cons.mp (hbefore.subset (h w hw hnone)) with heq | hmem
      · exact absurd heq (by simpa using hne)
      · exact (hafter _).symm.subset hmem
  | launches => exact hother (fun w hw => s.channel.rests_launch.waiters.subset hw) rfl w hw hnone
  | leaves => exact hother (fun w hw => s.channel.waiters_leave _ ▸ hw) rfl w hw hnone
  | clears => exact hother (fun w hw => s.channel.waiters_letGo _ ▸ hw) rfl w hw hnone
  | sweeps => cases hw
  | _ => exact hother (fun w hw => hw) rfl w hw hnone

theorem Sweeping.proceed (h : s.Sweeping) (index : Nat) : (s.proceed index).Sweeping := by
  have hclosing := h.closing.proceed index
  cases htask : s.tasks[index]? with
  | none => rwa [Scene.proceed, htask]
  | some task =>
      rw [tasks_proceed htask] at hclosing ⊢
      refine ⟨hclosing, ?_⟩
      have hbefore {other : Task σ} (hother : other ∈ s.tasks) (hdone : other.hasSwept = true) :=
        (h.listeners other hother hdone).proceed
          (h.closing.closed hother (Task.hasClosed_of_hasSwept hdone)) htask
      intro other hother hdone
      rcases List.mem_or_eq_of_mem_set hother with hother | rfl
      · exact hbefore hother hdone
      · cases hold : task.hasSwept with
        | true => exact hbefore (List.mem_of_getElem? htask) hold
        | false =>
            obtain ⟨-, hnone⟩ := Channel.sweeps_of_hasSwept hold hdone
            intro w hw
            change w ∈ (s.channel.proceed task).2.waiters at hw
            rw [hnone] at hw
            cases hw

/-- A step of a call puts handles into the table, and no listeners. -/
theorem listeners_onSide {act : Side.Act σ} (hpermits : s.permits act = true)
    (w : Int32 × Waiter σ) (hw : w ∈ (s.onSide act).channel.waiters) (hnone : w.2.ticket? = none) :
    w ∈ s.channel.waiters := by
  by_cases hadvance : ∃ index, act = .advance index
  · obtain ⟨index, rfl⟩ := hadvance
    change w ∈ (s.side.advance index).channel.waiters at hw
    rcases s.side.advance_eq index with heq | ⟨order, stage, outcome, c, -, hstep, heq⟩
    · rwa [heq] at hw
    rw [heq, Side.proceed_channel] at hw
    cases hstep with
    | waits =>
        rcases List.mem_append.mp hw with hw | hw
        · exact hw
        · rw [List.mem_singleton.mp hw] at hnone
          cases hnone
    | withdrawn => exact List.mem_of_mem_filter hw
    | _ => exact hw
  · exact waiters_onSide hpermits (fun index heq => hadvance ⟨index, heq⟩) hw

theorem sweeping_run (h : s.Sweeping) (acts : List (Act σ)) : (s.run acts).Sweeping := by
  refine keeps (fun _ _ hfresh h => h.begin hfresh) (fun _ index h => h.proceed index)
    ?_ ?_ ?_ h acts
  · intro s hidle h
    exact h.of_side h.closing.afterReading fun w hw _ => s.channel.waiters_readTurn.subset hw
  · intro s hidle h
    exact h.of_side h.closing.afterWriting fun w hw _ => s.channel.waiters_writeTurn ▸ hw
  · intro s act hpermits h
    exact h.of_side (h.closing.onSide hpermits) (listeners_onSide hpermits)

/-- **Once the shutdown that has closed the channel is over, nothing is left in the
table** but what calls are about to take back. -/
theorem waiters_of_isShut (h : s.Sweeping) (hshut : s.IsShut) :
    s.side.HandlesConfirming ∧ ∀ w ∈ s.channel.waiters, w.1 ∈ s.registering := by
  have hone : s.tasks.countP Task.hasClosed = 1 := by
    rw [h.closing.closedOnce, hshut.1]
    rfl
  obtain ⟨task, htask, hcloser⟩ := List.countP_pos_iff.mp (hone ▸ Nat.one_pos)
  have hswept : task.hasSwept = true := by
    refine Task.hasSwept_of_yieldsTrue ?_
    rwa [Task.yieldsTrue_of_isOver (hshut.2 task htask hcloser)]
  have hhandles := h.closing.swept task htask hswept
  refine ⟨hhandles, fun w hw => ?_⟩
  cases hticket : w.2.ticket? with
  | none => exact List.mem_append_left _ (h.listeners task htask hswept w hw hticket)
  | some ticket =>
      exact List.mem_append_right _ (List.mem_map_of_mem (hhandles w hw ticket hticket))

end Scene

end Parley
