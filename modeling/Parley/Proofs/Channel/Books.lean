/-
What a side that asks keeps track of.

Every frame id that a side counts is issued once, with a ticket of its own, to
one message (`Issues`). Handles wait on the frame ids of their requests alone,
and whatever is on its way to a handle was delivered on the frame id of its
request (`Awaits`). Each request that is sent or about to be sent uses up one
of the frame ids issued (`Side.Books`), and all of this stays so whatever
happens (`Side.books_step`).
-/
import Parley.Proofs.Channel.Calls
import Parley.Proofs.Channel.Delivery
import Mathlib.Data.List.Nodup
import Mathlib.Data.List.Perm.Subperm

namespace Parley

open scoped List

variable {σ : Type}

/-! ### Frame ids and tickets -/

/-- The messages for which a channel has counted frame ids, in order. -/
structure Issues (c : Channel σ) (issued : List PendingWrite) : Prop where
  frameIds : issued.map (·.frameId) = (List.range c.nextFrameId).map Int32.ofNat
  limit : c.nextFrameId ≤ Channel.frameIdLimit
  tickets : (issued.map (·.ticket)).Nodup
  bound : ∀ w ∈ issued, w.ticket < c.nextTicket

namespace Issues

variable {c c' : Channel σ} {issued : List PendingWrite}

/-- The count behind a frame id that was issued. -/
theorem exists_ofNat (h : Issues c issued) {w : PendingWrite} (hw : w ∈ issued) :
    ∃ n < Channel.frameIdLimit, w.frameId = Int32.ofNat n := by
  have hmem : w.frameId ∈ issued.map (·.frameId) := List.mem_map_of_mem hw
  rw [h.frameIds] at hmem
  obtain ⟨n, hn, heq⟩ := List.mem_map.mp hmem
  exact ⟨n, Nat.lt_of_lt_of_le (List.mem_range.mp hn) h.limit, heq.symm⟩

theorem ne_broadcastId (h : Issues c issued) {w : PendingWrite} (hw : w ∈ issued) :
    w.frameId ≠ broadcastId := by
  obtain ⟨n, hn, heq⟩ := h.exists_ofNat hw
  rw [heq]
  exact ofNat_ne_broadcastId hn

/-- No frame id is issued twice. -/
theorem nodup_frameIds (h : Issues c issued) : (issued.map (·.frameId)).Nodup := by
  rw [h.frameIds]
  refine List.Nodup.map_on ?_ List.nodup_range
  intro m hm n hn heq
  have hlimit {k : Nat} (hk : k ∈ List.range c.nextFrameId) : k ≤ maxLength :=
    Nat.le_trans (Nat.le_of_lt (List.mem_range.mp hk)) h.limit
  have hint := congrArg Int32.toInt heq
  rw [toInt_ofNat_of_le_maxLength (hlimit hm), toInt_ofNat_of_le_maxLength (hlimit hn)] at hint
  exact Int.ofNat_inj.mp hint

/-- Only the counters matter, and tickets may have been taken for other messages. -/
theorem of_counters (h : Issues c issued) (hid : c'.nextFrameId = c.nextFrameId)
    (hticket : c.nextTicket ≤ c'.nextTicket) : Issues c' issued where
  frameIds := hid ▸ h.frameIds
  limit := hid ▸ h.limit
  tickets := h.tickets
  bound := fun w hw => Nat.lt_of_lt_of_le (h.bound w hw) hticket

/-- The next frame id and the next ticket are new. -/
theorem append (h : Issues c issued) (hlimit : c.nextFrameId < Channel.frameIdLimit)
    (m : Message) :
    Issues { c with nextFrameId := c.nextFrameId + 1, nextTicket := c.nextTicket + 1 }
      (issued ++ [⟨c.nextTicket, Int32.ofNat c.nextFrameId, m⟩]) where
  frameIds := by
    rw [List.map_append, h.frameIds, List.range_succ, List.map_append]
    rfl
  limit := hlimit
  tickets := by
    rw [List.map_append]
    refine List.Nodup.append h.tickets (List.nodup_singleton _) ?_
    intro t ht hnew
    obtain ⟨w, hw, rfl⟩ := List.mem_map.mp ht
    exact absurd (List.mem_singleton.mp hnew) (Nat.ne_of_lt (h.bound w hw))
  bound := by
    intro w hw
    rcases List.mem_append.mp hw with hw | hw
    · exact Nat.lt_succ_of_lt (h.bound w hw)
    · rw [List.mem_singleton.mp hw]
      exact Nat.lt_succ_self _

end Issues

/-! ### Replies on their way -/

/-- Handles wait on the frame ids issued with their tickets, and what is brought
to them was delivered there. -/
structure Awaits (c : Channel σ) (delivered : List (Int32 × Message))
    (issued : List PendingWrite) : Prop where
  waiters : ∀ w ∈ c.waiters, ∀ ticket, w.2.ticket? = some ticket →
    ∃ i ∈ issued, i.ticket = ticket ∧ i.frameId = w.1
  replies : ∀ r ∈ c.jobs.filterMap Job.reply? ++ c.replies,
    ∃ i ∈ issued, i.ticket = r.1 ∧ (i.frameId, r.2) ∈ delivered

namespace Awaits

variable {c c' : Channel σ} {delivered : List (Int32 × Message)} {issued : List PendingWrite}

theorem append (h : Awaits c delivered issued) (later : List PendingWrite) :
    Awaits c delivered (issued ++ later) where
  waiters := by
    intro w hw ticket ht
    obtain ⟨i, hi, heq⟩ := h.waiters w hw ticket ht
    exact ⟨i, List.mem_append_left later hi, heq⟩
  replies := by
    intro r hr
    obtain ⟨i, hi, heq⟩ := h.replies r hr
    exact ⟨i, List.mem_append_left later hi, heq⟩

/-- Nothing is on its way that was not, so nothing has to be looked up. -/
theorem of_mem (h : Awaits c delivered issued)
    (hwaiters : ∀ w ∈ c'.waiters, w ∈ c.waiters ∨ w.2.ticket? = none)
    (hreplies : ∀ r ∈ c'.jobs.filterMap Job.reply? ++ c'.replies,
      r ∈ c.jobs.filterMap Job.reply? ++ c.replies) : Awaits c' delivered issued where
  waiters := by
    intro w hw ticket ht
    rcases hwaiters w hw with hold | hnone
    · exact h.waiters w hold ticket ht
    · cases hnone.symm.trans ht
  replies := fun r hr => h.replies r (hreplies r hr)

theorem of_quiet (h : Awaits c delivered issued) (hquiet : c.Quiet c') :
    Awaits c' delivered issued := by
  apply h.of_mem
  · intro w hw
    obtain ⟨new, hnew, hsub⟩ := hquiet.waiters
    rcases List.mem_append.mp (hsub.subset hw) with hold | hadded
    · exact Or.inl hold
    · exact Or.inr (hnew w hadded)
  · intro r hr
    have hkept : c'.replies = c.replies := congrArg Channel.Core.replies hquiet.core
    rw [hkept] at hr
    obtain ⟨new, hnew, hsub⟩ := hquiet.jobs
    rcases List.mem_append.mp hr with hr | hr
    · obtain ⟨j, hj, hreply⟩ := List.mem_filterMap.mp hr
      rcases List.mem_append.mp (hsub.subset hj) with hold | hadded
      · exact List.mem_append_left _ (List.mem_filterMap.mpr ⟨j, hold, hreply⟩)
      · cases (hnew j hadded).1.symm.trans hreply
    · exact List.mem_append_right _ hr

/-- A message that is delivered is brought to the handle that waits on its frame id. -/
theorem deliver (h : Awaits c delivered issued) (frameId : Int32) (m : Message) :
    Awaits (c.deliver frameId m) (delivered ++ [(frameId, m)]) issued where
  waiters := fun w hw => h.waiters w ((c.deliver_waiters frameId m).subset hw)
  replies := by
    intro r hr
    have hkept : (c.deliver frameId m).replies = c.replies :=
      congrArg Channel.Core.replies (c.deliver_core frameId m)
    have hearlier (hr : r ∈ c.jobs.filterMap Job.reply? ++ c.replies) :
        ∃ i ∈ issued, i.ticket = r.1 ∧ (i.frameId, r.2) ∈ delivered ++ [(frameId, m)] := by
      obtain ⟨i, hi, hticket, hmem⟩ := h.replies r hr
      exact ⟨i, hi, hticket, List.mem_append_left _ hmem⟩
    rw [hkept] at hr
    rcases List.mem_append.mp hr with hr | hr
    · obtain ⟨j, hj, hreply⟩ := List.mem_filterMap.mp hr
      rcases List.mem_append.mp ((c.deliver_jobs frameId m).subset hj) with hold | hnew
      · exact hearlier (List.mem_append_left _ (List.mem_filterMap.mpr ⟨j, hold, hreply⟩))
      · obtain ⟨hm, w, hw, hticket⟩ := c.waits_of_mem_jobsFor hnew hreply
        obtain ⟨i, hi, hi', hid⟩ := h.waiters _ hw _ hticket
        refine ⟨i, hi, hi', List.mem_append_right _ ?_⟩
        rw [hm, hid]
        exact List.mem_singleton_self _
    · exact hearlier (List.mem_append_right _ hr)

end Awaits

/-! ### The requests of a side -/

/-- What is left of a list without one of its values. -/
theorem filterMap_perm_eraseIdx {α β : Type} (f : α → Option β) {l : List α} {index : Nat} {a : α}
    (h : l[index]? = some a) :
    l.filterMap f ~ (f a).toList ++ (l.eraseIdx index).filterMap f := by
  obtain ⟨hindex, rfl⟩ := List.getElem?_eq_some_iff.mp h
  refine ((List.getElem_cons_eraseIdx_perm hindex).symm.filterMap f).trans ?_
  rw [List.filterMap_cons]
  cases f l[index] with
  | none => rfl
  | some b => rfl

theorem nodup_of_subperm {α : Type} {l l' : List α} (h : l <+~ l') (hnodup : l'.Nodup) :
    l.Nodup := by
  obtain ⟨between, hperm, hsub⟩ := h
  exact hperm.nodup_iff.mp (hnodup.sublist hsub)

theorem subperm_map {α β : Type} (f : α → β) {l l' : List α} (h : l <+~ l') :
    l.map f <+~ l'.map f := by
  obtain ⟨between, hperm, hsub⟩ := h
  exact ⟨between.map f, hperm.map f, hsub.map f⟩

/-- Values that differ throughout a list differ throughout each part of it. -/
theorem nodup_map_of_subperm {α β : Type} {f : α → β} {l l' : List α} (h : l <+~ l')
    (hnodup : (l'.map f).Nodup) : (l.map f).Nodup := by
  obtain ⟨between, hperm, hsub⟩ := h
  exact (hperm.map f).nodup_iff.mp (hnodup.sublist (hsub.map f))

/-- The message is a request. -/
def PendingWrite.isRequest (w : PendingWrite) : Bool := w.message.kind == .request

/-- What a call is to queue, once it has a ticket and a frame id. -/
def Stage.pending? : Order × Stage → Option PendingWrite
  | (o, .guard ticket frameId) => some ⟨ticket, frameId, o.message⟩
  | (o, .await ticket frameId) => some ⟨ticket, frameId, o.message⟩
  | (o, .confirm ticket frameId) => some ⟨ticket, frameId, o.message⟩
  | (o, .enqueue ticket frameId) => some ⟨ticket, frameId, o.message⟩
  | _ => none

namespace Side

variable {s s' : Side σ} {issued : List PendingWrite}

/-- The requests that a side has taken for writing or is to take. -/
def requests (s : Side σ) : List PendingWrite :=
  (s.accepted ++ s.errands.filterMap Stage.pending?).filter PendingWrite.isRequest

/-- A side keeps its books: what it asks uses up frame ids that were issued, and
the handles that it has given out stand for requests that it has taken. -/
structure Books (s : Side σ) (issued : List PendingWrite) : Prop where
  issues : Issues s.channel issued
  awaits : Awaits s.channel s.delivered issued
  requests : s.requests <+~ issued
  asked : (s.asked.map Asked.write).Sublist (s.accepted.filter PendingWrite.isRequest)

/-- Handles stand for some of the requests. -/
theorem Books.requests_of_asked (h : s.Books issued) :
    (s.asked.map Asked.write).Sublist s.requests :=
  h.asked.trans ((List.sublist_append_left _ _).filter _)

theorem Books.issued_of_asked (h : s.Books issued) {a : Asked} (ha : a ∈ s.asked) :
    a.write ∈ issued :=
  h.requests.subset (h.requests_of_asked.subset (List.mem_map_of_mem ha))

theorem Books.ne_broadcastId_of_asked (h : s.Books issued) {a : Asked} (ha : a ∈ s.asked) :
    a.handle.frameId ≠ broadcastId :=
  h.issues.ne_broadcastId (h.issued_of_asked ha)

/-- A message that is kept for a handle was delivered on the frame id of its request. -/
theorem Books.delivered_of_reply (h : s.Books issued) {a : Asked} (ha : a ∈ s.asked) {m : Message}
    (hm : (a.handle.ticket, m) ∈ s.channel.replies) : (a.handle.frameId, m) ∈ s.delivered := by
  obtain ⟨i, hi, hticket, hdelivered⟩ := h.awaits.replies _ (List.mem_append_right _ hm)
  obtain rfl : i = a.write :=
    List.inj_on_of_nodup_map h.issues.tickets hi (h.issued_of_asked ha) hticket
  exact hdelivered

/-- The requests of a side, apart from that of one call. -/
def otherRequests (s : Side σ) (index : Nat) : List PendingWrite :=
  (s.accepted ++ (s.errands.eraseIdx index).filterMap Stage.pending?).filter PendingWrite.isRequest

theorem requests_perm {index : Nat} {e : Order × Stage} (h : s.errands[index]? = some e) :
    s.requests
      ~ (Stage.pending? e).toList.filter PendingWrite.isRequest ++ s.otherRequests index := by
  unfold requests otherRequests
  rw [← List.filter_append]
  refine List.Perm.filter _ ?_
  refine ((filterMap_perm_eraseIdx _ h).append_left s.accepted).trans ?_
  rw [← List.append_assoc, ← List.append_assoc]
  exact List.perm_append_comm.append_right _

theorem requests_set_perm {index : Nat} {e : Order × Stage} (h : s.errands[index]? = some e)
    (c : Channel σ) (e' : Order × Stage) :
    ({ s with channel := c, errands := s.errands.set index e' } : Side σ).requests
      ~ (Stage.pending? e').toList.filter PendingWrite.isRequest ++ s.otherRequests index := by
  have hindex := (List.getElem?_eq_some_iff.mp h).1
  have hset : (s.errands.set index e')[index]? = some e' := List.getElem?_set_self hindex
  have hperm := requests_perm
    (s := { s with channel := c, errands := s.errands.set index e' }) hset
  unfold otherRequests at hperm ⊢
  dsimp only at hperm
  rwa [List.eraseIdx_set_eq] at hperm

/-- Books are kept as long as nothing is said. -/
theorem Books.of_quiet (h : s.Books issued) (hquiet : s.channel.Quiet s'.channel)
    (hsame : s.Same s') : s'.Books issued where
  issues := by
    have hid : s'.channel.nextFrameId = s.channel.nextFrameId :=
      congrArg Channel.Core.nextFrameId hquiet.core
    have hticket : s'.channel.nextTicket = s.channel.nextTicket :=
      congrArg Channel.Core.nextTicket hquiet.core
    exact h.issues.of_counters hid (Nat.le_of_eq hticket.symm)
  awaits := by
    rw [hsame.delivered]
    exact h.awaits.of_quiet hquiet
  requests := by
    rw [Side.requests, hsame.accepted, hsame.errands]
    exact h.requests
  asked := by
    rw [hsame.asked, hsame.accepted]
    exact h.asked

/-- A call that starts has no frame id yet. -/
theorem Books.call (h : s.Books issued) (order : Order) :
    ({ s with errands := s.errands ++ [(order, .check)] } : Side σ).Books issued where
  issues := h.issues
  awaits := h.awaits
  requests := by
    rw [Side.requests, List.filterMap_append]
    exact (List.append_nil (s.errands.filterMap Stage.pending?)).symm ▸ h.requests
  asked := h.asked

theorem Books.read (h : s.Books issued) (hstarted : s.channel.workbench = .started) :
    s.read.Books issued := by
  have hquiet := s.channel.quiet_collected
  have hcloses := s.channel.quiet_refuse hstarted
  have hread := s.channel.readStep_cases
  have hnothing {c : Channel σ} (hc : s.channel.Quiet c) :
      ({ s with channel := c, delivered := s.delivered ++ [] } : Side σ).Books issued :=
    h.of_quiet hc ⟨rfl, rfl, rfl, List.append_nil _, rfl⟩
  unfold Side.read onChannel
  generalize s.channel.readStep = c' at hread
  generalize incoming s.channel = brought at hread
  cases hread with
  | idle => exact hnothing (Channel.Keeps.refl _).toQuiet
  | @delivered f rest m =>
      have hcollected := hnothing hquiet
      have hcore := s.channel.collected.deliver_core f.frameId m
      refine ⟨?_, ?_, h.requests, h.asked⟩
      · exact hcollected.issues.of_counters (congrArg Channel.Core.nextFrameId hcore)
          (Nat.le_of_eq (congrArg Channel.Core.nextTicket hcore).symm)
      · exact (h.awaits.of_quiet hquiet).deliver f.frameId m
  | dropped => exact hnothing hcloses
  | failed => exact hnothing hcloses
  | waiting => exact hnothing hquiet

/-- A reply that is brought to its handle was on its way there. -/
theorem Books.finish (h : s.Books issued) (index : Nat) : (s.finish index).Books issued := by
  have hjobs := s.channel.jobs_withoutJob index
  have hquiet := s.channel.quiet_withoutJob index
  have hfinish := s.finish_cases index
  generalize s.finish index = s' at hfinish
  cases hfinish with
  | absent => exact h
  | aside => exact h.of_quiet hquiet ⟨rfl, rfl, rfl, rfl, rfl⟩
  | unanswered => exact h.of_quiet hquiet ⟨rfl, rfl, rfl, rfl, rfl⟩
  | answered =>
      have hwithout : ({ s with channel := s.channel.withoutJob index } : Side σ).Books issued :=
        h.of_quiet hquiet ⟨rfl, rfl, rfl, rfl, rfl⟩
      obtain ⟨hissues, hawaits, hrequests, hasked⟩ := hwithout.call (.reply _ _)
      exact ⟨hissues, hawaits, hrequests, hasked⟩
  | @reply ticket m hjob =>
      refine ⟨h.issues.of_counters rfl (Nat.le_refl _), ?_, h.requests, h.asked⟩
      refine h.awaits.of_mem (fun w hw => Or.inl hw) ?_
      intro r hr
      have hreply : (ticket, m) ∈ s.channel.jobs.filterMap Job.reply? :=
        List.mem_filterMap.mpr ⟨_, List.mem_append_left _ (List.mem_of_getElem? hjob), rfl⟩
      rcases List.mem_append.mp hr with hr | hr
      · exact List.mem_append_left _ ((hjobs.filterMap _).subset hr)
      · rcases List.mem_append.mp hr with hr | hr
        · exact List.mem_append_right _ hr
        · rw [List.mem_singleton.mp hr]
          exact List.mem_append_left _ hreply

/-- A step of a call adds no request unless it counts a frame id for its message. -/
theorem requests_advance {index : Nat} {order : Order} {stage : Stage} {outcome : Advance}
    {channel : Channel σ} (hcall : s.errands[index]? = some (order, stage))
    (hstep : Advances s.channel order stage outcome channel) :
    channel.nextFrameId = s.channel.nextFrameId ∧
        (s.proceed index order channel outcome).requests <+~ s.requests ∨
      channel.nextFrameId = s.channel.nextFrameId + 1 ∧
        (s.proceed index order channel outcome).requests <+~ s.requests ++
          [⟨s.channel.nextTicket, Int32.ofNat s.channel.nextFrameId, order.message⟩] := by
  have hperm := requests_perm hcall
  have hothers : s.otherRequests index <+~ s.requests :=
    (List.sublist_append_right _ _).subperm.trans hperm.symm.subperm
  -- a step that leaves the frame id of its call as it is
  have hstays {c : Channel σ} {stage' : Stage}
      (hpending : Stage.pending? (order, stage') = Stage.pending? (order, stage)) :
      ({ s with channel := c, errands := s.errands.set index (order, stage') } : Side σ).requests
        <+~ s.requests := by
    refine (requests_set_perm hcall c (order, stage')).subperm.trans ?_
    rw [hpending]
    exact hperm.symm.subperm
  cases hstep with
  | failed | withdrawn => exact Or.inl ⟨rfl, hothers⟩
  | unknown | guarded | waits | confirmed => exact Or.inl ⟨rfl, hstays rfl⟩
  | @known frameId hid hmatches hkind =>
      refine Or.inl ⟨rfl, (requests_set_perm hcall _ (order, .enqueue _ frameId)).subperm.trans ?_⟩
      have hother : PendingWrite.isRequest ⟨s.channel.nextTicket, frameId, order.message⟩ = false :=
        beq_eq_false_iff_ne.mpr hkind
      rw [Stage.pending?, Option.toList_some, List.filter_cons_of_neg (Bool.eq_false_iff.mp hother)]
      exact hothers
  | numbered hlimit =>
      refine Or.inr ⟨rfl, (requests_set_perm hcall _ _).subperm.trans ?_⟩
      refine List.Subperm.trans ?_ List.perm_append_comm.subperm
      refine List.Subperm.append ?_ hothers
      split
      · exact List.filter_sublist.subperm
      · exact List.filter_sublist.subperm
  | @queued ticket frameId htakes =>
      refine Or.inl ⟨rfl, List.Perm.subperm (List.Perm.trans ?_ hperm.symm)⟩
      unfold Side.requests otherRequests
      rw [← List.filter_append, ← List.append_assoc]
      exact (List.perm_append_comm.append_right _).filter _

/-- What a step of a call does to the books. A frame id is issued when it is
counted, and to no other step of a call. -/
theorem Books.advance (h : s.Books issued) (horderly : s.Orderly) (index : Nat) :
    ∃ later, (s.advance index).Books (issued ++ later) := by
  have hnone {s' : Side σ} (h' : s'.Books issued) : ∃ later, s'.Books (issued ++ later) :=
    ⟨[], (List.append_nil issued).symm ▸ h'⟩
  rcases s.advance_eq index with heq | ⟨order, stage, outcome, channel, hcall, hstep, heq⟩
  · rw [heq]
    exact hnone h
  rw [heq]
  have hsound : stage.Sound order := horderly.errands _ (List.mem_of_getElem? hcall)
  have hrequests := requests_advance hcall hstep
  have hstays (hid : channel.nextFrameId = s.channel.nextFrameId) :
      (s.proceed index order channel outcome).requests <+~ issued := by
    rcases hrequests with ⟨-, hsame⟩ | ⟨hnext, -⟩
    · exact hsame.trans h.requests
    · omega
  have hkeeps {c : Channel σ} (hwaiters : c.waiters = s.channel.waiters)
      (hjobs : c.jobs = s.channel.jobs) (hreplies : c.replies = s.channel.replies) :
      Awaits c s.delivered issued := by
    refine h.awaits.of_mem (fun w hw => Or.inl (hwaiters ▸ hw)) ?_
    intro r hr
    rwa [hjobs, hreplies] at hr
  cases hstep with
  | failed | unknown | guarded | confirmed =>
      exact hnone ⟨h.issues, h.awaits, hstays rfl, h.asked⟩
  | @withdrawn _ _ frameId =>
      have hquiet := (s.channel.keeps_removeWaiter frameId).toQuiet
      exact hnone ⟨h.issues.of_counters rfl (Nat.le_refl _), h.awaits.of_quiet hquiet, hstays rfl,
        h.asked⟩
  | known =>
      exact hnone ⟨h.issues.of_counters rfl (Nat.le_succ _), hkeeps rfl rfl rfl, hstays rfl,
        h.asked⟩
  | numbered hlimit =>
      have hcounted := (hrequests.resolve_left fun hsame => Nat.succ_ne_self _ hsame.1).2
      refine ⟨[⟨s.channel.nextTicket, Int32.ofNat s.channel.nextFrameId, order.message⟩],
        h.issues.append hlimit order.message, Awaits.append ?_ _,
        hcounted.trans ((List.subperm_append_right _).mpr h.requests), h.asked⟩
      exact hkeeps rfl rfl rfl
  | @waits ticket frameId =>
      refine hnone ⟨h.issues.of_counters rfl (Nat.le_refl _), ⟨?_, h.awaits.replies⟩, hstays rfl,
        h.asked⟩
      refine List.forall_mem_append.mpr ⟨h.awaits.waiters, ?_⟩
      intro w hw t ht
      obtain rfl := List.mem_singleton.mp hw
      cases ht
      have hrequest : PendingWrite.isRequest ⟨ticket, frameId, order.message⟩ = true :=
        beq_iff_eq.mpr (Order.frameId?_of_awaitsReply hsound.1).2
      have hmem : ⟨ticket, frameId, order.message⟩ ∈ s.requests := by
        refine (requests_perm hcall).symm.subset (List.mem_append_left _ ?_)
        exact List.mem_filter.mpr ⟨List.mem_singleton_self _, hrequest⟩
      exact ⟨_, h.requests.subset hmem, rfl, rfl⟩
  | @queued ticket frameId htakes =>
      refine hnone ⟨h.issues.of_counters rfl (Nat.le_refl _), hkeeps rfl rfl rfl, hstays rfl, ?_⟩
      have hmore := h.asked.trans
        ((List.sublist_append_left s.accepted [⟨ticket, frameId, order.message⟩]).filter _)
      cases order with
      | write m => exact hmore
      | reply id m => exact hmore
      | request r payload =>
          have hboth := h.asked.append
            (List.Sublist.refl [(⟨ticket, frameId, .request r payload⟩ : PendingWrite)])
          rw [proceed, List.map_append, List.filter_append]
          exact hboth

/-- **Whatever happens to a side, it keeps its books.** -/
theorem books_step (h : ∃ issued, s.Books issued) (hstarted : s.channel.workbench = .started)
    (horderly : s.Orderly) (act : Act σ) : ∃ issued, (s.step act).Books issued := by
  obtain ⟨issued, h⟩ := h
  cases hmute : act.isMute with
  | true =>
      obtain ⟨hquiet, hsame⟩ := s.quiet_step hstarted hmute
      exact ⟨issued, h.of_quiet hquiet hsame⟩
  | false =>
      cases act with
      | call order => exact ⟨issued, h.call order⟩
      | advance index =>
          obtain ⟨later, h'⟩ := h.advance horderly index
          exact ⟨_, h'⟩
      | onTraffic listener =>
          exact ⟨issued, h.issues.of_counters rfl (Nat.le_refl _),
            h.awaits.of_mem (fun w hw => Or.inl hw) (fun r hr => hr), h.requests, h.asked⟩
      | read => exact ⟨issued, h.read hstarted⟩
      | finish index => exact ⟨issued, h.finish index⟩
      | _ => cases hmute

end Side

end Parley
