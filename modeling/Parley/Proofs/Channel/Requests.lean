/-
What an event does to requests, and to the table in which their handles wait.

A request gets a ticket and a frame id, its handle is put into the table, and
the call that made it ends with the handle given out or with an error. From then
on the handle is looked at until it is settled, or given up. `Shift` has one rule
for each way in which an event can move a request along or change the table,
where only requests wait (`shift`).
-/
import Parley.Proofs.Channel.Waiting

namespace Parley

open scoped List

variable {σ : Type}

/-! ### Replacing one value of a list -/

/-- What comes of a list of which one value was replaced. -/
theorem filterMap_perm_set {α β : Type} (f : α → Option β) {l : List α} {index : Nat} {a : α}
    (h : l[index]? = some a) (b : α) :
    (l.set index b).filterMap f ~ (f b).toList ++ (l.eraseIdx index).filterMap f := by
  have hindex := (List.getElem?_eq_some_iff.mp h).1
  have hperm := filterMap_perm_eraseIdx f (l := l.set index b) (List.getElem?_set_self hindex)
  rwa [List.eraseIdx_set_eq] at hperm

/-! ### Polling -/

namespace Channel

variable (c : Channel σ)

/-- A look that settles a handle leaves nothing in the table for it, unless its
reply has come and is still waited for. -/
theorem pollReply_settles {h : ReplyHandle} (hsome : (c.pollReply h).1.isSome) :
    (c.pollReply h).2.2 = c.removeWaiter h.frameId ∨
      (c.pollReply h).2.2 = c ∧ ((∃ m, (h.ticket, m) ∈ c.replies) ∨
        ∀ w ∈ c.waiters, w.2.ticket? ≠ some h.ticket) := by
  have harrival (hsome : (c.pollArrival h).isSome) :
      (∃ m, (h.ticket, m) ∈ c.replies) ∨ ∀ w ∈ c.waiters, w.2.ticket? ≠ some h.ticket := by
    rw [pollArrival] at hsome
    cases hlookup : c.replies.lookup h.ticket with
    | some m => exact Or.inl ⟨m, mem_of_lookup hlookup⟩
    | none =>
        rw [hlookup] at hsome
        by_cases hholds : c.holdsReply h.ticket = true
        · simp [hholds] at hsome
        · refine Or.inr ?_
          intro w hw hticket
          refine hholds ?_
          rw [holdsReply, Bool.or_eq_true, List.any_eq_true]
          exact Or.inl ⟨w, hw, by simp [hticket]⟩
  unfold pollReply at hsome ⊢
  split at hsome
  next hwritten =>
    rw [if_pos hwritten]
    exact Or.inr ⟨rfl, harrival hsome⟩
  next hwritten =>
    rw [if_neg hwritten]
    split at hsome
    · exact Or.inr ⟨rfl, harrival hsome⟩
    · exact Or.inl rfl
    · exact Or.inr ⟨rfl, harrival hsome⟩

theorem enqueue_cases (w : PendingWrite) :
    c.enqueue w = (.ok ⟨w.ticket, w.frameId⟩, { c with queue := c.queue ++ [w] }) ∨
      c.enqueue w = (.error .closed, c) := by
  unfold enqueue
  split
  · exact Or.inl rfl
  · exact Or.inr rfl

/-- A request that fails leaves the table as it was. -/
theorem waiters_request_of_error (r : RequestType) (payload : r.Payload) {e : ChannelError}
    (h : (c.request r payload).1 = .error e) : (c.request r payload).2.waiters = c.waiters := by
  rw [request] at h ⊢
  cases hsend : c.checkSend (.request r payload) with
  | error e => rfl
  | ok u =>
      rw [hsend] at h
      dsimp only at h ⊢
      rw [takeFrameId] at h ⊢
      by_cases hlimit : c.nextFrameId < frameIdLimit
      case neg =>
        rw [if_neg hlimit]
      rw [if_pos hlimit] at h ⊢
      dsimp only [takeTicket] at h ⊢
      generalize hc₁ : ({ c with
          nextFrameId := c.nextFrameId + 1
          nextTicket := c.nextTicket + 1 } : Channel σ) = c₁ at h ⊢
      have hwaiters : c₁.waiters = c.waiters := by rw [← hc₁]
      rcases c₁.addWaiter_cases (Int32.ofNat c.nextFrameId) (.handle c.nextTicket) with
        ⟨-, heq⟩ | ⟨-, -, heq⟩ | ⟨-, hfree, heq⟩
      · rw [heq]
        exact hwaiters
      · rw [heq]
        exact hwaiters
      · rw [heq] at h ⊢
        dsimp only at h ⊢
        generalize hc₂ : ({ c₁ with
            waiters := c₁.waiters ++ [(Int32.ofNat c.nextFrameId, .handle c.nextTicket)] } :
          Channel σ) = c₂ at h ⊢
        rcases c₂.enqueue_cases ⟨c.nextTicket, Int32.ofNat c.nextFrameId, .request r payload⟩ with
          heq | heq
        · rw [heq] at h
          cases h
        · rw [heq]
          have hothers := c₁.hasWaiter_eq_false.mp hfree
          rw [← hwaiters, ← hc₂]
          change (c₁.waiters ++ [_]).filter _ = _
          rw [List.filter_append, List.filter_eq_self.mpr (by simpa using hothers)]
          simp

end Channel

/-! ### Tickets and frame ids -/

/-- The ticket and the frame id of a handle. -/
def Asked.token (a : Asked) : Nat × Int32 := (a.handle.ticket, a.handle.frameId)

/-- What a call must still confirm after its handle was made to wait. -/
def Stage.confirming? : Order × Stage → Option (Nat × Int32)
  | (_, .confirm ticket frameId) => some (ticket, frameId)
  | _ => none

theorem Stage.placed?_of_confirming? {e : Order × Stage} {x : Nat × Int32}
    (h : Stage.confirming? e = some x) : Stage.placed? e = some x := by
  obtain ⟨o, stage⟩ := e
  cases stage with
  | confirm ticket frameId => exact h
  | _ => cases h

namespace Side

/-- The requests that may have a handle in the table: those whose handles were
given out, and those of calls that have put theirs there. -/
def owners (s : Side σ) : List (Nat × Int32) :=
  s.asked.map Asked.token ++ s.errands.filterMap Stage.placed?

/-- The requests whose handles are to be put into the table. -/
def coming (s : Side σ) : List (Nat × Int32) := s.errands.filterMap Stage.coming?

/-- The requests of which it is not confirmed that the channel is still open. -/
def confirming (s : Side σ) : List (Nat × Int32) := s.errands.filterMap Stage.confirming?

/-- The requests of a side are where they were, though some may have failed. -/
structure Kept (s s' : Side σ) : Prop where
  owners : s'.owners ~ s.owners
  coming : s'.coming <+~ s.coming
  /-- On a closed channel nothing is confirmed. -/
  confirming : s.channel.isOpen = false → s.confirming ⊆ s'.confirming
  nextFrameId : s'.channel.nextFrameId = s.channel.nextFrameId
  nextTicket : s.channel.nextTicket ≤ s'.channel.nextTicket

variable (s : Side σ)

/-- What an event does to requests and to the table. -/
inductive Shift (e : Event σ) : Prop
  | keeps (kept : Kept s (s.happen e)) (unsettled : s.settled? e = none)
      (waiters : (s.happen e).channel.waiters = s.channel.waiters)
      (isOpen : (s.happen e).channel.isOpen = s.channel.isOpen ∨ e = .act .flip)
  /-- A request is given a ticket and a frame id. -/
  | numbers (unsettled : s.settled? e = none) (owners : (s.happen e).owners ~ s.owners)
      (coming : (s.happen e).coming
        <+~ (s.channel.nextTicket, Int32.ofNat s.channel.nextFrameId) :: s.coming)
      (confirming : s.confirming ⊆ (s.happen e).confirming)
      (limit : s.channel.nextFrameId < Channel.frameIdLimit)
      (nextFrameId : (s.happen e).channel.nextFrameId = s.channel.nextFrameId + 1)
      (nextTicket : (s.happen e).channel.nextTicket = s.channel.nextTicket + 1)
      (waiters : (s.happen e).channel.waiters = s.channel.waiters)
      (isOpen : (s.happen e).channel.isOpen = s.channel.isOpen)
  /-- The handle of a request is put into the table. -/
  | places (ticket : Nat) (frameId : Int32) (unsettled : s.settled? e = none)
      (owners : (s.happen e).owners ~ (ticket, frameId) :: s.owners)
      (coming : s.coming ~ (ticket, frameId) :: (s.happen e).coming)
      (confirming : (ticket, frameId) :: s.confirming ⊆ (s.happen e).confirming)
      (nextFrameId : (s.happen e).channel.nextFrameId = s.channel.nextFrameId)
      (nextTicket : (s.happen e).channel.nextTicket = s.channel.nextTicket)
      (free : s.channel.hasWaiter frameId = false)
      (waiters : (s.happen e).channel.waiters
        = s.channel.waiters ++ [(frameId, .handle ticket)])
      (isOpen : (s.happen e).channel.isOpen = s.channel.isOpen)
  /-- A request whose handle was in the table fails. -/
  | drops (ticket : Nat) (frameId : Int32) (unsettled : s.settled? e = none)
      (owners : s.owners ~ (ticket, frameId) :: (s.happen e).owners)
      (coming : (s.happen e).coming <+~ s.coming)
      (confirming : s.confirming ⊆ (ticket, frameId) :: (s.happen e).confirming)
      (nextFrameId : (s.happen e).channel.nextFrameId = s.channel.nextFrameId)
      (nextTicket : (s.happen e).channel.nextTicket = s.channel.nextTicket)
      (waiters : (s.happen e).channel.waiters = s.channel.waiters.filter (·.1 ≠ frameId))
      (isOpen : (s.happen e).channel.isOpen = s.channel.isOpen)
  /-- The channel is closed. -/
  | shuts (kept : Kept s (s.happen e)) (unsettled : s.settled? e = none)
      (waiters : (s.happen e).channel.waiters = [])
      (isOpen : (s.happen e).channel.isOpen = false)
  | delivers (frameId : Int32) (m : Message) (kept : Kept s (s.happen e))
      (notBroadcast : frameId ≠ broadcastId)
      (delivery : s.delivery? e = some (frameId, m)) (settled : s.settled? e = none)
      (waiters : (s.happen e).channel.waiters = s.channel.waiters.filter (·.1 ≠ frameId))
      (isOpen : (s.happen e).channel.isOpen = s.channel.isOpen)
  | settles (a : Asked) (kept : Kept s (s.happen e)) (asked : a ∈ s.asked)
      (delivery : s.delivery? e = none) (settled : s.settled? e = some a.handle.ticket)
      (waiters : (s.happen e).channel.waiters
          = s.channel.waiters.filter (·.1 ≠ a.handle.frameId) ∨
        (s.happen e).channel.waiters = s.channel.waiters ∧
          ((∃ m, (a.handle.ticket, m) ∈ s.channel.replies) ∨
            ∀ w ∈ s.channel.waiters, w.2.ticket? ≠ some a.handle.ticket))
      (isOpen : (s.happen e).channel.isOpen = s.channel.isOpen)

/-! ### Events that are no steps of calls -/

/-- Acts other than the steps of a call give out no handles and start calls at most. -/
theorem requests_step (act : Act σ) (hact : ∀ index, act ≠ .advance index) :
    (s.step act).asked.map Asked.token = s.asked.map Asked.token ∧
      ∃ calls, (s.step act).errands = s.errands ++ calls ∧ ∀ e ∈ calls, e.2 = .check := by
  have hnone : ∃ calls, s.errands = s.errands ++ calls ∧ ∀ e ∈ calls, e.2 = Stage.check :=
    ⟨[], (List.append_nil _).symm, List.forall_mem_nil _⟩
  cases hplain : act.isPlain with
  | true =>
      have hsame := s.same_step hplain
      refine ⟨?_, hsame.errands ▸ hnone⟩
      have htoken : Asked.token = (fun w => (w.ticket, w.frameId)) ∘ Asked.write := rfl
      rw [htoken, ← List.map_map, hsame.asked, List.map_map]
  | false =>
      cases act with
      | advance index => exact absurd rfl (hact index)
      | call order => exact ⟨rfl, [(order, .check)], rfl, by simp⟩
      | finish index =>
          change (s.finish index).asked.map _ = _ ∧ ∃ calls, (s.finish index).errands = _ ∧ _
          have hfinish := s.finish_cases index
          generalize s.finish index = s' at hfinish
          cases hfinish with
          | absent | aside | reply | unanswered => exact ⟨rfl, hnone⟩
          | answered => exact ⟨rfl, _, rfl, by simp⟩
      | onTraffic | read | write | arrive | endWriting => exact ⟨rfl, hnone⟩
      | _ => cases hplain

/-- Acts other than the steps of a call take no message for writing. -/
theorem accepted_step (act : Act σ) (hact : ∀ index, act ≠ .advance index) :
    (s.step act).accepted = s.accepted := by
  cases hplain : act.isPlain with
  | true => exact (s.same_step hplain).accepted
  | false =>
      cases act with
      | advance index => exact absurd rfl (hact index)
      | finish index =>
          change (s.finish index).accepted = s.accepted
          have hfinish := s.finish_cases index
          generalize s.finish index = s' at hfinish
          cases hfinish with
          | absent | aside | reply | unanswered | answered => rfl
      | call | onTraffic | read | write | arrive | endWriting => rfl
      | _ => cases hplain

/-- What is settled is the handle of a request, and was not settled before. -/
theorem asked_of_settled? {e : Event σ} {ticket : Nat} (h : s.settled? e = some ticket) :
    ∃ a ∈ s.asked, a.handle.settled = false ∧ a.handle.ticket = ticket := by
  have hfound {index : Nat} {a : Asked} (hopen : s.open? index = some a) :
      a ∈ s.asked ∧ a.handle.settled = false :=
    (open?_eq_some.mp hopen).imp_left List.mem_of_getElem?
  cases e with
  | start runtime => cases h
  | act act =>
      cases act with
      | forget index =>
          obtain ⟨a, hopen, hticket⟩ := Option.map_eq_some_iff.mp h
          exact ⟨a, (hfound hopen).1, (hfound hopen).2, hticket⟩
      | poll index =>
          obtain ⟨a, hopen, hticket⟩ := Option.map_eq_some_iff.mp h
          have hopen := Option.eq_some_of_filter_eq_some hopen
          exact ⟨a, (hfound hopen).1, (hfound hopen).2, hticket⟩
      | _ => cases h

variable {s} {s' : Side σ}

/-- A call that starts has nothing yet. -/
theorem filterMap_of_calls {α : Type} {f : Order × Stage → Option α}
    {errands calls later : List (Order × Stage)} (hlater : later = errands ++ calls)
    (hcalls : ∀ e ∈ calls, e.2 = .check) (hf : ∀ o, f (o, .check) = none) :
    later.filterMap f = errands.filterMap f := by
  have hnone : calls.filterMap f = [] := by
    refine List.filterMap_eq_nil_iff.mpr fun e he => ?_
    have hstage := hcalls e he
    obtain ⟨o, stage⟩ := e
    cases hstage
    exact hf o
  rw [hlater, List.filterMap_append, hnone, List.append_nil]

theorem Kept.of_requests (hasked : s'.asked.map Asked.token = s.asked.map Asked.token)
    (herrands : ∃ calls, s'.errands = s.errands ++ calls ∧ ∀ e ∈ calls, e.2 = .check)
    (hid : s'.channel.nextFrameId = s.channel.nextFrameId)
    (hticket : s'.channel.nextTicket = s.channel.nextTicket) : Kept s s' := by
  obtain ⟨calls, herrands, hcheck⟩ := herrands
  have hnone {f : Order × Stage → Option (Nat × Int32)} (hf : ∀ o, f (o, .check) = none) :
      s'.errands.filterMap f = s.errands.filterMap f := filterMap_of_calls herrands hcheck hf
  exact {
    owners := by rw [Side.owners, Side.owners, hasked, hnone fun _ => rfl]
    coming := by
      rw [Side.coming, Side.coming, hnone fun _ => rfl]
    confirming := by
      intro _
      rw [Side.confirming, Side.confirming, hnone fun _ => rfl]
      exact List.Subset.refl _
    nextFrameId := hid
    nextTicket := Nat.le_of_eq hticket.symm }

/-- What waits is left alone, unless the channel is closed. -/
theorem Shift.of_rests {e : Event σ}
    (hasked : (s.happen e).asked.map Asked.token = s.asked.map Asked.token)
    (herrands : ∃ calls, (s.happen e).errands = s.errands ++ calls ∧ ∀ e ∈ calls, e.2 = .check)
    (hrests : s.channel.Rests (s.happen e).channel) (hsettled : s.settled? e = none) :
    Shift s e := by
  have hcounters : (s.happen e).channel.nextFrameId = s.channel.nextFrameId ∧
      (s.happen e).channel.nextTicket = s.channel.nextTicket := by
    rcases hrests.ledger with hl | hl
    · exact ⟨congrArg Channel.Ledger.nextFrameId hl, congrArg Channel.Ledger.nextTicket hl⟩
    · exact ⟨congrArg Channel.Ledger.nextFrameId hl, congrArg Channel.Ledger.nextTicket hl⟩
  have hkept := Kept.of_requests hasked herrands hcounters.1 hcounters.2
  rcases hrests.ledger with hl | hl
  · exact .keeps hkept hsettled (congrArg Channel.Ledger.waiters hl)
      (Or.inl (congrArg Channel.Ledger.isOpen hl))
  · exact .shuts hkept hsettled (congrArg Channel.Ledger.waiters hl)
      (congrArg Channel.Ledger.isOpen hl)

variable (s)

theorem shift_read : Shift s (.act .read) := by
  have hhappen : s.happen (.act .read) = s.step .read := rfl
  have hchannel : (s.happen (.act .read)).channel = s.channel.readStep := rfl
  have hrequests := s.requests_step .read (fun _ => nofun)
  rw [← hhappen] at hrequests
  obtain ⟨hasked, herrands⟩ := hrequests
  cases hdelivery : s.delivery? (.act .read) with
  | none =>
      refine .of_rests hasked herrands ?_ rfl
      rw [hchannel]
      exact s.channel.rests_readStep hdelivery
  | some brought =>
      obtain ⟨frameId, m⟩ := brought
      have heq := s.channel.readStep_of_incoming hdelivery
      rw [← hchannel] at heq
      by_cases hid : frameId = broadcastId
      · subst hid
        obtain ⟨hledger, hresponses⟩ := s.channel.collected.deliver_broadcastId m
        refine .of_rests hasked herrands ?_ rfl
        rw [heq]
        exact ⟨Or.inl hledger, hresponses⟩
      · have hledger := s.channel.collected.ledger_deliver hid m
        rw [← heq] at hledger
        refine .delivers frameId m (.of_requests hasked herrands ?_ ?_) hid hdelivery rfl ?_ ?_
        · exact congrArg Channel.Ledger.nextFrameId hledger
        · exact congrArg Channel.Ledger.nextTicket hledger
        · exact congrArg Channel.Ledger.waiters hledger
        · exact congrArg Channel.Ledger.isOpen hledger

theorem shift_finish (index : Nat) : Shift s (.act (.finish index)) := by
  have hrequests := s.requests_step (.finish index) (fun _ => nofun)
  have hhappen : s.happen (.act (.finish index)) = s.finish index := rfl
  have hchannel : (s.finish index).channel.waiters = s.channel.waiters ∧
      (s.finish index).channel.isOpen = s.channel.isOpen ∧
      (s.finish index).channel.nextFrameId = s.channel.nextFrameId ∧
      (s.finish index).channel.nextTicket = s.channel.nextTicket := by
    have hfinish := s.finish_cases index
    generalize s.finish index = s' at hfinish
    cases hfinish with
    | absent | aside | reply | unanswered | answered => exact ⟨rfl, rfl, rfl, rfl⟩
  rw [← hhappen] at hchannel
  obtain ⟨hwaiters, hopen, hid, hticket⟩ := hchannel
  exact .keeps (.of_requests hrequests.1 hrequests.2 hid hticket) rfl
    hwaiters (Or.inl hopen)

theorem shift_poll (index : Nat) : Shift s (.act (.poll index)) := by
  have hhappen : s.happen (.act (.poll index)) = s.step (.poll index) := rfl
  have hchannel : s.step (.poll index) = s.poll index := rfl
  obtain ⟨hasked, herrands⟩ := s.requests_step (.poll index) (fun _ => nofun)
  rw [← hhappen] at hasked herrands
  cases hhandle : s.open? index with
  | none =>
      have hstays : s.poll index = s := by rw [poll, hhandle]
      refine .of_rests hasked herrands ?_ (by rw [settled?, hhandle]; rfl)
      rw [hhappen, hchannel, hstays]
      exact .refl _
  | some a =>
      have hmem := List.mem_of_getElem? (open?_eq_some.mp hhandle).1
      have hpoll : (s.poll index).channel = (s.channel.pollReply a.handle).2.2 := by
        rw [poll, hhandle]
      rw [← hchannel, ← hhappen] at hpoll
      have hsettled : s.settled? (.act (.poll index))
          = if (s.channel.pollReply a.handle).1.isSome then some a.handle.ticket else none := by
        rw [settled?, hhandle, Option.filter_some]
        split
        · rfl
        · rfl
      by_cases hsome : (s.channel.pollReply a.handle).1.isSome = true
      · rw [if_pos hsome] at hsettled
        rcases s.channel.pollReply_settles hsome with heq | ⟨heq, hgone⟩
        · rw [heq] at hpoll
          have hkept : Kept s (s.happen (.act (.poll index))) :=
            .of_requests hasked herrands (by rw [hpoll]; rfl) (by rw [hpoll]; rfl)
          exact .settles a hkept hmem rfl hsettled (Or.inl (by rw [hpoll]; rfl))
            (by rw [hpoll]; rfl)
        · rw [heq] at hpoll
          have hkept : Kept s (s.happen (.act (.poll index))) :=
            .of_requests hasked herrands (by rw [hpoll]) (by rw [hpoll])
          exact .settles a hkept hmem rfl hsettled (Or.inr ⟨by rw [hpoll], hgone⟩)
            (by rw [hpoll])
      · rw [if_neg hsome] at hsettled
        rcases s.channel.pollReply_channel a.handle with heq | ⟨-, hsome'⟩
        · refine .of_rests hasked herrands ?_ hsettled
          rw [hpoll, heq]
          exact .refl _
        · exact absurd hsome' hsome

theorem shift_forget (index : Nat) : Shift s (.act (.forget index)) := by
  have hchannel : (s.happen (.act (.forget index))).channel = (s.forget index).channel := rfl
  obtain ⟨hasked, herrands⟩ := s.requests_step (.forget index) (fun _ => nofun)
  cases hhandle : s.open? index with
  | none =>
      refine .of_rests hasked herrands ?_ (by rw [settled?, hhandle]; rfl)
      rw [hchannel, s.forget_of_not_open hhandle]
      exact .refl _
  | some a =>
      rw [s.forget_of_open hhandle] at hchannel
      have hkept : Kept s (s.happen (.act (.forget index))) :=
        .of_requests hasked herrands (by rw [hchannel]; rfl) (by rw [hchannel]; rfl)
      exact .settles a hkept (List.mem_of_getElem? (open?_eq_some.mp hhandle).1) rfl
        (by rw [settled?, hhandle]; rfl) (Or.inl (by rw [hchannel]; rfl)) (by rw [hchannel]; rfl)

/-! ### Steps of calls -/

/-- A step that leaves the request of its call where it is. -/
theorem Kept.of_set {index : Nat} {order : Order} {stage stage' : Stage} {c : Channel σ}
    (hcall : s.errands[index]? = some (order, stage))
    (hplaced : Stage.placed? (order, stage') = Stage.placed? (order, stage))
    (hcoming : Stage.coming? (order, stage') = Stage.coming? (order, stage))
    (hconfirming : s.channel.isOpen = true ∨
      Stage.confirming? (order, stage') = Stage.confirming? (order, stage))
    (hid : c.nextFrameId = s.channel.nextFrameId)
    (hticket : s.channel.nextTicket ≤ c.nextTicket) :
    Kept s { s with channel := c, errands := s.errands.set index (order, stage') } := by
  have hsame {f : Order × Stage → Option (Nat × Int32)}
      (hf : f (order, stage') = f (order, stage)) :
      (s.errands.set index (order, stage')).filterMap f ~ s.errands.filterMap f := by
    refine (filterMap_perm_set f hcall _).trans ?_
    rw [hf]
    exact (filterMap_perm_eraseIdx f hcall).symm
  exact {
    owners := (hsame hplaced).append_left _
    coming := (hsame hcoming).subperm
    confirming := by
      intro hclosed
      rcases hconfirming with hopen | hf
      · cases hclosed.symm.trans hopen
      · exact (hsame hf).symm.subset
    nextFrameId := hid
    nextTicket := hticket }

section Advance

variable {s} {index : Nat} {order : Order} {stage : Stage}

/-- A call that had nothing is not missed where it has ended. -/
theorem filterMap_eraseIdx_errands (hcall : s.errands[index]? = some (order, stage))
    {f : Order × Stage → Option (Nat × Int32)} (hf : f (order, stage) = none) :
    (s.errands.eraseIdx index).filterMap f ~ s.errands.filterMap f := by
  have hperm := filterMap_perm_eraseIdx f hcall
  rw [hf] at hperm
  exact hperm.symm

theorem filterMap_eraseIdx_subperm (s : Side σ) (index : Nat)
    (f : Order × Stage → Option (Nat × Int32)) :
    (s.errands.eraseIdx index).filterMap f <+~ s.errands.filterMap f :=
  ((List.eraseIdx_sublist _ _).filterMap f).subperm

/-- A call goes on, with its request where it was. -/
theorem shift_of_next {channel : Channel σ} {stage' : Stage}
    (heq : s.happen (.act (.advance index)) = s.proceed index order channel (.next stage'))
    (hwaiters : channel.waiters = s.channel.waiters)
    (hopen : channel.isOpen = s.channel.isOpen)
    (hkept : Kept s (s.proceed index order channel (.next stage'))) :
    Shift s (.act (.advance index)) := by
  rw [← heq] at hkept
  refine .keeps hkept rfl ?_ (Or.inl ?_)
  · rw [heq]
    exact hwaiters
  · rw [heq]
    exact hopen

/-- A call fails that has nothing in the table. -/
theorem shift_of_failed {e : ChannelError} (hcall : s.errands[index]? = some (order, stage))
    (heq : s.happen (.act (.advance index)) = s.proceed index order s.channel (.ended (.error e)))
    (hplaced : Stage.placed? (order, stage) = none) : Shift s (.act (.advance index)) := by
  have hconfirming : Stage.confirming? (order, stage) = none := by
    cases stage with
    | confirm => cases hplaced
    | _ => rfl
  have hkept : Kept s (s.happen (.act (.advance index))) := by
    rw [heq]
    exact {
      owners := (filterMap_eraseIdx_errands hcall hplaced).append_left _
      coming := filterMap_eraseIdx_subperm s index _
      confirming := fun _ => (filterMap_eraseIdx_errands hcall hconfirming).symm.subset
      nextFrameId := rfl
      nextTicket := Nat.le_refl _ }
  exact .keeps hkept rfl (by rw [heq]; rfl) (Or.inl (by rw [heq]; rfl))

/-- A call fails and takes its handle out of the table. -/
theorem shift_of_withdrawn {e : ChannelError} {frameId : Int32} {ticket : Nat}
    (hcall : s.errands[index]? = some (order, stage))
    (heq : s.happen (.act (.advance index))
      = s.proceed index order (s.channel.removeWaiter frameId) (.ended (.error e)))
    (hplaced : Stage.placed? (order, stage) = some (ticket, frameId)) :
    Shift s (.act (.advance index)) := by
  have howners := filterMap_perm_eraseIdx Stage.placed? hcall
  have hconfirming := filterMap_perm_eraseIdx Stage.confirming? hcall
  rw [hplaced] at howners
  refine .drops ticket frameId rfl ?_ ?_ ?_ (by rw [heq]; rfl) (by rw [heq]; rfl)
    (by rw [heq]; rfl) (by rw [heq]; rfl)
  · rw [heq]
    exact (howners.append_left _).trans List.perm_middle
  · rw [heq]
    exact filterMap_eraseIdx_subperm s index _
  · rw [heq]
    intro x hx
    rcases List.mem_append.mp (hconfirming.subset hx) with hx | hx
    · have hown := Stage.placed?_of_confirming? (Option.mem_toList.mp hx)
      cases hplaced.symm.trans hown
      exact List.mem_cons_self
    · exact List.mem_cons_of_mem _ hx

/-- What a call has once it is given a ticket and a frame id: nothing in the table
yet, and nothing to come but what it was given. -/
theorem Stage.of_numbered (order : Order) (ticket : Nat) (frameId : Int32) :
    let stage : Stage :=
      if order.awaitsReply then .guard ticket frameId else .enqueue ticket frameId
    Stage.placed? (order, stage) = none ∧
      (Stage.coming? (order, stage)).toList <+~ [(ticket, frameId)] := by
  intro stage
  by_cases hawaits : order.awaitsReply = true
  · have hstage : stage = .guard ticket frameId := if_pos hawaits
    rw [hstage]
    exact ⟨rfl, List.Subperm.refl _⟩
  · have hstage : stage = .enqueue ticket frameId := if_neg hawaits
    rw [hstage]
    exact ⟨if_neg hawaits, List.nil_subperm⟩

/-- A call is given a ticket and a frame id. -/
theorem shift_of_numbered (hcall : s.errands[index]? = some (order, .number))
    (heq : s.happen (.act (.advance index)) = s.proceed index order
      { s.channel with
        nextFrameId := s.channel.nextFrameId + 1
        nextTicket := s.channel.nextTicket + 1 }
      (.next (if order.awaitsReply
        then .guard s.channel.nextTicket (Int32.ofNat s.channel.nextFrameId)
        else .enqueue s.channel.nextTicket (Int32.ofNat s.channel.nextFrameId))))
    (hlimit : s.channel.nextFrameId < Channel.frameIdLimit) :
    Shift s (.act (.advance index)) := by
  obtain ⟨hplaced, hcoming⟩ :=
    Stage.of_numbered order s.channel.nextTicket (Int32.ofNat s.channel.nextFrameId)
  refine .numbers rfl ?_ ?_ ?_ hlimit (by rw [heq]; rfl) (by rw [heq]; rfl)
    (by rw [heq]; rfl) (by rw [heq]; rfl)
  · rw [heq]
    refine List.Perm.append_left _ ((filterMap_perm_set _ hcall _).trans ?_)
    rw [hplaced]
    exact filterMap_eraseIdx_errands hcall rfl
  · rw [heq]
    exact (filterMap_perm_set _ hcall _).subperm.trans
      (hcoming.append (filterMap_eraseIdx_subperm s index _))
  · rw [heq]
    intro x hx
    refine (filterMap_perm_set _ hcall _).symm.subset (List.mem_append_right _ ?_)
    exact (filterMap_eraseIdx_errands hcall rfl).symm.subset hx

/-- The handle of a request is put into the table. -/
theorem shift_of_waits {ticket : Nat} {frameId : Int32}
    (hcall : s.errands[index]? = some (order, .await ticket frameId))
    (heq : s.happen (.act (.advance index)) = s.proceed index order
      { s.channel with waiters := s.channel.waiters ++ [(frameId, .handle ticket)] }
      (.next (.confirm ticket frameId)))
    (hfree : s.channel.hasWaiter frameId = false) : Shift s (.act (.advance index)) := by
  have hset (f : Order × Stage → Option (Nat × Int32)) :=
    filterMap_perm_set f hcall (order, .confirm ticket frameId)
  refine .places ticket frameId rfl ?_ ?_ ?_ (by rw [heq]; rfl) (by rw [heq]; rfl) hfree
    (by rw [heq]; rfl) (by rw [heq]; rfl)
  · rw [heq]
    refine List.Perm.trans ?_ List.perm_middle
    have hothers := filterMap_eraseIdx_errands (f := Stage.placed?) hcall rfl
    exact ((hset Stage.placed?).trans (hothers.cons _)).append_left _
  · rw [heq]
    refine (filterMap_perm_eraseIdx Stage.coming? hcall).trans ?_
    exact (hset Stage.coming?).symm.cons _
  · rw [heq]
    have hothers := filterMap_eraseIdx_errands (f := Stage.confirming?) hcall rfl
    exact ((hset Stage.confirming?).trans (hothers.cons _)).symm.subset

/-- A call ends, and its request is now that of a handle. -/
theorem shift_of_queued {ticket : Nat} {frameId : Int32}
    (hcall : s.errands[index]? = some (order, .enqueue ticket frameId))
    (heq : s.happen (.act (.advance index)) = s.proceed index order
      { s.channel with queue := s.channel.queue ++ [⟨ticket, frameId, order.message⟩] }
      (.ended (.ok ⟨ticket, frameId⟩))) : Shift s (.act (.advance index)) := by
  have hconfirming : s.confirming ⊆ (s.happen (.act (.advance index))).confirming := by
    rw [heq]
    exact (filterMap_eraseIdx_errands hcall rfl).symm.subset
  have hcoming : (s.happen (.act (.advance index))).coming <+~ s.coming := by
    rw [heq]
    exact filterMap_eraseIdx_subperm s index _
  have howners : (s.happen (.act (.advance index))).owners ~ s.owners := by
    have hplaced := filterMap_perm_eraseIdx Stage.placed? hcall
    rw [heq]
    cases order with
    | write m => exact (filterMap_eraseIdx_errands hcall rfl).append_left _
    | reply id m => exact (filterMap_eraseIdx_errands hcall rfl).append_left _
    | request r payload =>
        rw [owners, proceed, List.map_append, List.append_assoc]
        exact hplaced.symm.append_left _
  have hkept : Kept s (s.happen (.act (.advance index))) :=
    ⟨howners, hcoming, fun _ => hconfirming, by rw [heq]; rfl, by rw [heq]; exact Nat.le_refl _⟩
  exact .keeps hkept rfl (by rw [heq]; rfl) (Or.inl (by rw [heq]; rfl))

end Advance

/-- **What a step of a call does to requests and to the table.** -/
theorem shift_advance (horderly : s.Orderly) (index : Nat) : Shift s (.act (.advance index)) := by
  have hhappen : s.happen (.act (.advance index)) = s.advance index := rfl
  rcases s.advance_eq index with heq | ⟨order, stage, outcome, channel, hcall, hstep, heq⟩
  · rw [← hhappen] at heq
    refine .of_rests (by rw [heq]) ⟨[], ?_, List.forall_mem_nil _⟩ ?_ rfl
    · rw [heq, List.append_nil]
    · rw [heq]
      exact .refl _
  rw [← hhappen] at heq
  have hsound : stage.Sound order := horderly.errands _ (List.mem_of_getElem? hcall)
  cases hstep with
  | failed hplaced => exact shift_of_failed hcall heq hplaced
  | withdrawn hplaced => exact shift_of_withdrawn hcall heq hplaced
  | @known frameId hid hmatches hkind =>
      have hawaits : order.awaitsReply = false := by
        refine Bool.eq_false_iff.mpr fun hawaits => ?_
        cases (Order.frameId?_of_awaitsReply hawaits).1.symm.trans hid
      refine shift_of_next heq rfl rfl (.of_set s hcall ?_ rfl (Or.inr rfl) rfl (Nat.le_succ _))
      rw [Stage.placed?, hawaits]
      rfl
  | unknown hid =>
      exact shift_of_next heq rfl rfl
        (.of_set s hcall rfl rfl (Or.inr rfl) rfl (Nat.le_refl _))
  | guarded =>
      exact shift_of_next heq rfl rfl
        (.of_set s hcall rfl rfl (Or.inr rfl) rfl (Nat.le_refl _))
  | confirmed hopen =>
      refine shift_of_next heq rfl rfl
        (.of_set s hcall ?_ rfl (Or.inl hopen) rfl (Nat.le_refl _))
      exact if_pos hsound.1
  | numbered hlimit => exact shift_of_numbered hcall heq hlimit
  | waits hfree => exact shift_of_waits hcall heq hfree
  | queued => exact shift_of_queued hcall heq

/-- **What an event does to requests and to the table, case by case**, where no
listeners are added but those of requests. -/
theorem shift (horderly : s.Orderly) {e : Event σ}
    (he : ∀ frameId run, e ≠ .act (.listen frameId run)) : Shift s e := by
  cases e with
  | start runtime =>
      refine .of_rests rfl ⟨[], (List.append_nil _).symm, List.forall_mem_nil _⟩ ?_
        rfl
      exact s.channel.rests_start runtime
  | act act =>
      have hsettled (hpoll : ∀ index, act ≠ .poll index)
          (hforget : ∀ index, act ≠ .forget index) : s.settled? (.act act) = none := by
        cases act with
        | poll index => exact absurd rfl (hpoll index)
        | forget index => exact absurd rfl (hforget index)
        | _ => rfl
      by_cases hpermits : permits s.channel act = true
      case neg =>
        have hstays : s.happen (.act act) = s := by rw [happen, if_neg hpermits]
        refine .of_rests (by rw [hstays]) ⟨[], ?_, List.forall_mem_nil _⟩ ?_ ?_
        · rw [hstays, List.append_nil]
        · rw [hstays]
          exact .refl _
        · apply hsettled
          · rintro index rfl
            exact hpermits rfl
          · rintro index rfl
            exact hpermits rfl
      have hhappen : s.happen (.act act) = s.step act := by rw [happen, if_pos hpermits]
      have hrequests (hact : ∀ index, act ≠ .advance index) :
          (s.happen (.act act)).asked.map Asked.token = s.asked.map Asked.token ∧
            ∃ calls, (s.happen (.act act)).errands = s.errands ++ calls ∧
              ∀ e ∈ calls, e.2 = .check := by
        rw [hhappen]
        exact s.requests_step act hact
      cases hidle : act.isIdle with
      | true =>
          have hother (hact : act.isIdle = false) : False := by
            cases hidle.symm.trans hact
          obtain ⟨hasked, herrands⟩ := hrequests (by rintro index rfl; exact hother rfl)
          refine .of_rests hasked herrands ?_ (hsettled ?_ ?_)
          · rw [hhappen]
            exact s.rests_step hidle
          · rintro index rfl
            exact hother rfl
          · rintro index rfl
            exact hother rfl
      | false =>
          cases act with
          | advance index => exact s.shift_advance horderly index
          | listen frameId run => exact absurd rfl (he frameId run)
          | poll index => exact s.shift_poll index
          | forget index => exact s.shift_forget index
          | read => exact s.shift_read
          | finish index => exact s.shift_finish index
          | flip =>
              obtain ⟨hasked, herrands⟩ := hrequests (fun _ => nofun)
              exact .keeps (.of_requests hasked herrands rfl rfl) rfl rfl
                (Or.inr rfl)
          | clearWaiters =>
              obtain ⟨hasked, herrands⟩ := hrequests (fun _ => nofun)
              have hclosed : s.channel.isOpen = false := by simpa [permits] using hpermits
              refine .shuts (.of_requests hasked herrands ?_ ?_) rfl ?_ ?_
              · rw [hhappen]
                rfl
              · rw [hhappen]
                rfl
              · rw [hhappen]
                rfl
              · rw [hhappen]
                exact hclosed
          | _ => cases hidle

end Side

end Parley
