/-
What a call does in a step.

`Advances` has one rule for each step of a call. From it follows that whatever
is queued travels where it belongs (`Side.Orderly`): broadcasts on the frame id
of broadcasts, and nothing else there.
-/
import Parley.Proofs.Channel.Keeps
import Parley.Proofs.Frame.Split

namespace Parley

variable {σ : Type}

/-- A frame id that was counted is not that of broadcasts. -/
theorem ofNat_ne_broadcastId {n : Nat} (h : n < Channel.frameIdLimit) :
    Int32.ofNat n ≠ broadcastId := by
  intro heq
  have hint : (Int32.ofNat n).toInt = n :=
    toInt_ofNat_of_le_maxLength (Nat.le_of_lt h)
  have hminus : broadcastId.toInt = -1 := by decide
  rw [heq, hminus] at hint
  omega

/-- What is not broadcast belongs on every other frame id. -/
theorem kindMatchesFrame_of_ne {frameId : Int32} {kind : MessageKind} (hid : frameId ≠ broadcastId)
    (hkind : kind ≠ .broadcast) : Channel.kindMatchesFrame frameId kind = true := by
  rw [Channel.kindMatchesFrame, beq_eq_false_iff_ne.mpr hid, beq_eq_false_iff_ne.mpr hkind]
  rfl

/-! ### Steps of a call -/

/-- The ticket and the frame id under which the handle of a call is to wait. -/
def Stage.coming? : Order × Stage → Option (Nat × Int32)
  | (_, .guard ticket frameId) => some (ticket, frameId)
  | (_, .await ticket frameId) => some (ticket, frameId)
  | _ => none

/-- The ticket and the frame id under which the handle of a call was made to wait. -/
def Stage.placed? : Order × Stage → Option (Nat × Int32)
  | (_, .confirm ticket frameId) => some (ticket, frameId)
  | (o, .enqueue ticket frameId) => if o.awaitsReply then some (ticket, frameId) else none
  | _ => none

/-- The steps of a call, with what each needs and does. A call that fails leaves
nothing in the table. -/
inductive Advances (c : Channel σ) (o : Order) : Stage → Advance → Channel σ → Prop
  | failed {stage : Stage} {e : ChannelError} : Stage.placed? (o, stage) = none →
      Advances c o stage (.ended (.error e)) c
  | withdrawn {stage : Stage} {e : ChannelError} {frameId : Int32} {ticket : Nat} :
      Stage.placed? (o, stage) = some (ticket, frameId) →
      Advances c o stage (.ended (.error e)) (c.removeWaiter frameId)
  | known {frameId : Int32} : o.frameId? = some frameId →
      Channel.kindMatchesFrame frameId o.message.kind = true → o.message.kind ≠ .request →
      Advances c o .check (.next (.enqueue c.nextTicket frameId))
        { c with nextTicket := c.nextTicket + 1 }
  | unknown : o.frameId? = none → Advances c o .check (.next .number) c
  | numbered : c.nextFrameId < Channel.frameIdLimit →
      Advances c o .number
        (.next (if o.awaitsReply then .guard c.nextTicket (Int32.ofNat c.nextFrameId)
          else .enqueue c.nextTicket (Int32.ofNat c.nextFrameId)))
        { c with nextFrameId := c.nextFrameId + 1, nextTicket := c.nextTicket + 1 }
  | guarded {ticket : Nat} {frameId : Int32} :
      Advances c o (.guard ticket frameId) (.next (.await ticket frameId)) c
  | waits {ticket : Nat} {frameId : Int32} : c.hasWaiter frameId = false →
      Advances c o (.await ticket frameId) (.next (.confirm ticket frameId))
        { c with waiters := c.waiters ++ [(frameId, .handle ticket)] }
  | confirmed {ticket : Nat} {frameId : Int32} : c.isOpen = true →
      Advances c o (.confirm ticket frameId) (.next (.enqueue ticket frameId)) c
  | queued {ticket : Nat} {frameId : Int32} : c.takesWrites = true →
      Advances c o (.enqueue ticket frameId) (.ended (.ok ⟨ticket, frameId⟩))
        { c with queue := c.queue ++ [⟨ticket, frameId, o.message⟩] }

/-- The frame id that an order names suits its message once the order is checked. -/
theorem Channel.checkOrder_frameId? {c : Channel σ} {o : Order} (h : c.checkOrder o = .ok ())
    {frameId : Int32} (hid : o.frameId? = some frameId) :
    kindMatchesFrame frameId o.message.kind = true ∧ o.message.kind ≠ .request := by
  cases o with
  | write m =>
      rw [Order.frameId?] at hid
      split at hid
      next hkind =>
        cases hid
        rw [Order.message, hkind]
        exact ⟨by decide, by decide⟩
      next => cases hid
  | reply id m =>
      cases hid
      by_cases hproper : frameId = broadcastId ∨ m.kind ≠ .reply
      · rw [checkOrder, checkReply, if_pos hproper] at h
        cases h
      · obtain ⟨hid, hkind⟩ := not_or.mp hproper
        have hkind : m.kind = .reply := not_not.mp hkind
        rw [Order.message, hkind]
        exact ⟨kindMatchesFrame_of_ne hid (by decide), by decide⟩
  | request r payload => cases hid

/-- **A step of a call, case by case.** -/
theorem Channel.advance_cases (c : Channel σ) (o : Order) (stage : Stage) :
    Advances c o stage (c.advance o stage).1 (c.advance o stage).2 := by
  cases stage with
  | check =>
      rw [advance]
      cases hcheck : c.checkOrder o with
      | error e => exact .failed rfl
      | ok u =>
          cases hid : o.frameId? with
          | some frameId =>
              obtain ⟨hmatches, hkind⟩ := checkOrder_frameId? hcheck hid
              exact .known hid hmatches hkind
          | none => exact .unknown hid
  | number =>
      rw [advance, takeFrameId]
      by_cases hlimit : c.nextFrameId < frameIdLimit
      · rw [if_pos hlimit]
        exact .numbered hlimit
      · rw [if_neg hlimit]
        exact .failed rfl
  | guard ticket frameId =>
      rw [advance]
      cases c.checkOpen with
      | error e => exact .failed rfl
      | ok u => exact .guarded
  | await ticket frameId =>
      rw [advance, insertWaiter]
      by_cases hwaits : c.hasWaiter frameId = true
      · rw [if_pos hwaits]
        exact .failed rfl
      · rw [if_neg hwaits]
        exact .waits (Bool.eq_false_iff.mpr hwaits)
  | confirm ticket frameId =>
      rw [advance, confirmWaiter, checkOpen]
      cases hopen : c.isOpen with
      | false => exact .withdrawn rfl
      | true => exact .confirmed hopen
  | enqueue ticket frameId =>
      rw [advance, Channel.enqueue]
      by_cases htakes : c.takesWrites = true
      · rw [if_pos htakes]
        exact .queued htakes
      · rw [if_neg htakes]
        have hplaced : Stage.placed? (o, .enqueue ticket frameId)
            = if o.awaitsReply then some (ticket, frameId) else none := rfl
        cases hawaits : o.awaitsReply with
        | true =>
            rw [hawaits] at hplaced
            exact .withdrawn hplaced
        | false =>
            rw [hawaits] at hplaced
            exact .failed hplaced

/-! ### Order among calls -/

/-- What holds of a call at each stage. -/
def Stage.Sound (o : Order) : Stage → Prop
  | .check => True
  | .number => o.frameId? = none
  | .guard _ frameId | .await _ frameId | .confirm _ frameId =>
    o.awaitsReply = true ∧ frameId ≠ broadcastId
  | .enqueue _ frameId =>
    (∀ id, o.frameId? = some id → id = frameId) ∧
      Channel.kindMatchesFrame frameId o.message.kind = true

theorem Order.frameId?_of_awaitsReply {o : Order} (h : o.awaitsReply = true) :
    o.frameId? = none ∧ o.message.kind = .request := by
  cases o with
  | write m => cases h
  | reply id m => cases h
  | request r payload => exact ⟨rfl, rfl⟩

/-- An order that names no frame id is not to be broadcast. -/
theorem Order.kind_ne_broadcast {o : Order} (h : o.frameId? = none) :
    o.message.kind ≠ .broadcast := by
  cases o with
  | write m =>
      rw [Order.frameId?] at h
      split at h
      · cases h
      next hkind => exact hkind
  | reply id m => cases h
  | request r payload => exact MessageKind.noConfusion

theorem Advances.sound {c c' : Channel σ} {o : Order} {stage stage' : Stage}
    (h : Advances c o stage (.next stage') c') (hsound : stage.Sound o) : stage'.Sound o := by
  cases h with
  | known hid hmatches hkind =>
      refine ⟨?_, hmatches⟩
      intro id hother
      cases hid.symm.trans hother
      rfl
  | unknown hid => exact hid
  | numbered hlimit =>
      have hid := ofNat_ne_broadcastId hlimit
      split
      next hawaits => exact ⟨hawaits, hid⟩
      next =>
        refine ⟨?_, kindMatchesFrame_of_ne hid (Order.kind_ne_broadcast hsound)⟩
        intro id hother
        cases (show o.frameId? = none from hsound).symm.trans hother
  | guarded => exact hsound
  | waits => exact hsound
  | confirmed =>
      obtain ⟨hid, hkind⟩ := Order.frameId?_of_awaitsReply hsound.1
      refine ⟨fun id hother => ?_, kindMatchesFrame_of_ne hsound.2 ?_⟩
      · cases hid.symm.trans hother
      · rw [hkind]
        exact MessageKind.noConfusion

namespace Side

variable (s : Side σ)

/-- Calls are where they can be, and what was queued belongs on its frame id. -/
structure Orderly : Prop where
  errands : ∀ e ∈ s.errands, e.2.Sound e.1
  accepted : ∀ w ∈ s.accepted, Channel.kindMatchesFrame w.frameId w.message.kind = true

/-- Whatever a step of a call leads to, the channel is the one that it left. -/
@[simp] theorem proceed_channel (index : Nat) (order : Order) (channel : Channel σ)
    (outcome : Advance) : (s.proceed index order channel outcome).channel = channel := by
  rcases outcome with _ | ⟨_ | _⟩ <;> rfl

/-- What can become of the calls under way and of the messages that were taken. -/
theorem advance_eq (index : Nat) :
    s.advance index = s ∨ ∃ order stage outcome channel,
      s.errands[index]? = some (order, stage) ∧
        Advances s.channel order stage outcome channel ∧
        s.advance index = s.proceed index order channel outcome := by
  unfold advance
  split
  · exact Or.inl rfl
  next order stage hcall =>
    exact Or.inr ⟨order, stage, _, _, hcall, s.channel.advance_cases order stage, rfl⟩

theorem orderly_advance (h : s.Orderly) (index : Nat) : (s.advance index).Orderly := by
  rcases s.advance_eq index with heq | ⟨order, stage, outcome, channel, hcall, hstep, heq⟩
  · rw [heq]
    exact h
  rw [heq]
  have hsound : stage.Sound order := h.errands _ (List.mem_of_getElem? hcall)
  have herased : ∀ e ∈ s.errands.eraseIdx index, e.2.Sound e.1 := by
    intro e he
    exact h.errands e (List.mem_of_mem_eraseIdx he)
  cases outcome with
  | next stage' =>
      refine ⟨?_, h.accepted⟩
      intro e he
      rcases List.mem_or_eq_of_mem_set he with he | rfl
      · exact h.errands e he
      · exact hstep.sound hsound
  | ended result =>
      cases result with
      | error e => exact ⟨herased, h.accepted⟩
      | ok w =>
          refine ⟨herased, List.forall_mem_append.mpr ⟨h.accepted, ?_⟩⟩
          cases hstep with
          | queued htakes => simpa using hsound.2

theorem orderly_step (h : s.Orderly) (act : Act σ) : (s.step act).Orderly := by
  cases hplain : act.isPlain with
  | true =>
      have hsame := s.same_step hplain
      exact ⟨hsame.errands ▸ h.errands, hsame.accepted ▸ h.accepted⟩
  | false =>
      have hcall (order : Order) :
          ∀ e ∈ s.errands ++ [(order, .check)], Stage.Sound e.1 e.2 := by
        refine List.forall_mem_append.mpr ⟨h.errands, ?_⟩
        intro e he
        rw [List.mem_singleton.mp he]
        trivial
      cases act with
      | call order => exact ⟨hcall order, h.accepted⟩
      | advance index => exact s.orderly_advance h index
      | finish index =>
          change (s.finish index).Orderly
          have hfinish := s.finish_cases index
          generalize s.finish index = s' at hfinish
          cases hfinish with
          | absent | aside | reply | unanswered => exact ⟨h.errands, h.accepted⟩
          | answered => exact ⟨hcall _, h.accepted⟩
      | onTraffic | read | write | arrive | endWriting => exact ⟨h.errands, h.accepted⟩
      | _ => cases hplain

end Side

end Parley
