/-
Calls that send, one step at a time.

A call to write, to reply or to request touches the channel several times, and
the steps of calls that are made at the same time may come in any order, as may
those of the workers. `Channel.advance` is one step of a call. A call whose
steps follow on one another is the operation of the channel
(`carries_write`, `carries_reply`, `carries_request`).
-/
import Parley.Channel.Basic

namespace Parley

/-- What a call is to send. -/
inductive Order
  | write (message : Message)
  | reply (frameId : Int32) (message : Message)
  | request (type : RequestType) (payload : type.Payload)

namespace Order

/-- The message that is to be sent. -/
def message : Order → Message
  | write m => m
  | reply _ m => m
  | request r payload => .request r payload

/-- A handle is to wait for the answer. -/
def awaitsReply : Order → Bool
  | request _ _ => true
  | _ => false

/-- The frame id, where it is known from the start. -/
def frameId? : Order → Option Int32
  | write m => if m.kind = .broadcast then some broadcastId else none
  | reply frameId _ => some frameId
  | request _ _ => none

end Order

/-- What a call does next. -/
inductive Stage
  | check
  | number
  /-- The three steps in which the handle of a request is made to wait. -/
  | guard (ticket : Nat) (frameId : Int32)
  | await (ticket : Nat) (frameId : Int32)
  | confirm (ticket : Nat) (frameId : Int32)
  | enqueue (ticket : Nat) (frameId : Int32)

/-- What a step of a call leads to. -/
inductive Advance
  | next (stage : Stage)
  | ended (result : Except ChannelError WriteHandle)

namespace Channel

variable {σ : Type}

/-- Whether a call may go on. -/
def checkOrder (c : Channel σ) : Order → Except ChannelError Unit
  | .reply frameId m =>
    match checkReply frameId m with
    | .error e => .error e
    | .ok () => c.checkSend m
  | .write m => c.checkSend m
  | .request r payload => c.checkSend (.request r payload)

/-- One step of a call. -/
def advance (c : Channel σ) (o : Order) : Stage → Advance × Channel σ
  | .check =>
    match c.checkOrder o with
    | .error e => (.ended (.error e), c)
    | .ok () =>
      match o.frameId? with
      | some frameId =>
        let (ticket, c) := c.takeTicket
        (.next (.enqueue ticket frameId), c)
      | none => (.next .number, c)
  | .number =>
    match c.takeFrameId with
    | (.error e, c) => (.ended (.error e), c)
    | (.ok frameId, c) =>
      let (ticket, c) := c.takeTicket
      (.next (if o.awaitsReply then .guard ticket frameId else .enqueue ticket frameId), c)
  | .guard ticket frameId =>
    match c.checkOpen with
    | .error e => (.ended (.error e), c)
    | .ok () => (.next (.await ticket frameId), c)
  | .await ticket frameId =>
    match c.insertWaiter frameId (.handle ticket) with
    | (.error e, c) => (.ended (.error e), c)
    | (.ok (), c) => (.next (.confirm ticket frameId), c)
  | .confirm ticket frameId =>
    match c.confirmWaiter frameId with
    | (.error e, c) => (.ended (.error e), c)
    | (.ok (), c) => (.next (.enqueue ticket frameId), c)
  | .enqueue ticket frameId =>
    match c.enqueue ⟨ticket, frameId, o.message⟩ with
    | (.error e, c) => (.ended (.error e), if o.awaitsReply then c.removeWaiter frameId else c)
    | (.ok w, c) => (.ended (.ok w), c)

/-! ### Calls that nothing comes between -/

/-- The steps of a call, one after the other, lead from a channel to a result
and the channel after it. -/
inductive Carries (o : Order) :
    Channel σ → Stage → Except ChannelError WriteHandle → Channel σ → Prop
  | ended {c c' : Channel σ} {stage : Stage} {result : Except ChannelError WriteHandle} :
      c.advance o stage = (.ended result, c') → Carries o c stage result c'
  | next {c c' after : Channel σ} {stage stage' : Stage}
      {result : Except ChannelError WriteHandle} :
      c.advance o stage = (.next stage', c') → Carries o c' stage' result after →
        Carries o c stage result after

theorem carries_enqueue (c : Channel σ) {o : Order} (h : o.awaitsReply = false) (ticket : Nat)
    (frameId : Int32) :
    Carries o c (.enqueue ticket frameId) (c.enqueue ⟨ticket, frameId, o.message⟩).1
      (c.enqueue ⟨ticket, frameId, o.message⟩).2 := by
  refine .ended ?_
  rw [advance, h]
  generalize c.enqueue ⟨ticket, frameId, o.message⟩ = outcome
  obtain ⟨result, c'⟩ := outcome
  cases result with
  | error e => rfl
  | ok w => rfl

/-- The steps of a call to write are `write`. -/
theorem carries_write (c : Channel σ) (m : Message) :
    Carries (.write m) c .check (c.write m).1 (c.write m).2 := by
  rw [write]
  cases hsend : c.checkSend m with
  | error e => exact .ended (by rw [advance, checkOrder, hsend])
  | ok u =>
      dsimp only
      by_cases hkind : m.kind = .broadcast
      · rw [if_pos hkind]
        refine .next ?_ (c.takeTicket.2.carries_enqueue rfl _ _)
        rw [advance, checkOrder, hsend, Order.frameId?, if_pos hkind]
      · rw [if_neg hkind]
        refine .next (by rw [advance, checkOrder, hsend, Order.frameId?, if_neg hkind]) ?_
        cases hid : c.takeFrameId with
        | mk result c₁ =>
            cases result with
            | error e => exact .ended (by rw [advance, hid])
            | ok frameId =>
                refine .next ?_ (c₁.takeTicket.2.carries_enqueue rfl _ _)
                rw [advance, hid]
                rfl

/-- The steps of a call to reply are `reply`. -/
theorem carries_reply (c : Channel σ) (frameId : Int32) (m : Message) :
    Carries (.reply frameId m) c .check (c.reply frameId m).1 (c.reply frameId m).2 := by
  rw [reply]
  cases hreply : checkReply frameId m with
  | error e => exact .ended (by rw [advance, checkOrder, hreply])
  | ok u =>
      cases hsend : c.checkSend m with
      | error e => exact .ended (by simp only [advance, checkOrder, hreply, hsend])
      | ok u =>
          refine .next ?_ (c.takeTicket.2.carries_enqueue rfl _ _)
          simp only [advance, checkOrder, hreply, hsend, Order.frameId?]
          rfl

/-- The steps in which a handle is made to wait are `addWaiter`, and the last
one sends the request. -/
theorem carries_guard (c : Channel σ) {o : Order} (ticket : Nat) (frameId : Int32)
    {result : Except ChannelError WriteHandle} {after : Channel σ}
    (hfails : ∀ e c', c.addWaiter frameId (.handle ticket) = (.error e, c') →
      result = .error e ∧ after = c')
    (hwaits : ∀ c', c.addWaiter frameId (.handle ticket) = (.ok (), c') →
      Carries o c' (.enqueue ticket frameId) result after) :
    Carries o c (.guard ticket frameId) result after := by
  rw [addWaiter] at hfails hwaits
  cases hopen : c.checkOpen with
  | error e =>
      rw [hopen] at hfails
      obtain ⟨rfl, rfl⟩ := hfails e c rfl
      exact .ended (by rw [advance, hopen])
  | ok u =>
      rw [hopen] at hfails hwaits
      refine .next (by rw [advance, hopen]) ?_
      cases hinsert : c.insertWaiter frameId (.handle ticket) with
      | mk inserted c₁ =>
          rw [hinsert] at hfails hwaits
          cases inserted with
          | error e =>
              obtain ⟨rfl, rfl⟩ := hfails e c₁ rfl
              exact .ended (by rw [advance, hinsert])
          | ok u =>
              refine .next (by rw [advance, hinsert]) ?_
              dsimp only at hfails hwaits
              cases hconfirm : c₁.confirmWaiter frameId with
              | mk confirmed c₂ =>
                  cases confirmed with
                  | error e =>
                      obtain ⟨rfl, rfl⟩ := hfails e c₂ hconfirm
                      exact .ended (by rw [advance, hconfirm])
                  | ok u => exact .next (by rw [advance, hconfirm]) (hwaits c₂ hconfirm)

/-- The steps of a call to request are `request`. -/
theorem carries_request (c : Channel σ) (r : RequestType) (payload : r.Payload) :
    Carries (.request r payload) c .check
      ((c.request r payload).1.map fun h => ⟨h.ticket, h.frameId⟩) (c.request r payload).2 := by
  rw [request]
  cases hsend : c.checkSend (.request r payload) with
  | error e =>
      refine .ended ?_
      rw [advance, checkOrder, hsend]
      rfl
  | ok u =>
      refine .next (by rw [advance, checkOrder, hsend, Order.frameId?]) ?_
      cases hid : c.takeFrameId with
      | mk result c₁ =>
          cases result with
          | error e =>
              refine .ended ?_
              rw [advance, hid]
              rfl
          | ok frameId =>
              have hnumber : c.advance (.request r payload) .number =
                  (.next (.guard c₁.takeTicket.1 frameId), c₁.takeTicket.2) := by
                rw [advance, hid]
                rfl
              refine .next hnumber (carries_guard _ _ _ ?_ ?_)
              · intro e c₂ hadd
                dsimp only
                rw [hadd]
                exact ⟨rfl, rfl⟩
              · intro c₂ hadd
                dsimp only
                rw [hadd]
                refine .ended ?_
                rw [advance, Order.message]
                dsimp only
                generalize c₂.enqueue ⟨c₁.takeTicket.1, frameId, .request r payload⟩ = outcome
                obtain ⟨result, c₃⟩ := outcome
                cases result with
                | error e => rfl
                | ok w => rfl

end Channel

end Parley
