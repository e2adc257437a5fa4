/-
Courses: what happens to a channel from its creation on.

An event is an act, or an attempt to start the channel. A channel is closed in
steps, and whoever closes it makes it closed first, so the later steps are not
taken on an open channel. The moments of a course are counted from its
beginning, and `Registers`, `Delivers` and `Invokes` say what happens to those
that wait for one message from one moment to the next.
-/
import Parley.Channel.Line

namespace Parley

variable {σ : Type}

/-- The waiter that a call of a listener is for, with the message, if the call
is for what waited on a frame id. -/
def Job.response? : Job σ → Option (Waiter σ × Message)
  | .response w m => some (w, m)
  | _ => none

namespace Side

/-- A side whose channel was just created. Its sink follows scripts. -/
def created (registry : Registry) (config : ChannelConfig) (writes : List WriteTurn)
    (flushes : List FlushTurn) (app : σ) : Side σ where
  channel := .create registry config {} { writes, flushes }
  app

/-- What can happen to a side. -/
inductive Event (σ : Type)
  | start (runtime : Bool)
  | act (act : Act σ)

/-- A channel that is closed in steps is made closed first. -/
def permits (c : Channel σ) : Act σ → Bool
  | .cancel | .clearWaiters | .clearWorkbench => !c.isOpen
  | _ => true

/-- What an event does. -/
def happen (s : Side σ) : Event σ → Side σ
  | .start runtime => s.onChannel fun c => (c.start runtime).2
  | .act act => if permits s.channel act then s.step act else s

/-- What a sequence of events leads to. -/
def course (s : Side σ) (events : List (Event σ)) : Side σ := events.foldl happen s

/-- The side before the event of a number, and after all events at the end. -/
def moment (s : Side σ) (events : List (Event σ)) (n : Nat) : Side σ :=
  s.course (events.take n)

/-- The message that an event delivers, with its frame id. -/
def delivery? (s : Side σ) : Event σ → Option (Int32 × Message)
  | .act .read => incoming s.channel
  | _ => none

/-- The waiter that an event calls, with the message. -/
def invocation? (s : Side σ) : Event σ → Option (Waiter σ × Message)
  | .act (.finish index) => s.channel.pool[index]?.bind Job.response?
  | _ => none

/-- What an event makes wait, and on which frame id: the handle of a request
whose call takes that step, or a listener that is accepted. -/
def registration? (s : Side σ) : Event σ → Option (Int32 × Waiter σ)
  | .act (.advance index) =>
    match s.errands[index]? with
    | some (_, .await ticket frameId) =>
      if (s.channel.insertWaiter frameId (.handle ticket)).1.isOk then
        some (frameId, .handle ticket)
      else none
    | _ => none
  | .act (.listen frameId run) =>
    if (s.channel.addResponseListener frameId run).1.isOk then some (frameId, .listener run)
    else none
  | _ => none

/-- The ticket of the handle that an event settles: the handle is given up, or a
look at it finds what came of its request. -/
def settled? (s : Side σ) : Event σ → Option Nat
  | .act (.forget index) => (s.open? index).map (·.handle.ticket)
  | .act (.poll index) =>
    ((s.open? index).filter fun a => (s.channel.pollReply a.handle).1.isSome).map
      (·.handle.ticket)
  | _ => none

section Moments

variable (s : Side σ) (events : List (Event σ)) (n : Nat)

/-- An event makes a waiter wait on a frame id. -/
def Registers (frameId : Int32) (w : Waiter σ) : Prop :=
  events[n]?.bind (s.moment events n).registration? = some (frameId, w)

/-- An event delivers a message on a frame id. -/
def Delivers (frameId : Int32) (m : Message) : Prop :=
  events[n]?.bind (s.moment events n).delivery? = some (frameId, m)

/-- An event calls a waiter with a message. -/
def Invokes (w : Waiter σ) (m : Message) : Prop :=
  events[n]?.bind (s.moment events n).invocation? = some (w, m)

/-- An event settles the handle of a ticket. -/
def Settles (ticket : Nat) : Prop :=
  events[n]?.bind (s.moment events n).settled? = some ticket

end Moments

/-! ### Longer courses

What happened up to a moment does not depend on what happens later.
-/

section Longer

variable (s : Side σ) (events : List (Event σ))

@[simp] theorem course_concat (e : Event σ) :
    s.course (events ++ [e]) = (s.course events).happen e := by
  rw [course, List.foldl_append]
  rfl

@[simp] theorem moment_length : s.moment events events.length = s.course events := by
  rw [moment, List.take_length]

variable {events} {n : Nat}

theorem moment_append (h : n ≤ events.length) (later : List (Event σ)) :
    s.moment (events ++ later) n = s.moment events n := by
  rw [moment, moment, List.take_append_of_le_length h]

variable {s} {frameId : Int32} {w : Waiter σ} {m : Message} {e : Event σ}

theorem moment_succ (h : events[n]? = some e) :
    s.moment events (n + 1) = (s.moment events n).happen e := by
  rw [moment, List.take_add_one, h]
  exact s.course_concat _ e

theorem moment_concat_length :
    s.moment (events ++ [e]) (events.length + 1) = (s.course events).happen e := by
  rw [← course_concat, ← moment_length, List.length_append]
  rfl

theorem Registers.lt_length (h : s.Registers events n frameId w) : n < events.length := by
  refine Nat.lt_of_not_le fun hn => ?_
  rw [Registers, List.getElem?_eq_none hn] at h
  cases h

theorem Delivers.lt_length (h : s.Delivers events n frameId m) : n < events.length := by
  refine Nat.lt_of_not_le fun hn => ?_
  rw [Delivers, List.getElem?_eq_none hn] at h
  cases h

theorem Invokes.lt_length (h : s.Invokes events n w m) : n < events.length := by
  refine Nat.lt_of_not_le fun hn => ?_
  rw [Invokes, List.getElem?_eq_none hn] at h
  cases h

/-- What one more event yields, by a function of the side and the event. -/
theorem getElem?_concat_bind {α : Type} (f : Side σ → Event σ → Option α) (a : α) :
    (events ++ [e])[n]?.bind (f (s.moment (events ++ [e]) n)) = some a ↔
      events[n]?.bind (f (s.moment events n)) = some a ∨
        n = events.length ∧ f (s.course events) e = some a := by
  rcases Nat.lt_trichotomy n events.length with hn | rfl | hn
  · rw [List.getElem?_append_left hn, s.moment_append (Nat.le_of_lt hn)]
    simp [Nat.ne_of_lt hn]
  · rw [List.getElem?_concat_length, s.moment_append (Nat.le_refl _), moment_length]
    simp
  · have hbeyond : (events ++ [e])[n]? = none := by
      rw [List.getElem?_eq_none_iff, List.length_append]
      exact hn
    rw [hbeyond, List.getElem?_eq_none (Nat.le_of_lt hn)]
    simp [Nat.ne_of_gt hn]

theorem registers_concat :
    s.Registers (events ++ [e]) n frameId w ↔ s.Registers events n frameId w ∨
      n = events.length ∧ (s.course events).registration? e = some (frameId, w) :=
  getElem?_concat_bind registration? (frameId, w)

theorem delivers_concat :
    s.Delivers (events ++ [e]) n frameId m ↔ s.Delivers events n frameId m ∨
      n = events.length ∧ (s.course events).delivery? e = some (frameId, m) :=
  getElem?_concat_bind delivery? (frameId, m)

theorem invokes_concat :
    s.Invokes (events ++ [e]) n w m ↔ s.Invokes events n w m ∨
      n = events.length ∧ (s.course events).invocation? e = some (w, m) :=
  getElem?_concat_bind invocation? (w, m)

theorem settles_concat {ticket : Nat} :
    s.Settles (events ++ [e]) n ticket ↔ s.Settles events n ticket ∨
      n = events.length ∧ (s.course events).settled? e = some ticket :=
  getElem?_concat_bind settled? ticket

/-- What happened before a moment is settled by the events before it. -/
theorem settles_take {ticket k : Nat} (h : n < k) :
    s.Settles (events.take k) n ticket ↔ s.Settles events n ticket := by
  rw [Settles, Settles, moment, moment, List.take_take, Nat.min_eq_left (Nat.le_of_lt h),
    List.getElem?_take_of_lt h]

end Longer

end Side

end Parley
