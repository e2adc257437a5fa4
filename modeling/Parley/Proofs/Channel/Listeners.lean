/-
Who waits is called at most once, with the first message on its frame id.

A waiter is known by the event that added it to the table: the same listener can
be added again, and on the same frame id once that is free. The invariant
(`Attributed`) follows each waiter through a course: it is in the table, or the
message that took it from there has a call due, or the call was made. No event
that added a waiter is in two of these places, so no waiter is called twice.
-/
import Parley.Proofs.Channel.Waiting

namespace Parley

open scoped List

variable {σ : Type}

namespace Side

/-! ### What an event does to those that wait -/

/-- An event adds a waiter, delivers a message that is no broadcast, calls a
waiter, or does none of these. -/
inductive Turn (s : Side σ) (e : Event σ) : Prop
  | rests (waiters : (s.happen e).channel.waiters <+ s.channel.waiters)
      (responses : (s.happen e).channel.responses <+ s.channel.responses)
      (delivery : ∀ frameId m, s.delivery? e = some (frameId, m) → frameId = broadcastId)
      (registration : s.registration? e = none) (invocation : s.invocation? e = none)
  | registers (frameId : Int32) (w : Waiter σ)
      (waiters : (s.happen e).channel.waiters = s.channel.waiters ++ [(frameId, w)])
      (responses : (s.happen e).channel.responses <+ s.channel.responses)
      (delivery : s.delivery? e = none) (registration : s.registration? e = some (frameId, w))
      (invocation : s.invocation? e = none)
  | delivers (frameId : Int32) (m : Message) (notBroadcast : frameId ≠ broadcastId)
      (waiters : (s.happen e).channel.waiters = s.channel.waiters.filter (·.1 ≠ frameId))
      (responses : (s.happen e).channel.responses
        <+ s.channel.responses ++ (s.channel.waiters.lookup frameId).toList.map fun w => (w, m))
      (delivery : s.delivery? e = some (frameId, m)) (registration : s.registration? e = none)
      (invocation : s.invocation? e = none)
  | invokes (w : Waiter σ) (m : Message)
      (waiters : (s.happen e).channel.waiters = s.channel.waiters)
      (responses : s.channel.responses ~ (w, m) :: (s.happen e).channel.responses)
      (delivery : s.delivery? e = none) (registration : s.registration? e = none)
      (invocation : s.invocation? e = some (w, m))

variable (s : Side σ) {e : Event σ}

theorem Turn.of_rests {s : Side σ} {e : Event σ} (h : s.channel.Rests (s.happen e).channel)
    (hdelivery : s.delivery? e = none) (hregistration : s.registration? e = none)
    (hinvocation : s.invocation? e = none) : Turn s e := by
  refine .rests h.waiters h.responses ?_ hregistration hinvocation
  intro frameId m hsome
  cases hdelivery.symm.trans hsome

/-- The step in which the handle of a request is made to wait, where nothing else
waits on the frame id. -/
theorem turn_await {index ticket : Nat} {frameId : Int32} {order : Order}
    (hcall : s.errands[index]? = some (order, .await ticket frameId)) :
    Turn s (.act (.advance index)) := by
  have hhappen : s.happen (.act (.advance index)) = s.advance index := rfl
  cases hwaits : s.channel.hasWaiter frameId with
  | true =>
      refine .of_rests ?_ rfl ?_ rfl
      · rw [hhappen, advance, hcall]
        dsimp only [Channel.advance]
        rw [Channel.insertWaiter, if_pos hwaits]
        exact .refl _
      · rw [registration?, hcall]
        dsimp only
        rw [Channel.insertWaiter, if_pos hwaits]
        rfl
  | false =>
      have hchannel : (s.happen (.act (.advance index))).channel
          = { s.channel with
              waiters := s.channel.waiters ++ [(frameId, Waiter.handle ticket)] } := by
        rw [hhappen, advance, hcall]
        dsimp only [Channel.advance]
        rw [Channel.insertWaiter, hwaits]
        rfl
      refine .registers frameId (.handle ticket) ?_ ?_ rfl ?_ rfl
      · rw [hchannel]
      · rw [hchannel]
        exact List.Sublist.refl _
      · rw [registration?, hcall]
        dsimp only
        rw [Channel.insertWaiter, hwaits]
        rfl

theorem turn_advance (index : Nat) : Turn s (.act (.advance index)) := by
  have hhappen : s.happen (.act (.advance index)) = s.advance index := rfl
  cases hcall : s.errands[index]? with
  | none =>
      refine .of_rests ?_ rfl (by rw [registration?, hcall]) rfl
      rw [hhappen, advance, hcall]
      exact .refl _
  | some call =>
      obtain ⟨order, stage⟩ := call
      by_cases hawait : ∃ ticket frameId, stage = .await ticket frameId
      · obtain ⟨ticket, frameId, rfl⟩ := hawait
        exact s.turn_await hcall
      have hregistration : s.registration? (.act (.advance index)) = none := by
        rw [registration?, hcall]
        cases stage with
        | await ticket frameId => exact absurd ⟨ticket, frameId, rfl⟩ hawait
        | _ => rfl
      have hchannel : (s.happen (.act (.advance index))).channel
          = (s.channel.advance order stage).2 := by
        rw [hhappen, advance, hcall]
        exact s.proceed_channel _ _ _ _
      have hstep := s.channel.advance_cases order stage
      rw [← hchannel] at hstep
      generalize hafter : (s.happen (.act (.advance index))).channel = channel at hstep
      have hrests (hwaiters : channel.waiters <+ s.channel.waiters)
          (hresponses : channel.responses = s.channel.responses) :
          Turn s (.act (.advance index)) := by
        refine .rests ?_ ?_ (fun _ _ h => nomatch h) hregistration rfl
        · rwa [hafter]
        · rw [hafter, hresponses]
      generalize (s.channel.advance order stage).1 = outcome at hstep
      cases hstep with
      | failed | known | unknown | numbered | guarded | confirmed | queued =>
          exact hrests (List.Sublist.refl _) rfl
      | withdrawn => exact hrests List.filter_sublist rfl
      | @waits ticket frameId => exact absurd ⟨ticket, frameId, rfl⟩ hawait

theorem turn_listen (frameId : Int32) (run : σ → Message → σ) :
    Turn s (.act (.listen frameId run)) := by
  have hchannel : (s.happen (.act (.listen frameId run))).channel
      = (s.channel.addWaiter frameId (.listener run)).2 := rfl
  have hregistration : s.registration? (.act (.listen frameId run))
      = if (s.channel.addWaiter frameId (.listener run)).1.isOk then
          some (frameId, .listener run)
        else none := rfl
  rcases s.channel.addWaiter_cases frameId (.listener run) with
    ⟨-, heq⟩ | ⟨-, -, heq⟩ | ⟨-, -, heq⟩
  · refine .of_rests ?_ rfl (by rw [hregistration, heq]; rfl) rfl
    rw [hchannel, heq]
    exact .refl _
  · refine .of_rests ?_ rfl (by rw [hregistration, heq]; rfl) rfl
    rw [hchannel, heq]
    exact .refl _
  · refine .registers frameId (.listener run) ?_ ?_ rfl (by rw [hregistration, heq]; rfl) rfl
    · rw [hchannel, heq]
    · rw [hchannel, heq]
      exact List.Sublist.refl _

/-- A message that is delivered leaves those alone that wait on other frame ids,
and a broadcast leaves all of them alone. -/
theorem waiters_of_delivery {frameId : Int32} {m : Message}
    (h : s.delivery? e = some (frameId, m)) :
    (s.happen e).channel.waiters = if frameId = broadcastId then s.channel.waiters
      else s.channel.waiters.filter (·.1 ≠ frameId) := by
  cases e with
  | start runtime => cases h
  | act act =>
      cases act with
      | read =>
          have hchannel : (s.happen (.act .read)).channel = s.channel.readStep := rfl
          rw [hchannel, s.channel.readStep_of_incoming h]
          by_cases hid : frameId = broadcastId
          · subst hid
            rw [if_pos rfl]
            exact congrArg Channel.Ledger.waiters (s.channel.collected.deliver_broadcastId m).1
          · rw [if_neg hid]
            exact congrArg Channel.Ledger.waiters (s.channel.collected.ledger_deliver hid m)
      | _ => cases h

theorem turn_read : Turn s (.act .read) := by
  have hchannel : (s.happen (.act .read)).channel = s.channel.readStep := rfl
  cases hdelivery : s.delivery? (.act .read) with
  | none =>
      refine .of_rests ?_ hdelivery rfl rfl
      rw [hchannel]
      exact s.channel.rests_readStep hdelivery
  | some brought =>
      obtain ⟨frameId, m⟩ := brought
      have hwaiters := s.waiters_of_delivery hdelivery
      have heq := s.channel.readStep_of_incoming hdelivery
      by_cases hid : frameId = broadcastId
      · subst hid
        rw [if_pos rfl] at hwaiters
        refine .rests (hwaiters ▸ List.Sublist.refl _) ?_ ?_ rfl rfl
        · rw [hchannel, heq]
          exact (s.channel.collected.deliver_broadcastId m).2
        · intro frameId m' hsome
          cases hdelivery.symm.trans hsome
          rfl
      · rw [if_neg hid] at hwaiters
        refine .delivers frameId m hid hwaiters ?_ hdelivery rfl rfl
        rw [hchannel, heq]
        exact s.channel.collected.responses_deliver hid m

theorem turn_finish (index : Nat) : Turn s (.act (.finish index)) := by
  have hhappen : s.happen (.act (.finish index)) = s.finish index := rfl
  have hinvocation :
      s.invocation? (.act (.finish index)) = s.channel.pool[index]?.bind Job.response? := rfl
  obtain ⟨hwaiters, hresponses⟩ := s.finish_waits index
  rw [← hhappen] at hwaiters hresponses
  cases hjob : s.channel.pool[index]? with
  | none =>
      have herased : s.channel.pool.eraseIdx index = s.channel.pool :=
        List.eraseIdx_of_length_le (List.getElem?_eq_none_iff.mp hjob)
      refine .rests (hwaiters ▸ List.Sublist.refl _) ?_ (fun _ _ h => nomatch h) rfl ?_
      · rw [hresponses, Channel.withoutJob, herased]
      · rw [hinvocation, hjob]
        rfl
  | some job =>
      have hdue := s.channel.responses_withoutJob hjob
      rw [← hresponses] at hdue
      rw [hjob] at hinvocation
      cases hresponse : job.response? with
      | none =>
          refine .rests (hwaiters ▸ List.Sublist.refl _) ?_ (fun _ _ h => nomatch h) rfl
            (hinvocation.trans hresponse)
          rw [hresponses]
          exact ((s.channel.jobs_withoutJob index).filterMap _)
      | some called =>
          rw [hresponse] at hdue
          exact .invokes called.1 called.2 hwaiters hdue rfl rfl (hinvocation.trans hresponse)

/-- **What an event does to those that wait, case by case.** -/
theorem turn (e : Event σ) : Turn s e := by
  cases e with
  | start runtime => exact .of_rests (s.channel.rests_start runtime) rfl rfl rfl
  | act act =>
      by_cases hpermits : permits s.channel act = true
      case neg =>
        have hstays : s.happen (.act act) = s := by rw [happen, if_neg hpermits]
        have hrests : s.channel.Rests (s.happen (.act act)).channel := by
          rw [hstays]
          exact .refl _
        -- only steps in which a channel is closed can be out of place
        cases act with
        | cancel | clearWaiters | clearWorkbench => exact .of_rests hrests rfl rfl rfl
        | _ => exact absurd rfl hpermits
      have hhappen : s.happen (.act act) = s.step act := by rw [happen, if_pos hpermits]
      have hsub (hwaiters : (s.step act).channel.waiters <+ s.channel.waiters)
          (hresponses : (s.step act).channel.responses = s.channel.responses)
          (hdelivery : s.delivery? (.act act) = none)
          (hregistration : s.registration? (.act act) = none)
          (hinvocation : s.invocation? (.act act) = none) : Turn s (.act act) := by
        refine .rests ?_ ?_ (fun _ _ h => nomatch hdelivery.symm.trans h) hregistration hinvocation
        · rwa [hhappen]
        · rw [hhappen, hresponses]
      cases hidle : act.isIdle with
      | true =>
          have hrests : s.channel.Rests (s.happen (.act act)).channel := by
            rw [hhappen]
            exact s.rests_step hidle
          cases act with
          | advance | listen | poll | forget | read | finish | flip | clearWaiters => cases hidle
          | _ => exact .of_rests hrests rfl rfl rfl
      | false =>
          cases act with
          | advance index => exact s.turn_advance index
          | listen frameId run => exact s.turn_listen frameId run
          | read => exact s.turn_read
          | finish index => exact s.turn_finish index
          | flip => exact hsub (List.Sublist.refl _) rfl rfl rfl rfl
          | clearWaiters => exact hsub (List.nil_sublist _) rfl rfl rfl rfl
          | poll index =>
              have hchannel : (s.step (.poll index)).channel = (s.poll index).channel := rfl
              rcases s.poll_channel index with heq | ⟨a, -, -, heq⟩
              · rw [hchannel, heq] at hsub
                exact hsub (List.Sublist.refl _) rfl rfl rfl rfl
              · rw [hchannel, heq] at hsub
                exact hsub List.filter_sublist rfl rfl rfl rfl
          | forget index =>
              have hchannel : (s.step (.forget index)).channel = (s.forget index).channel := rfl
              rcases s.forget_channel index with heq | ⟨a, -, heq⟩
              · rw [hchannel, heq] at hsub
                exact hsub (List.Sublist.refl _) rfl rfl rfl rfl
              · rw [hchannel, heq] at hsub
                exact hsub List.filter_sublist rfl rfl rfl rfl
          | _ => cases hidle

/-- **What makes a waiter wait puts it into the table, and nothing else puts
anything there.** -/
theorem registration?_eq_some {x : Int32 × Waiter σ} :
    s.registration? e = some x ↔ (s.happen e).channel.waiters = s.channel.waiters ++ [x] := by
  have hmore {waiters : List (Int32 × Waiter σ)}
      (hlength : waiters.length ≤ s.channel.waiters.length) :
      ¬ waiters = s.channel.waiters ++ [x] := by
    rintro rfl
    rw [List.length_append, List.length_singleton] at hlength
    exact Nat.not_succ_le_self _ hlength
  cases s.turn e with
  | registers frameId w hwaiters _ _ hregistration =>
      rw [hregistration, hwaiters, Option.some_inj]
      constructor
      · rintro rfl
        rfl
      · intro h
        exact List.singleton_inj.mp (List.append_cancel_left h)
  | rests hwaiters _ _ hregistration =>
      exact iff_of_false (by rw [hregistration]; nofun) (hmore hwaiters.length_le)
  | delivers _ _ _ hwaiters _ _ hregistration =>
      refine iff_of_false (by rw [hregistration]; nofun) (hmore ?_)
      rw [hwaiters]
      exact List.length_filter_le _ _
  | invokes _ _ hwaiters _ _ hregistration =>
      exact iff_of_false (by rw [hregistration]; nofun) (hmore (Nat.le_of_eq (by rw [hwaiters])))

/-- A waiter is made to wait by the event of a number exactly if it is in the
table behind all others after the event. -/
theorem registers_iff {events : List (Event σ)} {n : Nat} {frameId : Int32} {w : Waiter σ} :
    s.Registers events n frameId w ↔ (s.moment events (n + 1)).channel.waiters
      = (s.moment events n).channel.waiters ++ [(frameId, w)] := by
  rw [Registers]
  cases hevent : events[n]? with
  | some e =>
      rw [s.moment_succ hevent]
      exact registration?_eq_some _
  | none =>
      have hlength := List.getElem?_eq_none_iff.mp hevent
      rw [moment, moment, List.take_of_length_le (Nat.le_succ_of_le hlength),
        List.take_of_length_le hlength]
      exact iff_of_false (by simp) (by simp)

/-! ### Where a waiter is -/

section Attribution

variable {s : Side σ} {events : List (Event σ)} {e : Event σ}

/-- A waiter was added by an event and has been in the table ever since. -/
structure Waits (s : Side σ) (events : List (Event σ)) (n : Nat) (frameId : Int32)
    (w : Waiter σ) : Prop where
  lt_length : n < events.length
  registers : s.Registers events n frameId w
  present : ∀ k, n < k → k ≤ events.length → (frameId, w) ∈ (s.moment events k).channel.waiters
  /-- Only a broadcast could have left it there. -/
  first : frameId ≠ broadcastId → ∀ k, n < k → ∀ m, ¬ s.Delivers events k frameId m

/-- Why a waiter is called: the events that added it and that delivered a message. -/
structure Cause (σ : Type) where
  registered : Nat
  delivered : Nat
  frameId : Int32
  waiter : Waiter σ
  message : Message

/-- A waiter is called for the first message on its frame id that was delivered
after it was added, and it was in the table until then. -/
structure Cause.Holds (s : Side σ) (events : List (Event σ)) (c : Cause σ) : Prop where
  notBroadcast : c.frameId ≠ broadcastId
  registered_lt : c.registered < c.delivered
  registers : s.Registers events c.registered c.frameId c.waiter
  delivers : s.Delivers events c.delivered c.frameId c.message
  present : ∀ k, c.registered < k → k ≤ c.delivered →
    (c.frameId, c.waiter) ∈ (s.moment events k).channel.waiters
  first : ∀ k, c.registered < k → k < c.delivered → ∀ m, ¬ s.Delivers events k c.frameId m

theorem Waits.concat {n : Nat} {frameId : Int32} {w : Waiter σ}
    (h : Waits s events n frameId w)
    (hstays : (frameId, w) ∈ ((s.course events).happen e).channel.waiters)
    (hfirst : ∀ m, (s.course events).delivery? e = some (frameId, m) → frameId = broadcastId) :
    Waits s (events ++ [e]) n frameId w where
  lt_length := by
    rw [List.length_append]
    exact Nat.lt_add_right 1 h.lt_length
  registers := registers_concat.mpr (Or.inl h.registers)
  present := by
    intro k hn hk
    rw [List.length_append, List.length_singleton] at hk
    rcases Nat.lt_or_eq_of_le hk with hk | rfl
    · rw [s.moment_append (Nat.le_of_lt_succ hk)]
      exact h.present k hn (Nat.le_of_lt_succ hk)
    · rwa [moment_concat_length]
  first := by
    intro hid k hn m hdelivers
    rcases delivers_concat.mp hdelivers with hbefore | ⟨-, hnow⟩
    · exact h.first hid k hn m hbefore
    · exact hid (hfirst m hnow)

/-- What is added to the table waits there. -/
theorem Waits.of_registers {frameId : Int32} {w : Waiter σ}
    (h : (s.course events).registration? e = some (frameId, w)) :
    Waits s (events ++ [e]) events.length frameId w where
  lt_length := by simp
  registers := registers_concat.mpr (Or.inr ⟨rfl, h⟩)
  present := by
    intro k hn hk
    rw [List.length_append, List.length_singleton] at hk
    rw [Nat.le_antisymm hk hn, moment_concat_length, (registration?_eq_some _).mp h]
    simp
  first := by
    intro _ k hn m hdelivers
    have hk := hdelivers.lt_length
    rw [List.length_append, List.length_singleton] at hk
    omega

theorem Cause.Holds.concat {c : Cause σ} (h : c.Holds s events) (e : Event σ) :
    c.Holds s (events ++ [e]) where
  notBroadcast := h.notBroadcast
  registered_lt := h.registered_lt
  registers := registers_concat.mpr (Or.inl h.registers)
  delivers := delivers_concat.mpr (Or.inl h.delivers)
  present := by
    intro k hn hk
    rw [s.moment_append (Nat.le_trans hk (Nat.le_of_lt h.delivers.lt_length))]
    exact h.present k hn hk
  first := by
    intro k hn hk m hdelivers
    rcases delivers_concat.mp hdelivers with hbefore | ⟨hlast, -⟩
    · exact h.first k hn hk m hbefore
    · exact absurd h.delivers.lt_length (Nat.lt_asymm (hlast ▸ hk))

/-- A waiter that is in the table when a message comes on its frame id is called for it. -/
theorem Waits.cause {n : Nat} {frameId : Int32} {w : Waiter σ} {m : Message}
    (h : Waits s events n frameId w) (hid : frameId ≠ broadcastId)
    (hdelivery : (s.course events).delivery? e = some (frameId, m)) :
    Cause.Holds s (events ++ [e]) ⟨n, events.length, frameId, w, m⟩ where
  notBroadcast := hid
  registered_lt := h.lt_length
  registers := registers_concat.mpr (Or.inl h.registers)
  delivers := delivers_concat.mpr (Or.inr ⟨rfl, hdelivery⟩)
  present := by
    intro k hn hk
    rw [s.moment_append hk]
    exact h.present k hn hk
  first := by
    intro k hn hk m' hdelivers
    rcases delivers_concat.mp hdelivers with hbefore | ⟨hlast, -⟩
    · exact h.first hid k hn m' hbefore
    · exact absurd hlast (Nat.ne_of_lt hk)

/-- The call that a cause leads to. -/
def Cause.call (c : Cause σ) : Waiter σ × Message := (c.waiter, c.message)

/-- Every waiter that was added is in the table, is due to be called or was
called, or is gone. The calls that were made are numbered by their events. -/
structure Attributed (s : Side σ) (events : List (Event σ))
    (waiting : List (Nat × Int32 × Waiter σ)) (due : List (Cause σ))
    (made : List (Nat × Cause σ)) : Prop where
  table : waiting.map Prod.snd = (s.course events).channel.waiters
  waits : ∀ x ∈ waiting, Waits s events x.1 x.2.1 x.2.2
  responses : (s.course events).channel.responses <+~ due.map Cause.call
  causes : ∀ c ∈ due, c.Holds s events
  calls : ∀ x ∈ made, x.2.Holds s events ∧ x.2.delivered < x.1 ∧
    s.Invokes events x.1 x.2.waiter x.2.message
  all : ∀ n w m, s.Invokes events n w m → ∃ x ∈ made, x.1 = n
  once : (waiting.map Prod.fst ++ (due.map Cause.registered
    ++ made.map fun x => x.2.registered)).Nodup

namespace Attributed

variable {waiting waiting' : List (Nat × Int32 × Waiter σ)} {due : List (Cause σ)}
  {made : List (Nat × Cause σ)}

theorem causes_concat (h : Attributed s events waiting due made) (e : Event σ) :
    ∀ c ∈ due, c.Holds s (events ++ [e]) :=
  fun c hc => (h.causes c hc).concat e

theorem calls_concat (h : Attributed s events waiting due made) (e : Event σ) :
    ∀ x ∈ made, x.2.Holds s (events ++ [e]) ∧ x.2.delivered < x.1 ∧
      s.Invokes (events ++ [e]) x.1 x.2.waiter x.2.message := by
  intro x hx
  obtain ⟨hholds, hlt, hinvokes⟩ := h.calls x hx
  exact ⟨hholds.concat e, hlt, invokes_concat.mpr (Or.inl hinvokes)⟩

theorem all_concat (h : Attributed s events waiting due made)
    (hnone : (s.course events).invocation? e = none) (n : Nat) (w : Waiter σ) (m : Message)
    (hinvokes : s.Invokes (events ++ [e]) n w m) : ∃ x ∈ made, x.1 = n := by
  rcases invokes_concat.mp hinvokes with hbefore | ⟨-, hnow⟩
  · exact h.all n w m hbefore
  · cases hnone.symm.trans hnow

/-- Those that are left of the table wait on, unless one of them is delivered to. -/
theorem waits_concat (h : Attributed s events waiting due made) (hsub : waiting' <+ waiting)
    (htable : waiting'.map Prod.snd = ((s.course events).happen e).channel.waiters)
    (hfirst : ∀ x ∈ waiting', ∀ m, (s.course events).delivery? e = some (x.2.1, m) →
      x.2.1 = broadcastId) :
    ∀ x ∈ waiting', Waits s (events ++ [e]) x.1 x.2.1 x.2.2 := by
  intro x hx
  refine (h.waits x (hsub.subset hx)).concat ?_ (hfirst x hx)
  rw [← htable]
  exact List.mem_map_of_mem hx

theorem lt_length (h : Attributed s events waiting due made) :
    ∀ n ∈ waiting.map Prod.fst ++ (due.map Cause.registered
      ++ made.map fun x => x.2.registered), n < events.length := by
  have hcause {c : Cause σ} (hc : c.Holds s events) : c.registered < events.length :=
    Nat.lt_trans hc.registered_lt hc.delivers.lt_length
  intro n hn
  rcases List.mem_append.mp hn with hn | hn
  · obtain ⟨x, hx, rfl⟩ := List.mem_map.mp hn
    exact (h.waits x hx).lt_length
  · rcases List.mem_append.mp hn with hn | hn
    · obtain ⟨c, hc, rfl⟩ := List.mem_map.mp hn
      exact hcause (h.causes c hc)
    · obtain ⟨x, hx, rfl⟩ := List.mem_map.mp hn
      exact hcause (h.calls x hx).1

theorem rests (h : Attributed s events waiting due made)
    (hwaiters : ((s.course events).happen e).channel.waiters <+ (s.course events).channel.waiters)
    (hresponses : ((s.course events).happen e).channel.responses
      <+ (s.course events).channel.responses)
    (hdelivery : ∀ frameId m, (s.course events).delivery? e = some (frameId, m) →
      frameId = broadcastId)
    (hinvocation : (s.course events).invocation? e = none) :
    ∃ waiting', Attributed s (events ++ [e]) waiting' due made := by
  rw [← h.table] at hwaiters
  obtain ⟨waiting', hsub, htable⟩ := List.sublist_map_iff.mp hwaiters
  refine ⟨waiting', ?_⟩
  exact {
    table := by rw [course_concat, htable]
    waits := h.waits_concat hsub htable.symm fun x _ m => hdelivery x.2.1 m
    responses := by
      rw [course_concat]
      exact hresponses.subperm.trans h.responses
    causes := h.causes_concat e
    calls := h.calls_concat e
    all := h.all_concat hinvocation
    once := h.once.sublist ((hsub.map _).append_right _) }

theorem registers (h : Attributed s events waiting due made) {frameId : Int32} {w : Waiter σ}
    (hregistration : (s.course events).registration? e = some (frameId, w))
    (hresponses : ((s.course events).happen e).channel.responses
      <+ (s.course events).channel.responses)
    (hdelivery : (s.course events).delivery? e = none)
    (hinvocation : (s.course events).invocation? e = none) :
    Attributed s (events ++ [e]) (waiting ++ [(events.length, frameId, w)]) due made where
  table := by
    rw [course_concat, (registration?_eq_some _).mp hregistration, List.map_append, h.table]
    rfl
  waits := by
    rw [List.forall_mem_append]
    constructor
    · intro x hx
      refine (h.waits x hx).concat ?_ (fun m hsome => nomatch hdelivery.symm.trans hsome)
      rw [(registration?_eq_some _).mp hregistration, ← h.table]
      exact List.mem_append_left _ (List.mem_map_of_mem hx)
    · intro x hx
      rw [List.mem_singleton.mp hx]
      exact .of_registers hregistration
  responses := by
    rw [course_concat]
    exact hresponses.subperm.trans h.responses
  causes := h.causes_concat e
  calls := h.calls_concat e
  all := h.all_concat hinvocation
  once := by
    have hfresh : events.length ∉ waiting.map Prod.fst ++ (due.map Cause.registered
        ++ made.map fun x => x.2.registered) :=
      fun hmem => Nat.lt_irrefl _ (h.lt_length _ hmem)
    have hcons := List.nodup_cons.mpr ⟨hfresh, h.once⟩
    refine (List.Perm.nodup_iff ?_).mpr hcons
    rw [List.map_append, List.append_assoc]
    exact List.perm_middle

/-- What a message is delivered to is the cause of a call, and leaves the table. -/
theorem exists_causes (h : Attributed s events waiting due made) {frameId : Int32} {m : Message}
    (hid : frameId ≠ broadcastId)
    (hdelivery : (s.course events).delivery? e = some (frameId, m)) :
    ∃ called : List (Cause σ),
      called.map Cause.call
          = ((s.course events).channel.waiters.lookup frameId).toList.map (fun w => (w, m)) ∧
        (∀ c ∈ called, c.Holds s (events ++ [e])) ∧
        called.map Cause.registered ++ (waiting.filter (·.2.1 ≠ frameId)).map Prod.fst
          <+~ waiting.map Prod.fst := by
  cases hlookup : (s.course events).channel.waiters.lookup frameId with
  | none => exact ⟨[], rfl, List.forall_mem_nil _, (List.filter_sublist.map _).subperm⟩
  | some w =>
      obtain ⟨front, back, hsplit, -⟩ := List.lookup_eq_some_iff.mp hlookup
      rw [← h.table] at hsplit
      obtain ⟨front, rest, hwaiting, -, hrest⟩ := List.map_eq_append_iff.mp hsplit
      obtain ⟨x, back, hrest, hx, -⟩ := List.map_eq_cons_iff.mp hrest
      subst hwaiting hrest
      refine ⟨[⟨x.1, events.length, frameId, w, m⟩], rfl, ?_, ?_⟩
      · intro c hc
        have hwaits := h.waits x (List.mem_append_right _ List.mem_cons_self)
        rw [hx] at hwaits
        rw [List.mem_singleton.mp hc]
        exact hwaits.cause hid hdelivery
      · rw [List.filter_append, List.filter_cons, hx]
        have hothers : (front.filter (·.2.1 ≠ frameId) ++ back.filter (·.2.1 ≠ frameId)).map
            Prod.fst <+ (front ++ back).map Prod.fst :=
          (List.filter_sublist.append List.filter_sublist).map _
        have hperm : x.1 :: (front ++ back).map Prod.fst ~ (front ++ x :: back).map Prod.fst :=
          List.perm_middle.symm.map Prod.fst
        simpa using (hothers.cons_cons x.1).subperm.trans hperm.subperm

theorem delivers (h : Attributed s events waiting due made) {frameId : Int32} {m : Message}
    (hid : frameId ≠ broadcastId)
    (hwaiters : ((s.course events).happen e).channel.waiters
      = (s.course events).channel.waiters.filter (·.1 ≠ frameId))
    (hresponses : ((s.course events).happen e).channel.responses
      <+ (s.course events).channel.responses
        ++ ((s.course events).channel.waiters.lookup frameId).toList.map fun w => (w, m))
    (hdelivery : (s.course events).delivery? e = some (frameId, m))
    (hinvocation : (s.course events).invocation? e = none) :
    ∃ due', Attributed s (events ++ [e]) (waiting.filter (·.2.1 ≠ frameId)) due' made := by
  obtain ⟨called, hcalled, hholds, honce⟩ := h.exists_causes hid hdelivery
  have htable : (waiting.filter (·.2.1 ≠ frameId)).map Prod.snd
      = ((s.course events).happen e).channel.waiters := by
    rw [hwaiters, ← h.table, List.filter_map]
    rfl
  have hothers : ∀ x ∈ waiting.filter (·.2.1 ≠ frameId), ∀ m',
      (s.course events).delivery? e = some (x.2.1, m') → x.2.1 = broadcastId := by
    intro x hx m' hsome
    have hother := of_decide_eq_true (List.mem_filter.mp hx).2
    cases hdelivery.symm.trans hsome
    exact absurd rfl hother
  refine ⟨due ++ called, ?_⟩
  exact {
    table := by rw [course_concat, htable]
    waits := h.waits_concat List.filter_sublist htable hothers
    responses := by
      rw [course_concat, List.map_append, hcalled]
      exact hresponses.subperm.trans ((List.subperm_append_right _).mpr h.responses)
    causes := List.forall_mem_append.mpr ⟨h.causes_concat e, hholds⟩
    calls := h.calls_concat e
    all := h.all_concat hinvocation
    once := by
      obtain ⟨l, hperm, hsub⟩ := honce
      have hnodup := h.once.sublist (hsub.append_right _)
      refine (List.Perm.nodup_iff (List.perm_iff_count.mpr fun n => ?_)).mpr
        ((hperm.append_right _).nodup_iff.mp hnodup)
      simp only [List.map_append, List.count_append]
      omega }

/-- A call that is made was due. -/
theorem invokes (h : Attributed s events waiting due made) {w : Waiter σ} {m : Message}
    (hwaiters : ((s.course events).happen e).channel.waiters
      = (s.course events).channel.waiters)
    (hresponses : (s.course events).channel.responses
      ~ (w, m) :: ((s.course events).happen e).channel.responses)
    (hdelivery : (s.course events).delivery? e = none)
    (hinvocation : (s.course events).invocation? e = some (w, m)) :
    ∃ due' made', Attributed s (events ++ [e]) waiting due' made' := by
  have hcalls := hresponses.symm.subperm.trans h.responses
  have hmem : (w, m) ∈ due.map Cause.call := hcalls.subset List.mem_cons_self
  obtain ⟨c, hc, hcall⟩ := List.mem_map.mp hmem
  obtain ⟨front, back, rfl⟩ := List.append_of_mem hc
  cases hcall
  have hperm : front ++ c :: back ~ c :: (front ++ back) := List.perm_middle
  refine ⟨front ++ back, (events.length, c) :: made, ?_⟩
  exact {
    table := by rw [course_concat, hwaiters, h.table]
    waits := h.waits_concat (List.Sublist.refl _) (h.table.trans hwaiters.symm)
      fun _ _ _ hsome => nomatch hdelivery.symm.trans hsome
    responses := by
      rw [course_concat]
      exact List.subperm_cons _ |>.mp (hcalls.trans (hperm.map Cause.call).subperm)
    causes := fun c' hc' => (h.causes c' (by
      rw [List.mem_append] at hc' ⊢
      exact hc'.imp_right (List.mem_cons_of_mem c))).concat e
    calls := by
      refine List.forall_mem_cons.mpr ⟨?_, h.calls_concat e⟩
      have hholds := h.causes c hc
      exact ⟨hholds.concat e, hholds.delivers.lt_length,
        invokes_concat.mpr (Or.inr ⟨rfl, hinvocation⟩)⟩
    all := by
      intro n w' m' hinvokes
      rcases invokes_concat.mp hinvokes with hbefore | ⟨rfl, -⟩
      · obtain ⟨x, hx, hn⟩ := h.all n w' m' hbefore
        exact ⟨x, List.mem_cons_of_mem _ hx, hn⟩
      · exact ⟨_, List.mem_cons_self, rfl⟩
    once := by
      refine (List.Perm.nodup_iff (List.Perm.append_left _ ?_)).mp h.once
      rw [List.map_cons]
      refine ((hperm.map Cause.registered).append_right _).trans ?_
      exact List.perm_middle.symm }

/-- **One event more.** -/
theorem concat (h : Attributed s events waiting due made) (e : Event σ) :
    ∃ waiting' due' made', Attributed s (events ++ [e]) waiting' due' made' := by
  cases (s.course events).turn e with
  | rests hwaiters hresponses hdelivery _ hinvocation =>
      obtain ⟨waiting', h'⟩ := h.rests hwaiters hresponses hdelivery hinvocation
      exact ⟨waiting', due, made, h'⟩
  | registers frameId w _ hresponses hdelivery hregistration hinvocation =>
      exact ⟨_, due, made, h.registers hregistration hresponses hdelivery hinvocation⟩
  | delivers frameId m hid hwaiters hresponses hdelivery _ hinvocation =>
      obtain ⟨due', h'⟩ := h.delivers hid hwaiters hresponses hdelivery hinvocation
      exact ⟨_, due', made, h'⟩
  | invokes w m hwaiters hresponses hdelivery _ hinvocation =>
      obtain ⟨due', made', h'⟩ := h.invokes hwaiters hresponses hdelivery hinvocation
      exact ⟨waiting, due', made', h'⟩

end Attributed

/-- **Throughout a course each waiter is attributed to the event that added it.** -/
theorem attributed_course (hwaiters : s.channel.waiters = [])
    (hresponses : s.channel.responses = []) (events : List (Event σ)) :
    ∃ waiting due made, Attributed s events waiting due made := by
  induction events using List.reverseRecOn with
  | nil =>
      refine ⟨[], [], [], ?_⟩
      exact {
        table := hwaiters.symm
        waits := List.forall_mem_nil _
        responses := by
          rw [show (s.course []).channel.responses = [] from hresponses]
          exact List.nil_subperm
        causes := List.forall_mem_nil _
        calls := List.forall_mem_nil _
        all := fun n w m hinvokes => nomatch hinvokes.lt_length
        once := List.nodup_nil }
  | append_singleton events e ih =>
      obtain ⟨waiting, due, made, h⟩ := ih
      exact h.concat e

/-- The event that added a waiter, by the event that calls it. -/
theorem Attributed.exists_origin {waiting : List (Nat × Int32 × Waiter σ)} {due : List (Cause σ)}
    {made : List (Nat × Cause σ)} (h : Attributed s events waiting due made) :
    ∃ origin : Nat → Nat,
      (∀ n w m, s.Invokes events n w m → ∃ c : Cause σ, c.Holds s events ∧
        c.registered = origin n ∧ c.delivered < n ∧ c.waiter = w ∧ c.message = m) ∧
      ∀ n n' w w' m m', s.Invokes events n w m → s.Invokes events n' w' m' →
        origin n = origin n' → n = n' := by
  have hcause (n : Nat) : ∃ k, ∀ w m, s.Invokes events n w m →
      ∃ c, (n, c) ∈ made ∧ c.registered = k ∧ c.waiter = w ∧ c.message = m := by
    by_cases hinvokes : ∃ w m, s.Invokes events n w m
    · obtain ⟨w, m, hinvokes⟩ := hinvokes
      obtain ⟨⟨n, c⟩, hc, rfl⟩ := h.all n w m hinvokes
      refine ⟨c.registered, ?_⟩
      intro w' m' hinvokes'
      have hmade := (h.calls _ hc).2.2
      cases hmade.symm.trans hinvokes'
      exact ⟨c, hc, rfl, rfl, rfl⟩
    · exact ⟨0, fun w m hsome => absurd ⟨w, m, hsome⟩ hinvokes⟩
  choose origin horigin using hcause
  refine ⟨origin, ?_, ?_⟩
  · intro n w m hinvokes
    obtain ⟨c, hc, hregistered, hw, hm⟩ := horigin n w m hinvokes
    obtain ⟨hholds, hlt, -⟩ := h.calls _ hc
    exact ⟨c, hholds, hregistered, hlt, hw, hm⟩
  · intro n n' w w' m m' hinvokes hinvokes' heq
    obtain ⟨c, hc, hregistered, -⟩ := horigin n w m hinvokes
    obtain ⟨c', hc', hregistered', -⟩ := horigin n' w' m' hinvokes'
    have hnodup := (List.nodup_append.mp (List.nodup_append.mp h.once).2.1).2.1
    have hsame := List.inj_on_of_nodup_map hnodup hc hc'
      (hregistered.trans (heq.trans hregistered'.symm))
    exact congrArg Prod.fst hsame

/-- A listener is refused where another one waits, and nothing happens. -/
theorem listen_refused {frameId id : Int32} {run : σ → Message → σ}
    (h : (s.channel.addResponseListener frameId run).1 = .error (.listenerExists id)) :
    s.happen (.act (.listen frameId run)) = s ∧ ∃ w, (frameId, w) ∈ s.channel.waiters := by
  have hhappen : s.happen (.act (.listen frameId run))
      = { s with channel := (s.channel.addWaiter frameId (.listener run)).2 } := rfl
  rw [Channel.addResponseListener] at h
  rcases s.channel.addWaiter_cases frameId (.listener run) with
    ⟨-, heq⟩ | ⟨-, hwaits, heq⟩ | ⟨-, -, heq⟩
  · rw [heq] at h
    cases h
  · rw [hhappen, heq]
    exact ⟨rfl, s.channel.hasWaiter_eq_true.mp hwaits⟩
  · rw [heq] at h
    cases h

theorem listen_accepted {frameId : Int32} {run : σ → Message → σ}
    (h : (s.channel.addResponseListener frameId run).1 = .ok ()) :
    (s.happen (.act (.listen frameId run))).channel.waiters
      = s.channel.waiters ++ [(frameId, .listener run)] := by
  have hchannel : (s.happen (.act (.listen frameId run))).channel
      = (s.channel.addWaiter frameId (.listener run)).2 := rfl
  rw [Channel.addResponseListener] at h
  rcases s.channel.addWaiter_cases frameId (.listener run) with
    ⟨-, heq⟩ | ⟨-, -, heq⟩ | ⟨-, -, heq⟩
  · rw [heq] at h
    cases h
  · rw [heq] at h
    cases h
  · rw [hchannel, heq]

end Attribution

/-! ### The theorem -/

/-- **Whatever happens to a channel, each listener for one message is called at
most once, and only with the message that it waited for.** Every call goes back
to an event that added the waiter, no two calls to the same event, and the
message is the first that was delivered on the frame id from then on, with the
waiter in the table until its delivery (`Cause.Holds`). The delivery takes from
the table what waits on the frame id and nothing else, and a broadcast takes
nothing. What was added is in the table, and nothing comes there otherwise. A
listener that is accepted is added; one that is refused because another one waits
leaves that one there, and no call goes back to it. -/
theorem listeners_called_once (registry : Registry) (config : ChannelConfig)
    (writes : List WriteTurn) (flushes : List FlushTurn) (app : σ) (events : List (Event σ)) :
    let s := created registry config writes flushes app
    let waiters (n : Nat) := (s.moment events n).channel.waiters
    (∃ origin : Nat → Nat,
      (∀ n w m, s.Invokes events n w m → ∃ c : Cause σ, c.Holds s events ∧
        c.registered = origin n ∧ c.delivered < n ∧ c.waiter = w ∧ c.message = m) ∧
      (∀ n n' w w' m m', s.Invokes events n w m → s.Invokes events n' w' m' →
        origin n = origin n' → n = n') ∧
      ∀ n frameId run id, events[n]? = some (.act (.listen frameId run)) →
        ((s.moment events n).channel.addResponseListener frameId run).1
          = .error (.listenerExists id) →
        waiters (n + 1) = waiters n ∧ (∃ w, (frameId, w) ∈ waiters n) ∧
          ∀ n' w m, s.Invokes events n' w m → origin n' ≠ n) ∧
    (∀ n frameId run, events[n]? = some (.act (.listen frameId run)) →
      ((s.moment events n).channel.addResponseListener frameId run).1 = .ok () →
      s.Registers events n frameId (.listener run)) ∧
    (∀ n frameId w, s.Registers events n frameId w ↔
      waiters (n + 1) = waiters n ++ [(frameId, w)]) ∧
    ∀ n frameId m, s.Delivers events n frameId m →
      waiters (n + 1) = if frameId = broadcastId then waiters n
        else (waiters n).filter (·.1 ≠ frameId) := by
  intro s waiters
  obtain ⟨waiting, due, made, h⟩ := attributed_course (s := s) rfl rfl events
  obtain ⟨origin, hcause, honce⟩ := h.exists_origin
  refine ⟨⟨origin, hcause, honce, ?_⟩, ?_, fun n frameId w => s.registers_iff, ?_⟩
  · intro n frameId run id hevent hrefused
    obtain ⟨hstays, hwaits⟩ := listen_refused hrefused
    have hsame : waiters (n + 1) = waiters n := by
      change (s.moment events (n + 1)).channel.waiters = _
      rw [s.moment_succ hevent, hstays]
    refine ⟨hsame, hwaits, ?_⟩
    intro n' w m hinvokes heq
    obtain ⟨c, hholds, hregistered, -⟩ := hcause n' w m hinvokes
    have hregisters := hholds.registers
    rw [hregistered, heq] at hregisters
    -- what was refused added nothing to the table
    have hadded : waiters n = waiters n ++ [(c.frameId, c.waiter)] :=
      hsame.symm.trans (s.registers_iff.mp hregisters)
    simp at hadded
  · intro n frameId run hevent haccepted
    rw [s.registers_iff, s.moment_succ hevent]
    exact listen_accepted haccepted
  · intro n frameId m hdelivers
    obtain ⟨e, hevent, hdelivery⟩ := Option.bind_eq_some_iff.mp hdelivers
    change (s.moment events (n + 1)).channel.waiters = _
    rw [s.moment_succ hevent]
    exact (s.moment events n).waiters_of_delivery hdelivery

/-- Of two replies on one frame id, the second calls nothing. -/
example :
    let reply : Arrival := .data (Frame.mk 7 (MessageType.reply .ping).wireId []).bytes
    let s := (created .catalog {} [] [] 0).course
      [.start true, .act (.listen 7 fun calls _ => calls + 1), .act (.arrive reply),
        .act (.arrive reply), .act .read, .act .read, .act .relay, .act .relay, .act (.finish 0),
        .act (.finish 0)]
    s.delivered.length = 2 ∧ s.app = 1 := by
  decide +kernel

end Side

end Parley
