/-
What takes a listener from the table.

A listener for one message stays in the table of an open channel until a message
is delivered on its frame id, or until the handle of a request gives up on that
frame id: it is dropped unsettled, or a look at it finds that its request was not
written (`Side.listener_stays_iff`). What gives up takes back whatever waits on
its frame id. By then that may be somebody else's listener, as the handle's own
place is free once the reply to it was delivered.
-/
import Parley.Proofs.Channel.Afloat
import Parley.Proofs.Channel.Listeners
import Parley.Proofs.Channel.Settling

namespace Parley

variable {σ : Type}

namespace Channel

variable (c : Channel σ)

/-- A look at a handle finds that its request was not written. -/
def findsUnwritten (h : ReplyHandle) : Bool :=
  !h.written && match c.pollWrite ⟨h.ticket, h.frameId⟩ with
    | some (.error _) => true
    | _ => false

/-- A look at a handle gives the request up if it finds that it was not written,
and leaves the channel alone otherwise. -/
theorem pollReply_eq (h : ReplyHandle) :
    (c.pollReply h).2.2 = (if c.findsUnwritten h then c.removeWaiter h.frameId else c) ∧
      (c.findsUnwritten h = true → (c.pollReply h).1.isSome) := by
  unfold pollReply findsUnwritten
  cases h.written with
  | true => exact ⟨rfl, fun hfinds => nomatch hfinds⟩
  | false =>
      rcases c.pollWrite ⟨h.ticket, h.frameId⟩ with _ | ⟨e | n⟩
      · exact ⟨rfl, fun hfinds => nomatch hfinds⟩
      · exact ⟨rfl, fun _ => rfl⟩
      · exact ⟨rfl, fun hfinds => nomatch hfinds⟩

/-- While a channel is open and something is at the other end of its write queue,
a step of a call takes nothing from the table, and adds only where nothing waits. -/
theorem waiters_advance (hopen : c.isOpen = true) (htakes : c.takesWrites = true) (o : Order)
    (stage : Stage) :
    (c.advance o stage).2.waiters = c.waiters ∨ ∃ ticket frameId,
      (c.advance o stage).2.waiters = c.waiters ++ [(frameId, .handle ticket)] := by
  have hstep := c.advance_cases o stage
  cases stage with
  | confirm ticket frameId =>
      rw [advance, confirmWaiter, checkOpen, if_pos hopen]
      exact Or.inl rfl
  | enqueue ticket frameId =>
      rw [advance, enqueue, if_pos htakes]
      exact Or.inl rfl
  | check =>
      generalize c.advance o .check = after at hstep
      obtain ⟨outcome, c'⟩ := after
      cases hstep with
      | failed | known | unknown => exact Or.inl rfl
      | withdrawn hplaced => cases hplaced
  | number =>
      generalize c.advance o .number = after at hstep
      obtain ⟨outcome, c'⟩ := after
      cases hstep with
      | failed | numbered => exact Or.inl rfl
      | withdrawn hplaced => cases hplaced
  | guard ticket frameId =>
      generalize c.advance o (.guard ticket frameId) = after at hstep
      obtain ⟨outcome, c'⟩ := after
      cases hstep with
      | failed | guarded => exact Or.inl rfl
      | withdrawn hplaced => cases hplaced
  | await ticket frameId =>
      generalize c.advance o (.await ticket frameId) = after at hstep
      obtain ⟨outcome, c'⟩ := after
      cases hstep with
      | failed => exact Or.inl rfl
      | withdrawn hplaced => cases hplaced
      | waits => exact Or.inr ⟨ticket, frameId, rfl⟩

/-- A listener is accepted by an open channel where nothing waits. -/
theorem accepts_listener {frameId : Int32} (hopen : c.isOpen = true)
    (hfree : c.hasWaiter frameId = false) (run : σ → Message → σ) :
    (c.addResponseListener frameId run).1 = .ok () := by
  rw [addResponseListener]
  rcases c.addWaiter_cases frameId (.listener run) with ⟨hclosed, -⟩ | ⟨-, hwaits, -⟩ | ⟨-, -, heq⟩
  · cases hopen.symm.trans hclosed
  · cases hfree.symm.trans hwaits
  · rw [heq]

end Channel

namespace Side

/-- The ticket and the frame id of the handle that an event makes give up. -/
def withdrawn? (s : Side σ) : Event σ → Option (Nat × Int32)
  | .act (.forget index) => (s.open? index).map Asked.token
  | .act (.poll index) =>
    ((s.open? index).filter fun a => s.channel.findsUnwritten a.handle).map Asked.token
  | _ => none

/-- An event makes a handle that is not settled give up on its frame id. -/
def GivesUp (s : Side σ) (events : List (Event σ)) (n : Nat) (frameId : Int32) : Prop :=
  ∃ ticket, events[n]?.bind (s.moment events n).withdrawn? = some (ticket, frameId) ∧
    ∀ k, k < n → ¬ s.Settles events k ticket

variable (s : Side σ) {e : Event σ}

/-- A handle that gives up is settled by that. -/
theorem settled?_of_withdrawn? {ticket : Nat} {frameId : Int32}
    (h : s.withdrawn? e = some (ticket, frameId)) : s.settled? e = some ticket := by
  cases e with
  | start runtime => cases h
  | act act =>
      cases act with
      | forget index =>
          obtain ⟨a, hasked, htoken⟩ := Option.map_eq_some_iff.mp h
          cases htoken
          exact Option.map_eq_some_iff.mpr ⟨a, hasked, rfl⟩
      | poll index =>
          obtain ⟨a, hasked, htoken⟩ := Option.map_eq_some_iff.mp h
          cases htoken
          obtain ⟨hasked, hfinds⟩ := Option.filter_eq_some_iff.mp hasked
          refine Option.map_eq_some_iff.mpr ⟨a, ?_, rfl⟩
          exact Option.filter_eq_some_iff.mpr ⟨hasked, (s.channel.pollReply_eq a.handle).2 hfinds⟩
      | _ => cases h

/-! ### What an event does to the table of an open channel -/

/-- The table stays as it is, something is added, or all that waits on one frame
id is taken: by the message that was delivered there, or by the handle that gave
up. -/
inductive Touches (s : Side σ) (e : Event σ) : Prop
  | leaves (waiters : (s.happen e).channel.waiters = s.channel.waiters)
      (delivery : ∀ frameId m, s.delivery? e = some (frameId, m) → frameId = broadcastId)
      (withdrawn : s.withdrawn? e = none)
  | adds (x : Int32 × Waiter σ)
      (waiters : (s.happen e).channel.waiters = s.channel.waiters ++ [x])
      (delivery : s.delivery? e = none) (withdrawn : s.withdrawn? e = none)
  | delivers (frameId : Int32) (m : Message) (notBroadcast : frameId ≠ broadcastId)
      (waiters : (s.happen e).channel.waiters = s.channel.waiters.filter (·.1 ≠ frameId))
      (delivery : s.delivery? e = some (frameId, m)) (withdrawn : s.withdrawn? e = none)
  | withdraws (ticket : Nat) (frameId : Int32)
      (waiters : (s.happen e).channel.waiters = s.channel.waiters.filter (·.1 ≠ frameId))
      (delivery : s.delivery? e = none) (withdrawn : s.withdrawn? e = some (ticket, frameId))

theorem Touches.of_waiters {s : Side σ} {e : Event σ}
    (hwaiters : (s.happen e).channel.waiters = s.channel.waiters) (hdelivery : s.delivery? e = none)
    (hwithdrawn : s.withdrawn? e = none) : Touches s e := by
  refine .leaves hwaiters ?_ hwithdrawn
  intro frameId m hsome
  cases hdelivery.symm.trans hsome

/-- What rests while the channel stays open leaves the table as it is. -/
theorem waiters_of_rests {c c' : Channel σ} (h : c.Rests c') (hopen : c'.isOpen = true) :
    c'.waiters = c.waiters := by
  rcases h.ledger with hledger | hshut
  · exact congrArg Channel.Ledger.waiters hledger
  · cases hopen.symm.trans (congrArg Channel.Ledger.isOpen hshut)

theorem touches_forget (index : Nat) : Touches s (.act (.forget index)) := by
  have hchannel : (s.happen (.act (.forget index))).channel = (s.forget index).channel := rfl
  have hwithdrawn : s.withdrawn? (.act (.forget index)) = (s.open? index).map Asked.token := rfl
  cases hopen : s.open? index with
  | none =>
      rw [s.forget_of_not_open hopen] at hchannel
      rw [hopen] at hwithdrawn
      exact .of_waiters (congrArg Channel.waiters hchannel) rfl hwithdrawn
  | some a =>
      rw [s.forget_of_open hopen] at hchannel
      rw [hopen] at hwithdrawn
      exact .withdraws _ a.handle.frameId (congrArg Channel.waiters hchannel) rfl hwithdrawn

theorem touches_poll (index : Nat) : Touches s (.act (.poll index)) := by
  have hchannel : (s.happen (.act (.poll index))).channel = (s.poll index).channel := rfl
  have hwithdrawn : s.withdrawn? (.act (.poll index))
      = ((s.open? index).filter fun a => s.channel.findsUnwritten a.handle).map Asked.token := rfl
  rw [poll] at hchannel
  cases hopen : s.open? index with
  | none =>
      rw [hopen] at hchannel hwithdrawn
      exact .of_waiters (congrArg Channel.waiters hchannel) rfl hwithdrawn
  | some a =>
      rw [hopen] at hchannel hwithdrawn
      dsimp only at hchannel
      rw [(s.channel.pollReply_eq a.handle).1] at hchannel
      rw [Option.filter_some] at hwithdrawn
      cases hfinds : s.channel.findsUnwritten a.handle with
      | true =>
          rw [hfinds] at hchannel hwithdrawn
          exact .withdraws _ a.handle.frameId (congrArg Channel.waiters hchannel) rfl hwithdrawn
      | false =>
          rw [hfinds] at hchannel hwithdrawn
          exact .of_waiters (congrArg Channel.waiters hchannel) rfl hwithdrawn

theorem touches_read (hopen : (s.happen (.act .read)).channel.isOpen = true) :
    Touches s (.act .read) := by
  cases hdelivery : s.delivery? (.act .read) with
  | none =>
      exact .of_waiters (waiters_of_rests (s.channel.rests_readStep hdelivery) hopen) hdelivery rfl
  | some brought =>
      obtain ⟨frameId, m⟩ := brought
      have hwaiters := s.waiters_of_delivery hdelivery
      by_cases hid : frameId = broadcastId
      · rw [if_pos hid] at hwaiters
        refine .leaves hwaiters ?_ rfl
        intro frameId' m' hsome
        cases hdelivery.symm.trans hsome
        exact hid
      · rw [if_neg hid] at hwaiters
        exact .delivers frameId m hid hwaiters hdelivery rfl

theorem touches_listen (frameId : Int32) (run : σ → Message → σ) :
    Touches s (.act (.listen frameId run)) := by
  have hchannel : (s.happen (.act (.listen frameId run))).channel
      = (s.channel.addWaiter frameId (.listener run)).2 := rfl
  rcases s.channel.addWaiter_cases frameId (.listener run) with
    ⟨-, heq⟩ | ⟨-, -, heq⟩ | ⟨-, -, heq⟩
  · exact .of_waiters (by rw [hchannel, heq]) rfl rfl
  · exact .of_waiters (by rw [hchannel, heq]) rfl rfl
  · exact .adds (frameId, .listener run) (by rw [hchannel, heq]) rfl rfl

theorem touches_advance (index : Nat) (hopen : s.channel.isOpen = true)
    (htakes : s.channel.takesWrites = true) : Touches s (.act (.advance index)) := by
  have hchannel : (s.happen (.act (.advance index))).channel = (s.advance index).channel := rfl
  cases hcall : s.errands[index]? with
  | none =>
      have hsame : s.advance index = s := by rw [advance, hcall]
      exact .of_waiters (by rw [hchannel, hsame]) rfl rfl
  | some call =>
      obtain ⟨order, stage⟩ := call
      have hafter : (s.advance index).channel = (s.channel.advance order stage).2 := by
        rw [advance, hcall]
        exact s.proceed_channel _ _ _ _
      rcases s.channel.waiters_advance hopen htakes order stage with heq | ⟨ticket, frameId, heq⟩
      · exact .of_waiters (by rw [hchannel, hafter, heq]) rfl rfl
      · exact .adds (frameId, .handle ticket) (by rw [hchannel, hafter, heq]) rfl rfl

/-- **What an event does to the table of a channel that is open after it.** -/
theorem touches (hafloat : s.channel.Afloat) (hopen : (s.happen e).channel.isOpen = true) :
    Touches s e := by
  have hbefore := s.isOpen_of_happen hafloat hopen
  cases e with
  | start runtime =>
      exact .of_waiters (waiters_of_rests (s.channel.rests_start runtime) hopen) rfl rfl
  | act act =>
      by_cases hpermits : permits s.channel act = true
      case neg =>
        have hstays : s.happen (.act act) = s := by rw [happen, if_neg hpermits]
        -- only steps in which a channel is closed can be out of place
        cases act with
        | cancel | clearWaiters | clearWorkbench => exact .of_waiters (by rw [hstays]) rfl rfl
        | _ => exact absurd rfl hpermits
      have hhappen : s.happen (.act act) = s.step act := by rw [happen, if_pos hpermits]
      cases hidle : act.isIdle with
      | true =>
          have hwaiters : (s.happen (.act act)).channel.waiters = s.channel.waiters := by
            rw [hhappen] at hopen ⊢
            exact waiters_of_rests (s.rests_step hidle) hopen
          cases act with
          | advance | listen | poll | forget | read | finish | flip | clearWaiters => cases hidle
          | _ => exact .of_waiters hwaiters rfl rfl
      | false =>
          cases act with
          | forget index => exact s.touches_forget index
          | poll index => exact s.touches_poll index
          | read => exact s.touches_read hopen
          | finish index => exact .of_waiters (s.finish_waits index).1 rfl rfl
          | listen frameId run => exact s.touches_listen frameId run
          | advance index => exact s.touches_advance index hbefore (hafloat.takes hbefore).1
          | flip => cases hopen
          | clearWaiters =>
              have hclosed : s.channel.isOpen = false := by simpa [permits] using hpermits
              cases hbefore.symm.trans hclosed
          | _ => cases hidle

/-- What waits on a frame id is taken by a message that is delivered there and is
no broadcast, and by a handle that gives up on it. -/
theorem mem_happen_iff (hafloat : s.channel.Afloat)
    (hopen : (s.happen e).channel.isOpen = true) {frameId : Int32} {w : Waiter σ}
    (hw : (frameId, w) ∈ s.channel.waiters) :
    (frameId, w) ∈ (s.happen e).channel.waiters ↔
      (∀ m, s.delivery? e = some (frameId, m) → frameId = broadcastId) ∧
        ∀ ticket, s.withdrawn? e ≠ some (ticket, frameId) := by
  cases s.touches hafloat hopen with
  | leaves hwaiters hdelivery hwithdrawn =>
      rw [hwaiters, hwithdrawn]
      exact iff_of_true hw ⟨fun m => hdelivery frameId m, fun ticket h => nomatch h⟩
  | adds x hwaiters hdelivery hwithdrawn =>
      rw [hwaiters, hdelivery, hwithdrawn]
      exact iff_of_true (List.mem_append_left _ hw)
        ⟨fun m h => (nomatch h), fun ticket h => nomatch h⟩
  | delivers frameId' m hid hwaiters hdelivery hwithdrawn =>
      rw [hwaiters, hdelivery, hwithdrawn, List.mem_filter, decide_eq_true_iff]
      constructor
      · rintro ⟨-, hne⟩
        exact ⟨fun m' h => absurd (Prod.mk.inj (Option.some.inj h)).1.symm hne,
          fun ticket h => nomatch h⟩
      · rintro ⟨hbroadcast, -⟩
        refine ⟨hw, ?_⟩
        rintro rfl
        exact hid (hbroadcast m rfl)
  | withdraws ticket frameId' hwaiters hdelivery hwithdrawn =>
      rw [hwaiters, hdelivery, hwithdrawn, List.mem_filter, decide_eq_true_iff]
      constructor
      · rintro ⟨-, hne⟩
        exact ⟨fun m' h => (nomatch h),
          fun ticket' h => hne (Prod.mk.inj (Option.some.inj h)).2.symm⟩
      · rintro ⟨-, hkept⟩
        refine ⟨hw, ?_⟩
        rintro rfl
        exact hkept ticket rfl

/-! ### Courses -/

section Courses

variable {s} {events : List (Event σ)}

theorem afloat_moment (h : s.channel.Afloat) (n : Nat) : (s.moment events n).channel.Afloat :=
  s.afloat_course h (events.take n)

/-- What is open at a moment was open at every moment before. -/
theorem isOpen_of_moment (h : s.channel.Afloat) {n k : Nat} (hk : k ≤ events.length)
    (hopen : (s.moment events k).channel.isOpen = true) (hn : n ≤ k) :
    (s.moment events n).channel.isOpen = true := by
  induction k with
  | zero => rwa [Nat.le_zero.mp hn]
  | succ k ih =>
      rcases Nat.lt_or_eq_of_le hn with hlt | rfl
      · have hevent := List.getElem?_eq_getElem (Nat.lt_of_succ_le hk)
        rw [s.moment_succ hevent] at hopen
        exact ih (Nat.le_of_succ_le hk)
          ((s.moment events k).isOpen_of_happen (afloat_moment h k) hopen) (Nat.le_of_lt_succ hlt)
      · exact hopen

/-- As no handle is settled twice, a handle gives up only as long as it is not settled. -/
theorem givesUp_iff
    (honce : ∀ n k ticket, s.Settles events n ticket → s.Settles events k ticket → n = k)
    {n : Nat} {frameId : Int32} (hevent : events[n]? = some e) :
    s.GivesUp events n frameId ↔
      ∃ ticket, (s.moment events n).withdrawn? e = some (ticket, frameId) := by
  rw [GivesUp, hevent]
  refine exists_congr fun ticket => ⟨And.left, fun hwithdrawn => ⟨hwithdrawn, ?_⟩⟩
  intro k hk hsettles
  have hnow : s.Settles events n ticket := by
    rw [Settles, hevent]
    exact (s.moment events n).settled?_of_withdrawn? hwithdrawn
  exact absurd (honce k n ticket hsettles hnow) (Nat.ne_of_lt hk)

/-- **A listener that was accepted stays in the table of an open channel exactly
as long as no message is delivered on its frame id and no handle gives up on
it.** A handle gives up once at most, and not after its request was settled; that
it is settled by its reply takes nothing from the table. -/
theorem listener_stays_iff (registry : Registry) (config : ChannelConfig)
    (writes : List WriteTurn) (flushes : List FlushTurn) (app : σ) (events : List (Event σ)) :
    let s := created registry config writes flushes app
    ∀ n k frameId run, events[n]? = some (.act (.listen frameId run)) →
      ((s.moment events n).channel.addResponseListener frameId run).1 = .ok () →
      n < k → k ≤ events.length → (s.moment events k).channel.isOpen = true →
      ((∀ i, n < i → i ≤ k → (frameId, .listener run) ∈ (s.moment events i).channel.waiters) ↔
        ∀ j, n < j → j < k →
          (∀ m, s.Delivers events j frameId m → frameId = broadcastId) ∧
            ¬ s.GivesUp events j frameId) := by
  intro s n k frameId run hlisten haccepted hn hk hopen
  have honce (n k ticket : Nat) : s.Settles events n ticket → s.Settles events k ticket → n = k :=
    settles_once registry config writes flushes app events
  have hafloat : s.channel.Afloat := afloat_created registry config writes flushes app
  -- one event takes the listener from the table or leaves it there
  have hstep (j : Nat) (hj : j < k)
      (hw : (frameId, .listener run) ∈ (s.moment events j).channel.waiters) :
      (frameId, .listener run) ∈ (s.moment events (j + 1)).channel.waiters ↔
        (∀ m, s.Delivers events j frameId m → frameId = broadcastId) ∧
          ¬ s.GivesUp events j frameId := by
    have hevent := List.getElem?_eq_getElem (Nat.lt_of_lt_of_le hj hk)
    have hopen' := isOpen_of_moment hafloat hk hopen hj
    rw [s.moment_succ hevent] at hopen' ⊢
    rw [(s.moment events j).mem_happen_iff (afloat_moment hafloat j) hopen' hw,
      givesUp_iff honce hevent, not_exists]
    simp only [Delivers, hevent, Option.bind_some, ne_eq]
  constructor
  · intro hstays j hnj hjk
    exact (hstep j hjk (hstays j hnj (Nat.le_of_lt hjk))).mp
      (hstays (j + 1) (Nat.lt_succ_of_lt hnj) hjk)
  · intro hfree i hni hik
    induction i with
    | zero => exact absurd hni (Nat.not_lt_zero n)
    | succ i ih =>
        rcases Nat.lt_or_eq_of_le (Nat.le_of_lt_succ hni) with hlt | rfl
        · exact (hstep i hik (ih hlt (Nat.le_of_lt hik))).mpr (hfree i hlt hik)
        · rw [s.moment_succ hlisten, listen_accepted haccepted]
          simp

end Courses

/-- A listener on another frame id outlives the handle of a request. -/
theorem listener_outlives_handle :
    let s : Side Nat := created .catalog {} [] [] 0
    let run : Nat → Message → Nat := fun calls _ => calls + 1
    let events : List (Event Nat) :=
      [.start true, .act (.call (.request .ping ()))] ++ List.replicate 6 (.act (.advance 0))
        ++ [.act (.listen 5 run), .act (.forget 0)]
    (∃ ticket, s.Settles events 9 ticket) ∧
      ∀ i, 8 < i → i ≤ 10 → (5, .listener run) ∈ (s.moment events i).channel.waiters := by
  intro s run events
  have haccepted : ((s.moment events 8).channel.addResponseListener 5 run).1 = .ok () :=
    Channel.accepts_listener _ (by decide +kernel) (by decide +kernel) run
  have hstays := listener_stays_iff .catalog {} [] [] 0 events 8 10 5 run rfl haccepted
    (by decide) (by decide) (by decide +kernel)
  have hdropped : events[9]?.bind (s.moment events 9).settled? = some 0 := by decide +kernel
  refine ⟨⟨0, hdropped⟩, hstays.mpr fun j hj hj' => ?_⟩
  -- the one event behind the listener drops the handle on frame id zero
  obtain rfl : j = 9 := by omega
  refine ⟨fun m hdelivers => ?_, fun ⟨ticket, hwithdrawn, _⟩ => ?_⟩
  · cases hdelivers
  · have hother : events[9]?.bind (s.moment events 9).withdrawn? = some (0, 0) := by
      decide +kernel
    cases hother.symm.trans hwithdrawn

/-- A handle whose reply has come is dropped before anyone looks at it, and takes
the listener with it that was added on its frame id meanwhile. -/
theorem handle_takes_others_listener :
    let s : Side Nat := created .catalog {} [] [] 0
    let run : Nat → Message → Nat := fun calls _ => calls + 1
    let reply : Arrival := .data (Frame.mk 0 (MessageType.reply .ping).wireId []).bytes
    let events : List (Event Nat) :=
      [.start true, .act (.call (.request .ping ()))] ++ List.replicate 6 (.act (.advance 0))
        ++ [.act (.arrive reply), .act .read, .act (.listen 0 run), .act (.forget 0)]
    events[10]? = some (.act (.listen 0 run)) ∧
      ((s.moment events 10).channel.addResponseListener 0 run).1 = .ok () ∧
      (0, .listener run) ∈ (s.moment events 11).channel.waiters ∧
      (∀ j m, 10 < j → ¬ s.Delivers events j 0 m) ∧
      (s.course events).channel.isOpen = true ∧ (s.course events).channel.waiters = [] := by
  intro s run reply events
  have haccepted : ((s.moment events 10).channel.addResponseListener 0 run).1 = .ok () :=
    Channel.accepts_listener _ (by decide +kernel) (by decide +kernel) run
  refine ⟨rfl, haccepted, ?_, ?_, by decide +kernel, ?_⟩
  · have hlisten : events[10]? = some (.act (.listen 0 run)) := rfl
    rw [s.moment_succ hlisten, listen_accepted haccepted]
    simp
  · intro j m hj hdelivers
    have hlength : j < 12 := hdelivers.lt_length
    obtain rfl : j = 11 := by omega
    cases hdelivers
  · have hnone : (s.course events).channel.waiters.length = 0 := by decide +kernel
    exact List.length_eq_zero_iff.mp hnone

end Side

end Parley
