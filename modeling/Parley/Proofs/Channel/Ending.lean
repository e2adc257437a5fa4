/-
No handle is left hanging when a channel ends.

A handle waits for what came of a write, or for a reply. When the shutdown that
has closed a channel is over, its workers have ended and the calls that were
handed to the pool have finished, nothing is left that a handle could wait for:
nobody has a message that is still to be written, no call is due, and nothing in
the table is the handle of a request that was sent. Every handle then says what
was recorded for it, or that the channel is closed (`no_handle_left_hanging`).
-/
import Parley.Proofs.Channel.Tickets

namespace Parley

open scoped List

variable {σ : Type}

namespace Channel

variable (c : Channel σ)

/-- What a handle says of a write in the end: what was recorded for it, or else
that the channel is closed. -/
inductive WriteEnds (ticket : Nat) : Except ChannelError Nat → Prop
  | written {length : Nat} : (ticket, .ok length) ∈ c.outcomes → WriteEnds ticket (.ok length)
  | refused {e : FrameError} : (ticket, .error e) ∈ c.outcomes →
      WriteEnds ticket (.error (.frame e))
  | lost : (∀ outcome, (ticket, outcome) ∉ c.outcomes) → WriteEnds ticket (.error .closed)

/-- What the handle of a request says in the end: what the reply means that was
kept for it, if the request was written, or why the request was not written, or
else that the channel is closed. -/
inductive ReplyEnds (h : ReplyHandle) : Except ChannelError h.expects.Reply → Prop
  | answered {length : Nat} {m : Message} : (h.ticket, .ok length) ∈ c.outcomes →
      (h.ticket, m) ∈ c.replies → ReplyEnds h (typedReply h.expects m)
  | unanswered {length : Nat} : (h.ticket, .ok length) ∈ c.outcomes →
      (∀ m, (h.ticket, m) ∉ c.replies) → ReplyEnds h (.error .closed)
  | refused {e : FrameError} : (h.ticket, .error e) ∈ c.outcomes →
      ReplyEnds h (.error (.frame e))
  | lost : (∀ outcome, (h.ticket, outcome) ∉ c.outcomes) → ReplyEnds h (.error .closed)

variable {c}

/-- Where no write is under way, every handle knows what came of its own. -/
theorem pollWrite_ends {h : WriteHandle} (hidle : c.holdsWrite h.ticket = false) :
    ∃ result, c.pollWrite h = some result ∧ c.WriteEnds h.ticket result := by
  unfold pollWrite
  cases hlookup : c.outcomes.lookup h.ticket with
  | none =>
      refine ⟨.error .closed, ?_, .lost (not_mem_of_lookup hlookup)⟩
      dsimp only
      rw [hidle]
      rfl
  | some outcome =>
      cases outcome with
      | ok length => exact ⟨_, rfl, .written (mem_of_lookup hlookup)⟩
      | error e => exact ⟨_, rfl, .refused (mem_of_lookup hlookup)⟩

/-- Where no write is under way and no reply can come, every handle of a request
knows what came of it. -/
theorem pollReply_ends {h : ReplyHandle} (hwrite : c.holdsWrite h.ticket = false)
    (hreply : c.holdsReply h.ticket = false)
    (hwritten : h.written = true → ∃ length, (h.ticket, .ok length) ∈ c.outcomes) :
    ∃ result, (c.pollReply h).1 = some result ∧ c.ReplyEnds h result := by
  have harrival {length : Nat} (hrecorded : (h.ticket, .ok length) ∈ c.outcomes) :
      ∃ result, c.pollArrival h = some result ∧ c.ReplyEnds h result := by
    unfold pollArrival
    cases hlookup : c.replies.lookup h.ticket with
    | some m => exact ⟨_, rfl, .answered hrecorded (mem_of_lookup hlookup)⟩
    | none =>
        refine ⟨.error .closed, ?_, .unanswered hrecorded (not_mem_of_lookup hlookup)⟩
        dsimp only
        rw [hreply]
        rfl
  unfold pollReply
  split
  next hknown =>
    obtain ⟨length, hrecorded⟩ := hwritten hknown
    exact harrival hrecorded
  · obtain ⟨result, hpoll, hends⟩ := pollWrite_ends (h := ⟨h.ticket, h.frameId⟩) hwrite
    rw [hpoll]
    cases hends with
    | written hrecorded => exact harrival hrecorded
    | refused hrecorded => exact ⟨_, rfl, .refused hrecorded⟩
    | lost hnone => exact ⟨_, rfl, .lost hnone⟩

theorem holdsWrite_eq_false (h : c.unwritten = []) (ticket : Nat) :
    c.holdsWrite ticket = false := by
  obtain ⟨hcurrent, hqueue⟩ := List.append_eq_nil_iff.mp h
  simp [holdsWrite, hqueue, show c.current = none by simpa using hcurrent]

theorem holdsReply_eq_false (h : c.jobs = []) {ticket : Nat}
    (hwaiters : ∀ w ∈ c.waiters, w.2.ticket? ≠ some ticket) : c.holdsReply ticket = false := by
  obtain ⟨hpool, hevents⟩ := List.append_eq_nil_iff.mp h
  simpa [holdsReply, hpool, hevents] using fun id w hw => hwaiters (id, w) hw

/-! ### The table -/

theorem waiters_readTurn (c : Channel σ) : c.readTurn.2.waiters <+ c.waiters := by
  have hread := c.readTurn_cases
  generalize c.readTurn = turn at hread
  generalize Side.incoming c = brought at hread
  cases hread with
  | idle => exact List.Sublist.refl _
  | delivered => exact c.collected.deliver_waiters _ _
  | nothing => exact List.Sublist.refl _

theorem waiters_writeTurn (c : Channel σ) : c.writeTurn.2.waiters = c.waiters := by
  have hwrite := c.writeTurn_cases
  generalize c.writeTurn = turn at hwrite
  cases hwrite with
  | idle | goesOn | refused | failed => rfl
  | written => exact congrArg Ledger.waiters (ledger_post _ _)

/-- A step of a task makes no handle wait. -/
theorem waiters_proceed (c : Channel σ) (task : Task σ) :
    ∀ w ∈ (c.proceed task).2.waiters, w ∈ c.waiters ∨ w.2.ticket? = none := by
  have hproceed := c.proceed_cases task
  generalize c.proceed task = after at hproceed
  intro w hw
  cases hproceed with
  | inserts =>
      rcases List.mem_append.mp hw with hw | hw
      · exact Or.inl hw
      · rw [List.mem_singleton.mp hw]
        exact Or.inr rfl
  | withdraws => exact Or.inl (List.mem_of_mem_filter hw)
  | sweeps => cases hw
  | launches => exact Or.inl ((rests_launch c).waiters.subset hw)
  | leaves => exact Or.inl (c.waiters_leave _ ▸ hw)
  | clears => exact Or.inl (c.waiters_letGo _ ▸ hw)
  | _ => exact Or.inl hw

theorem workbench_letGo (c : Channel σ) (closer : Closer) :
    (c.clearWorkbench.leave closer).workbench ≠ .held := by
  rw [(worksOn_leave _ closer).workbench]
  unfold clearWorkbench
  split
  · exact nofun
  next htaken => exact htaken

/-- The shutdown that has closed the channel is over. -/
theorem clears_of_yieldsTrue {c : Channel σ} {task : Task σ} (hbefore : task.yieldsTrue = false)
    (hafter : (c.proceed task).1.yieldsTrue = true) : (c.proceed task).2.workbench ≠ .held := by
  have hproceed := c.proceed_cases task
  generalize c.proceed task = after at hproceed hafter
  cases hproceed with
  | clears => exact c.workbench_letGo _
  | ended => cases hbefore.symm.trans hafter
  | _ => cases hafter

end Channel

/-- What waits for the closing of a channel is the handle of a request of which it
is yet to be confirmed that the channel is still open. -/
def Side.HandlesConfirming (s : Side σ) : Prop :=
  ∀ w ∈ s.channel.waiters, ∀ ticket, w.2.ticket? = some ticket → (ticket, w.1) ∈ s.confirming

/-- On a closed channel no call adds a handle for good. -/
theorem Side.HandlesConfirming.step {s : Side σ} (h : s.HandlesConfirming)
    (hclosed : s.channel.isOpen = false) {e : Event σ} (hshift : Shift s e) :
    (s.happen e).HandlesConfirming := by
  -- what was in the table before is still to be confirmed, if its call is still under way
  have hless {x : Nat × Int32} (hconfirming : s.confirming ⊆ x :: (s.happen e).confirming)
      (hwaiters : (s.happen e).channel.waiters = s.channel.waiters.filter (·.1 ≠ x.2)) :
      (s.happen e).HandlesConfirming := by
    intro w hw ticket hticket
    rw [hwaiters] at hw
    obtain ⟨hw, hne⟩ := List.mem_filter.mp hw
    rcases List.mem_cons.mp (hconfirming (h w hw ticket hticket)) with heq | hmem
    · exact absurd (congrArg Prod.snd heq) (by simpa using hne)
    · exact hmem
  have hsame (hconfirming : s.confirming ⊆ (s.happen e).confirming)
      (hwaiters : (s.happen e).channel.waiters ⊆ s.channel.waiters) :
      (s.happen e).HandlesConfirming := fun w hw ticket hticket =>
    hconfirming (h w (hwaiters hw) ticket hticket)
  cases hshift with
  | keeps kept unsettled waiters isOpen =>
      exact hsame (kept.confirming hclosed) (waiters ▸ List.Subset.refl _)
  | numbers unsettled owners coming confirming limit nextFrameId nextTicket waiters isOpen =>
      exact hsame confirming (waiters ▸ List.Subset.refl _)
  | places ticket frameId unsettled owners coming confirming nextFrameId nextTicket free waiters =>
      intro w hw ticket' hticket
      rw [waiters] at hw
      rcases List.mem_append.mp hw with hw | hw
      · exact confirming (List.mem_cons_of_mem _ (h w hw ticket' hticket))
      · cases List.mem_singleton.mp hw
        cases hticket
        exact confirming List.mem_cons_self
  | drops ticket frameId unsettled owners coming confirming nextFrameId nextTicket waiters =>
      exact hless confirming waiters
  | shuts kept unsettled waiters isOpen =>
      exact hsame (kept.confirming hclosed) (waiters ▸ List.nil_subset _)
  | delivers frameId m kept notBroadcast delivery settled waiters =>
      exact hsame (kept.confirming hclosed) (waiters ▸ List.filter_subset_self _)
  | settles a kept asked delivery settled waiters =>
      rcases waiters with waiters | ⟨waiters, -⟩
      · exact hsame (kept.confirming hclosed) (waiters ▸ List.filter_subset_self _)
      · exact hsame (kept.confirming hclosed) (waiters ▸ List.Subset.refl _)

namespace Scene

variable {s : Scene σ}

/-! ### Closing -/

/-- How far those who close the channel have come. -/
structure Closing (s : Scene σ) : Prop where
  orderly : s.side.Orderly
  closedOnce : s.ClosedOnce
  /-- A shutdown that is over has left no streams behind that nobody has. -/
  dropped : ∀ task ∈ s.tasks, task.yieldsTrue = true → s.channel.workbench ≠ .held
  swept : ∀ task ∈ s.tasks, task.hasSwept = true → s.side.HandlesConfirming

theorem Closing.closed (h : s.Closing) {task : Task σ} (htask : task ∈ s.tasks)
    (hcloser : task.hasClosed = true) : s.channel.isOpen = false := by
  refine Bool.eq_false_iff.mpr fun hopen => ?_
  have hcount := h.closedOnce
  rw [ClosedOnce, if_pos hopen] at hcount
  exact absurd hcloser (List.countP_eq_zero.mp hcount task htask)

/-- The side changes, and those who close the channel do not. -/
theorem Closing.of_side (h : s.Closing) {side : Side σ} (horderly : side.Orderly)
    (hworks : s.channel.WorksOn side.channel)
    (hswept : s.side.HandlesConfirming → s.channel.isOpen = false → side.HandlesConfirming) :
    ({ s with side } : Scene σ).Closing where
  orderly := horderly
  closedOnce := h.closedOnce.of_isOpen rfl hworks.isOpen
  dropped := by
    intro task htask hyields
    change side.channel.workbench ≠ .held
    rw [hworks.workbench]
    exact h.dropped task htask hyields
  swept := by
    intro task htask hdone
    exact hswept (h.swept task htask hdone) (h.closed htask (Task.hasClosed_of_hasSwept hdone))

/-- A task that begins has swept nothing yet. -/
theorem mem_tasks_of_begin {task other : Task σ} (hfresh : task.isFresh = true)
    (hother : other ∈ (s.begin task).tasks) (hdone : other.hasSwept = true) : other ∈ s.tasks := by
  rcases List.mem_append.mp hother with hother | hother
  · exact hother
  · rw [List.mem_singleton.mp hother] at hdone
    cases (Task.hasClosed_of_isFresh hfresh).symm.trans (Task.hasClosed_of_hasSwept hdone)

theorem Closing.begin (h : s.Closing) {task : Task σ} (hfresh : task.isFresh = true) :
    (s.begin task).Closing where
  orderly := h.orderly
  closedOnce := h.closedOnce.begin hfresh
  dropped := by
    intro other hother hyields
    exact h.dropped other (mem_tasks_of_begin hfresh hother (Task.hasSwept_of_yieldsTrue hyields))
      hyields
  swept := by
    intro other hother hdone
    exact h.swept other (mem_tasks_of_begin hfresh hother hdone) hdone

theorem Closing.proceed (h : s.Closing) (index : Nat) : (s.proceed index).Closing := by
  cases htask : s.tasks[index]? with
  | none => rwa [Scene.proceed, htask]
  | some task =>
      have hcount := h.closedOnce.proceed index
      have hmoves := s.channel.movesOn_proceed task
      have hwaits : s.side.HandlesConfirming →
          ({ s.side with channel := (s.channel.proceed task).2 } : Side σ).HandlesConfirming := by
        intro hconfirming w hw ticket hticket
        rcases s.channel.waiters_proceed task w hw with hw | hnone
        · exact hconfirming w hw ticket hticket
        · cases hnone.symm.trans hticket
      have hmem := List.mem_of_getElem? htask
      rw [tasks_proceed htask] at hcount ⊢
      refine ⟨⟨h.orderly.errands, h.orderly.accepted⟩, hcount, ?_, ?_⟩
      · have hbefore {other : Task σ} (hother : other ∈ s.tasks)
            (hyields : other.yieldsTrue = true) :
            (s.channel.proceed task).2.workbench ≠ .held := by
          rw [hmoves.workbench (h.dropped other hother hyields)]
          exact h.dropped other hother hyields
        intro other hother hyields
        rcases List.mem_or_eq_of_mem_set hother with hother | rfl
        · exact hbefore hother hyields
        · cases hold : task.yieldsTrue with
          | true => exact hbefore hmem hold
          | false => exact Channel.clears_of_yieldsTrue hold hyields
      · intro other hother hdone
        rcases List.mem_or_eq_of_mem_set hother with hother | rfl
        · exact hwaits (h.swept other hother hdone)
        · cases hold : task.hasSwept with
          | true => exact hwaits (h.swept task hmem hold)
          | false =>
              obtain ⟨-, hnone⟩ := Channel.sweeps_of_hasSwept hold hdone
              intro w hw
              change w ∈ (s.channel.proceed task).2.waiters at hw
              rw [hnone] at hw
              cases hw

theorem Closing.afterReading (h : s.Closing) :
    ({ s with side := Scene.afterReading s.side } : Scene σ).Closing := by
  refine h.of_side ⟨h.orderly.errands, h.orderly.accepted⟩ s.channel.worksOn_readTurn ?_
  intro hconfirming hclosed w hw
  exact hconfirming w (s.channel.waiters_readTurn.subset hw)

theorem Closing.afterWriting (h : s.Closing) :
    ({ s with side := Scene.afterWriting s.side } : Scene σ).Closing := by
  refine h.of_side ⟨h.orderly.errands, h.orderly.accepted⟩ s.channel.worksOn_writeTurn ?_
  intro hconfirming hclosed w hw
  exact hconfirming w (s.channel.waiters_writeTurn ▸ hw)

theorem Closing.onSide (h : s.Closing) {act : Side.Act σ} (hpermits : s.permits act = true) :
    (s.onSide act).Closing := by
  refine h.of_side (s.side.orderly_step h.orderly act) (worksOn_onSide hpermits) ?_
  intro hconfirming hclosed
  have hhappen : s.side.happen (.act act) = s.side.step act := by
    cases act with
    | cancel | clearWaiters | clearWorkbench => cases hpermits
    | _ => rfl
  have hshift : s.side.Shift (.act act) := by
    refine s.side.shift h.orderly ?_
    rintro frameId run heq
    cases heq
    cases hpermits
  rw [← hhappen]
  exact hconfirming.step hclosed hshift

theorem closing_run (h : s.Closing) (acts : List (Act σ)) : (s.run acts).Closing :=
  keeps (fun _ _ hfresh h => h.begin hfresh) (fun _ index h => h.proceed index)
    (fun _ _ h => h.afterReading) (fun _ _ h => h.afterWriting)
    (fun _ _ hpermits h => h.onSide hpermits) h acts

/-! ### Rest -/

/-- The channel is closed, the workers have ended, and the calls that were handed to
the pool have finished. -/
structure AtRest (s : Scene σ) : Prop where
  closed : s.channel.isOpen = false
  /-- The shutdown that has closed the channel is not under way any more. -/
  settled : ∀ task ∈ s.tasks, task.hasClosed = true → task.isOver = true
  reading : s.channel.reading = false
  writing : s.channel.writing = false
  relaying : s.channel.relaying = false
  pool : s.channel.pool = []

theorem AtRest.exists_yieldsTrue (h : s.AtRest) (honce : s.ClosedOnce) :
    ∃ task ∈ s.tasks, task.yieldsTrue = true := by
  have hone : s.tasks.countP Task.hasClosed = 1 := by
    rw [honce, h.closed]
    rfl
  obtain ⟨task, htask, hcloser⟩ := List.countP_pos_iff.mp (hone ▸ Nat.one_pos)
  refine ⟨task, htask, ?_⟩
  rwa [Task.yieldsTrue_of_isOver (h.settled task htask hcloser)]

/-- A channel at rest has nothing that is still to be written and no call that is due. -/
theorem AtRest.idle (h : s.AtRest) (hclosing : s.Closing) (htidy : s.channel.works.Tidy) :
    s.channel.unwritten = [] ∧ s.channel.jobs = [] := by
  obtain ⟨task, htask, hyields⟩ := h.exists_yieldsTrue hclosing.closedOnce
  have htaken := hclosing.dropped task htask hyields
  obtain ⟨hcurrent, hqueue⟩ := htidy.writes h.writing
  have hcurrent : s.channel.current = none := hcurrent
  have hqueue : s.channel.queue = [] := hqueue.resolve_left htaken
  have hevents : s.channel.events = [] := (htidy.events h.relaying).resolve_left htaken
  constructor
  · rw [Channel.unwritten, hcurrent, hqueue]
    rfl
  · rw [Channel.jobs, h.pool, hevents]
    rfl

end Scene

/-- **No handle is left hanging when a channel ends.** Whatever has happened to a
channel from its creation on and whoever has closed it, once it is at rest every
handle that was given out knows what came of its write or its request: what was
recorded for it, or that the channel is closed. Nothing is recorded twice. -/
theorem no_handle_left_hanging (registry : Registry) (config : ChannelConfig)
    (writes : List WriteTurn) (flushes : List FlushTurn) (app : σ) (acts : List (Scene.Act σ))
    (hrest : ((Scene.created registry config writes flushes app).run acts).AtRest) :
    let s := (Scene.created registry config writes flushes app).run acts
    (∀ w ∈ s.side.accepted, ∃ result,
      s.channel.pollWrite ⟨w.ticket, w.frameId⟩ = some result ∧
        s.channel.WriteEnds w.ticket result) ∧
      (∀ a ∈ s.side.asked, ∃ result, (s.channel.pollReply a.handle).1 = some result ∧
        s.channel.ReplyEnds a.handle result) ∧
      (s.channel.outcomes.map Prod.fst).Nodup ∧ (s.channel.replies.map Prod.fst).Nodup := by
  intro s
  have hticketed : s.side.Ticketed :=
    Scene.ticketed_run (Side.ticketed_created registry config writes flushes app) acts
  have hclosing : s.Closing := Scene.closing_run
    ⟨⟨List.forall_mem_nil _, List.forall_mem_nil _⟩,
      Scene.closedOnce_run registry config writes flushes app [],
      List.forall_mem_nil _, List.forall_mem_nil _⟩ acts
  obtain ⟨hunwritten, hjobs⟩ :=
    hrest.idle hclosing (Scene.tidy_run registry config writes flushes app acts)
  obtain ⟨task, htask, hyields⟩ := hrest.exists_yieldsTrue hclosing.closedOnce
  have hswept : task.hasSwept = true := Task.hasSwept_of_yieldsTrue hyields
  have hwrite (ticket : Nat) : s.channel.holdsWrite ticket = false :=
    Channel.holdsWrite_eq_false hunwritten ticket
  refine ⟨?_, ?_, hticketed.nodup_recorded⟩
  · intro w hw
    exact Channel.pollWrite_ends (hwrite w.ticket)
  · intro a ha
    have hreply : s.channel.holdsReply a.handle.ticket = false := by
      refine Channel.holdsReply_eq_false hjobs fun w hw hticket => ?_
      exact hticketed.not_mem_confirming ha w.1 (hclosing.swept task htask hswept w hw _ hticket)
    exact Channel.pollReply_ends (hwrite _) hreply (hticketed.written a ha)

/-- Of two requests one was written and answered before the connection ended, and
the other one was not written. -/
theorem one_answered_and_one_lost :
    let ask : List (Scene.Act Unit) :=
      .side (.call (.request .ping ())) :: List.replicate 6 (.side (.advance 0))
    let reply : Arrival := .data (Frame.mk 0 (MessageType.reply .ping).wireId []).bytes
    let acts : List (Scene.Act Unit) :=
      [.start true, .proceed 0, .proceed 0] ++ ask ++ [.write, .write] ++ ask ++
        [.side (.arrive reply), .read, .side .relay, .side (.finish 0), .side (.arrive .ended),
          .read, .proceed 1, .proceed 1, .proceed 1, .proceed 1, .side .endWriting,
          .side .endRelaying]
    let s := (Scene.created .catalog {} [] [] ()).run acts
    s.AtRest ∧
      s.side.asked.map (fun a => (s.channel.pollReply a.handle).1.map (·.isOk))
        = [some true, some false] ∧
      ∀ a ∈ s.side.asked, ∃ result, (s.channel.pollReply a.handle).1 = some result ∧
        s.channel.ReplyEnds a.handle result := by
  intro ask reply acts s
  have hrest : s.AtRest := by
    constructor <;> decide +kernel
  refine ⟨hrest, ?_, (no_handle_left_hanging .catalog {} [] [] () acts hrest).2.1⟩
  decide +kernel

end Parley
