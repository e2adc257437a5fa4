/-
What happens to those that wait for one message.

Those that wait are in the table of a channel until something is delivered to
them, is given up, or closes the channel. Most of what happens to a channel
leaves the table alone or closes the channel and empties it, and makes no call
of a waiter due (`Rests`). Each operation has its lemma here, started or not.
-/
import Parley.Channel.Course
import Parley.Proofs.Channel.Books

namespace Parley

open scoped List

variable {σ : Type}

namespace Channel

/-- The parts of a channel that say what waits, and what numbers are next. -/
structure Ledger (σ : Type) where
  waiters : List (Int32 × Waiter σ)
  isOpen : Bool
  nextFrameId : Nat
  nextTicket : Nat
  replies : List (Nat × Message)

/-- When a channel is closed, nothing is left to wait. -/
def Ledger.shut (l : Ledger σ) : Ledger σ := { l with waiters := [], isOpen := false }

variable {c c' c'' : Channel σ}

def ledger (c : Channel σ) : Ledger σ :=
  ⟨c.waiters, c.isOpen, c.nextFrameId, c.nextTicket, c.replies⟩

/-- The calls of waiters that are due. -/
def responses (c : Channel σ) : List (Waiter σ × Message) := c.jobs.filterMap Job.response?

/-- Nothing happens to what waits unless the channel is closed, and no call of a
waiter comes due. -/
structure Rests (c c' : Channel σ) : Prop where
  ledger : c'.ledger = c.ledger ∨ c'.ledger = c.ledger.shut
  responses : c'.responses <+ c.responses

theorem Rests.of_ledger (hledger : c'.ledger = c.ledger) (hjobs : c'.jobs <+ c.jobs) :
    Rests c c' :=
  ⟨Or.inl hledger, hjobs.filterMap _⟩

theorem Rests.refl (c : Channel σ) : Rests c c := .of_ledger rfl (List.Sublist.refl _)

theorem Rests.trans (h : Rests c c') (h' : Rests c' c'') : Rests c c'' where
  ledger := by
    rcases h'.ledger with h'l | h'l
    · rw [h'l]
      exact h.ledger
    · rcases h.ledger with hl | hl
      · exact Or.inr (h'l.trans (congrArg Ledger.shut hl))
      · -- closing twice is closing once
        rw [h'l, hl]
        exact Or.inr rfl
  responses := h'.responses.trans h.responses

theorem Rests.waiters (h : Rests c c') : c'.waiters <+ c.waiters := by
  rcases h.ledger with hl | hl
  · rw [show c'.waiters = c.waiters from congrArg Ledger.waiters hl]
  · rw [show c'.waiters = [] from congrArg Ledger.waiters hl]
    exact List.nil_sublist _

variable (c)

/-! ### Closing and starting -/

theorem rests_clearWorkbench : Rests c c.clearWorkbench := by
  unfold clearWorkbench
  split
  · exact .of_ledger rfl ((List.Sublist.refl _).append (List.nil_sublist _))
  · exact .refl c

theorem rests_shutdown : Rests c c.shutdown.2 := by
  unfold shutdown
  split
  · have hshut : Rests c c.flip.cancel.clearWaiters := ⟨Or.inr rfl, List.Sublist.refl _⟩
    exact hshut.trans (rests_clearWorkbench _)
  · exact .refl c

theorem rests_endReading : Rests c c.endReading := .of_ledger rfl (List.Sublist.refl _)

theorem rests_endWriting : Rests c c.endWriting := .of_ledger rfl (List.Sublist.refl _)

theorem rests_endRelaying : Rests c c.endRelaying :=
  .of_ledger rfl ((List.Sublist.refl _).append (List.nil_sublist _))

theorem rests_launch : Rests c c.launch := by
  unfold launch
  split
  · exact .of_ledger rfl (List.Sublist.refl _)
  · exact .refl c

/-- A channel that is started was open before and is open after. -/
theorem rests_start (runtime : Bool) : Rests c (c.start runtime).2 := by
  unfold start claimStart
  split
  · cases hlife : c.lifecycle with
    | created =>
        have hclaimed : Rests c { c with lifecycle := .running } := by
          have hopen : c.isOpen = true := by rw [isOpen, hlife]; rfl
          refine .of_ledger ?_ (List.Sublist.refl _)
          rw [ledger, ledger, hopen]
          rfl
        exact hclaimed.trans (rests_launch _)
    | running => exact .refl c
    | closed => exact .refl c
  · exact .refl c

/-! ### Calling listeners -/

theorem ledger_post (jobs : List (Job σ)) : (c.post jobs).ledger = c.ledger := by
  unfold post
  split
  · rfl
  · rfl

theorem responses_post_eq (jobs : List (Job σ)) :
    (c.post jobs).responses
      = c.responses ++ if c.takesEvents then jobs.filterMap Job.response? else [] := by
  unfold post
  split
  · rw [responses, responses, ← List.filterMap_append]
    exact congrArg (List.filterMap _) (List.append_assoc _ _ _).symm
  · rw [List.append_nil]

theorem responses_post (jobs : List (Job σ)) :
    (c.post jobs).responses <+ c.responses ++ jobs.filterMap Job.response? := by
  rw [responses_post_eq]
  split
  · exact List.Sublist.refl _
  · exact (List.nil_sublist _).append_left _

theorem rests_post {jobs : List (Job σ)} (h : jobs.filterMap Job.response? = []) :
    Rests c (c.post jobs) := by
  refine ⟨Or.inl (c.ledger_post jobs), ?_⟩
  have hposted := c.responses_post jobs
  rwa [h, List.append_nil] at hposted

theorem rests_relayStep : Rests c c.relayStep := by
  unfold relayStep
  split
  · split
    · exact .refl c
    next job events hevents =>
      refine .of_ledger rfl ?_
      simp [jobs, hevents]
  · exact .refl c

/-- A call that finishes is due no longer. -/
theorem responses_withoutJob {index : Nat} {job : Job σ} (h : c.pool[index]? = some job) :
    c.responses ~ job.response?.toList ++ (c.withoutJob index).responses := by
  rw [responses, responses, jobs, jobs, List.filterMap_append, List.filterMap_append,
    ← List.append_assoc]
  exact (filterMap_perm_eraseIdx Job.response? h).append_right _

/-! ### Writing -/

theorem rests_conclude (w : PendingWrite) (result : Except FrameError Nat) :
    Rests c (c.conclude w result) := by
  cases result with
  | ok length =>
      have hcleared : Rests c
          { c with current := none, outcomes := c.outcomes ++ [(w.ticket, .ok length)] } :=
        .of_ledger rfl (List.Sublist.refl _)
      refine hcleared.trans (rests_post _ ?_)
      rw [List.filterMap_map]
      exact List.filterMap_eq_nil_iff.mpr fun _ _ => rfl
  | error e =>
      have hcleared : Rests c { c with current := none } := .of_ledger rfl (List.Sublist.refl _)
      rw [conclude]
      split
      · exact hcleared.trans ((rests_shutdown _).trans (rests_endWriting _))
      · exact .of_ledger rfl (List.Sublist.refl _)

theorem rests_push (out : Outgoing) : Rests c (c.push out) := by
  have hsink (sink : Sink) : Rests c { c with sink } := .of_ledger rfl (List.Sublist.refl _)
  unfold push
  split
  · exact .of_ledger rfl (List.Sublist.refl _)
  · exact (hsink _).trans (rests_conclude _ _ _)
  · split
    · exact (hsink _).trans (rests_conclude _ _ _)
    · exact (hsink _).trans (rests_conclude _ _ _)

theorem rests_writeStep : Rests c c.writeStep := by
  unfold writeStep
  split
  · split
    · exact c.rests_push _
    · exact .refl c
    · split
      · refine Rests.trans ?_ (rests_conclude _ _ _)
        exact .of_ledger rfl (List.Sublist.refl _)
      · exact .of_ledger rfl (List.Sublist.refl _)
  · exact .refl c

/-! ### Reading -/

theorem ledger_deliver {frameId : Int32} (h : frameId ≠ broadcastId) (m : Message) :
    (c.deliver frameId m).ledger = (c.removeWaiter frameId).ledger := by
  rw [deliver, if_neg h]
  exact ledger_post _ _

theorem filterMap_response?_jobsFor {frameId : Int32} (h : frameId ≠ broadcastId) (m : Message) :
    (c.jobsFor frameId m).filterMap Job.response?
      = (c.waiters.lookup frameId).toList.map fun w => (w, m) := by
  rw [jobsFor, if_neg h, List.filterMap_append]
  have htraffic : (c.onTraffic.toList.map fun l => Job.traffic l frameId m).filterMap
      Job.response? = [] := by
    rw [List.filterMap_map]
    exact List.filterMap_eq_nil_iff.mpr fun _ _ => rfl
  rw [htraffic, List.append_nil, List.filterMap_map]
  exact congrFun List.filterMap_eq_map _

/-- What waits on the frame id of a message is called, and nothing else is. -/
theorem responses_deliver_eq {frameId : Int32} (h : frameId ≠ broadcastId) (m : Message) :
    (c.deliver frameId m).responses = c.responses ++
      if c.takesEvents then (c.waiters.lookup frameId).toList.map fun w => (w, m) else [] := by
  rw [← c.filterMap_response?_jobsFor h m, deliver, if_neg h, jobsFor, if_neg h]
  exact responses_post_eq _ _

theorem responses_deliver {frameId : Int32} (h : frameId ≠ broadcastId) (m : Message) :
    (c.deliver frameId m).responses
      <+ c.responses ++ (c.waiters.lookup frameId).toList.map fun w => (w, m) := by
  rw [c.responses_deliver_eq h m]
  split
  · exact List.Sublist.refl _
  · exact (List.nil_sublist _).append_left _

/-- A broadcast calls nothing that waits, not even on the frame id of broadcasts. -/
theorem deliver_broadcastId (m : Message) :
    (c.deliver broadcastId m).ledger = c.ledger ∧
      (c.deliver broadcastId m).responses <+ c.responses := by
  have hnone : (c.onBroadcast.toList.map fun l => Job.broadcast l m).filterMap Job.response?
      = [] := by
    rw [List.filterMap_map]
    exact List.filterMap_eq_nil_iff.mpr fun _ _ => rfl
  rw [deliver, if_pos rfl]
  exact ⟨c.ledger_post _, (c.rests_post hnone).responses⟩

theorem rests_collected : Rests c c.collected := .of_ledger rfl (List.Sublist.refl _)

/-- A message that comes in is routed, and nothing else happens. -/
theorem readStep_of_incoming {frameId : Int32} {m : Message}
    (h : Side.incoming c = some (frameId, m)) : c.readStep = c.collected.deliver frameId m := by
  have hread := c.readStep_cases
  rw [h] at hread
  generalize c.readStep = c' at hread
  cases hread with
  | delivered => rfl

/-- A reader that delivers nothing leaves what waits alone, or closes the channel. -/
theorem rests_readStep (h : Side.incoming c = none) : Rests c c.readStep := by
  have hread := c.readStep_cases
  have hrefused : Rests c c.collected.shutdown.2.endReading :=
    c.rests_collected.trans ((rests_shutdown _).trans (rests_endReading _))
  rw [h] at hread
  generalize c.readStep = c' at hread
  cases hread with
  | idle => exact .refl c
  | dropped => exact hrefused
  | failed => exact hrefused
  | waiting => exact c.rests_collected

/-! ### Waiting -/

theorem hasWaiter_eq_false {frameId : Int32} :
    c.hasWaiter frameId = false ↔ ∀ w ∈ c.waiters, w.1 ≠ frameId := by
  rw [hasWaiter, Option.isSome_eq_false_iff, Option.isNone_iff_eq_none, List.lookup_eq_none_iff]
  constructor
  · intro h w hw heq
    simpa [heq] using h w hw
  · intro h w hw
    simpa using (h w hw).symm

theorem hasWaiter_eq_true {frameId : Int32} :
    c.hasWaiter frameId = true ↔ ∃ w, (frameId, w) ∈ c.waiters := by
  rw [← Bool.not_eq_false, c.hasWaiter_eq_false]
  simp

/-- A waiter is added only to an open channel, and only where nothing waits. -/
theorem addWaiter_cases (frameId : Int32) (w : Waiter σ) :
    c.isOpen = false ∧ c.addWaiter frameId w = (.error .closed, c) ∨
      c.isOpen = true ∧ c.hasWaiter frameId = true ∧
        c.addWaiter frameId w = (.error (.listenerExists frameId), c) ∨
      c.isOpen = true ∧ c.hasWaiter frameId = false ∧
        c.addWaiter frameId w
          = (.ok (), { c with waiters := c.waiters ++ [(frameId, w)] }) := by
  cases hopen : c.isOpen with
  | false =>
      refine Or.inl ⟨rfl, ?_⟩
      rw [addWaiter, checkOpen, hopen]
      rfl
  | true =>
      refine Or.inr ?_
      cases hwaits : c.hasWaiter frameId with
      | true =>
          refine Or.inl ⟨rfl, rfl, ?_⟩
          rw [addWaiter, checkOpen, hopen, insertWaiter, hwaits]
          rfl
      | false =>
          refine Or.inr ⟨rfl, rfl, ?_⟩
          have hopen' : ({ c with waiters := c.waiters ++ [(frameId, w)] } : Channel σ).isOpen
              = true := hopen
          rw [addWaiter, checkOpen, hopen, insertWaiter, hwaits]
          change confirmWaiter { c with waiters := c.waiters ++ [(frameId, w)] } frameId = _
          rw [confirmWaiter, checkOpen, hopen']
          rfl

theorem dropReply_of_unsettled {h : ReplyHandle} (hunsettled : h.settled = false) :
    c.dropReply h = c.removeWaiter h.frameId := if_neg (Bool.eq_false_iff.mp hunsettled)

/-- A look at a handle leaves the channel alone, or gives the request up. -/
theorem pollReply_channel (h : ReplyHandle) :
    (c.pollReply h).2.2 = c ∨
      (c.pollReply h).2.2 = c.removeWaiter h.frameId ∧ (c.pollReply h).1.isSome := by
  unfold pollReply
  split
  · exact Or.inl rfl
  · split
    · exact Or.inl rfl
    · exact Or.inr ⟨rfl, rfl⟩
    · exact Or.inl rfl

end Channel

namespace Side

variable (s : Side σ)

/-- Acts that neither add to what waits nor take from it, unless they close the
channel, and call nothing. -/
def Act.isIdle : Act σ → Bool
  | .advance _ | .listen _ _ | .poll _ | .forget _ | .read | .finish _ | .flip
  | .clearWaiters => false
  | _ => true

theorem rests_step {act : Act σ} (hidle : act.isIdle = true) :
    s.channel.Rests (s.step act).channel := by
  have hfields {c : Channel σ} (hledger : c.ledger = s.channel.ledger)
      (hjobs : c.jobs = s.channel.jobs) : s.channel.Rests c :=
    .of_ledger hledger (hjobs ▸ List.Sublist.refl _)
  have hwhen {c : Channel σ} (hc : s.channel.Rests c) :
      s.channel.Rests (if s.channel.cancelled then c else s.channel) := by
    split
    · exact hc
    · exact .refl _
  cases act with
  | advance | listen | poll | forget | read | finish | flip | clearWaiters => cases hidle
  | call | onBroadcast | onTraffic | onWritten | arrive | release | cancel => exact hfields rfl rfl
  | write => exact s.channel.rests_writeStep
  | relay => exact s.channel.rests_relayStep
  | clearWorkbench => exact s.channel.rests_clearWorkbench
  | endReading => exact hwhen s.channel.rests_endReading
  | endWriting => exact hwhen s.channel.rests_endWriting
  | endRelaying => exact hwhen s.channel.rests_endRelaying

/-- A handle that is dropped gives its request up unless it is settled. -/
theorem forget_of_open {index : Nat} {a : Asked} (h : s.open? index = some a) :
    (s.forget index).channel = s.channel.removeWaiter a.handle.frameId := by
  obtain ⟨hasked, hunsettled⟩ := open?_eq_some.mp h
  rw [forget, hasked]
  exact s.channel.dropReply_of_unsettled hunsettled

theorem forget_of_not_open {index : Nat} (h : s.open? index = none) :
    (s.forget index).channel = s.channel := by
  unfold forget
  split
  · rfl
  next a hasked =>
    have hsettled : a.handle.settled = true := by
      simpa [open?, hasked] using h
    exact if_pos hsettled

theorem forget_channel (index : Nat) :
    (s.forget index).channel = s.channel ∨ ∃ a, s.open? index = some a ∧
      (s.forget index).channel = s.channel.removeWaiter a.handle.frameId := by
  cases hopen : s.open? index with
  | none => exact Or.inl (s.forget_of_not_open hopen)
  | some a => exact Or.inr ⟨a, rfl, s.forget_of_open hopen⟩

/-- A look at a handle leaves the channel alone, or gives its request up. -/
theorem poll_channel (index : Nat) :
    (s.poll index).channel = s.channel ∨ ∃ a, s.open? index = some a ∧
      (s.channel.pollReply a.handle).1.isSome ∧
      (s.poll index).channel = s.channel.removeWaiter a.handle.frameId := by
  unfold poll
  split
  · exact Or.inl rfl
  next a hopen =>
    rcases s.channel.pollReply_channel a.handle with heq | ⟨heq, hsome⟩
    · exact Or.inl heq
    · exact Or.inr ⟨a, hopen, hsome, heq⟩

/-- A call of a listener that finishes leaves the table alone and is due no longer. -/
theorem finish_waits (index : Nat) :
    (s.finish index).channel.waiters = s.channel.waiters ∧
      (s.finish index).channel.responses = (s.channel.withoutJob index).responses := by
  have hfinish := s.finish_cases index
  generalize s.finish index = s' at hfinish
  cases hfinish with
  | absent hnone =>
      have herased : s.channel.pool.eraseIdx index = s.channel.pool :=
        List.eraseIdx_of_length_le (List.getElem?_eq_none_iff.mp hnone)
      refine ⟨rfl, ?_⟩
      rw [Channel.withoutJob, herased]
  | aside | reply | unanswered | answered => exact ⟨rfl, rfl⟩

end Side

end Parley
