/-
What a side says that serves.

A side serves if its listener for all traffic is a dispatcher and if of its own
accord it sends nothing but broadcasts. Then whatever else it sends is an
answer: the dispatcher gave it to a request that was delivered on the same
frame id, and it gave no other one (`Side.Serves`). This stays so whatever
happens (`Side.serves_step`).
-/
import Parley.Channel.Dispatcher
import Parley.Proofs.Channel.Books
import Parley.Proofs.Channel.Outbox

namespace Parley

open scoped List

variable {τ : Type}

/-! ### Dispatchers -/

namespace Dispatcher

/-- What the handler of a request makes of it, if there is a handler. -/
def handled? (d : Dispatcher τ) (app : τ) (r : RequestType) (payload : r.Payload) :
    Option (Handled r.Reply) :=
  (d.handlers r).map fun handler => (handler app payload).2

/-- The message with which a dispatcher answers a request. -/
def reply (d : Dispatcher τ) (app : τ) (r : RequestType) (payload : r.Payload) : Message :=
  match d.handled? app r payload with
  | some outcome => conclude r (MessageType.request r).wireId outcome
  | none =>
    .failure (MessageType.request r).wireId ("no handler for " ++ (MessageType.request r).name)

theorem answer_request (d : Dispatcher τ) (app : τ) (r : RequestType) (payload : r.Payload) :
    (d.answer app (MessageType.request r).wireId (.request r payload)).2
      = d.reply app r payload := by
  unfold answer reply handled? Message.request
  dsimp only
  cases d.handlers r with
  | none => rfl
  | some handler => rfl

/-- A dispatcher answers requests and nothing else. -/
theorem kind_of_listener {d : Dispatcher τ} {registry : Registry} {app : τ} {frameId : Int32}
    {m answer : Message} (h : (d.listener registry app frameId m).2 = some answer) :
    m.kind = .request := by
  unfold listener at h
  split at h
  next hkind _ => exact hkind
  next => cases h

/-- On a channel of the catalog a dispatcher answers every request. -/
theorem listener_request (d : Dispatcher τ) (app : τ) (frameId : Int32) (r : RequestType)
    (payload : r.Payload) :
    (d.listener .catalog app frameId (.request r payload)).2 = some (d.reply app r payload) := by
  rw [listener, Registry.lookupFor_catalog, ← answer_request]
  rfl

end Dispatcher

/-! ### Calls of the listener for all traffic -/

namespace Channel

variable {c c' : Channel τ}

/-- Whom the listener for all traffic is to be called for. -/
def traffic (c : Channel τ) : List (TrafficListener τ × Int32 × Message) :=
  c.jobs.filterMap Job.traffic?

theorem Quiet.traffic (h : c.Quiet c') : c'.traffic.Sublist c.traffic := by
  obtain ⟨new, hnew, hsub⟩ := h.jobs
  have hnone : new.filterMap Job.traffic? = [] :=
    List.filterMap_eq_nil_iff.mpr fun j hj => (hnew j hj).2
  have hboth := hsub.filterMap Job.traffic?
  rw [List.filterMap_append, hnone, List.append_nil] at hboth
  exact hboth

/-- A message that is delivered is for the listener for all traffic at most once. -/
theorem traffic_deliver (c : Channel τ) (frameId : Int32) (m : Message) :
    (c.deliver frameId m).traffic.Sublist
      (c.traffic ++ c.onTraffic.toList.map fun l => (l, frameId, m)) := by
  refine ((c.deliver_jobs frameId m).filterMap Job.traffic?).trans ?_
  rw [List.filterMap_append]
  by_cases hid : frameId = broadcastId
  · rw [hid, filterMap_traffic?_jobsFor_broadcastId, List.append_nil]
    exact List.sublist_append_left _ _
  · rw [filterMap_traffic?_jobsFor c hid]
    exact List.Sublist.refl _

/-- A call that finishes is no longer due. -/
theorem traffic_perm_withoutJob {index : Nat} {job : Job τ} (h : c.pool[index]? = some job) :
    c.traffic ~ job.traffic?.toList ++ (c.withoutJob index).traffic := by
  have hindex := (List.getElem?_eq_some_iff.mp h).1
  have hjob : c.jobs[index]? = some job := by
    rw [jobs, List.getElem?_append_left hindex, h]
  have hrest : c.jobs.eraseIdx index = (c.withoutJob index).jobs :=
    List.eraseIdx_append_of_lt_length hindex c.events
  have hperm := filterMap_perm_eraseIdx Job.traffic? hjob
  rwa [hrest] at hperm

end Channel

/-! ### Serving -/

/-- An order to broadcast, or to say on a frame id what was answered there. -/
def Order.IsMeant (answered : List (Answered τ)) : Order → Prop
  | .write m => m.kind = .broadcast
  | .reply frameId m => ∃ e ∈ answered, e.frameId = frameId ∧ e.answer = m
  | .request _ _ => False

namespace Side

variable {d : Dispatcher τ} {s s' : Side τ}

/-- The acts of a side that serves. -/
def Act.isServing : Act τ → Bool
  | .call (.write m) => m.kind == .broadcast
  | .call _ => false
  | .onTraffic _ => false
  | _ => true

/-- The messages for which the listener for all traffic was called with an
answer or is still to be called. -/
def dealt (s : Side τ) : List (Int32 × Message) :=
  (s.answered.map fun e => (e.frameId, e.message)) ++ s.channel.traffic.map (·.2)

/-- A side serves: each message that was delivered is dealt with at most once, by
the dispatcher, and what is said on a frame id is what was answered there. -/
structure Serves (d : Dispatcher τ) (s : Side τ) : Prop where
  listens : s.channel.onTraffic = some d.listener
  traffic : ∀ t ∈ s.channel.traffic, t.1 = d.listener
  dealt : s.dealt <+~ s.delivered
  answered : ∀ e ∈ s.answered, (d.listener .catalog e.app e.frameId e.message).2 = some e.answer
  errands : ∀ e ∈ s.errands, e.1.IsMeant s.answered
  accepted : ∀ w ∈ s.accepted, w.message.kind = .broadcast ∨
    ∃ e ∈ s.answered, e.frameId = w.frameId ∧ e.answer = w.message

/-- A side that says nothing goes on serving. -/
theorem Serves.of_quiet (h : s.Serves d) (hquiet : s.channel.Quiet s'.channel)
    (hsame : s.Same s') : s'.Serves d where
  listens := (congrArg Channel.Core.onTraffic hquiet.core).trans h.listens
  traffic := fun t ht => h.traffic t (hquiet.traffic.subset ht)
  dealt := by
    refine List.Subperm.trans ?_ (hsame.delivered ▸ h.dealt)
    rw [Side.dealt, hsame.answered]
    exact ((hquiet.traffic.map _).append_left _).subperm
  answered := hsame.answered ▸ h.answered
  errands := by
    rw [hsame.errands, hsame.answered]
    exact h.errands
  accepted := by
    rw [hsame.accepted, hsame.answered]
    exact h.accepted

/-- What is said in a step of a call was meant. -/
theorem Serves.advance (h : s.Serves d) (horderly : s.Orderly) (index : Nat) :
    (s.advance index).Serves d := by
  rcases s.advance_eq index with heq | ⟨order, stage, outcome, channel, hcall, hstep, heq⟩
  · rw [heq]
    exact h
  rw [heq]
  have hmeant : order.IsMeant s.answered := h.errands _ (List.mem_of_getElem? hcall)
  have hset (stage' : Stage) :
      ∀ e ∈ s.errands.set index (order, stage'), e.1.IsMeant s.answered := by
    intro e he
    rcases List.mem_or_eq_of_mem_set he with he | rfl
    · exact h.errands e he
    · exact hmeant
  have herased : ∀ e ∈ s.errands.eraseIdx index, e.1.IsMeant s.answered := by
    intro e he
    exact h.errands e (List.mem_of_mem_eraseIdx he)
  cases hstep with
  | failed => exact ⟨h.listens, h.traffic, h.dealt, h.answered, herased, h.accepted⟩
  | withdrawn => exact ⟨h.listens, h.traffic, h.dealt, h.answered, herased, h.accepted⟩
  | known | unknown | numbered | guarded | waits | confirmed =>
      exact ⟨h.listens, h.traffic, h.dealt, h.answered, hset _, h.accepted⟩
  | @queued ticket frameId htakes =>
      refine ⟨h.listens, h.traffic, h.dealt, h.answered, herased, ?_⟩
      refine List.forall_mem_append.mpr ⟨h.accepted, ?_⟩
      intro w hw
      obtain rfl := List.mem_singleton.mp hw
      have hsound : Stage.Sound order (.enqueue ticket frameId) :=
        horderly.errands _ (List.mem_of_getElem? hcall)
      cases order with
      | write m => exact Or.inl hmeant
      | reply id m =>
          obtain rfl : id = frameId := hsound.1 id rfl
          exact Or.inr hmeant
      | request r payload => exact hmeant.elim

/-- A message that is delivered is dealt with at most once. -/
theorem Serves.read (h : s.Serves d) (hstarted : s.channel.workbench = .started) :
    s.read.Serves d := by
  have hquiet := s.channel.quiet_collected
  have hcloses := s.channel.quiet_refuse hstarted
  have hread := s.channel.readStep_cases
  have hnothing {c : Channel τ} (hc : s.channel.Quiet c) :
      ({ s with channel := c, delivered := s.delivered ++ [] } : Side τ).Serves d :=
    h.of_quiet hc ⟨rfl, rfl, rfl, List.append_nil _, rfl⟩
  unfold Side.read onChannel
  generalize s.channel.readStep = c' at hread
  generalize incoming s.channel = brought at hread
  cases hread with
  | idle => exact hnothing (Channel.Keeps.refl _).toQuiet
  | @delivered f rest m =>
      have hcore := s.channel.collected.deliver_core f.frameId m
      have hlistens : s.channel.collected.onTraffic = some d.listener := h.listens
      have htraffic := s.channel.collected.traffic_deliver f.frameId m
      rw [hlistens, Option.toList_some, List.map_singleton] at htraffic
      refine ⟨(congrArg Channel.Core.onTraffic hcore).trans h.listens, ?_, ?_, h.answered,
        h.errands, h.accepted⟩
      · intro t ht
        rcases List.mem_append.mp (htraffic.subset ht) with ht | ht
        · exact h.traffic t ht
        · rw [List.mem_singleton.mp ht]
      · have hmore := (htraffic.map (·.2)).append_left
          (s.answered.map fun e => (e.frameId, e.message))
        rw [List.map_append, ← List.append_assoc] at hmore
        exact hmore.subperm.trans (h.dealt.append (List.Subperm.refl [(f.frameId, m)]))
  | dropped => exact hnothing hcloses
  | failed => exact hnothing hcloses
  | waiting => exact hnothing hquiet

/-- A request that is answered was one to deal with, and is one no longer. -/
theorem Serves.finish (h : s.Serves d) (hregistry : s.channel.registry = .catalog) (index : Nat) :
    (s.finish index).Serves d := by
  have hquiet := s.channel.quiet_withoutJob index
  have hfinish := s.finish_cases index
  generalize s.finish index = s' at hfinish
  cases hfinish with
  | absent => exact h
  | aside => exact h.of_quiet hquiet ⟨rfl, rfl, rfl, rfl, rfl⟩
  | unanswered => exact h.of_quiet hquiet ⟨rfl, rfl, rfl, rfl, rfl⟩
  | reply =>
      have hwithout : ({ s with channel := s.channel.withoutJob index } : Side τ).Serves d :=
        h.of_quiet hquiet ⟨rfl, rfl, rfl, rfl, rfl⟩
      exact ⟨hwithout.listens, hwithout.traffic, hwithout.dealt, h.answered, h.errands, h.accepted⟩
  | @answered listener frameId m answer app hjob hanswer =>
      have hperm := Channel.traffic_perm_withoutJob hjob
      have hlistener : listener = d.listener :=
        h.traffic _ (hperm.symm.subset (List.mem_append_left _ (List.mem_singleton_self _)))
      have hmore {o : Order} (ho : o.IsMeant s.answered) :
          o.IsMeant (s.answered ++ [⟨frameId, m, s.app, answer⟩]) := by
        cases o with
        | write m => exact ho
        | reply id m =>
            obtain ⟨e, he, heq⟩ := ho
            exact ⟨e, List.mem_append_left _ he, heq⟩
        | request r payload => exact ho
      refine ⟨h.listens, ?_, ?_, ?_, ?_, ?_⟩
      · intro t ht
        exact h.traffic t (hquiet.traffic.subset ht)
      · refine List.Subperm.trans (List.Perm.subperm ?_) h.dealt
        unfold Side.dealt
        rw [List.map_append, List.append_assoc]
        exact ((hperm.map (·.2)).symm).append_left _
      · refine List.forall_mem_append.mpr ⟨h.answered, ?_⟩
        intro e he
        obtain rfl := List.mem_singleton.mp he
        rw [hlistener, hregistry] at hanswer
        exact congrArg Prod.snd hanswer
      · intro e he
        rcases List.mem_append.mp he with he | he
        · exact hmore (h.errands e he)
        · obtain rfl := List.mem_singleton.mp he
          exact ⟨_, List.mem_append_right _ (List.mem_singleton_self _), rfl, rfl⟩
      · intro w hw
        rcases h.accepted w hw with hkind | ⟨e, he, heq⟩
        · exact Or.inl hkind
        · exact Or.inr ⟨e, List.mem_append_left _ he, heq⟩

/-- **Whatever happens to a side that serves, it goes on serving.** -/
theorem serves_step {limits : FrameLimits} (h : s.Serves d) (hsteady : s.channel.Steady limits)
    (horderly : s.Orderly) {act : Act τ} (hact : act.isServing = true) : (s.step act).Serves d := by
  cases hmute : act.isMute with
  | true =>
      obtain ⟨hquiet, hsame⟩ := s.quiet_step hsteady.started hmute
      exact h.of_quiet hquiet hsame
  | false =>
      cases act with
      | call order =>
          have hmeant : order.IsMeant s.answered := by
            cases order with
            | write m => exact eq_of_beq hact
            | reply id m => cases hact
            | request r payload => cases hact
          refine ⟨h.listens, h.traffic, h.dealt, h.answered, ?_, h.accepted⟩
          refine List.forall_mem_append.mpr ⟨h.errands, ?_⟩
          intro e he
          rw [List.mem_singleton.mp he]
          exact hmeant
      | advance index => exact h.advance horderly index
      | onTraffic listener => cases hact
      | read => exact h.read hsteady.started
      | finish index => exact h.finish hsteady.registry index
      | _ => cases hmute

end Side

end Parley
