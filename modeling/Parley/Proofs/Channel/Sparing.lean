/-
What is kept from the listener for all traffic.

Nothing but the reader brings a message to the listener for all traffic, and what
can be sent, who listens and which frame id is next stay the same under almost
everything that happens (`Channel.Spares`). Unlike `Channel.Quiet` this does not
ask for workers: it holds of a channel that was never started, and of one that is
closed.
-/
import Parley.Proofs.Channel.Service
import Parley.Proofs.Channel.Turns
import Parley.Proofs.Channel.Waiting

namespace Parley

open scoped List

variable {σ : Type}

namespace Channel

variable {c c' c'' : Channel σ}

/-- The parts of a channel that workers leave alone. -/
structure Fixture (σ : Type) where
  registry : Registry
  onTraffic : Option (TrafficListener σ)
  nextFrameId : Nat

def fixture (c : Channel σ) : Fixture σ := ⟨c.registry, c.onTraffic, c.nextFrameId⟩

/-- Nothing is brought to the listener for all traffic, which stays the same. -/
structure Spares (c c' : Channel σ) : Prop where
  fixture : c'.fixture = c.fixture
  traffic : c'.traffic <+ c.traffic

theorem Spares.of_jobs (hfixture : c'.fixture = c.fixture) (hjobs : c'.jobs <+ c.jobs) :
    Spares c c' :=
  ⟨hfixture, hjobs.filterMap _⟩

theorem Spares.refl (c : Channel σ) : Spares c c := .of_jobs rfl (List.Sublist.refl _)

theorem Spares.trans (h : Spares c c') (h' : Spares c' c'') : Spares c c'' :=
  ⟨h'.fixture.trans h.fixture, h'.traffic.trans h.traffic⟩

variable (c)

theorem spares_clearWorkbench : Spares c c.clearWorkbench := by
  unfold clearWorkbench
  split
  · exact .of_jobs rfl ((List.Sublist.refl _).append (List.nil_sublist _))
  · exact .refl c

theorem spares_shutdown : Spares c c.shutdown.2 := by
  unfold shutdown
  split
  · have hclosed : Spares c c.flip.cancel.clearWaiters := .of_jobs rfl (List.Sublist.refl _)
    exact hclosed.trans (spares_clearWorkbench _)
  · exact .refl c

theorem spares_start (runtime : Bool) : Spares c (c.start runtime).2 := by
  unfold start claimStart
  split
  case isFalse => exact .refl c
  cases c.lifecycle with
  | running | closed => exact .refl c
  | created =>
      dsimp only
      unfold launch
      split
      · exact .of_jobs rfl (List.Sublist.refl _)
      · exact .of_jobs rfl (List.Sublist.refl _)

theorem spares_post {jobs : List (Job σ)} (h : ∀ j ∈ jobs, j.IsAside) :
    Spares c (c.post jobs) := by
  have hnone : jobs.filterMap Job.traffic? = [] :=
    List.filterMap_eq_nil_iff.mpr fun j hj => (h j hj).2
  unfold post
  split
  · refine ⟨rfl, ?_⟩
    simp [traffic, Channel.jobs, hnone]
  · exact .refl c

theorem spares_writeStep : Spares c c.writeStep := by
  have hwrite := c.writeTurn_cases
  rw [writeStep_eq]
  generalize c.writeTurn = turn at hwrite
  cases hwrite with
  | idle => exact .refl c
  | goesOn | refused => exact .of_jobs rfl (List.Sublist.refl _)
  | @written w queue length sink =>
      have hcleared : Spares c { c with
          queue, sink, current := none, outcomes := c.outcomes ++ [(w.ticket, .ok length)] } :=
        .of_jobs rfl (List.Sublist.refl _)
      refine hcleared.trans (spares_post _ fun j hj => ?_)
      obtain ⟨l, -, rfl⟩ := List.mem_map.mp hj
      exact ⟨rfl, rfl⟩
  | @failed w queue writer sink =>
      have hcleared : Spares c { c with queue, current := none, writer, sink } :=
        .of_jobs rfl (List.Sublist.refl _)
      have hended (c : Channel σ) : Spares c c.endWriting := .of_jobs rfl (List.Sublist.refl _)
      exact hcleared.trans ((spares_shutdown _).trans (hended _))

theorem spares_relayStep : Spares c c.relayStep := by
  unfold relayStep
  split
  · split
    · exact .refl c
    next job events hevents =>
      refine .of_jobs rfl ?_
      simp [jobs, hevents]
  · exact .refl c

theorem spares_removeWaiter (frameId : Int32) : Spares c (c.removeWaiter frameId) :=
  .of_jobs rfl (List.Sublist.refl _)

theorem spares_listen (frameId : Int32) (run : σ → Message → σ) :
    Spares c (c.addResponseListener frameId run).2 := by
  rw [addResponseListener]
  rcases c.addWaiter_cases frameId (.listener run) with ⟨-, heq⟩ | ⟨-, -, heq⟩ | ⟨-, -, heq⟩
  · exact heq ▸ .refl c
  · exact heq ▸ .refl c
  · exact heq ▸ .of_jobs rfl (List.Sublist.refl _)

/-! ### The reader -/

/-- A message is brought to the listener for all traffic unless it is a broadcast. -/
theorem mem_traffic_deliver {frameId : Int32} {m : Message}
    {t : TrafficListener σ × Int32 × Message} (h : t ∈ (c.deliver frameId m).traffic) :
    t ∈ c.traffic ∨ c.onTraffic = some t.1 ∧ t.2.1 ≠ broadcastId := by
  have hsub := (c.deliver_jobs frameId m).filterMap Job.traffic?
  rw [List.filterMap_append] at hsub
  rcases List.mem_append.mp (hsub.subset h) with ht | ht
  · exact Or.inl ht
  by_cases hid : frameId = broadcastId
  · rw [hid, filterMap_traffic?_jobsFor_broadcastId] at ht
    cases ht
  · rw [filterMap_traffic?_jobsFor c hid] at ht
    obtain ⟨l, hl, rfl⟩ := List.mem_map.mp ht
    exact Or.inr ⟨Option.mem_toList.mp hl, hid⟩

/-- What a step of the reader brings to the listener for all traffic is no broadcast. -/
theorem mem_traffic_readStep {t : TrafficListener σ × Int32 × Message}
    (h : t ∈ c.readStep.traffic) :
    t ∈ c.traffic ∨ c.onTraffic = some t.1 ∧ t.2.1 ≠ broadcastId := by
  have hread := c.readStep_cases
  generalize c.readStep = c' at hread h
  generalize Side.incoming c = brought at hread
  cases hread with
  | idle | waiting => exact Or.inl h
  | delivered => exact c.collected.mem_traffic_deliver h
  | dropped | failed => exact Or.inl (c.collected.spares_shutdown.traffic.subset h)

theorem fixture_readStep : c.readStep.fixture = c.fixture := by
  have hread := c.readStep_cases
  generalize c.readStep = c' at hread
  generalize Side.incoming c = brought at hread
  cases hread with
  | idle | waiting => rfl
  | @delivered f rest m =>
      have hcore := c.collected.deliver_core f.frameId m
      exact congrArg (fun core : Core σ => (⟨core.registry, core.onTraffic, core.nextFrameId⟩ :
        Fixture σ)) hcore
  | dropped | failed => exact c.collected.spares_shutdown.fixture

end Channel

/-- **Whatever happens, the listener for all traffic is spared**, unless the reader
delivers to it, a call takes a frame id or it is replaced. -/
theorem Side.spares_happen (s : Side σ) {e : Event σ} (hread : e ≠ .act .read)
    (hadvance : ∀ index, e ≠ .act (.advance index)) (hlistener : ∀ l, e ≠ .act (.onTraffic l)) :
    s.channel.Spares (s.happen e).channel := by
  cases e with
  | start runtime => exact s.channel.spares_start runtime
  | act act =>
      rw [happen]
      split
      case isFalse => exact .refl _
      have hwhen {c : Channel σ} (hc : s.channel.Spares c) :
          s.channel.Spares (if s.channel.cancelled then c else s.channel) := by
        split
        · exact hc
        · exact .refl _
      cases act with
      | read => exact absurd rfl hread
      | advance index => exact absurd rfl (hadvance index)
      | onTraffic l => exact absurd rfl (hlistener l)
      | call | onBroadcast | onWritten | arrive | release | flip | cancel | clearWaiters =>
          exact .of_jobs rfl (List.Sublist.refl _)
      | listen frameId run => exact s.channel.spares_listen frameId run
      | poll index =>
          change s.channel.Spares (s.poll index).channel
          rcases s.poll_channel index with heq | ⟨a, -, -, heq⟩
          · exact heq ▸ .refl _
          · exact heq ▸ s.channel.spares_removeWaiter _
      | forget index =>
          change s.channel.Spares (s.forget index).channel
          rcases s.forget_channel index with heq | ⟨a, -, heq⟩
          · exact heq ▸ .refl _
          · exact heq ▸ s.channel.spares_removeWaiter _
      | write => exact s.channel.spares_writeStep
      | relay => exact s.channel.spares_relayStep
      | finish index =>
          change s.channel.Spares (s.finish index).channel
          have hjobs := s.channel.jobs_withoutJob index
          have hfinish := s.finish_cases index
          generalize s.finish index = s' at hfinish
          cases hfinish with
          | absent => exact .refl _
          | aside | reply | unanswered | answered => exact .of_jobs rfl hjobs
      | clearWorkbench => exact s.channel.spares_clearWorkbench
      | endReading | endWriting => exact hwhen (.of_jobs rfl (List.Sublist.refl _))
      | endRelaying =>
          exact hwhen (.of_jobs rfl ((List.Sublist.refl _).append (List.nil_sublist _)))

end Parley
