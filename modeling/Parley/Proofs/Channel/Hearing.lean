/-
What the reader of a channel hears, and what is routed in a step.

`Channel.hears_readStep` says what a step of the reader does by the bytes ahead
of it and the failure behind them: it delivers the message of the next frame, is
cut off and closes the channel, or waits. No other step routes anything
(`Side.tacit_step`): what it queues are calls about what was written.
-/
import Parley.Proofs.Channel.Waiting
import Parley.Proofs.Channel.Intake
import Parley.Proofs.Stream.Front

namespace Parley

variable {σ : Type}

/-- A frame brings what is accepted of it. -/
theorem Frame.brings_eq (registry : Registry) (f : Frame) :
    f.brings registry = (f.accept registry).toOption := by
  unfold brings accept
  cases f.decode registry with
  | error e => rfl
  | ok m =>
      by_cases hkind : Channel.kindMatchesFrame f.frameId m.kind = true
      · simp [hkind, Except.toOption]
      · simp [hkind, Except.toOption]

namespace Channel

variable (c : Channel σ)

/-! ### A step of the reader -/

/-- The bytes from which messages can be taken before a failure shows. -/
def ahead : Bytes := c.reader.ahead c.source

/-- What the reader will bring, by what has arrived. -/
def outlook : Intake :=
  intake c.registry c.reader.limits.maxPayload c.source.halt? c.ahead

/-- What a step of the reader does, by what is ahead of it. -/
inductive Hears (c : Channel σ) : Option (Int32 × Message) → Channel σ → Prop
  | idle : c.reading = false → Hears c none c
  | message {f : Frame} {x : Int32 × Message} : c.reading = true →
      Frame.split? c.reader.limits.maxPayload c.ahead = .ok (some (f, c.collected.ahead)) →
      f.accept c.registry = .ok x → c.collected.source.halt? = c.source.halt? →
      Hears c (some x) (c.collected.deliver x.1 x.2)
  | cut {cut : Cut} : c.outlook = ⟨[], some cut⟩ →
      Hears c none c.collected.shutdown.2.endReading
  | waiting : c.outlook = ⟨[], none⟩ → c.collected.ahead = c.ahead →
      c.collected.source.halt? = c.source.halt? → Hears c none c.collected

/-- **A step of the reader, by what is ahead.** -/
theorem hears_readStep : Hears c (Side.incoming c) c.readStep := by
  have hread := c.readStep_cases
  have hfinds := c.reader.finds_next c.source
  generalize c.readStep = c' at hread
  generalize Side.incoming c = brought at hread
  cases hread with
  | idle hidle => exact .idle hidle
  | @delivered f rest m hreading _ _ hbrings hdone =>
      rw [hdone] at hfinds
      obtain ⟨hsplit, hhalt⟩ := hfinds.of_done
      rw [Frame.brings_eq] at hbrings
      cases haccept : f.accept c.registry with
      | error cut => simp [haccept, Except.toOption] at hbrings
      | ok x =>
          rw [haccept] at hbrings
          cases hbrings
          exact .message hreading hsplit haccept hhalt
  | @dropped f rest _ _ _ hbrings hdone =>
      rw [hdone] at hfinds
      obtain ⟨hsplit, -⟩ := hfinds.of_done
      rw [Frame.brings_eq] at hbrings
      cases haccept : f.accept c.registry with
      | error cut => exact .cut (intake_of_refused hsplit haccept)
      | ok x => simp [haccept, Except.toOption] at hbrings
  | @failed e _ hfailed =>
      rw [hfailed] at hfinds
      rcases hfinds.of_failed with hsplit | ⟨hsplit, hhalt⟩
      · exact .cut (intake_of_header hsplit)
      · have houtlook : c.outlook = ⟨[], some (.stream e)⟩ := by
          rw [outlook, hhalt]
          exact intake_of_none hsplit
        exact .cut houtlook
  | waiting _ hpending =>
      rw [hpending] at hfinds
      obtain ⟨hsplit, hahead, hhalt, hhalt'⟩ := hfinds.of_pending
      refine .waiting ?_ hahead (hhalt'.trans hhalt.symm)
      rw [outlook, hhalt]
      exact intake_of_none hsplit

/-! ### What is routed -/

/-- The parts of a channel by which messages are routed. -/
structure Wiring (σ : Type) where
  registry : Registry
  workbench : Workbench
  onBroadcast : Option (BroadcastListener σ)
  onTraffic : Option (TrafficListener σ)
  relaying : Bool
  events : List (Job σ)

def wiring : Wiring σ :=
  ⟨c.registry, c.workbench, c.onBroadcast, c.onTraffic, c.relaying, c.events⟩

end Channel

/-- A call about a message that was written. -/
def Job.isWritten : Job σ → Bool
  | .written _ _ _ => true
  | _ => false

/-- Nothing is routed: calls about what was written may be queued, and the relay
may hand a call over, or end after it was told to. -/
inductive Channel.Wiring.Tacit (cancelled : Bool) (w : Wiring σ) : Wiring σ → Prop
  | same : Tacit cancelled w w
  | posts {jobs : List (Job σ)} : (∀ j ∈ jobs, j.isWritten = true) →
      Tacit cancelled w { w with events := w.events ++ jobs }
  | hands : Tacit cancelled w { w with events := w.events.tail }
  | ends : cancelled = true → Tacit cancelled w { w with relaying := false, events := [] }

namespace Channel

variable (c : Channel σ) {cancelled : Bool}

/-- A message that is delivered on an open channel is routed by the wiring. -/
theorem wiring_deliver (h : c.relaying = true) (frameId : Int32) (m : Message) :
    (c.deliver frameId m).wiring
      = { c.wiring with events := c.events ++ c.jobsFor frameId m } := by
  have htakes : c.takesEvents = true := by simp [takesEvents, h]
  have htakes' : (c.removeWaiter frameId).takesEvents = true := htakes
  unfold deliver jobsFor
  by_cases hid : frameId = broadcastId
  · rw [if_pos hid, if_pos hid, post, if_pos htakes]
    rfl
  · rw [if_neg hid, if_neg hid, post, if_pos htakes']
    rfl

theorem wiring_shutdown (h : c.workbench = .started) : c.shutdown.2.wiring = c.wiring := by
  rw [c.shutdown_of_started h]
  split
  · rfl
  · rfl

theorem tacit_conclude (h : c.workbench = .started) (w : PendingWrite)
    (result : Except FrameError Nat) :
    Wiring.Tacit cancelled c.wiring (c.conclude w result).wiring := by
  cases result with
  | ok length =>
      rw [conclude]
      dsimp only
      unfold post
      split
      · refine .posts ?_
        intro j hj
        obtain ⟨l, -, rfl⟩ := List.mem_map.mp hj
        rfl
      · exact .same
  | error e =>
      rw [conclude]
      split
      · have hwiring := wiring_shutdown { c with current := none } h
        change Wiring.Tacit cancelled c.wiring
          ({ c with current := none } : Channel σ).shutdown.2.wiring
        rw [hwiring]
        exact .same
      · exact .same

theorem tacit_push (h : c.workbench = .started) (out : Outgoing) :
    Wiring.Tacit cancelled c.wiring (c.push out).wiring := by
  have hconclude (sink : Sink) (result : Except FrameError Nat) :
      Wiring.Tacit cancelled c.wiring
        (({ c with sink } : Channel σ).conclude out.write result).wiring :=
    tacit_conclude { c with sink } h _ _
  unfold push
  split
  · exact .same
  · exact hconclude _ _
  · split
    · exact hconclude _ _
    · exact hconclude _ _

theorem tacit_writeStep (h : c.workbench = .started) :
    Wiring.Tacit cancelled c.wiring c.writeStep.wiring := by
  unfold writeStep
  split
  · split
    · exact c.tacit_push h _
    · exact .same
    next w queue _ _ =>
      split
      · exact tacit_conclude { c with queue, writer := _ } h _ _
      · exact .same
  · exact .same

theorem tacit_relayStep : Wiring.Tacit cancelled c.wiring c.relayStep.wiring := by
  unfold relayStep
  split
  · split
    · exact .same
    next job events hevents =>
      have htail : Wiring.Tacit cancelled c.wiring { c.wiring with events := c.events.tail } :=
        .hands
      rw [hevents] at htail
      exact htail
  · exact .same

end Channel

namespace Side

variable {s : Side σ}

/-- Acts that put another listener in the place of the one for broadcasts or the
one for all traffic. -/
def Act.isRewiring : Act σ → Bool
  | .onBroadcast _ | .onTraffic _ => true
  | _ => false

/-- **Only the reader routes.** -/
theorem tacit_step (h : s.channel.workbench = .started) {act : Act σ} (hread : act ≠ .read)
    (hact : act.isRewiring = false) :
    Channel.Wiring.Tacit s.channel.cancelled s.channel.wiring (s.step act).channel.wiring := by
  cases act with
  | read => exact absurd rfl hread
  | onBroadcast | onTraffic => cases hact
  | call | onWritten | arrive | release | flip | cancel | clearWaiters => exact .same
  | advance index =>
      change Channel.Wiring.Tacit _ _ (s.advance index).channel.wiring
      rcases s.advance_eq index with heq | ⟨order, stage, outcome, channel, -, hstep, heq⟩
      · rw [heq]
        exact .same
      rw [heq]
      cases hstep with
      | failed | withdrawn | known | unknown | numbered | guarded | waits | confirmed | queued =>
          exact .same
  | listen frameId run =>
      change Channel.Wiring.Tacit _ _ (s.channel.addWaiter frameId (.listener run)).2.wiring
      rcases s.channel.addWaiter_cases frameId (.listener run) with
        ⟨-, heq⟩ | ⟨-, -, heq⟩ | ⟨-, -, heq⟩
      · rw [heq]
        exact .same
      · rw [heq]
        exact .same
      · rw [heq]
        exact .same
  | poll index =>
      change Channel.Wiring.Tacit _ _ (s.poll index).channel.wiring
      rcases s.poll_channel index with heq | ⟨a, -, -, heq⟩
      · rw [heq]
        exact .same
      · rw [heq]
        exact .same
  | forget index =>
      change Channel.Wiring.Tacit _ _ (s.forget index).channel.wiring
      rcases s.forget_channel index with heq | ⟨a, -, heq⟩
      · rw [heq]
        exact .same
      · rw [heq]
        exact .same
  | write => exact s.channel.tacit_writeStep h
  | relay => exact s.channel.tacit_relayStep
  | finish index =>
      change Channel.Wiring.Tacit _ _ (s.finish index).channel.wiring
      have hfinish := s.finish_cases index
      generalize s.finish index = s' at hfinish
      cases hfinish with
      | absent | aside | reply | unanswered | answered => exact .same
  | clearWorkbench =>
      change Channel.Wiring.Tacit _ _ s.channel.clearWorkbench.wiring
      rw [s.channel.clearWorkbench_of_started h]
      exact .same
  | endReading | endWriting =>
      rw [step, onChannel]
      dsimp only
      split
      · exact .same
      · exact .same
  | endRelaying =>
      rw [step, onChannel]
      dsimp only
      split
      next hcancelled => exact .ends hcancelled
      next => exact .same

end Side

end Parley
