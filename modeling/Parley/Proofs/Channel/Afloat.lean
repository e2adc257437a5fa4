/-
Channels that stay open.

As long as a channel is open, whatever happens to it leaves its workers where
they are: before it is started they wait for it, and afterwards all three of
them are at work (`Channel.Afloat`). So an open channel takes whatever is queued
for it, be it a message to write or a call of a listener.
-/
import Parley.Channel.Task
import Parley.Proofs.Channel.Turns
import Parley.Proofs.Channel.Waiting

namespace Parley

variable {σ : Type}

/-- The parts of a channel that say where its workers are. -/
structure Channel.Rig where
  lifecycle : Lifecycle
  cancelled : Bool
  workbench : Workbench
  reading : Bool
  writing : Bool
  relaying : Bool

namespace Channel

variable {c c' c'' : Channel σ}

def rig (c : Channel σ) : Rig :=
  ⟨c.lifecycle, c.cancelled, c.workbench, c.reading, c.writing, c.relaying⟩

/-- While a channel is open, its workers have not come yet, or all are at work. -/
def Afloat (c : Channel σ) : Prop :=
  c.isOpen = true → c.cancelled = false ∧
    (c.lifecycle = .created ∧ c.workbench = .held ∨
      c.lifecycle = .running ∧ c.workbench = .started ∧ c.reading = true ∧ c.writing = true ∧
        c.relaying = true)

/-- The workers are left where they are, or the channel is closed. -/
def Holds (c c' : Channel σ) : Prop := c'.rig = c.rig ∨ c'.isOpen = false

theorem isOpen_of_rig (h : c'.rig = c.rig) : c'.isOpen = c.isOpen :=
  congrArg (fun r : Rig => r.lifecycle != .closed) h

theorem Holds.refl (c : Channel σ) : Holds c c := Or.inl rfl

theorem Holds.of_rig (h : c'.rig = c.rig) : Holds c c' := Or.inl h

/-- What holds the workers of a channel opens none that is closed. -/
theorem Holds.isOpen (h : Holds c c') (hopen : c'.isOpen = true) : c.isOpen = true := by
  rcases h with hrig | hclosed
  · rwa [isOpen_of_rig hrig] at hopen
  · cases hclosed.symm.trans hopen

theorem Holds.afloat (h : Holds c c') (hafloat : c.Afloat) : c'.Afloat := by
  intro hopen
  rcases h with hrig | hclosed
  · obtain ⟨hcancelled, hplace⟩ := hafloat (isOpen_of_rig hrig ▸ hopen)
    obtain ⟨hlife, hcancel, hbench, hreading, hwriting, hrelaying⟩ := Rig.mk.inj hrig
    rw [hlife, hcancel, hbench, hreading, hwriting, hrelaying]
    exact ⟨hcancelled, hplace⟩
  · cases hclosed.symm.trans hopen

/-- An open channel takes messages for writing and calls of listeners. -/
theorem Afloat.takes (h : c.Afloat) (hopen : c.isOpen = true) :
    c.takesWrites = true ∧ c.takesEvents = true := by
  obtain ⟨-, ⟨-, hheld⟩ | ⟨-, -, -, hwriting, hrelaying⟩⟩ := h hopen
  · simp [takesWrites, takesEvents, hheld]
  · simp [takesWrites, takesEvents, hwriting, hrelaying]

variable (c)

theorem isOpen_shutdown : c.shutdown.2.isOpen = false := by
  unfold shutdown
  split
  · unfold clearWorkbench
    split
    · rfl
    · rfl
  next hclosed => exact Bool.eq_false_iff.mpr hclosed

theorem rig_post (jobs : List (Job σ)) : (c.post jobs).rig = c.rig := by
  unfold post
  split
  · rfl
  · rfl

theorem rig_deliver (frameId : Int32) (m : Message) : (c.deliver frameId m).rig = c.rig := by
  unfold deliver
  split
  · exact c.rig_post _
  · exact (c.removeWaiter frameId).rig_post _

theorem holds_readStep : Holds c c.readStep := by
  have hread := c.readTurn_cases
  rw [readStep_eq]
  generalize c.readTurn = turn at hread
  generalize Side.incoming c = brought at hread
  cases hread with
  | idle => exact .refl c
  | delivered => exact .of_rig (rig_deliver _ _ _)
  | @nothing failed =>
      cases failed with
      | true => exact Or.inr (isOpen_shutdown c.collected)
      | false => exact .of_rig rfl

theorem holds_writeStep : Holds c c.writeStep := by
  have hwrite := c.writeTurn_cases
  rw [writeStep_eq]
  generalize c.writeTurn = turn at hwrite
  cases hwrite with
  | idle => exact .refl c
  | goesOn => exact .of_rig rfl
  | written => exact .of_rig (rig_post _ _)
  | refused => exact .of_rig rfl
  | failed => exact Or.inr (isOpen_shutdown _)

theorem rig_relayStep : c.relayStep.rig = c.rig := by
  unfold relayStep
  split
  · split
    · rfl
    · rfl
  · rfl

theorem rig_addResponseListener (frameId : Int32) (run : σ → Message → σ) :
    (c.addResponseListener frameId run).2.rig = c.rig := by
  rw [addResponseListener]
  rcases c.addWaiter_cases frameId (.listener run) with ⟨-, heq⟩ | ⟨-, -, heq⟩ | ⟨-, -, heq⟩
  · rw [heq]
  · rw [heq]
  · rw [heq]
    rfl

/-- Where the workers of a channel are when it is started. -/
theorem afloat_start (h : c.Afloat) (runtime : Bool) : (c.start runtime).2.Afloat := by
  unfold start claimStart
  split
  case isFalse => exact h
  cases hlife : c.lifecycle with
  | running => exact h
  | closed => exact h
  | created =>
      have hopen : c.isOpen = true := by rw [isOpen, hlife]; rfl
      obtain ⟨hcancelled, ⟨-, hheld⟩ | ⟨hrunning, -⟩⟩ := h hopen
      · intro _
        simp only [launch, hheld]
        exact ⟨hcancelled, Or.inr (by simp)⟩
      · cases hlife.symm.trans hrunning

theorem isOpen_start (runtime : Bool) : (c.start runtime).2.isOpen = c.isOpen := by
  unfold start claimStart
  split
  case isFalse => rfl
  cases hlife : c.lifecycle with
  | running => rfl
  | closed => rfl
  | created =>
      have hlaunch (c : Channel σ) : c.launch.lifecycle = c.lifecycle := by
        unfold launch
        split <;> rfl
      rw [isOpen, isOpen, hlaunch, hlife]
      rfl

end Channel

namespace Side

variable (s : Side σ)

theorem holds_advance (index : Nat) : s.channel.Holds (s.advance index).channel := by
  rcases s.advance_eq index with heq | ⟨order, stage, outcome, channel, -, hstep, heq⟩
  · rw [heq]
    exact .refl _
  · rw [heq, proceed_channel]
    cases hstep with
    | failed | withdrawn | known | unknown | numbered | guarded | waits | confirmed | queued =>
        exact .of_rig rfl

theorem holds_poll (index : Nat) : s.channel.Holds (s.poll index).channel := by
  rcases s.poll_channel index with heq | ⟨a, -, -, heq⟩
  · exact heq ▸ .refl _
  · exact heq ▸ .of_rig rfl

theorem holds_forget (index : Nat) : s.channel.Holds (s.forget index).channel := by
  rcases s.forget_channel index with heq | ⟨a, -, heq⟩
  · exact heq ▸ .refl _
  · exact heq ▸ .of_rig rfl

theorem holds_finish (index : Nat) : s.channel.Holds (s.finish index).channel := by
  have hfinish := s.finish_cases index
  generalize s.finish index = s' at hfinish
  cases hfinish with
  | absent | aside | reply | unanswered | answered => exact .of_rig rfl

/-- A worker stops only once it was told to, which none is while the channel is open. -/
theorem holds_when_cancelled (hafloat : s.channel.Afloat) {c : Channel σ}
    (hlife : c.lifecycle = s.channel.lifecycle) :
    s.channel.Holds (if s.channel.cancelled then c else s.channel) := by
  cases hcancelled : s.channel.cancelled with
  | false => exact .refl _
  | true =>
      refine Or.inr (Bool.eq_false_iff.mpr fun hopen => ?_)
      have hopen' : s.channel.isOpen = true := by
        rw [Channel.isOpen, ← hlife]
        exact hopen
      cases hcancelled.symm.trans (hafloat hopen').1

/-- **What an act does to an open channel leaves its workers where they are.** -/
theorem holds_step (hafloat : s.channel.Afloat) {act : Act σ}
    (hpermits : permits s.channel act = true) : s.channel.Holds (s.step act).channel := by
  cases act with
  | call | onBroadcast | onTraffic | onWritten | arrive | release => exact .of_rig rfl
  | advance index => exact s.holds_advance index
  | listen frameId run => exact .of_rig (s.channel.rig_addResponseListener frameId run)
  | poll index => exact s.holds_poll index
  | forget index => exact s.holds_forget index
  | read => exact s.channel.holds_readStep
  | write => exact s.channel.holds_writeStep
  | relay => exact .of_rig s.channel.rig_relayStep
  | finish index => exact s.holds_finish index
  | flip => exact Or.inr rfl
  | cancel | clearWaiters =>
      have hclosed : s.channel.isOpen = false := by simpa [permits] using hpermits
      exact Or.inr hclosed
  | clearWorkbench =>
      have hclosed : s.channel.isOpen = false := by simpa [permits] using hpermits
      have hsame : s.channel.clearWorkbench.isOpen = s.channel.isOpen := by
        unfold Channel.clearWorkbench
        split <;> rfl
      exact Or.inr (hsame.trans hclosed)
  | endReading | endWriting | endRelaying => exact s.holds_when_cancelled hafloat rfl

theorem afloat_happen (h : s.channel.Afloat) (e : Event σ) : (s.happen e).channel.Afloat := by
  cases e with
  | start runtime => exact s.channel.afloat_start h runtime
  | act act =>
      rw [happen]
      split
      next hpermits => exact (s.holds_step h hpermits).afloat h
      · exact h

/-- A channel that is closed is not opened again. -/
theorem isOpen_of_happen (h : s.channel.Afloat) {e : Event σ}
    (hopen : (s.happen e).channel.isOpen = true) : s.channel.isOpen = true := by
  cases e with
  | start runtime => rwa [happen, onChannel, s.channel.isOpen_start] at hopen
  | act act =>
      rw [happen] at hopen
      split at hopen
      next hpermits => exact (s.holds_step h hpermits).isOpen hopen
      · exact hopen

theorem afloat_course (h : s.channel.Afloat) (events : List (Event σ)) :
    (s.course events).channel.Afloat := by
  induction events generalizing s with
  | nil => exact h
  | cons e rest ih => exact ih (s.happen e) (s.afloat_happen h e)

/-- What was open in the end was open at every moment before. -/
theorem isOpen_of_course (h : s.channel.Afloat) {events : List (Event σ)}
    (hopen : (s.course events).channel.isOpen = true) : s.channel.isOpen = true := by
  induction events generalizing s with
  | nil => exact hopen
  | cons e rest ih => exact s.isOpen_of_happen h (ih (s.happen e) (s.afloat_happen h e) hopen)

theorem afloat_created (registry : Registry) (config : ChannelConfig) (writes : List WriteTurn)
    (flushes : List FlushTurn) (app : σ) :
    (created registry config writes flushes app).channel.Afloat :=
  fun _ => ⟨rfl, Or.inl ⟨rfl, rfl⟩⟩

end Side

end Parley
