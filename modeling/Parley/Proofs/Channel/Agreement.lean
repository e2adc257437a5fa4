/-
What one side delivers is what the other side has sent.

As long as nobody closes a channel and the connection does not break, the
messages that the far side of a line delivers are the first of those that the
near side has taken for writing and that become frames, in the order of the
queue; none of them closes the far side; and once all bytes have arrived the
far side delivers them all (`Line.far_agrees`). The connection may cut
the bytes anywhere, and reads and writes may be interrupted.
-/
import Parley.Proofs.Channel.Flow
import Parley.Proofs.Channel.Health

namespace Parley

/-! ### A stream that nothing disturbs -/

namespace Channel

variable {τ : Type} {c : Channel τ}

/-- Behind what has arrived there is neither a failure nor an end. -/
def Calm (c : Channel τ) : Prop := c.source.hiccups = [] ∧ c.source.exhausted = false

/-- A reader on a calm stream leaves a calm stream, and fails only on a header
that is refused. -/
theorem calm_collected (h : c.Calm) :
    c.collected.Calm ∧ ∀ e, (c.reader.next c.source).1 = .failed e →
      Frame.split? c.reader.limits.maxPayload c.unread = .error e := by
  obtain ⟨hhiccups, hexhausted⟩ := h
  have hcall := c.reader.call_next c.source
  rw [hhiccups, hexhausted] at hcall
  obtain ⟨hahead, hfailed⟩ := hcall.of_calm
  exact ⟨⟨hahead, (c.reader.exhausted_next c.source).trans hexhausted⟩, hfailed⟩

/-- An interruption does not disturb a stream, nor do bytes. -/
theorem calm_push (h : c.Calm) {a : Arrival} (ha : a.hiccup? = none) :
    ({ c with source := c.source.push a } : Channel τ).Calm := by
  obtain ⟨hhiccups, hexhausted⟩ := h
  refine ⟨?_, hexhausted⟩
  rw [Source.hiccups] at hhiccups ⊢
  rw [Source.push, List.filterMap_append, hhiccups, List.nil_append,
    List.filterMap_cons_none ha, List.filterMap_nil]

end Channel

namespace Side

variable {τ : Type} {limits : FrameLimits} {s : Side τ} {maxPayload : Nat} {o : Outbox}

/-- All that a side has taken for writing has left it. -/
def HasSent (s : Side τ) : Prop :=
  s.channel.queue = [] ∧ s.channel.current = none ∧ s.channel.sink.taken = []

/-- A side that reads what another side has sent on a calm stream stays at work. -/
theorem life_read_of_flow (h : Flow maxPayload o s.channel.unread s.delivered)
    (hsteady : s.channel.Steady limits) (hlimit : maxPayload ≤ limits.maxPayload)
    (hkinds : ∀ w ∈ o.accepted, Channel.kindMatchesFrame w.frameId w.message.kind = true)
    (hcalm : s.channel.Calm) :
    (s.step .read).channel.life = s.channel.life ∧ (s.step .read).channel.Calm := by
  change s.channel.readStep.life = _ ∧ s.channel.readStep.Calm
  obtain ⟨hcollected, hfailed⟩ := Channel.calm_collected hcalm
  have hread := s.channel.readStep_cases
  generalize s.channel.readStep = c' at hread
  generalize incoming s.channel = brought at hread
  cases hread with
  | idle => exact ⟨rfl, hcalm⟩
  | @delivered f rest m =>
      refine ⟨(Channel.life_deliver _ _ _).1, ?_⟩
      have hsource := congrArg Channel.Streams.source
        (s.channel.collected.deliver_streams f.frameId m)
      have hsource :
          (s.channel.collected.deliver f.frameId m).source = s.channel.collected.source :=
        hsource
      rw [Channel.Calm, hsource]
      exact hcollected
  | dropped _ hsplit _ hbrings =>
      obtain ⟨m, hbrings', -⟩ := h.receive hkinds hsplit
      rw [hsteady.registry] at hbrings
      cases hbrings.symm.trans hbrings'
  | failed _ hnext =>
      rw [hsteady.reader] at hfailed
      exact absurd (hfailed _ hnext) (h.split?_ne_error hlimit _)
  | waiting => exact ⟨rfl, hcollected⟩

/-- A side with a frame before it delivers a message. -/
theorem delivered_read (h : Flow maxPayload o s.channel.unread s.delivered)
    (hsteady : s.channel.Steady limits) (hlimit : maxPayload ≤ limits.maxPayload)
    (hkinds : ∀ w ∈ o.accepted, Channel.kindMatchesFrame w.frameId w.message.kind = true)
    (hcalm : s.channel.Calm) (hreading : s.channel.reading = true) {f : Frame} {rest : Bytes}
    (hmax : f.payload.length ≤ maxPayload) (hlength : f.payload.length ≤ maxLength)
    (hunread : s.channel.unread = f.bytes ++ rest) :
    (s.step .read).delivered.length = s.delivered.length + 1 := by
  change (s.delivered ++ (incoming s.channel).toList).length = _
  have hsplit : Frame.split? limits.maxPayload s.channel.unread = .ok (some (f, rest)) := by
    rw [hunread]
    exact Frame.split?_bytes_append (Nat.le_trans hmax hlimit) hlength rest
  rw [← hsteady.reader] at hsplit
  have hread := s.channel.readStep_cases
  generalize s.channel.readStep = c' at hread
  generalize incoming s.channel = brought at hread
  cases hread with
  | idle hidle => cases hidle.symm.trans hreading
  | delivered =>
      rw [List.length_append]
      rfl
  | dropped _ hsplit' _ hbrings =>
      obtain ⟨m, hbrings', -⟩ := h.receive hkinds hsplit'
      rw [hsteady.registry] at hbrings
      cases hbrings.symm.trans hbrings'
  | failed _ hnext =>
      cases hsplit.symm.trans ((Channel.calm_collected hcalm).2 _ hnext)
  | waiting _ hnext =>
      have hcall := s.channel.reader.call_next s.channel.source
      rw [hnext] at hcall
      cases hsplit.symm.trans hcall.split_of_pending

end Side

/-! ### Lines at peace -/

namespace Line

variable {σ τ : Type}

/-- Nobody closes a channel, and what arrives at the far side are the bytes that
were carried there, the end of the connection, and interruptions. -/
def Act.isPeaceful : Act σ τ → Bool
  | .near act => !act.isShutdown
  | .far (.arrive (.failed e)) => e.kind == .interrupted
  | .far (.arrive _) => false
  | .far act => !act.isShutdown
  | _ => true

theorem Act.isPeaceful_far {act : Side.Act τ} (h : (Act.far (σ := σ) act).isPeaceful = true) :
    act.isShutdown = false ∧ ∀ a, act = .arrive a → a.bytes = [] ∧ a.hiccup? = none := by
  cases act with
  | arrive a =>
      refine ⟨rfl, ?_⟩
      intro a' ha
      cases ha
      cases a with
      | data bs => cases h
      | ended => cases h
      | failed e => exact ⟨rfl, if_pos (eq_of_beq h)⟩
  | flip | cancel | clearWaiters | clearWorkbench => cases h
  | _ => exact ⟨rfl, fun a ha => nomatch ha⟩

/-- The sides agree: the far side has what the near side has sent. It is open
unless the near side has closed and hung up. -/
structure Agrees (limits limits' : FrameLimits) (hungUp : Prop) (l : Line σ τ) : Prop where
  nearSteady : l.near.channel.Steady limits
  nearSmooth : l.near.channel.Smooth
  nearHealthy : l.near.channel.isOpen = true → l.near.channel.Healthy
  orderly : l.near.Orderly
  flow : Flow limits.maxPayload l.near.outbox l.far.channel.unread l.far.delivered
  farSteady : l.far.channel.Steady limits'
  farSmooth : l.far.channel.Smooth
  farHealthy : l.far.channel.isOpen = true → l.far.channel.Healthy
  farOpen : l.far.channel.isOpen = true ∧ l.far.channel.Calm ∨
    l.near.channel.isOpen = false ∧ hungUp

namespace Agrees

variable {limits limits' : FrameLimits} {hungUp : Prop} {l : Line σ τ}

theorem near (h : l.Agrees limits limits' hungUp) (act : Side.Act σ)
    (hact : act.isShutdown = false) :
    ({ l with near := l.near.step act } : Line σ τ).Agrees limits limits' hungUp := by
  obtain ⟨hopen, hhealthy, hsmooth⟩ :=
    Side.healthy_step h.nearSmooth h.nearHealthy act hact
  refine ⟨Side.steady_step h.nearSteady act, hsmooth, hhealthy, l.near.orderly_step h.orderly act,
    h.flow.steps (Side.outbox_step h.nearSteady act), h.farSteady, h.farSmooth, h.farHealthy, ?_⟩
  rcases h.farOpen with hfar | ⟨hclosed, hhung⟩
  · exact Or.inl hfar
  · refine Or.inr ⟨Bool.eq_false_iff.mpr ?_, hhung⟩
    intro hopen'
    cases hclosed.symm.trans (hopen hopen')

/-- Bytes that the connection takes from the far side are not what it reads. -/
theorem far_sink (h : l.Agrees limits limits' hungUp) (taken : Bytes) :
    ({ l with far := l.far.onChannel fun c => { c with sink := { c.sink with taken } } } :
      Line σ τ).Agrees limits limits' hungUp where
  nearSteady := h.nearSteady
  nearSmooth := h.nearSmooth
  nearHealthy := h.nearHealthy
  orderly := h.orderly
  flow := h.flow
  farSteady := ⟨h.farSteady.registry, h.farSteady.started, h.farSteady.reader, h.farSteady.writer⟩
  farSmooth := h.farSmooth
  farHealthy := h.farHealthy
  farOpen := h.farOpen

/-- What happens on the far side, apart from arrivals that disturb it, leaves
it open. -/
theorem far_open (h : l.Agrees limits limits' hungUp)
    (hlimit : limits.maxPayload ≤ limits'.maxPayload)
    {act : Side.Act τ} (hact : act.isShutdown = false)
    (harrive : ∀ a, act = .arrive a → a.hiccup? = none)
    (hopen : l.far.channel.isOpen = true) (hcalm : l.far.channel.Calm) :
    (l.far.step act).channel.isOpen = true ∧ (l.far.step act).channel.Calm := by
  by_cases hread : act = .read
  · subst hread
    obtain ⟨hlife, hcalm⟩ :=
      Side.life_read_of_flow h.flow h.farSteady hlimit h.orderly.accepted hcalm
    exact ⟨(Channel.isOpen_of_life hlife).trans hopen, hcalm⟩
  constructor
  · by_cases hwrite : act = .write
    · subst hwrite
      obtain ⟨hlife, -⟩ := Channel.life_writeStep h.farSmooth
      exact (Channel.isOpen_of_life hlife).trans hopen
    · exact (Side.life_step hact hread hwrite).1.trans hopen
  · by_cases hpush : ∃ a, act = .arrive a
    · obtain ⟨a, rfl⟩ := hpush
      exact Channel.calm_push hcalm (harrive a rfl)
    · obtain ⟨-, hsource, -⟩ :=
        Side.reader_step h.farSteady.started hread fun a heq => hpush ⟨a, heq⟩
      rw [Channel.Calm, hsource]
      exact hcalm

theorem far (h : l.Agrees limits limits' hungUp) (hlimit : limits.maxPayload ≤ limits'.maxPayload)
    {act : Side.Act τ} (hact : act.isShutdown = false)
    (harrive : ∀ a, act = .arrive a → a.bytes = [] ∧ a.hiccup? = none) :
    ({ l with far := l.far.step act } : Line σ τ).Agrees limits limits' hungUp := by
  obtain ⟨-, hhealthy, hsmooth⟩ := Side.healthy_step h.farSmooth h.farHealthy act hact
  refine ⟨h.nearSteady, h.nearSmooth, h.nearHealthy, h.orderly, ?_,
    Side.steady_step h.farSteady act, hsmooth, hhealthy, ?_⟩
  · apply Side.flow_step h.flow h.farSteady h.orderly.accepted
    intro a ha
    exact (harrive a ha).1
  · rcases h.farOpen with ⟨hopen, hcalm⟩ | hclosed
    · have hquiet : ∀ a, act = .arrive a → a.hiccup? = none := by
        intro a ha
        exact (harrive a ha).2
      exact Or.inl (h.far_open hlimit hact hquiet hopen hcalm)
    · exact Or.inr hclosed

/-- Bytes that are carried over keep the agreement, in pieces of any size. -/
theorem carry (h : l.Agrees limits limits' hungUp) (hlimit : limits.maxPayload ≤ limits'.maxPayload)
    (count : Nat) : (l.step (.carry count)).Agrees limits limits' hungUp := by
  have hflow := flow_move l.near count h.flow
  rw [Line.step]
  unfold move at hflow ⊢
  by_cases hnone : l.near.channel.sink.taken.take count = []
  · simp only [if_pos hnone]
    exact h
  simp only [if_neg hnone] at hflow ⊢
  obtain ⟨-, hhealthy, hsmooth⟩ := Side.healthy_step h.farSmooth h.farHealthy
    (.arrive (.data (l.near.channel.sink.taken.take count))) rfl
  refine ⟨⟨h.nearSteady.registry, h.nearSteady.started, h.nearSteady.reader, h.nearSteady.writer⟩,
    h.nearSmooth, h.nearHealthy, ⟨h.orderly.errands, h.orderly.accepted⟩, hflow,
    Side.steady_step h.farSteady _, hsmooth, hhealthy, ?_⟩
  rcases h.farOpen with ⟨hopen, hcalm⟩ | hclosed
  · refine Or.inl (h.far_open hlimit rfl ?_ hopen hcalm)
    intro a ha
    cases ha
    exact if_neg hnone
  · exact Or.inr hclosed

/-- Only a side that has closed hangs up. -/
theorem hangUp (h : l.Agrees limits limits' hungUp) (hhung : hungUp) :
    (l.step .hangUp).Agrees limits limits' hungUp := by
  have hflow := flow_tell l.near h.flow
  rw [Line.step]
  unfold tell at hflow ⊢
  split at hflow
  next hdropped =>
    have hclosed : l.near.channel.isOpen = false := by
      refine Bool.eq_false_iff.mpr ?_
      intro hopen
      have hreading := (h.nearHealthy hopen).2.2.1
      have hends := hdropped.1
      rw [Channel.streamDropped, h.nearSteady.started, hreading] at hends
      cases hends
    obtain ⟨-, hhealthy, hsmooth⟩ := Side.healthy_step h.farSmooth h.farHealthy
      (.arrive .ended) rfl
    rw [if_pos hdropped]
    exact ⟨h.nearSteady, h.nearSmooth, h.nearHealthy, h.orderly, hflow,
      Side.steady_step h.farSteady _, hsmooth, hhealthy, Or.inr ⟨hclosed, hhung⟩⟩
  next hdropped =>
    rw [if_neg hdropped]
    exact h

/-- **A peaceful act keeps the agreement.** -/
theorem step (h : l.Agrees limits limits' hungUp) (hlimit : limits.maxPayload ≤ limits'.maxPayload)
    {act : Act σ τ} (hact : act.isPeaceful = true) (hhung : act = .hangUp → hungUp) :
    (l.step act).Agrees limits limits' hungUp := by
  cases act with
  | near act => exact h.near act (Bool.not_eq_true' _ ▸ hact)
  | far act =>
      obtain ⟨hact, harrive⟩ := Act.isPeaceful_far hact
      exact h.far hlimit hact harrive
  | carry count => exact h.carry hlimit count
  | carryBack count =>
      rw [Line.step, move]
      by_cases hnone : l.far.channel.sink.taken.take count = []
      · simp only [if_pos hnone]
        exact h
      · simp only [if_neg hnone]
        exact (h.far_sink (l.far.channel.sink.taken.drop count)).near
          (.arrive (.data (l.far.channel.sink.taken.take count))) rfl
  | hangUp => exact h.hangUp (hhung rfl)
  | hangUpBack =>
      rw [Line.step, tell]
      split
      · exact h.near (.arrive .ended) rfl
      · exact h

/-- A side that has sent everything has no more to be carried. -/
theorem arrived (h : l.Agrees limits limits' hungUp) (hopen : l.near.channel.isOpen = true)
    (hsent : l.near.HasSent) :
    l.far.delivered = l.near.said limits.maxPayload ∨
      ∃ (f : Frame) (rest : Bytes), f.payload.length ≤ limits.maxPayload ∧
        f.payload.length ≤ maxLength ∧ l.far.channel.unread = f.bytes ++ rest := by
  obtain ⟨hqueue, hcurrent, htaken⟩ := hsent
  have hwriting : l.near.outbox.writing = true := (h.nearHealthy hopen).2.2.2
  have hleft : l.near.outbox.left = [] := by
    rw [Side.outbox, Outbox.of, Channel.streams, hcurrent]
    rfl
  exact h.flow.arrived hwriting hqueue hleft htaken

/-- As many reads as there are messages to come deliver them all. -/
theorem delivered_run_read (hlimit : limits.maxPayload ≤ limits'.maxPayload) (n : Nat)
    (h : l.Agrees limits limits' hungUp) (hopen : l.near.channel.isOpen = true)
    (hsent : l.near.HasSent)
    (hn : (l.near.said limits.maxPayload).length ≤ l.far.delivered.length + n) :
    (l.run (List.replicate n (.far .read))).far.delivered = l.near.said limits.maxPayload := by
  induction n generalizing l with
  | zero => exact h.flow.delivered_prefix.eq_of_length_le hn
  | succ n ih =>
      have hnext : (l.step (.far .read)).Agrees limits limits' hungUp := by
        apply h.far hlimit rfl
        intro a ha
        cases ha
      refine ih hnext hopen hsent ?_
      change (l.near.said limits.maxPayload).length ≤ (l.far.step .read).delivered.length + n
      rcases h.arrived hopen hsent with hall | ⟨f, rest, hmax, hlength, hunread⟩
      · rw [← hall]
        change _ ≤ (l.far.delivered ++ (Side.incoming l.far.channel).toList).length + n
        rw [List.length_append]
        omega
      · rcases h.farOpen with ⟨hfar, hcalm⟩ | ⟨hclosed, -⟩
        · rw [Side.delivered_read h.flow h.farSteady hlimit h.orderly.accepted hcalm
            (h.farHealthy hfar).2.2.1 hmax hlength hunread]
          omega
        · cases hclosed.symm.trans hopen

end Agrees

/-! ### Agreement -/

/-- Two sides that were started and have done nothing yet agree. -/
theorem agrees_opened {config config' : ChannelConfig} {writes writes' : List WriteTurn}
    {flushes flushes' : List FlushTurn} (hwrites : ∀ t ∈ writes ++ writes', t.isFatal = false)
    (hflushes : ∀ t ∈ flushes ++ flushes', FlushTurn.isFatal t = false) (app : σ) (app' : τ)
    (hungUp : Prop) :
    Agrees config.limits config'.limits hungUp
      ⟨.opened config writes flushes app, .opened config' writes' flushes' app'⟩ where
  nearSteady := Side.steady_opened config writes flushes app
  nearSmooth := ⟨(List.forall_mem_append.mp hwrites).1, (List.forall_mem_append.mp hflushes).1⟩
  nearHealthy := fun _ => ⟨rfl, rfl, rfl, rfl⟩
  orderly := ⟨List.forall_mem_nil _, List.forall_mem_nil _⟩
  flow := ⟨[], [], [], [], rfl, rfl, rfl, fun _ => ⟨rfl, rfl⟩⟩
  farSteady := Side.steady_opened config' writes' flushes' app'
  farSmooth := ⟨(List.forall_mem_append.mp hwrites).2, (List.forall_mem_append.mp hflushes).2⟩
  farHealthy := fun _ => ⟨rfl, rfl, rfl, rfl⟩
  farOpen := Or.inl ⟨rfl, rfl, rfl⟩

/-- **What one side delivers is what the other side has said.** At every moment
it is the beginning of it; it closes the side that delivers only after the
other one has closed and hung up; and it is all of it once all bytes have
arrived and were read. -/
theorem far_delivers_what_near_said {config config' : ChannelConfig}
    (hlimit : config.limits.maxPayload ≤ config'.limits.maxPayload)
    {writes writes' : List WriteTurn} {flushes flushes' : List FlushTurn}
    (hwrites : ∀ t ∈ writes ++ writes', t.isFatal = false)
    (hflushes : ∀ t ∈ flushes ++ flushes', FlushTurn.isFatal t = false) (app : σ) (app' : τ)
    {acts : List (Act σ τ)} (hacts : ∀ act ∈ acts, act.isPeaceful = true) :
    let l := run ⟨.opened config writes flushes app, .opened config' writes' flushes' app'⟩ acts
    let said := l.near.said config.limits.maxPayload
    l.far.delivered <+: said ∧
      (l.far.channel.isOpen = false → l.near.channel.isOpen = false ∧ .hangUp ∈ acts) ∧
      (l.near.channel.isOpen = true → l.near.HasSent →
        (l.far.channel.unread = [] → l.far.delivered = said) ∧
          ∀ n, said.length ≤ n →
            (l.run (List.replicate n (.far .read))).far.delivered = said) := by
  intro l said
  have h : l.Agrees config.limits config'.limits (.hangUp ∈ acts) := by
    refine run_keeps ?_ (agrees_opened hwrites hflushes app app' _)
    intro l act hact h
    refine h.step hlimit (hacts act hact) ?_
    intro hhung
    exact hhung ▸ hact
  refine ⟨h.flow.delivered_prefix, ?_, ?_⟩
  · intro hclosed
    rcases h.farOpen with ⟨hopen, -⟩ | hhung
    · cases hclosed.symm.trans hopen
    · exact hhung
  · intro hopen hsent
    constructor
    · intro hunread
      rcases h.arrived hopen hsent with hall | ⟨f, rest, -, -, hframe⟩
      · exact hall
      · rw [hunread] at hframe
        exact absurd (List.append_eq_nil_iff.mp hframe.symm).1 f.bytes_ne_nil
    · intro n hn
      exact h.delivered_run_read hlimit n hopen hsent (Nat.le_trans hn (Nat.le_add_left n _))

/-- A request that is written and carried in pieces, with interruptions. -/
theorem far_delivers_ping :
    let writes : List WriteTurn := [.accept 4, .fail (.ofKind .interrupted)]
    let acts : List (Act Unit Unit) :=
      .near (.call (.request .ping ())) :: List.replicate 6 (.near (.advance 0)) ++
        [.near .write, .near .write, .carry 3, .far .read,
          .far (.arrive (.failed (.ofKind .interrupted))), .carry 20, .far .read]
    let l := run ⟨.opened {} writes [] (), .opened {} [] [] ()⟩ acts
    l.near.HasSent ∧ l.far.delivered = l.near.said (ChannelConfig.limits {}).maxPayload ∧
      l.far.delivered = [(0, .request .ping ())] := by
  intro writes acts l
  have hopen : l.near.channel.isOpen = true := by decide +kernel
  have hsent : l.near.HasSent := ⟨by decide +kernel, by decide +kernel, by decide +kernel⟩
  have hwrites : ∀ t ∈ writes ++ [], t.isFatal = false := by decide
  have hflushes : ∀ t ∈ ([] ++ [] : List FlushTurn), FlushTurn.isFatal t = false := by decide
  have hacts : ∀ act ∈ acts, act.isPeaceful = true := by decide
  have hagrees := far_delivers_what_near_said (Nat.le_refl (ChannelConfig.limits {}).maxPayload)
    hwrites hflushes () () hacts
  exact ⟨hsent, (hagrees.2.2 hopen hsent).1 (by decide +kernel), by decide +kernel⟩

end Line

end Parley
