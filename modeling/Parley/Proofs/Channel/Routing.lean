/-
Messages are routed up to the first thing that cuts their stream, and nothing is
routed from then on.

What the stream of a channel brings is known from the bytes that arrive and the
first failure among them (`intake`), however they are cut into pieces. As long
as nobody closes the channel and its sink does not fail, the messages that are
delivered are the first of these; each is routed once, broadcasts to the
listener for broadcasts alone; and the channel closes when the reader meets the
cut, and for no other reason (`Side.routed_until_cut`).
-/
import Parley.Proofs.Channel.Hearing
import Parley.Proofs.Channel.Flow
import Parley.Proofs.Channel.Health

namespace Parley

variable {σ : Type}

/-- What the listener for broadcasts is called with. -/
def Job.broadcast? : Job σ → Option (BroadcastListener σ × Message)
  | .broadcast listener m => some (listener, m)
  | _ => none

/-! ### Calls for messages -/

/-- The calls that were queued are those that some messages lead to, in order: each
broadcast calls the listener for broadcasts, if there is one, and each other
message the listener for all traffic. What waits for one message is called with
other messages only. -/
structure Routed (onBroadcast : Option (BroadcastListener σ))
    (onTraffic : Option (TrafficListener σ)) (messages : List (Int32 × Message))
    (queued : List (Job σ)) : Prop where
  broadcasts : queued.filterMap Job.broadcast? =
    (messages.filter (·.2.kind = .broadcast)).flatMap fun x =>
      onBroadcast.toList.map fun l => (l, x.2)
  traffic : queued.filterMap Job.traffic? =
    (messages.filter (·.2.kind ≠ .broadcast)).flatMap fun x =>
      onTraffic.toList.map fun l => (l, x.1, x.2)
  responses : ((queued.filterMap Job.response?).map Prod.snd).Sublist
    ((messages.filter (·.2.kind ≠ .broadcast)).map Prod.snd)

namespace Routed

variable {onBroadcast : Option (BroadcastListener σ)} {onTraffic : Option (TrafficListener σ)}
  {messages : List (Int32 × Message)} {queued : List (Job σ)}

/-- Calls about what was written are not for messages that came in. -/
theorem posts (h : Routed onBroadcast onTraffic messages queued) {jobs : List (Job σ)}
    (hjobs : ∀ j ∈ jobs, j.isWritten = true) :
    Routed onBroadcast onTraffic messages (queued ++ jobs) := by
  have hnone {α : Type} (f : Job σ → Option α) (hf : ∀ l id m, f (.written l id m) = none) :
      jobs.filterMap f = [] := by
    rw [List.filterMap_eq_nil_iff]
    intro j hj
    have hwritten := hjobs j hj
    cases j with
    | written l id m => exact hf l id m
    | response | broadcast | traffic => cases hwritten
  constructor
  · rw [List.filterMap_append, hnone Job.broadcast? fun _ _ _ => rfl, List.append_nil]
    exact h.broadcasts
  · rw [List.filterMap_append, hnone Job.traffic? fun _ _ _ => rfl, List.append_nil]
    exact h.traffic
  · rw [List.filterMap_append, hnone Job.response? fun _ _ _ => rfl, List.append_nil]
    exact h.responses

/-- A message more, with the calls that it leads to. -/
theorem deliver {c : Channel σ} (h : Routed c.onBroadcast c.onTraffic messages queued)
    {x : Int32 × Message} (hkind : x.1 = broadcastId ↔ x.2.kind = .broadcast) :
    Routed c.onBroadcast c.onTraffic (messages ++ [x]) (queued ++ c.jobsFor x.1 x.2) := by
  obtain ⟨frameId, m⟩ := x
  dsimp only at hkind ⊢
  by_cases hid : frameId = broadcastId
  · have hbroadcast := hkind.mp hid
    subst hid
    have hjobs : c.jobsFor broadcastId m = c.onBroadcast.toList.map fun l => .broadcast l m :=
      if_pos rfl
    constructor
    · have hcalls : (c.jobsFor broadcastId m).filterMap Job.broadcast?
          = c.onBroadcast.toList.map fun l => (l, m) := by
        rw [hjobs, List.filterMap_map]
        exact congrFun List.filterMap_eq_map _
      rw [List.filterMap_append, h.broadcasts, hcalls]
      simp [hbroadcast]
    · rw [List.filterMap_append, h.traffic, c.filterMap_traffic?_jobsFor_broadcastId]
      simp [hbroadcast]
    · have hcalls : (c.jobsFor broadcastId m).filterMap Job.response? = [] := by
        rw [hjobs, List.filterMap_map]
        exact List.filterMap_eq_nil_iff.mpr fun _ _ => rfl
      rw [List.filterMap_append, hcalls]
      simpa [hbroadcast] using h.responses
  · have hother : m.kind ≠ .broadcast := fun hbroadcast => hid (hkind.mpr hbroadcast)
    constructor
    · have hcalls : (c.jobsFor frameId m).filterMap Job.broadcast? = [] := by
        rw [Channel.jobsFor, if_neg hid, List.filterMap_append, List.filterMap_map,
          List.filterMap_map]
        simp [Job.broadcast?]
      rw [List.filterMap_append, h.broadcasts, hcalls]
      simp [hother]
    · rw [List.filterMap_append, h.traffic, c.filterMap_traffic?_jobsFor hid]
      simp [hother]
    · have hcalls : ((c.jobsFor frameId m).filterMap Job.response?).map Prod.snd
          = (c.waiters.lookup frameId).toList.map fun _ => m := by
        rw [c.filterMap_response?_jobsFor hid, List.map_map]
        rfl
      have hone : ((c.waiters.lookup frameId).toList.map fun _ => m).Sublist [m] := by
        cases c.waiters.lookup frameId with
        | none => exact List.nil_sublist _
        | some w => exact List.Sublist.refl _
      rw [List.filterMap_append, List.map_append, hcalls]
      simpa [hother] using h.responses.append hone

end Routed

/-- The calls that were queued from one state of a channel to the next. -/
def Channel.posted (c c' : Channel σ) : List (Job σ) := c'.events.drop c.events.length

namespace Channel.Wiring.Tacit

variable {cancelled : Bool} {w w' : Wiring σ}

theorem isWritten (h : Tacit cancelled w w') :
    ∀ j ∈ w'.events.drop w.events.length, j.isWritten = true := by
  intro j hj
  cases h with
  | same => simp at hj
  | posts hjobs =>
      rw [List.drop_left] at hj
      exact hjobs j hj
  | hands =>
      have hnil : w.events.tail.drop w.events.length = [] :=
        List.drop_eq_nil_of_le (by simp)
      rw [hnil] at hj
      cases hj
  | ends => simp at hj

theorem lines (h : Tacit cancelled w w') :
    w'.registry = w.registry ∧ w'.workbench = w.workbench ∧ w'.onBroadcast = w.onBroadcast ∧
      w'.onTraffic = w.onTraffic ∧ (cancelled = false → w'.relaying = w.relaying) := by
  cases h with
  | same | posts | hands => exact ⟨rfl, rfl, rfl, rfl, fun _ => rfl⟩
  | ends hcancelled =>
      refine ⟨rfl, rfl, rfl, rfl, ?_⟩
      rintro hrunning
      cases hcancelled.symm.trans hrunning

end Channel.Wiring.Tacit

namespace Side

/-! ### Listening -/

/-- What an act lets arrive. -/
def Act.arrival? : Act σ → Option Arrival
  | .arrive a => some a
  | _ => none

def Act.isRead : Act σ → Bool
  | .read => true
  | _ => false

/-- Acts that neither close the channel nor replace a listener that messages are
routed to. -/
def Act.letsListen (act : Act σ) : Bool := !act.isShutdown && !act.isRewiring

/-- A channel that was started with listeners, among them some for one message
each. Its sink follows scripts. -/
def listening (registry : Registry) (config : ChannelConfig) (writes : List WriteTurn)
    (flushes : List FlushTurn) (app : σ) (waiters : List (Int32 × Waiter σ))
    (onBroadcast : Option (BroadcastListener σ)) (onTraffic : Option (TrafficListener σ))
    (onWritten : Option (WriteListener σ)) : Side σ where
  channel :=
    (Channel.start
      { Channel.create registry config {} { writes, flushes } with
        waiters, onBroadcast, onTraffic, onWritten } true).2
  app

/-- What a sequence of acts leads to. -/
def run (s : Side σ) (acts : List (Act σ)) : Side σ := acts.foldl step s

/-- The calls of listeners that a sequence of acts queues, in order. -/
def queued (s : Side σ) : List (Act σ) → List (Job σ)
  | [] => []
  | act :: later => s.channel.posted (s.step act).channel ++ queued (s.step act) later

/-- What a source brings until it is cut. -/
def brings (registry : Registry) (maxPayload : Nat) (stream : Source) : Intake :=
  intake registry maxPayload stream.halt? stream.front

/-- A side listens to a stream, all that has arrived so far. While it is open it
has delivered the front of it, the rest is ahead of it, and the failure behind
that is the first of the stream. Once it is closed it has delivered all that
the stream brings, and the stream was cut. -/
structure Listens (r : Registry) (limit : Nat) (hears : Option (BroadcastListener σ))
    (answers : Option (TrafficListener σ)) (stream : Source) (queued : List (Job σ))
    (s : Side σ) : Prop where
  registry : s.channel.registry = r
  started : s.channel.workbench = .started
  onBroadcast : s.channel.onBroadcast = hears
  onTraffic : s.channel.onTraffic = answers
  maxPayload : s.channel.reader.limits.maxPayload = limit
  lasting : s.channel.source.exhausted = false
  streamLasting : stream.exhausted = false
  smooth : s.channel.Smooth
  healthy : s.channel.isOpen = true → s.channel.Healthy
  relaying : s.channel.isOpen = true → s.channel.relaying = true
  routed : Routed hears answers s.delivered queued
  opened : s.channel.isOpen = true →
    Takes r limit stream.front s.delivered s.channel.ahead ∧
      s.channel.source.halt? = stream.halt?
  closed : s.channel.isOpen = false → s.channel.reading = false ∧
    ∃ cut, brings r limit stream = ⟨s.delivered, some cut⟩

namespace Listens

variable {r : Registry} {limit : Nat} {hears : Option (BroadcastListener σ)}
  {answers : Option (TrafficListener σ)} {stream : Source} {queued : List (Job σ)} {s : Side σ}
  {act : Act σ}

/-- What arrives belongs to the stream, and changes neither what was brought nor a
cut that was met. -/
theorem arrive (h : Listens r limit hears answers stream queued s) (a : Arrival) :
    Listens r limit hears answers (stream.push a) queued (s.step (.arrive a)) where
  registry := h.registry
  started := h.started
  onBroadcast := h.onBroadcast
  onTraffic := h.onTraffic
  maxPayload := h.maxPayload
  lasting := h.lasting
  streamLasting := h.streamLasting
  smooth := h.smooth
  healthy := h.healthy
  relaying := h.relaying
  routed := h.routed
  opened := by
    intro hopen
    obtain ⟨htakes, hhalt⟩ := h.opened hopen
    change Takes r limit (stream.push a).front s.delivered
        (s.channel.reader.arena.bytes ++ (s.channel.source.push a).front) ∧
      (s.channel.source.push a).halt? = (stream.push a).halt?
    cases hstream : stream.halt? with
    | none =>
        obtain ⟨hfront, hhalt'⟩ := Source.front_push hstream a
        obtain ⟨hahead, hhalt''⟩ := Source.front_push (hhalt.trans hstream) a
        rw [hfront, hahead, hhalt', hhalt'', ← List.append_assoc]
        exact ⟨htakes.append a.bytes, rfl⟩
    | some e =>
        obtain ⟨hfront, hhalt'⟩ := Source.front_push_of_halt hstream h.streamLasting a
        obtain ⟨hahead, hhalt''⟩ :=
          Source.front_push_of_halt (hhalt.trans hstream) h.lasting a
        rw [hfront, hahead, hhalt', hhalt'']
        exact ⟨htakes, rfl⟩
  closed := by
    intro hclosed
    obtain ⟨hended, cut, hbrings⟩ := h.closed hclosed
    refine ⟨hended, cut, ?_⟩
    rw [brings] at hbrings ⊢
    cases hstream : stream.halt? with
    | none =>
        rw [hstream] at hbrings
        have hcut : (intake r limit none stream.front).cut?.isSome := by rw [hbrings]; rfl
        rw [(Source.front_push hstream a).1, intake_append_of_cut hcut, hbrings]
        rfl
    | some e =>
        rw [hstream] at hbrings
        obtain ⟨hfront, hhalt⟩ := Source.front_push_of_halt hstream h.streamLasting a
        rw [hfront, hhalt, hbrings]
        rfl

/-- What the stream brings is what was delivered and what the reader will bring. -/
theorem brings_eq (h : Listens r limit hears answers stream queued s)
    (hopen : s.channel.isOpen = true) :
    brings r limit stream = s.channel.outlook.behind s.delivered := by
  obtain ⟨htakes, hhalt⟩ := h.opened hopen
  rw [brings, htakes.intake_eq, Channel.outlook, h.registry, h.maxPayload, hhalt]

/-- A reader that has ended does nothing. -/
theorem read_of_closed (h : Listens r limit hears answers stream queued s)
    (hclosed : s.channel.isOpen = false) : s.step .read = s := by
  obtain ⟨hended, -⟩ := h.closed hclosed
  simp [step, read, onChannel, Channel.readStep, incoming, hended]

/-- What a step of the reader on an open channel has to show: the calls that it
queues, and what was delivered and is ahead after it. -/
theorem of_read (h : Listens r limit hears answers stream queued s)
    (hopen : s.channel.isOpen = true) {c : Channel σ} {jobs : List (Job σ)}
    {brought : Option (Int32 × Message)}
    (hwiring : c.wiring = { s.channel.wiring with events := s.channel.events ++ jobs })
    (hstreams : c.streams = s.channel.collected.streams) (hsmooth : c.Smooth)
    (hhealthy : c.isOpen = true → c.Healthy)
    (hrouted : Routed hears answers (s.delivered ++ brought.toList) (queued ++ jobs))
    (hopened : c.isOpen = true →
      Takes r limit stream.front (s.delivered ++ brought.toList) s.channel.collected.ahead ∧
        s.channel.collected.source.halt? = stream.halt?)
    (hclosed : c.isOpen = false → c.reading = false ∧
      ∃ cut, brings r limit stream = ⟨s.delivered ++ brought.toList, some cut⟩) :
    Listens r limit hears answers stream (queued ++ s.channel.posted c)
      { s with channel := c, delivered := s.delivered ++ brought.toList } := by
  have hreader : c.reader = s.channel.collected.reader := congrArg Channel.Streams.reader hstreams
  have hsource : c.source = s.channel.collected.source := congrArg Channel.Streams.source hstreams
  have hahead : c.ahead = s.channel.collected.ahead := by
    rw [Channel.ahead, Channel.ahead, hreader, hsource]
  have hposted : s.channel.posted c = jobs := by
    have hevents : c.events = s.channel.events ++ jobs := congrArg Channel.Wiring.events hwiring
    rw [Channel.posted, hevents, List.drop_left]
  rw [hposted]
  exact {
    registry := (congrArg Channel.Wiring.registry hwiring).trans h.registry
    started := (congrArg Channel.Wiring.workbench hwiring).trans h.started
    onBroadcast := (congrArg Channel.Wiring.onBroadcast hwiring).trans h.onBroadcast
    onTraffic := (congrArg Channel.Wiring.onTraffic hwiring).trans h.onTraffic
    maxPayload := by
      rw [hreader, ← h.maxPayload]
      exact congrArg FrameLimits.maxPayload (s.channel.reader.limits_next s.channel.source)
    lasting := by
      rw [hsource]
      exact (s.channel.reader.exhausted_next s.channel.source).trans h.lasting
    streamLasting := h.streamLasting
    smooth := hsmooth
    healthy := hhealthy
    relaying := fun _ => (congrArg Channel.Wiring.relaying hwiring).trans (h.relaying hopen)
    routed := hrouted
    opened := by
      rw [hahead, hsource]
      exact hopened
    closed := hclosed }

/-- A message that is delivered is the next that the stream brings. -/
theorem of_message (h : Listens r limit hears answers stream queued s)
    (hopen : s.channel.isOpen = true) {f : Frame} {x : Int32 × Message}
    (hsplit : Frame.split? s.channel.reader.limits.maxPayload s.channel.ahead
      = .ok (some (f, s.channel.collected.ahead)))
    (haccept : f.accept s.channel.registry = .ok x)
    (hhalt : s.channel.collected.source.halt? = s.channel.source.halt?)
    (hsmooth : (s.channel.collected.deliver x.1 x.2).Smooth)
    (hhealthy : (s.channel.collected.deliver x.1 x.2).isOpen = true →
      (s.channel.collected.deliver x.1 x.2).Healthy) :
    Listens r limit hears answers stream
      (queued ++ s.channel.posted (s.channel.collected.deliver x.1 x.2))
      { s with
        channel := s.channel.collected.deliver x.1 x.2
        delivered := s.delivered ++ (some x).toList } := by
  obtain ⟨htakes, hhalt'⟩ := h.opened hopen
  have hrouted : Routed hears answers (s.delivered ++ (some x).toList)
      (queued ++ s.channel.collected.jobsFor x.1 x.2) := by
    have hbefore := h.routed
    rw [← h.onBroadcast, ← h.onTraffic] at hbefore ⊢
    exact hbefore.deliver (c := s.channel.collected) (Frame.kind_of_accept haccept)
  rw [h.maxPayload] at hsplit
  rw [h.registry] at haccept
  apply h.of_read hopen ?_ ?_ hsmooth hhealthy hrouted
  · intro _
    exact ⟨htakes.concat hsplit haccept, hhalt.trans hhalt'⟩
  · intro hclosed
    have hstays : (s.channel.collected.deliver x.1 x.2).isOpen = true :=
      (Channel.isOpen_of_life (s.channel.collected.life_deliver x.1 x.2).1).trans hopen
    cases hclosed.symm.trans hstays
  · exact s.channel.collected.wiring_deliver (h.relaying hopen) x.1 x.2
  · exact s.channel.collected.deliver_streams x.1 x.2

/-- A reader that meets the cut has delivered all that the stream brings. -/
theorem of_cut (h : Listens r limit hears answers stream queued s)
    (hopen : s.channel.isOpen = true) {cut : Cut}
    (hbrings : brings r limit stream = ⟨s.delivered, some cut⟩)
    (hsmooth : s.channel.collected.shutdown.2.endReading.Smooth) :
    Listens r limit hears answers stream
      (queued ++ s.channel.posted s.channel.collected.shutdown.2.endReading)
      { s with
        channel := s.channel.collected.shutdown.2.endReading
        delivered := s.delivered ++ none.toList } := by
  obtain ⟨hclosed, -⟩ := s.channel.collected.isOpen_shutdown_endReading
  have hnever : s.channel.collected.shutdown.2.endReading.isOpen ≠ true := by
    rw [hclosed]
    exact Bool.false_ne_true
  have hrouted : Routed hears answers (s.delivered ++ none.toList) (queued ++ []) := by
    simpa using h.routed
  apply h.of_read hopen ?_ ?_ hsmooth (fun hopen' => absurd hopen' hnever) hrouted
  · intro hopen'
    exact absurd hopen' hnever
  · intro _
    refine ⟨rfl, cut, ?_⟩
    simpa using hbrings
  · rw [List.append_nil]
    exact s.channel.collected.wiring_shutdown h.started
  · have hkeeps := s.channel.collected.keeps_shutdown h.started
    exact (hkeeps.trans (Channel.keeps_endReading _)).streams

/-- A reader that waits has delivered nothing and is open. -/
theorem of_waiting (h : Listens r limit hears answers stream queued s)
    (hopen : s.channel.isOpen = true) (hahead : s.channel.collected.ahead = s.channel.ahead)
    (hhalt : s.channel.collected.source.halt? = s.channel.source.halt?) :
    Listens r limit hears answers stream (queued ++ s.channel.posted s.channel.collected)
      { s with channel := s.channel.collected, delivered := s.delivered ++ none.toList } := by
  have hrouted : Routed hears answers (s.delivered ++ none.toList) (queued ++ []) := by
    simpa using h.routed
  apply h.of_read hopen ?_ rfl h.smooth h.healthy hrouted
  · intro _
    rw [hahead, hhalt]
    simpa using h.opened hopen
  · intro hclosed
    cases hclosed.symm.trans hopen
  · rw [List.append_nil]
    rfl

/-- **The reader takes what is ahead, or meets the cut.** Unless all was delivered
and the channel tells whether the stream was cut, one message more is delivered. -/
theorem read (h : Listens r limit hears answers stream queued s) :
    Listens r limit hears answers stream (queued ++ s.channel.posted (s.step .read).channel)
        (s.step .read) ∧
      ((s.step .read).delivered.length = s.delivered.length + 1 ∨
        (s.step .read).delivered = (brings r limit stream).messages ∧
          (s.step .read).channel.isOpen = (brings r limit stream).cut?.isNone) := by
  by_cases hopen : s.channel.isOpen = true
  case neg =>
    have hclosed := Bool.eq_false_iff.mpr hopen
    obtain ⟨-, cut, hbrings⟩ := h.closed hclosed
    rw [h.read_of_closed hclosed, hbrings]
    refine ⟨?_, Or.inr ⟨rfl, hclosed⟩⟩
    simpa [Channel.posted] using h
  obtain ⟨-, -, hreading, -⟩ := h.healthy hopen
  obtain ⟨-, hhealthy, hsmooth⟩ := healthy_step h.smooth h.healthy .read rfl
  have hbrings := h.brings_eq hopen
  have hstep : s.step .read = { s with
    channel := s.channel.readStep
    delivered := s.delivered ++ (incoming s.channel).toList } := rfl
  have hhears := s.channel.hears_readStep
  rw [hstep] at hhealthy hsmooth ⊢
  generalize s.channel.readStep = c' at hhears hhealthy hsmooth
  generalize incoming s.channel = brought at hhears hhealthy hsmooth
  cases hhears with
  | idle hidle => cases hidle.symm.trans hreading
  | @message f x _ hsplit haccept hhalt =>
      refine ⟨h.of_message hopen hsplit haccept hhalt hsmooth hhealthy, Or.inl ?_⟩
      simp
  | @cut cut houtlook =>
      have hends : brings r limit stream = ⟨s.delivered, some cut⟩ := by
        rw [hbrings, houtlook]
        simp [Intake.behind]
      refine ⟨h.of_cut hopen hends hsmooth, Or.inr ?_⟩
      rw [hends]
      exact ⟨by simp, s.channel.collected.isOpen_shutdown_endReading.1⟩
  | waiting houtlook hahead hhalt =>
      have hends : brings r limit stream = ⟨s.delivered, none⟩ := by
        rw [hbrings, houtlook]
        simp [Intake.behind]
      refine ⟨h.of_waiting hopen hahead hhalt, Or.inr ?_⟩
      rw [hends]
      exact ⟨by simp, hopen⟩

/-- No other act closes the channel or touches what is ahead of it. -/
theorem other (h : Listens r limit hears answers stream queued s) (hact : act.letsListen = true)
    (hread : act ≠ .read) (harrive : ∀ a, act ≠ .arrive a) :
    Listens r limit hears answers stream (queued ++ s.channel.posted (s.step act).channel)
        (s.step act) ∧ (s.step act).delivered = s.delivered ∧
      (s.step act).channel.isOpen = s.channel.isOpen := by
  have hshut : act.isShutdown = false ∧ act.isRewiring = false := by
    simpa [Act.letsListen] using hact
  obtain ⟨hshut, hrewire⟩ := hshut
  obtain ⟨hreader, hsource, hdelivered⟩ := reader_step h.started hread harrive
  obtain ⟨-, hhealthy, hsmooth⟩ := healthy_step h.smooth h.healthy act hshut
  have htacit := tacit_step h.started hread hrewire
  obtain ⟨hregistry, hworkbench, honBroadcast, honTraffic, hrelaying⟩ := htacit.lines
  have hlife : (s.step act).channel.isOpen = s.channel.isOpen ∧
      (s.channel.reading = false → (s.step act).channel.reading = false) := by
    by_cases hwrite : act = .write
    · subst hwrite
      obtain ⟨hlife, -⟩ := Channel.life_writeStep h.smooth
      refine ⟨Channel.isOpen_of_life hlife, ?_⟩
      intro hended
      exact (congrArg Channel.Life.reading hlife).trans hended
    · obtain ⟨hopen, -, -, -, hended⟩ := life_step hshut hread hwrite (s := s)
      exact ⟨hopen, hended⟩
  obtain ⟨hopen, hended⟩ := hlife
  have hahead : (s.step act).channel.ahead = s.channel.ahead := by
    rw [Channel.ahead, Channel.ahead, hreader, hsource]
  refine ⟨?_, hdelivered, hopen⟩
  exact {
    registry := hregistry.trans h.registry
    started := hworkbench.trans h.started
    onBroadcast := honBroadcast.trans h.onBroadcast
    onTraffic := honTraffic.trans h.onTraffic
    maxPayload := by
      rw [hreader]
      exact h.maxPayload
    lasting := by
      rw [hsource]
      exact h.lasting
    streamLasting := h.streamLasting
    smooth := hsmooth
    healthy := hhealthy
    relaying := by
      rw [hopen]
      intro hopen
      exact (hrelaying (h.healthy hopen).2.1).trans (h.relaying hopen)
    routed := by
      rw [hdelivered]
      exact h.routed.posts htacit.isWritten
    opened := by
      rw [hopen, hahead, hsource, hdelivered]
      exact h.opened
    closed := by
      rw [hopen, hdelivered]
      intro hclosed
      obtain ⟨hreading, hbrings⟩ := h.closed hclosed
      exact ⟨hended hreading, hbrings⟩ }

/-- **One act more.** -/
theorem step (h : Listens r limit hears answers stream queued s) (hact : act.letsListen = true) :
    Listens r limit hears answers
      { stream with arrivals := stream.arrivals ++ act.arrival?.toList }
      (queued ++ s.channel.posted (s.step act).channel) (s.step act) := by
  by_cases harrive : ∃ a, act = .arrive a
  · obtain ⟨a, rfl⟩ := harrive
    have hposted : s.channel.posted (s.step (.arrive a)).channel = [] := List.drop_length
    rw [hposted, List.append_nil]
    exact h.arrive a
  have hnone : act.arrival? = none := by
    cases act with
    | arrive a => exact absurd ⟨a, rfl⟩ harrive
    | _ => rfl
  rw [hnone, Option.toList_none, List.append_nil]
  by_cases hread : act = .read
  · subst hread
    exact h.read.1
  · exact (h.other hact hread fun a heq => harrive ⟨a, heq⟩).1

/-- **A run keeps listening** to all that arrives in it. -/
theorem run {acts : List (Act σ)} (hacts : ∀ act ∈ acts, act.letsListen = true)
    (h : Listens r limit hears answers stream queued s) :
    Listens r limit hears answers
      { stream with arrivals := stream.arrivals ++ acts.filterMap Act.arrival? }
      (queued ++ s.queued acts) (s.run acts) := by
  induction acts generalizing s stream queued with
  | nil => simpa [Side.queued, Side.run] using h
  | cons act later ih =>
      have hlater := ih (fun act hact => hacts act (List.mem_cons_of_mem _ hact))
        (h.step (hacts act List.mem_cons_self))
      have harrivals : (act :: later).filterMap Act.arrival?
          = act.arrival?.toList ++ later.filterMap Act.arrival? := by
        cases ha : act.arrival? with
        | none => simp [ha]
        | some a => simp [ha]
      rw [List.append_assoc, List.append_assoc, ← harrivals] at hlater
      exact hlater

/-! ### All that a stream brings -/

/-- A channel that closed has met the cut. -/
theorem cut_of_closed (h : Listens r limit hears answers stream queued s)
    (hclosed : s.channel.isOpen = false) :
    s.delivered = (brings r limit stream).messages ∧ (brings r limit stream).cut?.isSome := by
  obtain ⟨-, cut, hbrings⟩ := h.closed hclosed
  rw [hbrings]
  exact ⟨rfl, rfl⟩

/-- What was delivered is the beginning of what the stream brings. -/
theorem delivered_prefix (h : Listens r limit hears answers stream queued s) :
    s.delivered <+: (brings r limit stream).messages := by
  by_cases hopen : s.channel.isOpen = true
  · rw [h.brings_eq hopen]
    exact List.prefix_append _ _
  · obtain ⟨hall, -⟩ := h.cut_of_closed (Bool.eq_false_iff.mpr hopen)
    exact ⟨[], (List.append_nil _).trans hall⟩

/-- All was delivered, and the channel is closed exactly if the stream was cut. -/
def Through (r : Registry) (limit : Nat) (stream : Source) (s : Side σ) : Prop :=
  s.delivered = (brings r limit stream).messages ∧
    s.channel.isOpen = (brings r limit stream).cut?.isNone

/-- Without arrivals, nothing changes once all was delivered. -/
theorem through_step (h : Listens r limit hears answers stream queued s)
    (hact : act.letsListen = true) (hnone : act.arrival? = none)
    (hthrough : Through r limit stream s) : Through r limit stream (s.step act) := by
  by_cases hread : act = .read
  · subst hread
    obtain ⟨hlistens, hprogress⟩ := h.read
    rcases hprogress with hlonger | hthrough'
    · -- no message is left to be delivered
      have hle := hlistens.delivered_prefix.length_le
      rw [hlonger, hthrough.1] at hle
      omega
    · exact hthrough'
  · have harrive : ∀ a, act ≠ .arrive a := by
      rintro a rfl
      cases hnone
    obtain ⟨-, hdelivered, hopen⟩ := h.other hact hread harrive
    rw [Through, hdelivered, hopen]
    exact hthrough

/-- Without arrivals, the stream that is listened to stays what it was. -/
theorem step_of_none (h : Listens r limit hears answers stream queued s)
    (hact : act.letsListen = true) (hnone : act.arrival? = none) :
    Listens r limit hears answers stream (queued ++ s.channel.posted (s.step act).channel)
      (s.step act) := by
  have hstep := h.step hact
  rw [hnone, Option.toList_none, List.append_nil] at hstep
  exact hstep

theorem through_run {later : List (Act σ)}
    (hlater : ∀ act ∈ later, act.letsListen = true ∧ act.arrival? = none)
    (h : Listens r limit hears answers stream queued s) (hthrough : Through r limit stream s) :
    Through r limit stream (s.run later) := by
  induction later generalizing s queued with
  | nil => exact hthrough
  | cons act later ih =>
      obtain ⟨hact, hnone⟩ := hlater act List.mem_cons_self
      exact ih (fun act hact => hlater act (List.mem_cons_of_mem _ hact))
        (h.step_of_none hact hnone) (h.through_step hact hnone hthrough)

/-- **Enough reads deliver everything and meet the cut**, whatever comes between them. -/
theorem through_of_reads {later : List (Act σ)}
    (hlater : ∀ act ∈ later, act.letsListen = true ∧ act.arrival? = none)
    (h : Listens r limit hears answers stream queued s)
    (hreads : (brings r limit stream).messages.length
      < s.delivered.length + later.countP Act.isRead) :
    Through r limit stream (s.run later) := by
  induction later generalizing s queued with
  | nil =>
      have hle := h.delivered_prefix.length_le
      rw [List.countP_nil] at hreads
      omega
  | cons act later ih =>
      obtain ⟨hact, hnone⟩ := hlater act List.mem_cons_self
      have hrest : ∀ act ∈ later, act.letsListen = true ∧ act.arrival? = none :=
        fun act hact => hlater act (List.mem_cons_of_mem _ hact)
      have hstep := h.step_of_none hact hnone
      by_cases hread : act = .read
      · subst hread
        rcases h.read.2 with hlonger | hthrough
        · apply ih hrest hstep
          rw [List.countP_cons_of_pos rfl] at hreads
          omega
        · have hdone := through_run hrest hstep hthrough
          exact hdone
      · have harrive : ∀ a, act ≠ .arrive a := by
          rintro a rfl
          cases hnone
        obtain ⟨-, hdelivered, -⟩ := h.other hact hread harrive
        apply ih hrest hstep
        have hother : act.isRead = false := by
          cases act with
          | read => exact absurd rfl hread
          | _ => rfl
        rw [List.countP_cons_of_neg (Bool.eq_false_iff.mp hother)] at hreads
        rwa [hdelivered]

end Listens

/-- A channel that was just started listens to a stream on which nothing has arrived. -/
theorem listens_listening (registry : Registry) (config : ChannelConfig)
    {writes : List WriteTurn} {flushes : List FlushTurn}
    (hwrites : ∀ t ∈ writes, t.isFatal = false)
    (hflushes : ∀ t ∈ flushes, FlushTurn.isFatal t = false) (app : σ)
    (waiters : List (Int32 × Waiter σ)) (onBroadcast : Option (BroadcastListener σ))
    (onTraffic : Option (TrafficListener σ)) (onWritten : Option (WriteListener σ)) :
    Listens registry config.limits.maxPayload onBroadcast onTraffic {} []
      (listening registry config writes flushes app waiters onBroadcast onTraffic onWritten) where
  registry := rfl
  started := rfl
  onBroadcast := rfl
  onTraffic := rfl
  maxPayload := rfl
  lasting := rfl
  streamLasting := rfl
  smooth := ⟨hwrites, hflushes⟩
  healthy := fun _ => ⟨rfl, rfl, rfl, rfl⟩
  relaying := fun _ => rfl
  routed := ⟨rfl, rfl, List.Sublist.refl _⟩
  opened := fun _ => ⟨.nil, rfl⟩
  closed := fun hclosed => nomatch hclosed

theorem run_append (s : Side σ) (acts later : List (Act σ)) :
    s.run (acts ++ later) = (s.run acts).run later :=
  List.foldl_append

/-- A broadcast leaves what waits for messages alone, and calls the listener for
broadcasts and nothing else. -/
theorem readStep_broadcast {c : Channel σ} {frameId : Int32} {m : Message}
    (h : incoming c = some (frameId, m)) (hkind : m.kind = .broadcast) :
    c.readStep.waiters = c.waiters ∧
      ∀ j ∈ c.posted c.readStep, ∃ l, c.onBroadcast = some l ∧ j = .broadcast l m := by
  have hhears := c.hears_readStep
  rw [h] at hhears
  have hstep := c.readStep_of_incoming h
  generalize c.readStep = c' at hhears hstep
  cases hhears with
  | message _ _ haccept _ =>
      obtain rfl : frameId = broadcastId := (Frame.kind_of_accept haccept).mpr hkind
      obtain ⟨hledger, -⟩ := c.collected.deliver_broadcastId m
      refine ⟨congrArg Channel.Ledger.waiters hledger, ?_⟩
      intro j hj
      rw [Channel.posted, Channel.deliver, if_pos rfl, Channel.post] at hj
      split at hj
      · have hcalls : j ∈ c.onBroadcast.toList.map fun l => .broadcast l m := by
          simpa [Channel.collected] using hj
        obtain ⟨l, hl, rfl⟩ := List.mem_map.mp hcalls
        exact ⟨l, by simpa using hl, rfl⟩
      · simp [Channel.collected] at hj

/-! ### The theorem -/

/-- **Messages are routed up to the cut of their stream, and nothing is routed
behind it.** Let anything happen to a channel that was started with listeners, as
long as nobody closes it or replaces them and its sink does not fail. Then what
was delivered is at every moment the beginning of what the stream brings, and each
message of it was routed once and in order. The channel closes only at the cut,
with all before it delivered. Once the reader has taken more steps than there are
messages, everything is delivered, and the channel is closed exactly if the stream
was cut. A broadcast leaves what waits for messages alone, and calls the listener
for broadcasts and nothing else. -/
theorem routed_until_cut (registry : Registry) (config : ChannelConfig)
    {writes : List WriteTurn} {flushes : List FlushTurn}
    (hwrites : ∀ t ∈ writes, t.isFatal = false)
    (hflushes : ∀ t ∈ flushes, FlushTurn.isFatal t = false) (app : σ)
    (waiters : List (Int32 × Waiter σ)) (onBroadcast : Option (BroadcastListener σ))
    (onTraffic : Option (TrafficListener σ)) (onWritten : Option (WriteListener σ))
    {acts : List (Act σ)} (hacts : ∀ act ∈ acts, act.letsListen = true) :
    let s := listening registry config writes flushes app waiters onBroadcast onTraffic onWritten
    let total := brings registry config.limits.maxPayload
      { arrivals := acts.filterMap Act.arrival? }
    (s.run acts).delivered <+: total.messages ∧
      Routed onBroadcast onTraffic (s.run acts).delivered (s.queued acts) ∧
      ((s.run acts).channel.isOpen = false →
        (s.run acts).delivered = total.messages ∧ total.cut?.isSome) ∧
      (∀ later, (∀ act ∈ later, act.letsListen = true ∧ act.arrival? = none) →
        total.messages.length < later.countP Act.isRead →
        Routed onBroadcast onTraffic total.messages (s.queued (acts ++ later)) ∧
          (s.run (acts ++ later)).channel.isOpen = total.cut?.isNone) ∧
      ∀ (c : Channel σ) frameId m, incoming c = some (frameId, m) → m.kind = .broadcast →
        c.readStep.waiters = c.waiters ∧
          ∀ j ∈ c.posted c.readStep, ∃ l, c.onBroadcast = some l ∧ j = .broadcast l m := by
  intro s total
  have hbegin := listens_listening registry config hwrites hflushes app waiters onBroadcast
    onTraffic onWritten
  have h := hbegin.run hacts
  refine ⟨h.delivered_prefix, h.routed, h.cut_of_closed, ?_, fun c _ _ => readStep_broadcast⟩
  intro later hlater hreads
  have hthrough := h.through_of_reads hlater (Nat.lt_add_left _ hreads)
  rw [← run_append] at hthrough
  have hall : ∀ act ∈ acts ++ later, act.letsListen = true := by
    intro act hact
    rcases List.mem_append.mp hact with hact | hact
    · exact hacts act hact
    · exact (hlater act hact).1
  have hrouted := (hbegin.run hall).routed
  rw [hthrough.1] at hrouted
  exact ⟨hrouted, hthrough.2⟩

/-- A frame of an unknown type cuts a stream, with a broadcast and a request before it. -/
theorem routed_until_unknown_type :
    let bytes (frameId : Int32) (typeId : Int16) (payload : Bytes) : Arrival :=
      .data (Frame.mk frameId typeId payload).bytes
    let hello := bytes broadcastId BroadcastType.loaderDiscovered.wireId (List.replicate 8 0)
    let ping := bytes 7 RequestType.ping.wireId []
    let acts : List (Act Nat) :=
      [.arrive hello, .arrive ping, .read, .arrive (bytes 8 999 []), .arrive ping]
    let later : List (Act Nat) := List.replicate 3 .read
    let s := listening .catalog {} [] [] 0 [(broadcastId, .listener fun n _ => n + 10)]
      (some fun n _ => n + 1) (some fun _ n _ _ => (n, none)) none
    let queued := s.queued (acts ++ later)
    (queued.filterMap Job.broadcast?).map Prod.snd
        = [⟨.broadcast .loaderDiscovered, ⟨0, ""⟩⟩] ∧
      (queued.filterMap Job.traffic?).map Prod.snd = [(7, .request .ping ())] ∧
      (queued.filterMap Job.response?).map Prod.snd = [] ∧
      (s.run (acts ++ later)).channel.isOpen = false := by
  intro bytes hello ping acts later s queued
  have hacts : ∀ act ∈ acts, act.letsListen = true := by decide
  have hlater : ∀ act ∈ later, act.letsListen = true ∧ act.arrival? = none := by decide
  have htotal : brings .catalog (ChannelConfig.limits {}).maxPayload
      { arrivals := acts.filterMap Act.arrival? }
      = ⟨[(broadcastId, ⟨.broadcast .loaderDiscovered, ⟨0, ""⟩⟩), (7, .request .ping ())],
        some (.payload (.unknownTypeId 999))⟩ := by
    decide +kernel
  obtain ⟨-, -, -, hthrough, -⟩ := routed_until_cut .catalog {} (List.forall_mem_nil _)
    (List.forall_mem_nil _) 0 [(broadcastId, .listener fun n _ => n + 10)]
    (some fun n _ => n + 1) (some fun _ n _ _ => (n, none)) none hacts
  rw [htotal] at hthrough
  obtain ⟨hrouted, hclosed⟩ := hthrough later hlater (by decide)
  refine ⟨?_, ?_, ?_, hclosed⟩
  · rw [hrouted.broadcasts]
    rfl
  · rw [hrouted.traffic]
    rfl
  · decide +kernel

end Side

end Parley
