/-
Sessions: channels at work.

A session is a channel with the state of its application, a clock, and the
calls that are under way. `Session.settle` lets everything happen that can
happen without the clock, in a fixed order: it is one of the orders in which
the workers may take their steps. Two sessions joined by a connection make a
`Link`.
-/
import Parley.Channel.Call
import Parley.Channel.Worker

namespace Parley

/-! ### Steps in bulk -/

namespace Channel

variable {σ : Type}

/-- Takes steps while there is something to do, at most `n` of them. -/
def steps (can : Channel σ → Bool) (step : Channel σ → Channel σ) : Nat → Channel σ → Channel σ
  | 0, c => c
  | n + 1, c => if can c then steps can step n (step c) else c

/-- The reader takes all that has arrived. -/
def readAll (c : Channel σ) : Channel σ :=
  c.steps canRead readStep (c.source.weight + c.reader.arena.length + 1)

/-- The writer writes all that is queued. -/
def writeAll (c : Channel σ) : Channel σ :=
  c.steps canWrite writeStep (2 * (c.queue.length + 1))

/-- The relay hands over all calls that are due. -/
def relayAll (c : Channel σ) : Channel σ :=
  c.steps (fun _ => true) relayStep c.events.length

/-- The first `n` calls in the pool finish in order. -/
def finishAll (app : σ) : Nat → Channel σ → Channel σ × σ
  | 0, c => (c, app)
  | n + 1, c =>
    let (c, app) := c.finish app 0
    finishAll app n c

end Channel

/-! ### Sessions -/

/-- The rounds after which everything that happens by itself has happened. -/
def roundLimit : Nat := 64

/-- How far a call has come. -/
inductive CallState
  | waiting (handle : ReplyHandle) (deadline : Nat)
  | ended (outcome : Except ChannelError Message)

/-- A call with its limit. -/
structure Call where
  limit : Duration
  state : CallState

/-- What a session keeps of something that was begun on its channel. -/
inductive Handle
  | write (handle : WriteHandle)
  | reply (handle : ReplyHandle)
  | call (index : Nat)

/-- What a look at a handle shows. -/
inductive Look
  /-- The handle has shown its outcome before, or it was given up. -/
  | gone
  | pending
  | written (outcome : Except ChannelError Nat)
  | replied (outcome : Except ChannelError Message)

/-- A channel at work. The clock and the deadlines of calls count nanoseconds. -/
structure Session (σ : Type) where
  channel : Channel σ
  app : σ
  now : Nat := 0
  calls : List Call := []
  /-- The handles in the order in which they were made, as long as they are of use. -/
  handles : List (Option Handle) := []

namespace Session

variable {σ : Type}

/-- Does something to the channel. -/
def act (s : Session σ) (f : Channel σ → α × Channel σ) : α × Session σ :=
  let (result, channel) := f s.channel
  (result, { s with channel })

/-- Keeps a handle and yields its number. -/
def keep (s : Session σ) (h : Handle) : Nat × Session σ :=
  (s.handles.length, { s with handles := s.handles ++ [some h] })

/-- Begins something on the channel and keeps its handle under a number. -/
def begin (s : Session σ) (f : Channel σ → Outcome σ α) (handle : α → Handle) :
    Except ChannelError (Nat × α) × Session σ :=
  match s.act f with
  | (.error e, s) => (.error e, s)
  | (.ok h, s) =>
    let (number, s) := s.keep (handle h)
    (.ok (number, h), s)

/-- Starts a call. One whose request is refused has ended. -/
def call (s : Session σ) (r : RequestType) (payload : r.Payload) (limit : Duration) : Session σ :=
  let (result, channel) := s.channel.request r payload
  let state := match result with
    | .ok h => .waiting h (s.now + limit.nanos)
    | .error e => .ended (.error e)
  { s with channel, calls := s.calls ++ [⟨limit, state⟩] }

/-- Starts a call and keeps its handle under a number. -/
def beginCall (s : Session σ) (r : RequestType) (payload : r.Payload) (limit : Duration) :
    Nat × Session σ :=
  (s.call r payload limit).keep (.call s.calls.length)

/-- What has come of a call. -/
def outcome? (s : Session σ) (index : Nat) : Option (Except ChannelError Message) :=
  match s.calls[index]? with
  | some ⟨_, .ended outcome⟩ => some outcome
  | _ => none

/-- Replaces a handle, or takes it away. -/
def setHandle (s : Session σ) (number : Nat) (h : Option Handle) : Session σ :=
  { s with handles := s.handles.set number h }

/-- Looks at a handle. An outcome is shown once. -/
def look (s : Session σ) (number : Nat) : Look × Session σ :=
  match s.handles[number]? with
  | some (some (.write h)) =>
    match s.channel.pollWrite h with
    | some outcome => (.written outcome, s.setHandle number none)
    | none => (.pending, s)
  | some (some (.reply h)) =>
    let (result, written, channel) := s.channel.pollReply h
    let s := { s with channel }
    match result with
    | some outcome =>
      (.replied (outcome.map (Message.reply h.expects)), s.setHandle number none)
    | none => (.pending, s.setHandle number (some (.reply { h with written })))
  | some (some (.call index)) =>
    match s.outcome? index with
    | some outcome => (.replied outcome, s.setHandle number none)
    | none => (.pending, s)
  | _ => (.gone, s)

/-- The numbers of the handles that are of use. -/
def openHandles (s : Session σ) : List Nat :=
  (List.range s.handles.length).filter fun n => (s.handles[n]?.join).isSome

/-- Gives a handle up. A call goes on without it. -/
def dropHandle (s : Session σ) (number : Nat) : Session σ :=
  let s := match s.handles[number]? with
    | some (some (.reply h)) => { s with channel := s.channel.dropReply h }
    | _ => s
  s.setHandle number none

/-- Looks at one call. Its time can be up only where `timed` says so. -/
def pollCall (s : Session σ) (timed : Bool) (index : Nat) : Session σ :=
  match s.calls[index]? with
  | some ⟨limit, .waiting h deadline⟩ =>
    let (result, written, channel) :=
      s.channel.pollCall h limit (timed && deadline ≤ s.now)
    let state := match result with
      | some result => .ended (result.map (Message.reply h.expects))
      | none => .waiting { h with written } deadline
    { s with channel, calls := s.calls.set index ⟨limit, state⟩ }
  | _ => s

/-- The calls whose time is up, in the order of their deadlines. -/
def expired (s : Session σ) : List Nat :=
  let due := s.calls.zipIdx.filterMap fun (call, index) =>
    match call.state with
    | .waiting _ deadline => if deadline ≤ s.now then some (deadline, index) else none
    | .ended _ => none
  (due.mergeSort fun a b => a.1 ≤ b.1).map (·.2)

/-- Looks at all calls, and then at those whose time is up. -/
def pollCalls (s : Session σ) : Session σ :=
  let polled := (List.range s.calls.length).foldl (·.pollCall false ·) s
  polled.expired.foldl (·.pollCall true ·) polled

/-- Each worker does all it can, once. -/
def round (s : Session σ) : Session σ :=
  let polled := { s with channel := s.channel.stop }.pollCalls
  let channel := polled.channel.stop.readAll.stop.writeAll.relayAll
  let (channel, app) := channel.finishAll polled.app channel.pool.length
  { polled with channel, app }.pollCalls

/-- Whether nothing happens until something arrives or time passes. -/
def quiet (s : Session σ) : Bool := s.channel.quiet

/-- At most `n` rounds, as long as something happens. -/
def rounds : Nat → Session σ → Session σ
  | 0, s => s
  | n + 1, s =>
    let s := s.round
    if s.quiet then s else rounds n s

/-- Lets everything happen that can. -/
def settle (s : Session σ) : Session σ := s.rounds roundLimit

/-- Lets time pass. -/
def advance (s : Session σ) (d : Duration) : Session σ := { s with now := s.now + d.nanos }

/-- What arrives next at the channel. -/
def arrive (s : Session σ) (a : Arrival) : Session σ :=
  { s with channel := { s.channel with source := s.channel.source.push a } }

/-- Takes away what the channel has written. -/
def collect (s : Session σ) : Bytes × Session σ :=
  (s.channel.sink.taken,
    { s with channel := { s.channel with sink := { s.channel.sink with taken := [] } } })

end Session

/-! ### Connections -/

/-- Two sessions joined by a connection. -/
structure Link (σ τ : Type) where
  near : Session σ
  far : Session τ
  /-- Whether each side has been told that the connection has ended. -/
  nearEnded : Bool := false
  farEnded : Bool := false

namespace Link

variable {σ τ : Type}

/-- Moves what one side has written to the other side, and behind it the end
of the connection once the first side has let go of its stream. Yields whether
the end has been moved. -/
def forward (sender : Session σ) (receiver : Session τ) (ended : Bool) :
    Session σ × Session τ × Bool :=
  let (bytes, sender) := sender.collect
  let receiver := if bytes.isEmpty then receiver else receiver.arrive (.data bytes)
  if sender.channel.streamDropped && !ended then (sender, receiver.arrive .ended, true)
  else (sender, receiver, ended)

/-- One round on each side, with what was written moved between them. -/
def round (l : Link σ τ) : Link σ τ :=
  let (near, far, farEnded) := forward l.near.round l.far l.farEnded
  let (far, near, nearEnded) := forward far.round near l.nearEnded
  { near, far, nearEnded, farEnded }

/-- Whether nothing happens on either side. -/
def quiet (l : Link σ τ) : Bool :=
  l.near.quiet && l.far.quiet && l.near.channel.sink.taken.isEmpty
    && (l.farEnded || !l.near.channel.streamDropped)

/-- At most `n` rounds, as long as something happens. -/
def rounds : Nat → Link σ τ → Link σ τ
  | 0, l => l
  | n + 1, l =>
    let l := l.round
    if l.quiet then l else rounds n l

/-- Lets everything happen that can. -/
def settle (l : Link σ τ) : Link σ τ := l.rounds roundLimit

/-- Lets time pass on both sides. -/
def advance (l : Link σ τ) (d : Duration) : Link σ τ :=
  { l with near := l.near.advance d, far := l.far.advance d }

end Link

end Parley
