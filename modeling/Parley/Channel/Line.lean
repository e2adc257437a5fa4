/-
Channels at work in any order.

A side is a channel with the state of its application and the calls that are
under way on it. Whatever can happen to it next is an act: a call is made or
takes a step, a worker takes a step, a call of a listener finishes, a handle is
looked at, something arrives. Acts come in any order, and one that cannot
happen changes nothing. A line is two sides with a connection between them,
which carries what one side has written to the other in pieces of any size.

A side also remembers what was said: the messages that it took for writing,
those that its reader delivered, and the answers that its listener gave.
-/
import Parley.Channel.Errand
import Parley.Channel.Worker

namespace Parley

/-- A request that was queued, and the handle that waits for the reply to it. -/
structure Asked where
  handle : ReplyHandle
  payload : handle.expects.Payload
deriving DecidableEq

/-- The request with what its handle now remembers. -/
def Asked.mark (a : Asked) (written settled : Bool) : Asked :=
  ⟨{ a.handle with written, settled }, a.payload⟩

/-- A message that the listener for all traffic has answered. -/
structure Answered (σ : Type) where
  frameId : Int32
  message : Message
  /-- The state of the application at the time. -/
  app : σ
  answer : Message

/-- A channel at work. -/
structure Side (σ : Type) where
  channel : Channel σ
  app : σ
  /-- The calls under way, with what each does next. -/
  errands : List (Order × Stage) := []
  asked : List Asked := []
  accepted : List PendingWrite := []
  delivered : List (Int32 × Message) := []
  answered : List (Answered σ) := []

namespace Side

variable {σ : Type}

/-- What can happen next. -/
inductive Act (σ : Type)
  | call (order : Order)
  /-- One of the calls under way takes a step. -/
  | advance (index : Nat)
  | listen (frameId : Int32) (run : σ → Message → σ)
  | onBroadcast (listener : BroadcastListener σ)
  | onTraffic (listener : TrafficListener σ)
  | onWritten (listener : WriteListener σ)
  | poll (index : Nat)
  | forget (index : Nat)
  | read
  | write
  | relay
  | finish (index : Nat)
  | arrive (arrival : Arrival)
  /-- The sink takes bytes again. -/
  | release
  /-- The steps in which a channel is closed. -/
  | flip
  | cancel
  | clearWaiters
  | clearWorkbench
  /-- A worker that was told to stop does so. -/
  | endReading
  | endWriting
  | endRelaying

/-- A channel of the catalog that was started and has done nothing yet. Its sink
follows scripts. -/
def opened (config : ChannelConfig) (writes : List WriteTurn) (flushes : List FlushTurn)
    (app : σ) : Side σ where
  channel := ((Channel.create .catalog config {} { writes, flushes }).start true).2
  app

/-- Does something to the channel. -/
def onChannel (s : Side σ) (f : Channel σ → Channel σ) : Side σ :=
  { s with channel := f s.channel }

/-- What a step of a call has led to. A call that has ended is under way no longer. -/
def proceed (s : Side σ) (index : Nat) (order : Order) (channel : Channel σ) : Advance → Side σ
  | .next stage => { s with channel, errands := s.errands.set index (order, stage) }
  | .ended (.error _) => { s with channel, errands := s.errands.eraseIdx index }
  | .ended (.ok w) =>
    { s with
      channel
      errands := s.errands.eraseIdx index
      accepted := s.accepted ++ [⟨w.ticket, w.frameId, order.message⟩]
      asked := match order with
        | .request r payload =>
          s.asked ++ [⟨{ ticket := w.ticket, frameId := w.frameId, expects := r }, payload⟩]
        | _ => s.asked }

/-- A call that is under way takes a step. -/
def advance (s : Side σ) (index : Nat) : Side σ :=
  match s.errands[index]? with
  | none => s
  | some (order, stage) =>
    let (advance, channel) := s.channel.advance order stage
    s.proceed index order channel advance

/-- The handle of a number, unless it is settled. -/
def open? (s : Side σ) (index : Nat) : Option Asked :=
  s.asked[index]?.filter fun a => !a.handle.settled

theorem open?_eq_some {s : Side σ} {index : Nat} {a : Asked} :
    s.open? index = some a ↔ s.asked[index]? = some a ∧ a.handle.settled = false := by
  rw [open?, Option.filter_eq_some_iff, Bool.not_eq_true']

/-- Looks at one of the handles. What is settled is not looked at again. -/
def poll (s : Side σ) (index : Nat) : Side σ :=
  match s.open? index with
  | none => s
  | some a =>
    let (result, written, channel) := s.channel.pollReply a.handle
    { s with channel, asked := s.asked.set index (a.mark written result.isSome) }

/-- Drops one of the handles. -/
def forget (s : Side σ) (index : Nat) : Side σ :=
  match s.asked[index]? with
  | none => s
  | some a =>
    { s with
      channel := s.channel.dropReply a.handle
      asked := s.asked.set index (a.mark a.handle.written true) }

/-- The message that the reader delivers in its next step, if it delivers one. -/
def incoming (c : Channel σ) : Option (Int32 × Message) :=
  if c.reading then
    match c.reader.nextMessage c.registry c.source with
    | (.done (frameId, m), _, _) =>
      if Channel.kindMatchesFrame frameId m.kind then some (frameId, m) else none
    | _ => none
  else none

/-- The reader takes a step. -/
def read (s : Side σ) : Side σ :=
  { s.onChannel Channel.readStep with delivered := s.delivered ++ (incoming s.channel).toList }

/-- One of the calls in the pool finishes. An answer becomes a call to reply. -/
def finish (s : Side σ) (index : Nat) : Side σ :=
  match s.channel.pool[index]? with
  | none => s
  | some job =>
    let s := s.onChannel (·.withoutJob index)
    match job with
    | .traffic listener frameId m =>
      match listener s.channel.registry s.app frameId m with
      | (app, none) => { s with app }
      | (app, some answer) =>
        { s with
          app
          errands := s.errands ++ [(.reply frameId answer, .check)]
          answered := s.answered ++ [⟨frameId, m, s.app, answer⟩] }
    | job =>
      let (channel, app) := s.channel.perform s.app job
      { s with channel, app }

/-- What an act does. -/
def step (s : Side σ) : Act σ → Side σ
  | .call order => { s with errands := s.errands ++ [(order, .check)] }
  | .advance index => s.advance index
  | .listen frameId run => s.onChannel fun c => (c.addResponseListener frameId run).2
  | .onBroadcast listener => s.onChannel fun c => { c with onBroadcast := some listener }
  | .onTraffic listener => s.onChannel fun c => { c with onTraffic := some listener }
  | .onWritten listener => s.onChannel fun c => { c with onWritten := some listener }
  | .poll index => s.poll index
  | .forget index => s.forget index
  | .read => s.read
  | .write => s.onChannel Channel.writeStep
  | .relay => s.onChannel Channel.relayStep
  | .finish index => s.finish index
  | .arrive a => s.onChannel fun c => { c with source := c.source.push a }
  | .release => s.onChannel fun c => { c with sink := c.sink.release }
  | .flip => s.onChannel Channel.flip
  | .cancel => s.onChannel Channel.cancel
  | .clearWaiters => s.onChannel Channel.clearWaiters
  | .clearWorkbench => s.onChannel Channel.clearWorkbench
  | .endReading => s.onChannel fun c => if c.cancelled then c.endReading else c
  | .endWriting => s.onChannel fun c => if c.cancelled then c.endWriting else c
  | .endRelaying => s.onChannel fun c => if c.cancelled then c.endRelaying else c

/-- A call of a listener that finishes does what `Channel.finish` does, apart from
an answer, which becomes a call to reply. -/
theorem finish_eq (s : Side σ) (index : Nat) :
    (s.finish index).app = (s.channel.finish s.app index).2 ∧
      ((s.finish index).errands = s.errands ∧
          (s.finish index).channel = (s.channel.finish s.app index).1 ∨
        ∃ frameId answer,
          (s.finish index).errands = s.errands ++ [(.reply frameId answer, .check)] ∧
            ((s.finish index).channel.reply frameId answer).2
              = (s.channel.finish s.app index).1) := by
  rw [finish, Channel.finish]
  cases s.channel.pool[index]? with
  | none => exact ⟨rfl, Or.inl ⟨rfl, rfl⟩⟩
  | some job =>
      cases job with
      | traffic listener frameId m =>
          dsimp only [Channel.perform, onChannel, Channel.withoutJob]
          generalize listener s.channel.registry s.app frameId m = outcome
          obtain ⟨app, answer⟩ := outcome
          cases answer with
          | none => exact ⟨rfl, Or.inl ⟨rfl, rfl⟩⟩
          | some answer => exact ⟨rfl, Or.inr ⟨frameId, answer, rfl, rfl⟩⟩
      | response | broadcast | written => exact ⟨rfl, Or.inl ⟨rfl, rfl⟩⟩

end Side

/-- Two sides joined by a connection. -/
structure Line (σ τ : Type) where
  near : Side σ
  far : Side τ

namespace Line

variable {σ τ : Type}

/-- What can happen next. -/
inductive Act (σ τ : Type)
  | near (act : Side.Act σ)
  | far (act : Side.Act τ)
  /-- At most so many of the bytes that one side has written arrive at the other. -/
  | carry (count : Nat)
  | carryBack (count : Nat)
  /-- The end of the connection arrives behind all bytes. -/
  | hangUp
  | hangUpBack

/-- Moves bytes from one side to the other. -/
def move (count : Nat) (sender : Side σ) (receiver : Side τ) : Side σ × Side τ :=
  let sink := sender.channel.sink
  let bytes := sink.taken.take count
  if bytes = [] then (sender, receiver)
  else
    (sender.onChannel fun c => { c with sink := { sink with taken := sink.taken.drop count } },
      receiver.step (.arrive (.data bytes)))

/-- Tells one side that the other has let go of the connection. -/
def tell (sender : Side σ) (receiver : Side τ) : Side τ :=
  if sender.channel.streamDropped ∧ sender.channel.sink.taken = [] then
    receiver.step (.arrive .ended)
  else receiver

/-- What an act does. -/
def step (l : Line σ τ) : Act σ τ → Line σ τ
  | .near act => { l with near := l.near.step act }
  | .far act => { l with far := l.far.step act }
  | .carry count =>
    let (near, far) := move count l.near l.far
    { near, far }
  | .carryBack count =>
    let (far, near) := move count l.far l.near
    { near, far }
  | .hangUp => { l with far := tell l.near l.far }
  | .hangUpBack => { l with near := tell l.far l.near }

/-- What a sequence of acts leads to. -/
def run (l : Line σ τ) (acts : List (Act σ τ)) : Line σ τ := acts.foldl step l

end Line

end Parley
