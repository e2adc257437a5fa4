/-
Channels: one side of a conversation over one connection.

A channel writes messages in the order in which they were queued, ties each
reply to its request by the frame id, and hands what arrives to its listeners.
It has three workers: the reader takes messages from the source, the writer
puts queued messages into the sink, and the relay hands the calls of listeners
to a pool, where they finish in any order.

Listeners act on the state of the application, whose type is the parameter
`σ`. This module holds what a channel is and what can be asked of it; the
workers are in the module of their steps.
-/
import Parley.Channel.Error
import Parley.Stream.FrameReader
import Parley.Stream.FrameWriter

namespace Parley

/-- The stages in the life of a channel, of which the last is final. -/
inductive Lifecycle
  | created
  | running
  | closed
deriving DecidableEq, Repr

/-- The name of a stage. -/
def Lifecycle.name : Lifecycle → String
  | created => "Created"
  | running => "Running"
  | closed => "Closed"

/-- The settings of a channel. -/
structure ChannelConfig where
  limits : FrameLimits := {}
  /-- How long a call waits for its reply unless told otherwise. -/
  replyTimeout : Duration := .ofMillis 5000
deriving DecidableEq

/-- Where the halves of the stream and the receiving ends of the queues are
that the workers need. -/
inductive Workbench
  | held
  /-- The workers have them. -/
  | started
  /-- The channel was closed before it was started. -/
  | dropped
deriving DecidableEq, Repr

/-- What waits for the next message on a frame id. -/
inductive Waiter (σ : Type)
  /-- The message is kept for the handle of a request. -/
  | handle (ticket : Nat)
  | listener (run : σ → Message → σ)

/-- The ticket of the handle that waits, if it is one. -/
def Waiter.ticket? : Waiter σ → Option Nat
  | handle t => some t
  | listener _ => none

/-- Acts on every broadcast. -/
abbrev BroadcastListener (σ : Type) := σ → Message → σ

/-- Acts on every other message, given its frame id, and may answer it. -/
abbrev TrafficListener (σ : Type) := Registry → σ → Int32 → Message → σ × Option Message

/-- Acts on every message that was written, given its frame id. -/
abbrev WriteListener (σ : Type) := σ → Int32 → Message → σ

/-- A call of a listener that is due. -/
inductive Job (σ : Type)
  | response (waiter : Waiter σ) (message : Message)
  | broadcast (listener : BroadcastListener σ) (message : Message)
  | traffic (listener : TrafficListener σ) (frameId : Int32) (message : Message)
  | written (listener : WriteListener σ) (frameId : Int32) (message : Message)

/-- The ticket for whose handle a job carries the reply. -/
def Job.ticket? : Job σ → Option Nat
  | response (.handle t) _ => some t
  | _ => none

/-- A message that waits to be written. The ticket is how its handle knows it. -/
structure PendingWrite where
  ticket : Nat
  frameId : Int32
  message : Message
deriving DecidableEq

/-- A message that is being written. -/
structure Outgoing where
  write : PendingWrite
  /-- The length of its payload. -/
  length : Nat
  /-- The bytes of its frame that the sink has not taken. -/
  left : Bytes
deriving DecidableEq

/-- One side of a conversation. -/
structure Channel (σ : Type) where
  registry : Registry
  config : ChannelConfig
  lifecycle : Lifecycle := .created
  /-- Whether the workers have been told to stop. -/
  cancelled : Bool := false
  nextFrameId : Nat := 0
  nextTicket : Nat := 0
  /-- What waits for replies, by frame id. -/
  waiters : List (Int32 × Waiter σ) := []
  onBroadcast : Option (BroadcastListener σ) := none
  onTraffic : Option (TrafficListener σ) := none
  onWritten : Option (WriteListener σ) := none
  workbench : Workbench := .held
  /-- Whether the reader, the writer and the relay are at work. -/
  reading : Bool := false
  writing : Bool := false
  relaying : Bool := false
  reader : FrameReader
  source : Source
  queue : List PendingWrite := []
  current : Option Outgoing := none
  writer : FrameWriter
  sink : Sink
  /-- The calls of listeners that wait for the relay. -/
  events : List (Job σ) := []
  /-- The calls of listeners that the relay has handed to the pool. -/
  pool : List (Job σ) := []
  /-- What came of each write, by ticket. -/
  outcomes : List (Nat × Except FrameError Nat) := []
  /-- The replies kept for the handles of requests, by ticket. -/
  replies : List (Nat × Message) := []

/-- Stands for a queued message. -/
structure WriteHandle where
  ticket : Nat
  frameId : Int32
deriving DecidableEq, Repr

/-- Stands for a request and the reply to it. -/
structure ReplyHandle where
  ticket : Nat
  frameId : Int32
  expects : RequestType
  /-- Whether a poll has found the request written. -/
  written : Bool := false
  /-- Whether a poll has found what came of the request, or the handle was given
  up. It is of no use any more. -/
  settled : Bool := false
deriving DecidableEq, Repr

/-- What an operation on a channel yields, and the channel after it. -/
abbrev Outcome (σ α : Type) := Except ChannelError α × Channel σ

namespace Channel

variable {σ : Type}

/-- A channel over a source and a sink. Nothing is read or written before it
is started. -/
def create (registry : Registry) (config : ChannelConfig) (source : Source) (sink : Sink) :
    Channel σ where
  registry
  config
  reader := .ofLimits config.limits
  source
  writer := .ofLimits config.limits
  sink

/-- A channel is open until it is closed, whether it was started or not. -/
def isOpen (c : Channel σ) : Bool := c.lifecycle != .closed

/-- Both halves of the stream have been let go. -/
def streamDropped (c : Channel σ) : Bool :=
  match c.workbench with
  | .held => false
  | .started => !c.reading && !c.writing
  | .dropped => true

/-- How many frame ids wait for a reply. -/
def pendingReplies (c : Channel σ) : Nat := c.waiters.length

def hasWaiter (c : Channel σ) (frameId : Int32) : Bool := (c.waiters.lookup frameId).isSome

/-! ### Closing

A channel closes in four steps, and other operations may come between them.
-/

/-- The first step makes the channel closed. It is taken once. -/
def flip (c : Channel σ) : Channel σ := { c with lifecycle := .closed }

/-- The second step tells the workers to stop. -/
def cancel (c : Channel σ) : Channel σ := { c with cancelled := true }

/-- The third step takes back all that waits for replies. -/
def clearWaiters (c : Channel σ) : Channel σ := { c with waiters := [] }

/-- The last step lets go of the stream and the queues if no worker has them. -/
def clearWorkbench (c : Channel σ) : Channel σ :=
  match c.workbench with
  | .held => { c with workbench := .dropped, queue := [], events := [] }
  | _ => c

/-- Closes a channel. Yields whether it was open. -/
def shutdown (c : Channel σ) : Bool × Channel σ :=
  if c.isOpen then (true, c.flip.cancel.clearWaiters.clearWorkbench) else (false, c)

/-! ### Starting -/

/-- The first step of a start claims a channel that was not started before.
Yields whether it did. -/
def claimStart (c : Channel σ) : Outcome σ Bool :=
  match c.lifecycle with
  | .created => (.ok true, { c with lifecycle := .running })
  | .running => (.ok false, c)
  | .closed => (.error .closed, c)

/-- The second step sets the workers to work, unless the channel was closed in
between. -/
def launch (c : Channel σ) : Channel σ :=
  match c.workbench with
  | .held =>
    { c with workbench := .started, reading := true, writing := true, relaying := true }
  | _ => c

/-- Starts a channel. A second start does nothing, and without a runtime none
succeeds. -/
def start (c : Channel σ) (runtime : Bool) : Outcome σ Unit :=
  if runtime then
    match c.claimStart with
    | (.ok true, c) => (.ok (), c.launch)
    | (.ok false, c) => (.ok (), c)
    | (.error e, c) => (.error e, c)
  else (.error .noRuntime, c)

/-! ### Waiting for replies

A waiter is added in three steps, and the channel may be closed between them.
-/

/-- The first step and the last one: whether the channel is open. -/
def checkOpen (c : Channel σ) : Except ChannelError Unit :=
  if c.isOpen then .ok () else .error .closed

/-- Takes back what waits on a frame id. -/
def removeWaiter (c : Channel σ) (frameId : Int32) : Channel σ :=
  { c with waiters := c.waiters.filter (·.1 ≠ frameId) }

/-- The second step adds the waiter unless another one is there. -/
def insertWaiter (c : Channel σ) (frameId : Int32) (w : Waiter σ) : Outcome σ Unit :=
  if c.hasWaiter frameId then (.error (.listenerExists frameId), c)
  else (.ok (), { c with waiters := c.waiters ++ [(frameId, w)] })

/-- The last step takes the waiter back if the channel was closed meanwhile. -/
def confirmWaiter (c : Channel σ) (frameId : Int32) : Outcome σ Unit :=
  match c.checkOpen with
  | .ok () => (.ok (), c)
  | .error e => (.error e, c.removeWaiter frameId)

/-- Adds a waiter for the next message on a frame id. -/
def addWaiter (c : Channel σ) (frameId : Int32) (w : Waiter σ) : Outcome σ Unit :=
  match c.checkOpen with
  | .error e => (.error e, c)
  | .ok () =>
    match c.insertWaiter frameId w with
    | (.error e, c) => (.error e, c)
    | (.ok (), c) => c.confirmWaiter frameId

/-- Adds a listener for the next message on a frame id. -/
def addResponseListener (c : Channel σ) (frameId : Int32) (run : σ → Message → σ) :
    Outcome σ Unit :=
  c.addWaiter frameId (.listener run)

/-! ### Sending -/

/-- The largest frame id plus one: ids are below it. -/
def frameIdLimit : Nat := 0x7fffffff

/-- The next frame id. Ids count up from zero and none is given twice. -/
def takeFrameId (c : Channel σ) : Outcome σ Int32 :=
  if c.nextFrameId < frameIdLimit then
    (.ok (Int32.ofNat c.nextFrameId), { c with nextFrameId := c.nextFrameId + 1 })
  else (.error .frameIdsExhausted, c)

/-- A message can be sent if its type is registered and the channel is open. -/
def checkSend (c : Channel σ) (m : Message) : Except ChannelError Unit :=
  match c.registry.lookupFor m with
  | .error e => .error (.frame e)
  | .ok _ => c.checkOpen

/-- Whether something is at the other end of the write queue. -/
def takesWrites (c : Channel σ) : Bool := c.workbench == .held || c.writing

/-- The next ticket. -/
def takeTicket (c : Channel σ) : Nat × Channel σ :=
  (c.nextTicket, { c with nextTicket := c.nextTicket + 1 })

/-- Queues a message. -/
def enqueue (c : Channel σ) (w : PendingWrite) : Outcome σ WriteHandle :=
  if c.takesWrites then (.ok ⟨w.ticket, w.frameId⟩, { c with queue := c.queue ++ [w] })
  else (.error .closed, c)

/-- Queues a message: a broadcast on the id of broadcasts, and any other
message on an id of its own. -/
def write (c : Channel σ) (m : Message) : Outcome σ WriteHandle :=
  match c.checkSend m with
  | .error e => (.error e, c)
  | .ok () =>
    if m.kind = .broadcast then
      let (ticket, c) := c.takeTicket
      c.enqueue ⟨ticket, broadcastId, m⟩
    else
      match c.takeFrameId with
      | (.error e, c) => (.error e, c)
      | (.ok frameId, c) =>
        let (ticket, c) := c.takeTicket
        c.enqueue ⟨ticket, frameId, m⟩

/-- A reply goes on the frame id of a request. -/
def checkReply (frameId : Int32) (m : Message) : Except ChannelError Unit :=
  if frameId = broadcastId ∨ m.kind ≠ .reply then .error (.invalidReply m.typeName frameId)
  else .ok ()

/-- Queues a reply on the frame id of the request that it answers. -/
def reply (c : Channel σ) (frameId : Int32) (m : Message) : Outcome σ WriteHandle :=
  match checkReply frameId m with
  | .error e => (.error e, c)
  | .ok () =>
    match c.checkSend m with
    | .error e => (.error e, c)
    | .ok () =>
      let (ticket, c) := c.takeTicket
      c.enqueue ⟨ticket, frameId, m⟩

/-- Queues a request on an id of its own, with its handle waiting for the
reply before the request can be written. -/
def request (c : Channel σ) (r : RequestType) (payload : r.Payload) : Outcome σ ReplyHandle :=
  let m := Message.request r payload
  match c.checkSend m with
  | .error e => (.error e, c)
  | .ok () =>
    match c.takeFrameId with
    | (.error e, c) => (.error e, c)
    | (.ok frameId, c) =>
      let (ticket, c) := c.takeTicket
      match c.addWaiter frameId (.handle ticket) with
      | (.error e, c) => (.error e, c)
      | (.ok (), c) =>
        match c.enqueue ⟨ticket, frameId, m⟩ with
        | (.error e, c) => (.error e, c.removeWaiter frameId)
        | (.ok w, c) => (.ok { ticket := w.ticket, frameId := w.frameId, expects := r }, c)

/-! ### Polling -/

/-- A write is under way: it waits in the queue or is being written. -/
def holdsWrite (c : Channel σ) (ticket : Nat) : Bool :=
  c.queue.any (·.ticket == ticket) || c.current.any (·.write.ticket == ticket)

/-- A reply can still come: its handle waits for it, or the reply is on its
way to the handle. -/
def holdsReply (c : Channel σ) (ticket : Nat) : Bool :=
  c.waiters.any (·.2.ticket? == some ticket)
    || (c.events ++ c.pool).any (·.ticket? == some ticket)

/-- What came of a queued message, or nothing while it is under way: the
length of its payload, or why it was not written. -/
def pollWrite (c : Channel σ) (h : WriteHandle) : Option (Except ChannelError Nat) :=
  match c.outcomes.lookup h.ticket with
  | some (.ok n) => some (.ok n)
  | some (.error e) => some (.error (.frame e))
  | none => if c.holdsWrite h.ticket then none else some (.error .closed)

/-- The reply that a request expects, made of the message that came. -/
def typedReply (r : RequestType) : Message → Except ChannelError r.Reply
  | ⟨.reply r', payload⟩ =>
    if h : r' = r then .ok (h ▸ payload)
    else .error (.unexpectedReply (MessageType.reply r).name (MessageType.reply r').name)
  | ⟨.failure, f⟩ => .error (.remote f.requestType f.message)
  | m => .error (.unexpectedReply (MessageType.reply r).name m.typeName)

/-- The reply to a request that is written or still being written, or nothing
while it can come. -/
def pollArrival (c : Channel σ) (h : ReplyHandle) : Option (Except ChannelError h.expects.Reply) :=
  match c.replies.lookup h.ticket with
  | some m => some (typedReply h.expects m)
  | none => if c.holdsReply h.ticket then none else some (.error .closed)

/-- What came of a request, or nothing while its reply can come. A request
that could not be written waits no longer, and the handle remembers one that
was. -/
def pollReply (c : Channel σ) (h : ReplyHandle) :
    Option (Except ChannelError h.expects.Reply) × Bool × Channel σ :=
  if h.written then (c.pollArrival h, true, c)
  else
    match c.pollWrite ⟨h.ticket, h.frameId⟩ with
    | some (.ok _) => (c.pollArrival h, true, c)
    | some (.error e) => (some (.error e), false, c.removeWaiter h.frameId)
    | none => (c.pollArrival h, false, c)

/-- Drops a handle, and gives its request up if it is not settled. -/
def dropReply (c : Channel σ) (h : ReplyHandle) : Channel σ :=
  if h.settled then c else c.removeWaiter h.frameId

/-! ### Listings -/

/-- A channel as listings show it, under the id that it has there. -/
def describe (c : Channel σ) (id : String) : String :=
  "Channel \x7b id: " ++ id ++ ", state: " ++ c.lifecycle.name ++ ", pending_replies: "
    ++ toString c.pendingReplies ++ " \x7d"

end Channel

/-- A handle as listings show it. -/
def ReplyHandle.describe (h : ReplyHandle) : String :=
  "ReplyResult \x7b frame_id: " ++ toString h.frameId.toInt ++ ", expects: "
    ++ Text.quoted (MessageType.reply h.expects).name ++ ", written: " ++ toString h.written
    ++ " \x7d"

end Parley
