/-
The workers of a channel, one step at a time.

Each worker does one thing in a step, and steps of different workers may come
in any order. A worker may stop once it has been told to; until it does, it may
still take steps. A failure of the stream or a message that does not belong on
its frame id closes the channel, and so nothing behind it is delivered.
-/
import Parley.Channel.Basic

namespace Parley.Channel

variable {σ : Type}

/-! ### Reading -/

/-- Broadcasts travel on the frame id of broadcasts and nothing else does. -/
def kindMatchesFrame (frameId : Int32) (kind : MessageKind) : Bool :=
  (frameId == broadcastId) == (kind == .broadcast)

/-- Something is at the other end of the event queue. -/
def takesEvents (c : Channel σ) : Bool := c.workbench == .held || c.relaying

/-- Queues calls of listeners. -/
def post (c : Channel σ) (jobs : List (Job σ)) : Channel σ :=
  if c.takesEvents then { c with events := c.events ++ jobs } else c

/-- Routes a message to its listeners. A broadcast goes to the listener for
broadcasts alone; any other message to what waits on its frame id, which
thereby waits no longer, and to the listener for all traffic. -/
def deliver (c : Channel σ) (frameId : Int32) (m : Message) : Channel σ :=
  if frameId = broadcastId then
    c.post (c.onBroadcast.toList.map fun l => .broadcast l m)
  else
    let response := (c.waiters.lookup frameId).toList.map fun w => Job.response w m
    let traffic := c.onTraffic.toList.map fun l => Job.traffic l frameId m
    (c.removeWaiter frameId).post (response ++ traffic)

/-- The reader ends and lets go of its half of the stream. -/
def endReading (c : Channel σ) : Channel σ := { c with reading := false }

/-- The reader takes the next message, if one has arrived. -/
def readStep (c : Channel σ) : Channel σ :=
  if c.reading then
    match c.reader.nextMessage c.registry c.source with
    | (.done (frameId, m), reader, source) =>
      let c := { c with reader, source }
      if kindMatchesFrame frameId m.kind then c.deliver frameId m else c.shutdown.2.endReading
    | (.failed _, reader, source) => { c with reader, source }.shutdown.2.endReading
    | (.pending, reader, source) => { c with reader, source }
  else c

/-! ### Writing -/

/-- The writer ends, and what it has not written is lost. -/
def endWriting (c : Channel σ) : Channel σ :=
  { c with writing := false, queue := [], current := none }

/-- Records what came of a write. A message that could not be encoded is
refused and the next one can follow; a failure of the stream closes the
channel. -/
def conclude (c : Channel σ) (w : PendingWrite) (result : Except FrameError Nat) : Channel σ :=
  match result with
  | .ok length =>
    let c := { c with current := none, outcomes := c.outcomes ++ [(w.ticket, Except.ok length)] }
    c.post (c.onWritten.toList.map fun l => .written l w.frameId w.message)
  | .error e =>
    if e.isTransportFailure then { c with current := none }.shutdown.2.endWriting
    else { c with current := none, outcomes := c.outcomes ++ [(w.ticket, Except.error e)] }

/-- Sends what is left of a frame. A sink that stalls leaves the rest for later. -/
def push (c : Channel σ) (out : Outgoing) : Channel σ :=
  match c.sink.write out.left with
  | (.pending, left, sink) => { c with sink, current := some { out with left } }
  | (.failed e, _, sink) => { c with sink }.conclude out.write (.error e)
  | (.done (), _, sink) =>
    match sink.flush with
    | (.failed e, sink) => { c with sink }.conclude out.write (.error e)
    | (_, sink) => { c with sink }.conclude out.write (.ok out.length)

/-- The writer goes on with the frame that is being written, or else encodes
the next message of the queue. -/
def writeStep (c : Channel σ) : Channel σ :=
  if c.writing then
    match c.current, c.queue with
    | some out, _ => c.push out
    | none, [] => c
    | none, w :: queue =>
      match c.writer.stage c.registry w.frameId w.message with
      | (.error e, writer) => { c with queue, writer }.conclude w (.error e)
      | (.ok length, writer) =>
        { c with queue, writer, current := some ⟨w, length, writer.arena.bytes⟩ }
  else c

/-! ### Calling listeners -/

/-- The relay ends, and the calls that it has not handed over are lost. -/
def endRelaying (c : Channel σ) : Channel σ := { c with relaying := false, events := [] }

/-- The relay hands the next call to the pool. -/
def relayStep (c : Channel σ) : Channel σ :=
  if c.relaying then
    match c.events with
    | [] => c
    | job :: events => { c with events, pool := c.pool ++ [job] }
  else c

/-- What a call does to the channel and to the application. An answer that
cannot be sent is lost. -/
def perform (c : Channel σ) (app : σ) : Job σ → Channel σ × σ
  | .response (.handle ticket) m => ({ c with replies := c.replies ++ [(ticket, m)] }, app)
  | .response (.listener run) m => (c, run app m)
  | .broadcast listener m => (c, listener app m)
  | .written listener frameId m => (c, listener app frameId m)
  | .traffic listener frameId m =>
    match listener c.registry app frameId m with
    | (app, none) => (c, app)
    | (app, some answer) => ((c.reply frameId answer).2, app)

/-- Takes one of the calls out of the pool. -/
def withoutJob (c : Channel σ) (index : Nat) : Channel σ :=
  { c with pool := c.pool.eraseIdx index }

/-- One of the calls in the pool finishes. -/
def finish (c : Channel σ) (app : σ) (index : Nat) : Channel σ × σ :=
  match c.pool[index]? with
  | some job => (c.withoutJob index).perform app job
  | none => (c, app)

/-! ### What there is to do -/

/-- The reader would not have to wait. -/
def canRead (c : Channel σ) : Bool :=
  c.reading && (c.source.unread != 0 || c.source.exhausted
    || !(Frame.split? c.config.limits.maxPayload c.reader.arena.bytes matches .ok none))

/-- The writer would not have to wait. -/
def canWrite (c : Channel σ) : Bool :=
  c.writing && match c.current with
    | some _ => !c.sink.stalled
    | none => !c.queue.isEmpty

/-- The workers have been told to stop and have not. -/
def canStop (c : Channel σ) : Bool := c.cancelled && (c.reading || c.writing || c.relaying)

/-- Nothing happens unless something arrives or is asked for. -/
def quiet (c : Channel σ) : Bool :=
  !(c.canRead || c.canWrite || c.canStop || (c.relaying && !c.events.isEmpty) || !c.pool.isEmpty)

/-! ### Stopping -/

/-- The workers that were told to stop do so. -/
def stop (c : Channel σ) : Channel σ :=
  if c.cancelled then
    match c.workbench with
    | .started => c.endReading.endWriting.endRelaying
    | _ => c
  else c

end Parley.Channel
