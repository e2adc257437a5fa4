/-
Writing frames to a sink.

A writer assembles each frame in its own arena and sends it in full before the
next one. A message that cannot be encoded leaves the sink as it was; what it
left in the arena is cleared before the next frame is assembled.
-/
import Parley.Stream.Sink
import Parley.Registry

namespace Parley

/-- A writer of frames. -/
structure FrameWriter where
  arena : Arena
  limits : FrameLimits
deriving DecidableEq

namespace FrameWriter

/-- A writer that has assembled nothing. -/
def ofLimits (limits : FrameLimits) : FrameWriter :=
  ⟨.withCapacity limits.initialCapacity, limits⟩

/-- Assembles a message as the next frame to be sent. Yields the length of its
payload. -/
def stage (w : FrameWriter) (registry : Registry) (frameId : Int32) (m : Message) :
    Except FrameError Nat × FrameWriter :=
  let (result, arena) := w.arena.clear.appendMessage registry w.limits.maxPayload frameId m
  (result, { w with arena })

/-- Sends bytes and flushes. -/
def send (bs : Bytes) (sink : Sink) : Progress Unit × Sink :=
  match sink.write bs with
  | (.done (), _, sink) => sink.flush
  | (.failed e, _, sink) => (.failed e, sink)
  | (.pending, _, sink) => (.pending, sink)

/-- Writes a message as one frame. Yields the length of its payload. -/
def writeMessage (w : FrameWriter) (registry : Registry) (frameId : Int32) (m : Message)
    (sink : Sink) : Progress Nat × FrameWriter × Sink :=
  match w.stage registry frameId m with
  | (.error e, w) => (.failed e, w, sink)
  | (.ok length, w) =>
    match send w.arena.bytes sink with
    | (.done (), sink) => (.done length, w, sink)
    | (.failed e, sink) => (.failed e, w, sink)
    | (.pending, sink) => (.pending, w, sink)

/-- Writes a frame whose payload is encoded already. -/
def writeFrame (w : FrameWriter) (frame : Frame) (sink : Sink) :
    Progress Unit × FrameWriter × Sink :=
  if w.limits.maxPayload < frame.payload.length then
    (.failed (.payloadTooLarge frame.payload.length w.limits.maxPayload), w, sink)
  else
    let arena := w.arena.clear.ensureWritable frame.wireSize
    match frame.appendTo arena.bytes with
    | .error e => (.failed e, { w with arena }, sink)
    | .ok bs =>
      let w := { w with arena := { arena with bytes := bs } }
      let (progress, sink) := send w.arena.bytes sink
      (progress, w, sink)

end FrameWriter

end Parley
