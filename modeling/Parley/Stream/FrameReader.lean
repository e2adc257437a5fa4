/-
Reading frames from a source.

A reader collects what the source delivers in an arena until a whole frame is
there. It reads only while the arena holds no complete frame and no header
that must be refused, and always with room for at least one chunk. Interrupted
reads are tried again; any other failure loses nothing that was collected.
-/
import Parley.Stream.Source
import Parley.Stream.Sink
import Parley.Registry

namespace Parley

/-- A reader of frames. -/
structure FrameReader where
  arena : Arena
  limits : FrameLimits
deriving DecidableEq

namespace FrameReader

/-- The room that every read has at least. -/
def chunkSize : Nat := 8 * 1024

/-- A reader that has collected nothing. -/
def ofLimits (limits : FrameLimits) : FrameReader :=
  ⟨.withCapacity limits.initialCapacity, limits⟩

/-- A reader with room for a read. -/
def prepared (r : FrameReader) : FrameReader :=
  { r with arena := r.arena.ensureWritable chunkSize }

/-- A reader that has collected more bytes. -/
def collect (r : FrameReader) (bs : Bytes) : FrameReader :=
  { r with arena := r.arena.fill bs }

/-- A reader after the first bytes it collected have become a frame. -/
def consume (r : FrameReader) (frame : Frame) : FrameReader :=
  { r with arena := r.arena.consume frame.wireSize }

/-- The next frame, and what the reader and the source are after it. -/
def next (r : FrameReader) (src : Source) : Progress Frame × FrameReader × Source :=
  match Frame.split? r.limits.maxPayload r.arena.bytes with
  | .error e => (.failed e, r, src)
  | .ok (some (frame, _)) => (.done frame, r.consume frame, src)
  | .ok none =>
    match _hread : src.read r.prepared.arena.room with
    | (.pending, src') => (.pending, r.prepared, src')
    | (.failed e, src') =>
      if e.kind = .interrupted then next r.prepared src' else (.failed (.io e), r.prepared, src')
    | (.received bs, src') =>
      if _hne : bs = [] then (.failed .connectionClosed, r.prepared, src')
      else next (r.prepared.collect bs) src'
termination_by src.weight
decreasing_by
  · exact Source.weight_read_failed _hread
  · exact Source.weight_read_received _hread _hne

/-- The next message with its frame id. A frame that does not decode has been
consumed. -/
def nextMessage (r : FrameReader) (registry : Registry) (src : Source) :
    Progress (Int32 × Message) × FrameReader × Source :=
  match r.next src with
  | (.done frame, r, src) =>
    match frame.decode registry with
    | .ok m => (.done (frame.frameId, m), r, src)
    | .error e => (.failed e, r, src)
  | (.failed e, r, src) => (.failed e, r, src)
  | (.pending, r, src) => (.pending, r, src)

end FrameReader

end Parley
