/-
Frames: the unit of a stream.

A frame is a header of ten bytes (frame id, type id, payload length) and the
payload. The frame id ties a reply to its request; the id −1 belongs to
broadcasts. `Frame.bytes` is the written form, and `Frame.split?` takes the
first frame off a buffer, or says that it is not complete yet, or that its
header cannot be right.
-/
import Parley.Frame.Field

namespace Parley

/-- A frame whose payload is still encoded. -/
structure Frame where
  frameId : Int32
  typeId : Int16
  payload : Bytes
deriving DecidableEq

/-- The frame id of broadcasts. No request ever has it. -/
def broadcastId : Int32 := -1

/-- Limits on the frames of a stream. -/
structure FrameLimits where
  /-- The longest payload that is accepted or sent: 16 MiB unless told otherwise. -/
  maxPayload : Nat := 16 * 1024 * 1024
  /-- The capacity at which the buffers start. -/
  initialCapacity : Nat := Arena.defaultCapacity
deriving DecidableEq, Repr

namespace Frame

/-- The length of a header. -/
def headerSize : Nat := 10

def isBroadcast (f : Frame) : Bool := f.frameId == broadcastId

/-- The length of the written form. -/
def wireSize (f : Frame) : Nat := headerSize + f.payload.length

/-- The header of a frame with a payload of the given length. -/
def header (frameId : Int32) (typeId : Int16) (length : Int32) : Bytes :=
  Bytes.ofInt32 frameId ++ Bytes.ofInt16 typeId ++ Bytes.ofInt32 length

/-- The written form of a frame whose payload length fits its field. -/
def bytes (f : Frame) : Bytes :=
  header f.frameId f.typeId (Int32.ofNat f.payload.length) ++ f.payload

/-- Appends the written form of a frame to a buffer. -/
def appendTo (f : Frame) (buffer : Bytes) : Except FrameError Bytes :=
  if f.payload.length ≤ maxLength then .ok (buffer ++ f.bytes)
  else .error (.payloadTooLarge f.payload.length maxLength)

/-- The payload length that the header at the front of a buffer declares. -/
def declaredLength (buffer : Bytes) : Int32 :=
  Bytes.toInt32 ((buffer.drop 6).take 4)

/-- Takes the first frame off a buffer and yields it with the rest. Nothing is
yielded while the frame is not complete. -/
def split? (maxPayload : Nat) (buffer : Bytes) : Except FrameError (Option (Frame × Bytes)) :=
  if buffer.length < headerSize then .ok none
  else
    let declared := declaredLength buffer
    if declared < 0 then .error (.negativeLength declared)
    else
      let length := declared.toInt.toNat
      if maxPayload < length then .error (.payloadTooLarge length maxPayload)
      else
        let rest := buffer.drop headerSize
        if rest.length < length then .ok none
        else
          .ok (some (
            { frameId := Bytes.toInt32 (buffer.take 4)
              typeId := Bytes.toInt16 ((buffer.drop 4).take 2)
              payload := rest.take length },
            rest.drop length))

end Frame

end Parley
