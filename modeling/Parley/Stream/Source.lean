/-
Byte sources that deliver what a script says.

A source stands for the receiving half of a connection. What arrives is a list
of events in order: data, the end of the stream, or an error. A read meets one
of them, and takes of data only as much as there is room for; the rest is there
for the next read. Behind the last event a source either has nothing yet or has
ended for good.
-/
import Parley.IoError
import Parley.Bytes

namespace Parley

/-- One thing that a read can meet. -/
inductive Arrival
  | data (bytes : Bytes)
  /-- A read of no bytes, which is how the end of a stream shows. -/
  | ended
  | failed (error : IoError)
deriving DecidableEq

/-- A byte source. -/
structure Source where
  /-- The rest of data that was delivered in part. -/
  rest : Bytes := []
  /-- What arrives after it, in order. -/
  arrivals : List Arrival := []
  /-- Whether the stream has ended behind the last arrival. -/
  exhausted : Bool := false
deriving DecidableEq

/-- What a single read yields. -/
inductive ReadResult
  | received (bytes : Bytes)
  | failed (error : IoError)
  /-- Nothing has arrived yet. -/
  | pending
deriving DecidableEq

/-- A measure of what there is to read of an arrival. -/
def Arrival.weight : Arrival → Nat
  | data bs => bs.length + 1
  | _ => 1

/-- A measure of what there is to read of some arrivals. -/
def Arrival.weightAll : List Arrival → Nat
  | [] => 0
  | a :: later => a.weight + weightAll later

namespace Source

/-- A measure of what there is left to read. -/
def weight (s : Source) : Nat :=
  s.rest.length + Arrival.weightAll s.arrivals

/-- Delivers data into the room there is. -/
def deliver (s : Source) (bs : Bytes) (room : Nat) : ReadResult × Source :=
  (.received (bs.take room), { s with rest := bs.drop room })

/-- Reads once, with room for the given number of bytes. -/
def read (s : Source) (room : Nat) : ReadResult × Source :=
  if s.rest ≠ [] then s.deliver s.rest room
  else match s.arrivals with
    | [] => (if s.exhausted then .received [] else .pending, s)
    | .ended :: later => (.received [], { s with arrivals := later })
    | .failed e :: later => (.failed e, { s with arrivals := later })
    | .data bs :: later => { s with arrivals := later }.deliver bs room

/-- Adds an arrival behind the others. -/
def push (s : Source) (a : Arrival) : Source :=
  { s with arrivals := s.arrivals ++ [a] }

/-- Adds bytes that arrive in pieces of the given size, the last of which may be smaller. -/
def pushPieces (s : Source) (size : Nat) (bs : Bytes) : Source :=
  let starts := (List.range bs.length).filter (· % size = 0)
  starts.foldl (fun s start => s.push (.data ((bs.drop start).take size))) s

/-- How much has not been read: the arrivals not met yet, and the bytes left of
the one that was delivered in part. -/
def unread (s : Source) : Nat := s.arrivals.length + s.rest.length

/-- A read that fails takes an arrival away. -/
theorem weight_read_failed {s s' : Source} {room : Nat} {e : IoError}
    (h : s.read room = (.failed e, s')) : s'.weight < s.weight := by
  unfold read at h
  split at h
  · simp [deliver] at h
  · split at h
    · simp only [Prod.mk.injEq] at h
      split at h <;> simp at h
    · simp at h
    · next ha =>
      simp only [Prod.mk.injEq] at h
      simp [← h.2, weight, ha, Arrival.weight, Arrival.weightAll]
    · simp [deliver] at h

/-- A read that receives bytes takes them away. -/
theorem weight_read_received {s s' : Source} {room : Nat} {bs : Bytes}
    (h : s.read room = (.received bs, s')) (hne : bs ≠ []) : s'.weight < s.weight := by
  have taken (cs : Bytes) (hc : cs.take room = bs) : (cs.drop room).length < cs.length := by
    subst hc
    have : 0 < (cs.take room).length := List.length_pos_iff.mpr hne
    simp only [List.length_take, List.length_drop] at this ⊢
    omega
  unfold read at h
  split at h
  · simp only [deliver, Prod.mk.injEq, ReadResult.received.injEq] at h
    have := taken _ h.1
    simp only [← h.2, weight]
    omega
  · split at h
    · simp only [Prod.mk.injEq] at h
      split at h <;> simp_all
    · simp_all
    · simp at h
    · next cs later ha =>
      simp only [deliver, Prod.mk.injEq, ReadResult.received.injEq] at h
      have := taken _ h.1
      simp only [← h.2, weight, ha, Arrival.weight, Arrival.weightAll]
      omega

end Source

end Parley
