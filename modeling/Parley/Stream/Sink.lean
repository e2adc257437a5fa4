/-
Byte sinks that take what a script says.

A sink stands for the sending half of a connection. Each write follows the
next entry of a script: it takes some of the bytes, fails, or stalls the sink
until it is released. Each flush follows the next entry of another. Where a
script has run out, everything is taken and every flush succeeds. A sink keeps
what it has taken, in order. Operations that were interrupted are tried again.
-/
import Parley.Frame.Error

namespace Parley

/-- What one write meets. -/
inductive WriteTurn
  /-- At most this many bytes are taken. Taking none means that the peer is gone. -/
  | accept (count : Nat)
  | fail (error : IoError)
  /-- Nothing is taken until the sink is released. -/
  | stall
deriving DecidableEq

/-- What one flush meets: success, or an error. -/
abbrev FlushTurn := Option IoError

/-- A byte sink. -/
structure Sink where
  writes : List WriteTurn := []
  flushes : List FlushTurn := []
  stalled : Bool := false
  /-- What was taken, in order. -/
  taken : Bytes := []
deriving DecidableEq

/-- How far an operation on a stream came. -/
inductive Progress (α : Type)
  | done (value : α)
  | failed (error : FrameError)
  /-- Nothing more can happen for now. -/
  | pending
deriving DecidableEq

/-- What came of writing bytes. -/
structure Drained where
  progress : Progress Unit
  /-- The bytes that were taken, and those that were not. -/
  taken : Bytes
  left : Bytes
  /-- The turns that were not needed. -/
  turns : List WriteTurn

namespace Sink

/-- Writes all of the bytes, in as many writes as it takes. -/
def drain : List WriteTurn → Bytes → Drained
  | turns, [] => ⟨.done (), [], [], turns⟩
  | [], bs => ⟨.done (), bs, [], []⟩
  | .accept n :: turns, bs =>
    if n = 0 then ⟨.failed .connectionClosed, [], bs, turns⟩
    else
      let later := drain turns (bs.drop n)
      { later with taken := bs.take n ++ later.taken }
  | .fail e :: turns, bs =>
    if e.kind = .interrupted then drain turns bs
    else ⟨.failed (.io e), [], bs, turns⟩
  | .stall :: turns, bs => ⟨.pending, [], bs, turns⟩

/-- Writes all of the bytes and yields those that were not taken. -/
def write (s : Sink) (bs : Bytes) : Progress Unit × Bytes × Sink :=
  if s.stalled then (if bs = [] then .done () else .pending, bs, s)
  else
    let d := drain s.writes bs
    let stalled := match d.progress with
      | .pending => true
      | _ => false
    (d.progress, d.left, { s with writes := d.turns, stalled, taken := s.taken ++ d.taken })

/-- What a script of flushes leads to, and the turns that were not needed. -/
def settleFlush : List FlushTurn → Progress Unit × List FlushTurn
  | [] => (.done (), [])
  | none :: turns => (.done (), turns)
  | some e :: turns =>
    if e.kind = .interrupted then settleFlush turns else (.failed (.io e), turns)

def flush (s : Sink) : Progress Unit × Sink :=
  let (progress, flushes) := settleFlush s.flushes
  (progress, { s with flushes })

/-- Closes the sending half. An interruption is a failure here. -/
def shutdown (s : Sink) : Progress Unit × Sink :=
  match s.flushes with
  | [] => (.done (), s)
  | none :: flushes => (.done (), { s with flushes })
  | some e :: flushes => (.failed (.io e), { s with flushes })

/-- Lets a stalled sink take bytes again. -/
def release (s : Sink) : Sink := { s with stalled := false }

/-- Nothing is lost and nothing is written twice. -/
theorem taken_append_left_drain (turns : List WriteTurn) (bs : Bytes) :
    (drain turns bs).taken ++ (drain turns bs).left = bs := by
  fun_induction drain turns bs with
  | case4 n turns bs _ _ later ih =>
    show List.take n bs ++ later.taken ++ later.left = bs
    rw [List.append_assoc, ih, List.take_append_drop]
  | _ => simp_all

end Sink

end Parley
