/-
Channels that are started, closed and listened to while they are at work.

A scene is a side with the tasks that are under way on its channel. Its acts are
those of the side, apart from those that take several steps: these become tasks,
of which each step is an act of its own. Tasks are numbered in the order in
which they began, and those that are over are kept with what has come of them.
-/
import Parley.Channel.Course
import Parley.Channel.Task

namespace Parley

/-- A side, and what starts, closes and listens to its channel. -/
structure Scene (σ : Type) where
  side : Side σ
  tasks : List (Task σ) := []

namespace Scene

variable {σ : Type}

/-- What can happen next. -/
inductive Act (σ : Type)
  /-- The beginnings of tasks. -/
  | start (runtime : Bool)
  | close
  | listen (frameId : Int32) (run : σ → Message → σ)
  /-- A task takes a step. -/
  | proceed (index : Nat)
  | read
  | write
  /-- A call looks at the handle of its request. Its time may be up. -/
  | await (index : Nat) (expired : Bool)
  | side (act : Side.Act σ)

/-- A scene whose channel was just created. Its sink follows scripts. -/
def created (registry : Registry) (config : ChannelConfig) (writes : List WriteTurn)
    (flushes : List FlushTurn) (app : σ) : Scene σ where
  side := .created registry config writes flushes app

/-- The channel of a scene. -/
def channel (s : Scene σ) : Channel σ := s.side.channel

/-- Begins a task. -/
def begin (s : Scene σ) (task : Task σ) : Scene σ := { s with tasks := s.tasks ++ [task] }

/-- A task takes a step. -/
def proceed (s : Scene σ) (index : Nat) : Scene σ :=
  match s.tasks[index]? with
  | none => s
  | some task =>
    let (task, channel) := s.channel.proceed task
    { side := { s.side with channel }, tasks := s.tasks.set index task }

/-- A worker is closing the channel. -/
def closes (s : Scene σ) (closer : Closer) : Bool := s.tasks.any (·.closer? == some closer)

/-- Begins to close the channel where there is cause to. -/
def closeIf (s : Scene σ) (cause : Bool) (closer : Closer) : Scene σ :=
  match cause with
  | true => s.begin (.flip closer)
  | false => s

/-- The side once the reader has taken a turn. -/
def afterReading (s : Side σ) : Side σ :=
  { s with
    channel := s.channel.readTurn.2
    delivered := s.delivered ++ (Side.incoming s.channel).toList }

/-- The reader takes a turn, and begins to close the channel if the stream has failed it. -/
def read (s : Scene σ) : Scene σ :=
  if s.closes .reader then s
  else ({ s with side := afterReading s.side } : Scene σ).closeIf s.channel.readTurn.1 .reader

/-- The side once the writer has taken a turn. -/
def afterWriting (s : Side σ) : Side σ := { s with channel := s.channel.writeTurn.2 }

/-- The writer takes a turn, and begins to close the channel if the stream has failed it. -/
def write (s : Scene σ) : Scene σ :=
  if s.closes .writer then s
  else ({ s with side := afterWriting s.side } : Scene σ).closeIf s.channel.writeTurn.1 .writer

/-- Acts of a side that are acts of a scene. A worker that is closing the channel
does not stop for having been told to. -/
def permits (s : Scene σ) : Side.Act σ → Bool
  | .listen _ _ | .read | .write | .flip | .cancel | .clearWaiters | .clearWorkbench => false
  | .endReading => !s.closes .reader
  | .endWriting => !s.closes .writer
  | _ => true

/-- Does something to the side. -/
def onSide (s : Scene σ) (act : Side.Act σ) : Scene σ := { s with side := s.side.step act }

/-- A call looks at the handle of its request. If it ends neither with the reply
nor with a failure of the other side, it begins to close the channel. A call
whose time is up gives its request up. -/
def await (s : Scene σ) (index : Nat) (expired : Bool) : Scene σ :=
  match s.side.open? index with
  | none => s
  | some a =>
    match (s.channel.pollReply a.handle).1, expired with
    | some result, _ => (s.onSide (.poll index)).closeIf (Channel.endsChannel result) .caller
    | none, true => ((s.onSide (.poll index)).onSide (.forget index)).begin (.flip .caller)
    | none, false => s.onSide (.poll index)

/-- What an act does. -/
def step (s : Scene σ) : Act σ → Scene σ
  | .start runtime => s.begin (.claim runtime)
  | .close => s.begin (.flip .caller)
  | .listen frameId run => s.begin (.check frameId run)
  | .proceed index => s.proceed index
  | .read => s.read
  | .write => s.write
  | .await index expired => s.await index expired
  | .side act => if s.permits act then s.onSide act else s

/-- What a sequence of acts leads to. -/
def run (s : Scene σ) (acts : List (Act σ)) : Scene σ := acts.foldl step s

theorem run_append (s : Scene σ) (acts more : List (Act σ)) :
    s.run (acts ++ more) = (s.run acts).run more := List.foldl_append

theorem run_concat (s : Scene σ) (acts : List (Act σ)) (act : Act σ) :
    s.run (acts ++ [act]) = (s.run acts).step act := s.run_append acts [act]

/-- What every act keeps is kept throughout a run. -/
theorem run_keeps {P : Scene σ → Prop} (hstep : ∀ s act, P s → P (s.step act)) {s : Scene σ}
    (h : P s) (acts : List (Act σ)) : P (s.run acts) := by
  induction acts generalizing s with
  | nil => exact h
  | cons act acts ih => exact ih (hstep s act h)

/-! ### Invariants -/

section Invariants

variable {P : Scene σ → Prop}
  (hbegin : ∀ s task, task.isFresh = true → P s → P (s.begin task))
  (hproceed : ∀ s index, P s → P (s.proceed index))
  (hread : ∀ s, s.closes .reader = false → P s → P { s with side := afterReading s.side })
  (hwrite : ∀ s, s.closes .writer = false → P s → P { s with side := afterWriting s.side })
  (hside : ∀ s act, s.permits act = true → P s → P (s.onSide act))

include hbegin in
theorem closeIf_keeps {s : Scene σ} (h : P s) (cause : Bool) (closer : Closer) :
    P (s.closeIf cause closer) := by
  cases cause with
  | true => exact hbegin s _ rfl h
  | false => exact h

include hbegin hside in
theorem await_keeps {s : Scene σ} (h : P s) (index : Nat) (expired : Bool) :
    P (s.await index expired) := by
  have hpolled : P (s.onSide (.poll index)) := hside s _ rfl h
  unfold await
  split
  · exact h
  · split
    · exact closeIf_keeps hbegin hpolled _ _
    · exact hbegin _ _ rfl (hside _ _ rfl hpolled)
    · exact hpolled

include hbegin hproceed hread hwrite hside in
/-- **What the beginnings and the steps of tasks keep, the turns of the workers and
the other acts of the side, is kept throughout a run.** -/
theorem keeps {s : Scene σ} (h : P s) (acts : List (Act σ)) : P (s.run acts) := by
  refine run_keeps (fun s act h => ?_) h acts
  cases act with
  | start runtime => exact hbegin s _ rfl h
  | close => exact hbegin s _ rfl h
  | listen frameId run => exact hbegin s _ rfl h
  | proceed index => exact hproceed s index h
  | read =>
      change P s.read
      unfold read
      split
      · exact h
      next hidle => exact closeIf_keeps hbegin (hread s (Bool.eq_false_iff.mpr hidle) h) _ _
  | write =>
      change P s.write
      unfold write
      split
      · exact h
      next hidle => exact closeIf_keeps hbegin (hwrite s (Bool.eq_false_iff.mpr hidle) h) _ _
  | await index expired => exact await_keeps hbegin hside h index expired
  | side act =>
      change P (if s.permits act then s.onSide act else s)
      split
      next hpermits => exact hside s act hpermits h
      · exact h

end Invariants

end Scene

end Parley
