/-
Starting, closing and listening, one step at a time.

An attempt to start a channel, to close it or to add a listener touches the
channel several times, as a call that sends does, and its steps may come between
those of others. The reader and the writer close the channel too: when their
stream has failed them they take the steps of a shutdown and then end.
`Channel.proceed` is one step of such a task. A task whose steps follow on one
another is the operation of the channel (`performs_start`, `performs_shutdown`,
`performs_listen`), and so are a step of the reader or of the writer and the
shutdown that it leads to (`readStep_eq`, `writeStep_eq`).
-/
import Parley.Channel.Call
import Parley.Channel.Worker

namespace Parley

/-- Who closes a channel. -/
inductive Closer
  | caller
  | reader
  | writer
deriving DecidableEq, Repr

/-- What a task does next, or what has come of it. -/
inductive Task (σ : Type)
  | claim (runtime : Bool)
  | launch
  | started (result : Except ChannelError Unit)
  /-- The four steps of a shutdown. -/
  | flip (closer : Closer)
  | cancel (closer : Closer)
  | clearWaiters (closer : Closer)
  | clearWorkbench (closer : Closer)
  /-- A shutdown that is over, and whether it was the one that closed the channel. -/
  | closed (closer : Closer) (first : Bool)
  /-- The three steps in which a listener is added. -/
  | check (frameId : Int32) (run : σ → Message → σ)
  | insert (frameId : Int32) (run : σ → Message → σ)
  | confirm (frameId : Int32) (run : σ → Message → σ)
  | listened (frameId : Int32) (run : σ → Message → σ) (result : Except ChannelError Unit)

namespace Task

variable {σ : Type}

/-- There is nothing left to do. -/
def isOver : Task σ → Bool
  | started _ | closed _ _ | listened _ _ _ => true
  | _ => false

/-- Nothing was done yet. -/
def isFresh : Task σ → Bool
  | claim _ | flip _ | check _ _ => true
  | _ => false

/-- Who is closing the channel, if it is a shutdown that is under way. -/
def closer? : Task σ → Option Closer
  | flip closer | cancel closer | clearWaiters closer | clearWorkbench closer => some closer
  | _ => none

end Task

namespace Channel

variable {σ : Type}

/-! ### Steps of tasks -/

/-- A worker that has closed the channel ends. -/
def leave (c : Channel σ) : Closer → Channel σ
  | .caller => c
  | .reader => c.endReading
  | .writer => c.endWriting

/-- One step of a task. -/
def proceed (c : Channel σ) : Task σ → Task σ × Channel σ
  | .claim runtime =>
    if runtime then
      match c.claimStart with
      | (.ok true, c) => (.launch, c)
      | (.ok false, c) => (.started (.ok ()), c)
      | (.error e, c) => (.started (.error e), c)
    else (.started (.error .noRuntime), c)
  | .launch => (.started (.ok ()), c.launch)
  | .flip closer =>
    if c.isOpen then (.cancel closer, c.flip) else (.closed closer false, c.leave closer)
  | .cancel closer => (.clearWaiters closer, c.cancel)
  | .clearWaiters closer => (.clearWorkbench closer, c.clearWaiters)
  | .clearWorkbench closer => (.closed closer true, c.clearWorkbench.leave closer)
  | .check frameId run =>
    match c.checkOpen with
    | .error e => (.listened frameId run (.error e), c)
    | .ok () => (.insert frameId run, c)
  | .insert frameId run =>
    match c.insertWaiter frameId (.listener run) with
    | (.error e, c) => (.listened frameId run (.error e), c)
    | (.ok (), c) => (.confirm frameId run, c)
  | .confirm frameId run =>
    let (result, c) := c.confirmWaiter frameId
    (.listened frameId run result, c)
  | task => (task, c)

/-- The steps of a task, one after the other, lead from a channel to what comes
of the task and to the channel after it. -/
inductive Performs : Channel σ → Task σ → Task σ → Channel σ → Prop
  | ended {c : Channel σ} {task : Task σ} : task.isOver = true → Performs c task task c
  | step {c c' after : Channel σ} {task task' result : Task σ} :
      c.proceed task = (task', c') → Performs c' task' result after → Performs c task result after

/-- The steps of a start are `start`. -/
theorem performs_start (c : Channel σ) (runtime : Bool) :
    Performs c (.claim runtime) (.started (c.start runtime).1) (c.start runtime).2 := by
  rw [start]
  cases runtime with
  | false => exact .step rfl (.ended rfl)
  | true =>
      have hproceed : c.proceed (.claim true) = match c.claimStart with
        | (.ok true, c) => (.launch, c)
        | (.ok false, c) => (.started (.ok ()), c)
        | (.error e, c) => (.started (.error e), c) := rfl
      generalize c.claimStart = claimed at hproceed ⊢
      obtain ⟨result, c'⟩ := claimed
      rcases result with e | ⟨_ | _⟩
      · exact .step hproceed (.ended rfl)
      · exact .step hproceed (.ended rfl)
      · exact .step hproceed (.step rfl (.ended rfl))

/-- The steps of a shutdown are `shutdown`, after which a worker ends. -/
theorem performs_shutdown (c : Channel σ) (closer : Closer) :
    Performs c (.flip closer) (.closed closer c.shutdown.1) (c.shutdown.2.leave closer) := by
  rw [shutdown]
  cases hopen : c.isOpen with
  | false => exact .step (by rw [proceed, hopen]; rfl) (.ended rfl)
  | true =>
      have hflip : c.proceed (.flip closer) = (.cancel closer, c.flip) := by
        rw [proceed, hopen]
        rfl
      exact .step hflip (.step rfl (.step rfl (.step rfl (.ended rfl))))

/-- The steps in which a listener is added are `addResponseListener`. -/
theorem performs_listen (c : Channel σ) (frameId : Int32) (run : σ → Message → σ) :
    Performs c (.check frameId run)
      (.listened frameId run (c.addResponseListener frameId run).1)
      (c.addResponseListener frameId run).2 := by
  rw [addResponseListener, addWaiter]
  cases hopen : c.checkOpen with
  | error e => exact .step (by rw [proceed, hopen]) (.ended rfl)
  | ok u =>
      have hcheck : c.proceed (.check frameId run) = (.insert frameId run, c) := by
        rw [proceed, hopen]
      refine .step hcheck ?_
      dsimp only
      cases hinsert : c.insertWaiter frameId (.listener run) with
      | mk inserted c₁ =>
          cases inserted with
          | error e => exact .step (by rw [proceed, hinsert]) (.ended rfl)
          | ok u =>
              have hadds : c.proceed (.insert frameId run) = (.confirm frameId run, c₁) := by
                rw [proceed, hinsert]
              exact .step hadds (.step rfl (.ended rfl))

/-! ### Turns of the workers -/

/-- The reader takes the next message, if one has arrived. Yields whether the
stream has failed it. -/
def readTurn (c : Channel σ) : Bool × Channel σ :=
  if c.reading then
    match c.reader.nextMessage c.registry c.source with
    | (.done (frameId, m), reader, source) =>
      let c := { c with reader, source }
      if kindMatchesFrame frameId m.kind then (false, c.deliver frameId m) else (true, c)
    | (.failed _, reader, source) => (true, { c with reader, source })
    | (.pending, reader, source) => (false, { c with reader, source })
  else (false, c)

/-- A reader whose stream has failed closes the channel and ends. -/
theorem readStep_eq (c : Channel σ) :
    c.readStep = match c.readTurn with
      | (true, c) => c.shutdown.2.endReading
      | (false, c) => c := by
  rw [readStep, readTurn]
  by_cases hreading : c.reading = true
  case neg => rw [if_neg hreading, if_neg hreading]
  rw [if_pos hreading, if_pos hreading]
  generalize c.reader.nextMessage c.registry c.source = outcome
  obtain ⟨progress, reader, source⟩ := outcome
  cases progress with
  | done brought =>
      obtain ⟨frameId, m⟩ := brought
      dsimp only
      cases kindMatchesFrame frameId m.kind with
      | true => rfl
      | false => rfl
  | failed e => rfl
  | pending => rfl

/-- The writer goes on with the frame that is being written, or else encodes the
next message of the queue. Yields a message whose write is over, with what came
of it. -/
def writeOn (c : Channel σ) : Option (PendingWrite × Except FrameError Nat) × Channel σ :=
  if c.writing then
    match c.current, c.queue with
    | some out, _ =>
      match c.sink.write out.left with
      | (.pending, left, sink) => (none, { c with sink, current := some { out with left } })
      | (.failed e, _, sink) => (some (out.write, .error e), { c with sink })
      | (.done (), _, sink) =>
        match sink.flush with
        | (.failed e, sink) => (some (out.write, .error e), { c with sink })
        | (_, sink) => (some (out.write, .ok out.length), { c with sink })
    | none, [] => (none, c)
    | none, w :: queue =>
      match c.writer.stage c.registry w.frameId w.message with
      | (.error e, writer) => (some (w, .error e), { c with queue, writer })
      | (.ok length, writer) =>
        (none, { c with queue, writer, current := some ⟨w, length, writer.arena.bytes⟩ })
  else (none, c)

/-- The writer goes on. Yields whether the stream has failed it. -/
def writeTurn (c : Channel σ) : Bool × Channel σ :=
  match c.writeOn with
  | (none, c) => (false, c)
  | (some (w, .ok length), c) => (false, c.conclude w (.ok length))
  | (some (w, .error e), c) =>
    if e.isTransportFailure then (true, { c with current := none })
    else (false, c.conclude w (.error e))

theorem writeStep_eq_conclude (c : Channel σ) :
    c.writeStep = match c.writeOn with
      | (none, c) => c
      | (some (w, result), c) => c.conclude w result := by
  rw [writeStep, writeOn]
  by_cases hwriting : c.writing = true
  case neg => rw [if_neg hwriting, if_neg hwriting]
  rw [if_pos hwriting, if_pos hwriting]
  cases c.current with
  | some out =>
      dsimp only
      rw [push]
      generalize c.sink.write out.left = outcome
      obtain ⟨progress, left, sink⟩ := outcome
      cases progress with
      | pending => rfl
      | failed e => rfl
      | done u =>
          dsimp only
          generalize sink.flush = flushed
          obtain ⟨progress, sink⟩ := flushed
          cases progress with
          | failed e => rfl
          | done u => rfl
          | pending => rfl
  | none =>
      cases c.queue with
      | nil => rfl
      | cons w queue =>
          dsimp only
          generalize c.writer.stage c.registry w.frameId w.message = staged
          obtain ⟨result, writer⟩ := staged
          cases result with
          | error e => rfl
          | ok length => rfl

/-- A writer whose stream has failed closes the channel and ends. -/
theorem writeStep_eq (c : Channel σ) :
    c.writeStep = match c.writeTurn with
      | (true, c) => c.shutdown.2.endWriting
      | (false, c) => c := by
  rw [writeStep_eq_conclude, writeTurn]
  generalize c.writeOn = outcome
  obtain ⟨finished, c'⟩ := outcome
  rcases finished with _ | ⟨w, e | length⟩
  · rfl
  · dsimp only [conclude]
    cases e.isTransportFailure with
    | true => rfl
    | false => rfl
  · rfl

/-! ### Calls with a limit -/

/-- Whether a call that has ended so closes the channel. -/
def endsChannel {α : Type} : Except ChannelError α → Bool
  | .ok _ | .error (.remote _ _) => false
  | .error _ => true

theorem afterCall_eq {α : Type} (c : Channel σ) (result : Except ChannelError α) :
    c.afterCall result = if endsChannel result then c.shutdown.2 else c := by
  rcases result with e | value
  · cases e <;> rfl
  · rfl

end Channel

end Parley
