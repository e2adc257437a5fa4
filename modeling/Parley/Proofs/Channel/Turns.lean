/-
What a turn of a worker or a step of a task does.

In a turn the reader routes one message, and the writer moves the first of the
messages that are still to be written. The stream may fail either of them, and
then the worker has yet to close the channel (`readTurn_cases`,
`writeTurn_cases`). The steps in which a channel is started, closed and listened
to each have a case of their own (`proceed_cases`).
-/
import Parley.Channel.Scene
import Parley.Proofs.Channel.Delivery

namespace Parley.Channel

variable {σ : Type} (c : Channel σ)

/-! ### Reading -/

/-- What a turn of the reader does: it routes a message, or takes none. -/
inductive TurnsToRead : Option (Int32 × Message) → Bool × Channel σ → Prop
  | idle : c.reading = false → TurnsToRead none (false, c)
  | delivered {frameId : Int32} {m : Message} : c.reading = true →
      TurnsToRead (some (frameId, m)) (false, c.collected.deliver frameId m)
  | nothing {failed : Bool} : c.reading = true → TurnsToRead none (failed, c.collected)

/-- **A turn of the reader, case by case.** -/
theorem readTurn_cases : TurnsToRead c (Side.incoming c) c.readTurn := by
  unfold readTurn Side.incoming
  by_cases hreading : c.reading = true
  case neg =>
    rw [if_neg hreading, if_neg hreading]
    exact .idle (Bool.eq_false_iff.mpr hreading)
  rw [if_pos hreading, if_pos hreading]
  have hcollected : c.collected = { c with
    reader := (c.reader.next c.source).2.1
    source := (c.reader.next c.source).2.2 } := rfl
  rw [FrameReader.nextMessage]
  generalize c.reader.next c.source = outcome at hcollected
  obtain ⟨progress, reader, source⟩ := outcome
  dsimp only at hcollected
  have hnothing (failed : Bool) : TurnsToRead c none (failed, { c with reader, source }) :=
    hcollected ▸ .nothing hreading
  cases progress with
  | failed e => exact hnothing true
  | pending => exact hnothing false
  | done f =>
      dsimp only
      cases f.decode c.registry with
      | error e => exact hnothing true
      | ok m =>
          dsimp only
          by_cases hkind : kindMatchesFrame f.frameId m.kind = true
          · rw [if_pos hkind, if_pos hkind, ← hcollected]
            exact .delivered hreading
          · rw [if_neg hkind, if_neg hkind]
            exact hnothing true

/-! ### Writing -/

/-- The messages that are still to be written, first the one that is being written. -/
def unwritten : List PendingWrite := c.current.toList.map (·.write) ++ c.queue

/-- What a turn of the writer does to the first of the messages that are still to
be written. -/
inductive TurnsToWrite : Bool × Channel σ → Prop
  | idle : TurnsToWrite (false, c)
  | goesOn {out : Outgoing} {queue : List PendingWrite} {writer : FrameWriter} {sink : Sink} :
      c.writing = true → c.unwritten = out.write :: queue →
      TurnsToWrite (false, { c with queue, current := some out, writer, sink })
  | written {w : PendingWrite} {queue : List PendingWrite} {length : Nat} {sink : Sink} :
      c.writing = true → c.unwritten = w :: queue →
      TurnsToWrite (false, ({ c with queue, sink } : Channel σ).conclude w (.ok length))
  | refused {w : PendingWrite} {queue : List PendingWrite} {e : FrameError}
      {writer : FrameWriter} {sink : Sink} : c.writing = true → c.unwritten = w :: queue →
      TurnsToWrite (false, { c with
        queue, current := none, writer, sink, outcomes := c.outcomes ++ [(w.ticket, .error e)] })
  | failed {w : PendingWrite} {queue : List PendingWrite} {writer : FrameWriter} {sink : Sink} :
      c.writing = true → c.unwritten = w :: queue →
      TurnsToWrite (true, { c with queue, current := none, writer, sink })

/-- **A turn of the writer, case by case.** -/
theorem writeTurn_cases : TurnsToWrite c c.writeTurn := by
  unfold writeTurn writeOn
  by_cases hwriting : c.writing = true
  case neg =>
    rw [if_neg hwriting]
    exact .idle
  rw [if_pos hwriting]
  -- a write that fails closes the channel or is refused, whichever step it fails in
  have hfails {w : PendingWrite} {queue : List PendingWrite} {e : FrameError}
      {writer : FrameWriter} {sink : Sink} (hfirst : c.unwritten = w :: queue) :
      TurnsToWrite c
        (if e.isTransportFailure then
          (true, ({ c with queue, current := none, writer, sink } : Channel σ))
        else (false, ({ c with queue, writer, sink } : Channel σ).conclude w (.error e))) := by
    cases htransport : e.isTransportFailure with
    | true => exact .failed hwriting hfirst
    | false =>
        have hrefused : ({ c with queue, writer, sink } : Channel σ).conclude w (.error e)
            = { c with
              queue, current := none, writer, sink
              outcomes := c.outcomes ++ [(w.ticket, .error e)] } := by
          simp [conclude, htransport]
        rw [if_neg Bool.false_ne_true, hrefused]
        exact .refused hwriting hfirst
  cases hcurrent : c.current with
  | some out =>
      have hfirst : c.unwritten = out.write :: c.queue := by simp [unwritten, hcurrent]
      dsimp only
      generalize c.sink.write out.left = outcome
      obtain ⟨progress, left, sink⟩ := outcome
      cases progress with
      | pending => exact .goesOn hwriting hfirst
      | failed e => exact hfails hfirst
      | done u =>
          dsimp only
          generalize sink.flush = flushed
          obtain ⟨progress, after⟩ := flushed
          cases progress with
          | failed e => exact hfails hfirst
          | done u => exact .written hwriting hfirst
          | pending => exact .written hwriting hfirst
  | none =>
      cases hqueue : c.queue with
      | nil => exact .idle
      | cons w queue =>
          have hfirst : c.unwritten = w :: queue := by simp [unwritten, hcurrent, hqueue]
          dsimp only
          generalize c.writer.stage c.registry w.frameId w.message = staged
          obtain ⟨result, writer⟩ := staged
          cases result with
          | error e => exact hfails hfirst
          | ok length => exact .goesOn hwriting hfirst

/-! ### Tasks -/

/-- What a step of a task does. -/
inductive Proceeds : Task σ → Task σ × Channel σ → Prop
  | ended {task : Task σ} : task.isOver = true → Proceeds task (task, c)
  /-- Starting. -/
  | claims : c.lifecycle = .created →
      Proceeds (.claim true) (.launch, { c with lifecycle := .running })
  | declines {runtime : Bool} {result : Except ChannelError Unit} :
      Proceeds (.claim runtime) (.started result, c)
  | launches : Proceeds .launch (.started (.ok ()), c.launch)
  /-- Closing. -/
  | flips {closer : Closer} : c.isOpen = true → Proceeds (.flip closer) (.cancel closer, c.flip)
  | leaves {closer : Closer} : c.isOpen = false →
      Proceeds (.flip closer) (.closed closer false, c.leave closer)
  | cancels {closer : Closer} : Proceeds (.cancel closer) (.clearWaiters closer, c.cancel)
  | sweeps {closer : Closer} :
      Proceeds (.clearWaiters closer) (.clearWorkbench closer, c.clearWaiters)
  | clears {closer : Closer} :
      Proceeds (.clearWorkbench closer) (.closed closer true, c.clearWorkbench.leave closer)
  /-- Listening. -/
  | checks {frameId : Int32} {run : σ → Message → σ} : c.isOpen = true →
      Proceeds (.check frameId run) (.insert frameId run, c)
  | refuses {frameId : Int32} {run : σ → Message → σ} : c.isOpen = false →
      Proceeds (.check frameId run) (.listened frameId run (.error .closed), c)
  | inserts {frameId : Int32} {run : σ → Message → σ} : c.hasWaiter frameId = false →
      Proceeds (.insert frameId run) (.confirm frameId run,
        { c with waiters := c.waiters ++ [(frameId, .listener run)] })
  | collides {frameId : Int32} {run : σ → Message → σ} : c.hasWaiter frameId = true →
      Proceeds (.insert frameId run) (.listened frameId run (.error (.listenerExists frameId)), c)
  | confirms {frameId : Int32} {run : σ → Message → σ} : c.isOpen = true →
      Proceeds (.confirm frameId run) (.listened frameId run (.ok ()), c)
  | withdraws {frameId : Int32} {run : σ → Message → σ} : c.isOpen = false →
      Proceeds (.confirm frameId run)
        (.listened frameId run (.error .closed), c.removeWaiter frameId)

/-- **A step of a task, case by case.** -/
theorem proceed_cases (task : Task σ) : Proceeds c task (c.proceed task) := by
  cases task with
  | claim runtime =>
      rw [proceed, claimStart]
      cases runtime with
      | false => exact .declines
      | true =>
          cases hlife : c.lifecycle with
          | created => exact .claims hlife
          | running => exact .declines
          | closed => exact .declines
  | launch => exact .launches
  | flip closer =>
      rw [proceed]
      cases hopen : c.isOpen with
      | true => exact .flips hopen
      | false => exact .leaves hopen
  | cancel closer => exact .cancels
  | clearWaiters closer => exact .sweeps
  | clearWorkbench closer => exact .clears
  | check frameId run =>
      rw [proceed, checkOpen]
      cases hopen : c.isOpen with
      | true => exact .checks hopen
      | false => exact .refuses hopen
  | insert frameId run =>
      rw [proceed, insertWaiter]
      cases hwaits : c.hasWaiter frameId with
      | true => exact .collides hwaits
      | false => exact .inserts hwaits
  | confirm frameId run =>
      rw [proceed, confirmWaiter, checkOpen]
      cases hopen : c.isOpen with
      | true => exact .confirms hopen
      | false => exact .withdraws hopen
  | started | closed | listened => exact .ended rfl

end Parley.Channel
