/-
The life of a channel.

A channel is created, may be started, and is closed in the end. Attempts to
start it and to close it take several steps each, and the reader, the writer and
calls whose time is up close it as well as its users do. In whatever order all
these steps come, the stage of the channel only moves on, one shutdown alone
closes it, its streams are taken once, and from the moment in which it is closed
it turns everything away (`closed_once_for_all`).
-/
import Parley.Proofs.Channel.Turns
import Parley.Proofs.Channel.Waiting

namespace Parley

variable {σ : Type}

/-- How far along a stage is. -/
def Lifecycle.rank : Lifecycle → Nat
  | created => 0
  | running => 1
  | closed => 2

theorem Lifecycle.rank_le_closed (l : Lifecycle) : l.rank ≤ closed.rank := by
  cases l <;> decide

/-! ### Work -/

/-- The parts of a channel that say how far along it is and what its workers have
to do. -/
structure Channel.Works (σ : Type) where
  lifecycle : Lifecycle
  workbench : Workbench
  reading : Bool
  writing : Bool
  relaying : Bool
  queue : List PendingWrite
  current : Option Outgoing
  events : List (Job σ)

/-- Workers are at work only where the streams were given to them, and nothing is
left with those that are not, unless they may still come. -/
structure Channel.Works.Tidy (w : Works σ) : Prop where
  workers : w.workbench ≠ .started → w.reading = false ∧ w.writing = false ∧ w.relaying = false
  writes : w.writing = false → w.current = none ∧ (w.workbench = .held ∨ w.queue = [])
  events : w.relaying = false → w.workbench = .held ∨ w.events = []

namespace Channel

variable {c c' c'' : Channel σ}

def works (c : Channel σ) : Works σ :=
  ⟨c.lifecycle, c.workbench, c.reading, c.writing, c.relaying, c.queue, c.current, c.events⟩

/-- Nothing happens but work. -/
structure WorksOn (c c' : Channel σ) : Prop where
  lifecycle : c'.lifecycle = c.lifecycle
  workbench : c'.workbench = c.workbench
  tidy : c.works.Tidy → c'.works.Tidy

theorem WorksOn.of_works (h : c'.works = c.works) : WorksOn c c' where
  lifecycle := congrArg Works.lifecycle h
  workbench := congrArg Works.workbench h
  tidy := fun htidy => h ▸ htidy

theorem WorksOn.refl (c : Channel σ) : WorksOn c c := .of_works rfl

theorem WorksOn.trans (h : WorksOn c c') (h' : WorksOn c' c'') : WorksOn c c'' where
  lifecycle := h'.lifecycle.trans h.lifecycle
  workbench := h'.workbench.trans h.workbench
  tidy := h'.tidy ∘ h.tidy

theorem WorksOn.isOpen (h : WorksOn c c') : c'.isOpen = c.isOpen := by
  rw [Channel.isOpen, Channel.isOpen, h.lifecycle]

variable (c)

theorem worksOn_post (jobs : List (Job σ)) : WorksOn c (c.post jobs) := by
  unfold post
  split
  next htakes =>
    refine ⟨rfl, rfl, fun h => ⟨h.workers, h.writes, ?_⟩⟩
    intro hrelaying
    have hended : c.relaying = false := hrelaying
    have hheld : c.workbench = .held := by simpa [takesEvents, hended] using htakes
    exact Or.inl hheld
  · exact .refl c

theorem worksOn_deliver (frameId : Int32) (m : Message) : WorksOn c (c.deliver frameId m) := by
  unfold deliver
  split
  · exact c.worksOn_post _
  · have hremoved : WorksOn c (c.removeWaiter frameId) := .of_works rfl
    exact hremoved.trans (worksOn_post _ _)

theorem worksOn_readTurn : WorksOn c c.readTurn.2 := by
  have hread := c.readTurn_cases
  have hcollected : WorksOn c c.collected := .of_works rfl
  generalize c.readTurn = turn at hread
  generalize Side.incoming c = brought at hread
  cases hread with
  | idle => exact .refl c
  | delivered => exact hcollected.trans (worksOn_deliver _ _ _)
  | nothing => exact hcollected

/-- A writer that is at work may have anything left to write. -/
theorem worksOn_writing (h : c.writing = true) (queue : List PendingWrite)
    (current : Option Outgoing) (writer : FrameWriter) (sink : Sink)
    (outcomes : List (Nat × Except FrameError Nat)) :
    WorksOn c { c with queue, current, writer, sink, outcomes } := by
  refine ⟨rfl, rfl, fun htidy => ⟨htidy.workers, ?_, htidy.events⟩⟩
  intro hwriting
  cases hwriting.symm.trans h

theorem worksOn_writeTurn : WorksOn c c.writeTurn.2 := by
  have hwrite := c.writeTurn_cases
  generalize c.writeTurn = turn at hwrite
  cases hwrite with
  | idle => exact .refl c
  | goesOn hwriting => exact c.worksOn_writing hwriting _ _ _ _ _
  | @written w queue length sink hwriting =>
      exact (c.worksOn_writing hwriting queue none c.writer sink _).trans (worksOn_post _ _)
  | refused hwriting => exact c.worksOn_writing hwriting _ _ _ _ _
  | failed hwriting => exact c.worksOn_writing hwriting _ _ _ _ _

theorem worksOn_relayStep : WorksOn c c.relayStep := by
  unfold relayStep
  split
  next hrelaying =>
    split
    · exact .refl c
    · refine ⟨rfl, rfl, fun htidy => ⟨htidy.workers, htidy.writes, ?_⟩⟩
      intro hended
      cases hended.symm.trans hrelaying
  · exact .refl c

theorem worksOn_endReading : WorksOn c c.endReading := by
  refine ⟨rfl, rfl, fun htidy => ⟨?_, htidy.writes, htidy.events⟩⟩
  intro hidle
  exact ⟨rfl, (htidy.workers hidle).2⟩

theorem worksOn_endWriting : WorksOn c c.endWriting := by
  refine ⟨rfl, rfl, fun htidy => ⟨?_, fun _ => ⟨rfl, Or.inr rfl⟩, htidy.events⟩⟩
  intro hidle
  obtain ⟨hreading, -, hrelaying⟩ := htidy.workers hidle
  exact ⟨hreading, rfl, hrelaying⟩

theorem worksOn_endRelaying : WorksOn c c.endRelaying := by
  refine ⟨rfl, rfl, fun htidy => ⟨?_, htidy.writes, fun _ => Or.inr rfl⟩⟩
  intro hidle
  obtain ⟨hreading, hwriting, -⟩ := htidy.workers hidle
  exact ⟨hreading, hwriting, rfl⟩

theorem worksOn_leave (closer : Closer) : WorksOn c (c.leave closer) := by
  cases closer with
  | caller => exact .refl c
  | reader => exact c.worksOn_endReading
  | writer => exact c.worksOn_endWriting

theorem WorksOn.advance {o : Order} {stage : Stage} {outcome : Advance}
    (h : Advances c o stage outcome c') : WorksOn c c' := by
  cases h with
  | failed | withdrawn | known | unknown | numbered | guarded | waits | confirmed =>
      exact .of_works rfl
  | queued htakes =>
      refine ⟨rfl, rfl, fun htidy => ⟨htidy.workers, ?_, htidy.events⟩⟩
      intro hwriting
      have hheld : c.workbench = .held := by
        have : c.writing = false := hwriting
        simpa [takesWrites, this] using htakes
      exact ⟨(htidy.writes hwriting).1, Or.inl hheld⟩

end Channel

namespace Scene

variable {s : Scene σ}

/-- The acts of the side that a scene permits are nothing but work. -/
theorem worksOn_onSide {act : Side.Act σ} (hpermits : s.permits act = true) :
    s.channel.WorksOn (s.onSide act).channel := by
  have hwhen {c : Channel σ} (hc : s.channel.WorksOn c) :
      s.channel.WorksOn (if s.channel.cancelled then c else s.channel) := by
    split
    · exact hc
    · exact .refl _
  have hremoved (frameId : Int32) : s.channel.WorksOn (s.channel.removeWaiter frameId) :=
    .of_works rfl
  cases act with
  | listen | read | write | flip | cancel | clearWaiters | clearWorkbench => cases hpermits
  | call | onBroadcast | onTraffic | onWritten | arrive | release => exact .of_works rfl
  | advance index =>
      change s.channel.WorksOn (s.side.advance index).channel
      rcases s.side.advance_eq index with heq | ⟨order, stage, outcome, channel, -, hstep, heq⟩
      · rw [heq]
        exact .refl _
      · rw [heq, Side.proceed_channel]
        exact .advance _ hstep
  | poll index =>
      change s.channel.WorksOn (s.side.poll index).channel
      rcases s.side.poll_channel index with heq | ⟨a, -, -, heq⟩
      · exact heq ▸ .refl _
      · exact heq ▸ hremoved _
  | forget index =>
      change s.channel.WorksOn (s.side.forget index).channel
      rcases s.side.forget_channel index with heq | ⟨a, -, heq⟩
      · exact heq ▸ .refl _
      · exact heq ▸ hremoved _
  | relay => exact s.channel.worksOn_relayStep
  | finish index =>
      change s.channel.WorksOn (s.side.finish index).channel
      have hfinish := s.side.finish_cases index
      generalize s.side.finish index = s' at hfinish
      cases hfinish with
      | absent | aside | reply | unanswered | answered => exact .of_works rfl
  | endReading => exact hwhen s.channel.worksOn_endReading
  | endWriting => exact hwhen s.channel.worksOn_endWriting
  | endRelaying => exact hwhen s.channel.worksOn_endRelaying

end Scene

/-! ### Tasks -/

namespace Task

/-- The shutdown is the one that has closed the channel. -/
def hasClosed : Task σ → Bool
  | cancel _ | clearWaiters _ | clearWorkbench _ | closed _ true => true
  | _ => false

/-- The shutdown is over and yields that it has closed the channel. -/
def yieldsTrue : Task σ → Bool
  | closed _ first => first
  | _ => false

/-- How many steps a task takes at most. -/
def left : Task σ → Nat
  | flip _ => 4
  | cancel _ | check _ _ => 3
  | claim _ | clearWaiters _ | insert _ _ => 2
  | launch | clearWorkbench _ | confirm _ _ => 1
  | started _ | closed _ _ | listened _ _ _ => 0

theorem left_le (task : Task σ) : task.left ≤ 4 := by
  cases task <;> simp [left]

theorem isOver_of_left {task : Task σ} (h : task.left = 0) : task.isOver = true := by
  cases task with
  | started | closed | listened => rfl
  | _ => cases h

theorem hasClosed_of_isFresh {task : Task σ} (h : task.isFresh = true) :
    task.hasClosed = false := by
  cases task with
  | claim | flip | check => rfl
  | _ => cases h

theorem yieldsTrue_of_isOver {task : Task σ} (h : task.isOver = true) :
    task.yieldsTrue = task.hasClosed := by
  cases task with
  | started | listened => rfl
  | closed closer first => cases first <;> rfl
  | _ => cases h

end Task

namespace Channel

variable {c c' c'' : Channel σ}

/-- The channel is no less far along, its streams are not taken twice, and it
stays tidy. -/
structure MovesOn (c c' : Channel σ) : Prop where
  rank : c.lifecycle.rank ≤ c'.lifecycle.rank
  workbench : c.workbench ≠ .held → c'.workbench = c.workbench
  tidy : c.works.Tidy → c'.works.Tidy

theorem WorksOn.movesOn (h : WorksOn c c') : MovesOn c c' where
  rank := Nat.le_of_eq (congrArg Lifecycle.rank h.lifecycle.symm)
  workbench := fun _ => h.workbench
  tidy := h.tidy

theorem MovesOn.refl (c : Channel σ) : MovesOn c c := (WorksOn.refl c).movesOn

theorem MovesOn.trans (h : MovesOn c c') (h' : MovesOn c' c'') : MovesOn c c'' where
  rank := Nat.le_trans h.rank h'.rank
  workbench := by
    intro htaken
    have hsame := h.workbench htaken
    rw [← hsame] at htaken ⊢
    exact h'.workbench htaken
  tidy := h'.tidy ∘ h.tidy

theorem MovesOn.isOpen (h : MovesOn c c') (hclosed : c.isOpen = false) : c'.isOpen = false := by
  have hrank := h.rank
  have hlife : c.lifecycle = .closed := by simpa [Channel.isOpen] using hclosed
  rw [hlife] at hrank
  cases hlater : c'.lifecycle with
  | closed => simp [Channel.isOpen, hlater]
  | created | running =>
      rw [hlater] at hrank
      exact absurd hrank (by decide)

variable (c)

theorem movesOn_launch : MovesOn c c.launch := by
  unfold launch
  split
  next hheld =>
    refine ⟨Nat.le_refl _, fun htaken => absurd hheld htaken, fun _ => ⟨?_, ?_, ?_⟩⟩
    · intro hidle
      exact absurd rfl hidle
    · intro hwriting
      cases hwriting
    · intro hrelaying
      cases hrelaying
  · exact .refl c

/-- What is let go with the streams is nobody's, as no worker has come. -/
theorem movesOn_clearWorkbench : MovesOn c c.clearWorkbench := by
  unfold clearWorkbench
  split
  next hheld =>
    refine ⟨Nat.le_refl _, fun htaken => absurd hheld htaken, fun htidy => ?_⟩
    have hidle := htidy.workers (fun hstarted => Workbench.noConfusion (hheld.symm.trans hstarted))
    exact ⟨fun _ => hidle, fun _ => ⟨(htidy.writes hidle.2.1).1, Or.inr rfl⟩, fun _ => Or.inr rfl⟩
  · exact .refl c

/-- **A step of a task moves the channel on.** -/
theorem movesOn_proceed (task : Task σ) : MovesOn c (c.proceed task).2 := by
  have hproceed := c.proceed_cases task
  have hlife (lifecycle : Lifecycle) (hrank : c.lifecycle.rank ≤ lifecycle.rank) :
      MovesOn c { c with lifecycle } :=
    ⟨hrank, fun _ => rfl, fun htidy => ⟨htidy.workers, htidy.writes, htidy.events⟩⟩
  have hsame {c' : Channel σ} (hworks : c'.works = c.works) : MovesOn c c' :=
    (WorksOn.of_works hworks).movesOn
  generalize c.proceed task = after at hproceed
  cases hproceed with
  | ended | declines | checks | refuses | collides | confirms => exact .refl c
  | claims hcreated =>
      apply hlife
      rw [hcreated]
      exact Nat.zero_le _
  | launches => exact c.movesOn_launch
  | flips => exact hlife .closed (Lifecycle.rank_le_closed _)
  | leaves => exact (c.worksOn_leave _).movesOn
  | cancels | sweeps | inserts | withdraws => exact hsame rfl
  | clears => exact (c.movesOn_clearWorkbench).trans (worksOn_leave _ _).movesOn

theorem isOpen_leave (closer : Closer) : (c.leave closer).isOpen = c.isOpen :=
  (c.worksOn_leave closer).isOpen

theorem isOpen_launch : c.launch.isOpen = c.isOpen := by
  unfold launch
  split <;> rfl

theorem isOpen_clearWorkbench : c.clearWorkbench.isOpen = c.isOpen := by
  unfold clearWorkbench
  split <;> rfl

/-- A shutdown has closed the channel if and only if it has found the channel open. -/
theorem hasClosed_proceed (task : Task σ) :
    ((if (c.proceed task).1.hasClosed then 1 else 0) + if c.isOpen then 0 else 1)
      = (if task.hasClosed then 1 else 0) + if (c.proceed task).2.isOpen then 0 else 1 := by
  have hproceed := c.proceed_cases task
  generalize c.proceed task = after at hproceed
  cases hproceed with
  | ended | declines | checks | refuses | collides | confirms | cancels | sweeps | inserts
  | withdraws => rfl
  | claims hcreated => simp [Task.hasClosed, Channel.isOpen, hcreated]
  | launches => simp [Task.hasClosed, isOpen_launch]
  | flips hopen =>
      have hflip : c.flip.isOpen = false := rfl
      simp [Task.hasClosed, hopen, hflip]
  | leaves => simp [Task.hasClosed, isOpen_leave]
  | clears => simp [Task.hasClosed, isOpen_leave, isOpen_clearWorkbench]

/-- A task that is not over has one step less to take. -/
theorem left_proceed (task : Task σ) : (c.proceed task).1.left ≤ task.left - 1 := by
  have hproceed := c.proceed_cases task
  generalize c.proceed task = after at hproceed
  cases hproceed with
  | ended hover =>
      cases task with
      | started | closed | listened => exact Nat.le_refl _
      | _ => cases hover
  | _ => simp [Task.left]

theorem hasClosed_of_proceed {task : Task σ} (h : task.hasClosed = true) :
    (c.proceed task).1.hasClosed = true := by
  have hproceed := c.proceed_cases task
  generalize c.proceed task = after at hproceed
  cases hproceed with
  | ended => exact h
  | cancels | sweeps | clears => rfl
  | _ => cases h

end Channel

namespace Scene

variable {s : Scene σ}

/-! ### The order in which things happen -/

theorem tasks_proceed {index : Nat} {task : Task σ} (h : s.tasks[index]? = some task) :
    s.proceed index = {
      side := { s.side with channel := (s.channel.proceed task).2 }
      tasks := s.tasks.set index (s.channel.proceed task).1 } := by
  rw [proceed, h]

/-- **Whatever happens moves the channel on.** -/
theorem movesOn_run (s : Scene σ) (acts : List (Act σ)) :
    s.channel.MovesOn (s.run acts).channel := by
  refine keeps (P := fun s' => s.channel.MovesOn s'.channel) ?_ ?_ ?_ ?_ ?_ (.refl _) acts
  · intro s' task hfresh h
    exact h
  · intro s' index h
    cases htask : s'.tasks[index]? with
    | none => rwa [proceed, htask]
    | some task =>
        rw [tasks_proceed htask]
        exact h.trans (s'.channel.movesOn_proceed task)
  · intro s' hidle h
    exact h.trans s'.channel.worksOn_readTurn.movesOn
  · intro s' hidle h
    exact h.trans s'.channel.worksOn_writeTurn.movesOn
  · intro s' act hpermits h
    exact h.trans (worksOn_onSide hpermits).movesOn

/-- Of the shutdowns one has closed the channel, if it is closed, and otherwise none. -/
def ClosedOnce (s : Scene σ) : Prop :=
  s.tasks.countP Task.hasClosed = if s.channel.isOpen then 0 else 1

theorem ClosedOnce.of_isOpen (h : s.ClosedOnce) {s' : Scene σ} (htasks : s'.tasks = s.tasks)
    (hopen : s'.channel.isOpen = s.channel.isOpen) : s'.ClosedOnce := by
  rw [ClosedOnce, htasks, hopen]
  exact h

theorem ClosedOnce.begin (h : s.ClosedOnce) {task : Task σ} (hfresh : task.isFresh = true) :
    (s.begin task).ClosedOnce := by
  rw [ClosedOnce, Scene.begin, List.countP_append, List.countP_singleton,
    Task.hasClosed_of_isFresh hfresh]
  exact h

theorem ClosedOnce.proceed (h : s.ClosedOnce) (index : Nat) : (s.proceed index).ClosedOnce := by
  cases htask : s.tasks[index]? with
  | none => rwa [Scene.proceed, htask]
  | some task =>
      obtain ⟨hindex, hget⟩ := List.getElem?_eq_some_iff.mp htask
      have hclosed := s.channel.hasClosed_proceed task
      have hcounted : (if task.hasClosed then 1 else 0) ≤ s.tasks.countP Task.hasClosed := by
        split
        next hhas => exact List.countP_pos_iff.mpr ⟨task, List.mem_of_getElem? htask, hhas⟩
        · exact Nat.zero_le _
      rw [ClosedOnce] at h
      rw [tasks_proceed htask, ClosedOnce, List.countP_set hindex, hget]
      change _ = if (s.channel.proceed task).2.isOpen then 0 else 1
      omega

theorem ClosedOnce.run (h : s.ClosedOnce) (acts : List (Act σ)) : (s.run acts).ClosedOnce := by
  refine keeps ?_ ?_ ?_ ?_ ?_ h acts
  · intro s' task hfresh h
    exact h.begin hfresh
  · intro s' index h
    exact h.proceed index
  · intro s' hidle h
    exact h.of_isOpen rfl s'.channel.worksOn_readTurn.isOpen
  · intro s' hidle h
    exact h.of_isOpen rfl s'.channel.worksOn_writeTurn.isOpen
  · intro s' act hpermits h
    exact h.of_isOpen rfl (worksOn_onSide hpermits).isOpen

section Created

variable (registry : Registry) (config : ChannelConfig) (writes : List WriteTurn)
  (flushes : List FlushTurn) (app : σ) (acts : List (Act σ))

theorem closedOnce_run : ((created registry config writes flushes app).run acts).ClosedOnce :=
  ClosedOnce.run (by rfl) acts

theorem tidy_run : ((created registry config writes flushes app).run acts).channel.works.Tidy := by
  refine (movesOn_run (created registry config writes flushes app) acts).tidy ?_
  exact ⟨fun _ => ⟨rfl, rfl, rfl⟩, fun _ => ⟨rfl, Or.inl rfl⟩, fun _ => Or.inl rfl⟩

end Created

/-! ### Every task ends -/

/-- The act is a step of the task of a number. -/
def Act.isStepOf (index : Nat) : Act σ → Bool
  | .proceed i => i == index
  | _ => false

/-- Only its own steps change a task. -/
theorem tasks_step (s : Scene σ) {act : Act σ} (hact : ∀ index, act ≠ .proceed index) :
    ∃ new, (s.step act).tasks = s.tasks ++ new := by
  have hrefl : ∃ new, s.tasks = s.tasks ++ new := ⟨[], (List.append_nil _).symm⟩
  have hbegin (s' : Scene σ) (task : Task σ) (hfresh : task.isFresh = true)
      (h : ∃ new, s'.tasks = s.tasks ++ new) : ∃ new, (s'.begin task).tasks = s.tasks ++ new := by
    obtain ⟨new, hnew⟩ := h
    exact ⟨new ++ [task], by rw [begin, hnew, List.append_assoc]⟩
  have hturn (side : Side σ) (cause : Bool) (closer : Closer) :
      ∃ new, (({ s with side } : Scene σ).closeIf cause closer).tasks = s.tasks ++ new :=
    closeIf_keeps (P := fun s' => ∃ new, s'.tasks = s.tasks ++ new) hbegin
      (s := { s with side }) hrefl cause closer
  cases act with
  | start | close | listen => exact hbegin s _ rfl hrefl
  | proceed index => exact absurd rfl (hact index)
  | read =>
      change ∃ new, s.read.tasks = _
      unfold read
      split
      · exact hrefl
      · exact hturn _ _ _
  | write =>
      change ∃ new, s.write.tasks = _
      unfold write
      split
      · exact hrefl
      · exact hturn _ _ _
  | await index expired =>
      exact await_keeps (P := fun s' => ∃ new, s'.tasks = s.tasks ++ new) hbegin
        (fun _ _ _ h => h) hrefl index expired
  | side act =>
      change ∃ new, (if s.permits act then s.onSide act else s).tasks = _
      split
      · exact hrefl
      · exact hrefl

theorem getElem?_proceed_of_ne {index other : Nat} (h : other ≠ index) :
    (s.proceed other).tasks[index]? = s.tasks[index]? := by
  cases hother : s.tasks[other]? with
  | none => rw [proceed, hother]
  | some task =>
      rw [tasks_proceed hother]
      exact List.getElem?_set_ne h

theorem getElem?_step_of_isStepOf {index : Nat} {task : Task σ} (h : s.tasks[index]? = some task)
    {act : Act σ} (hown : act.isStepOf index = true) :
    (s.step act).tasks[index]? = some (s.channel.proceed task).1 := by
  cases act with
  | proceed i =>
      obtain rfl : i = index := by simpa [Act.isStepOf] using hown
      change (s.proceed i).tasks[i]? = _
      rw [tasks_proceed h]
      exact List.getElem?_set_self (List.getElem?_eq_some_iff.mp h).1
  | _ => cases hown

theorem getElem?_step_of_not_isStepOf {index : Nat} {task : Task σ}
    (h : s.tasks[index]? = some task) {act : Act σ} (hown : act.isStepOf index = false) :
    (s.step act).tasks[index]? = some task := by
  by_cases hproceed : ∃ i, act = .proceed i
  · obtain ⟨i, rfl⟩ := hproceed
    have hne : i ≠ index := by simpa [Act.isStepOf] using hown
    exact (getElem?_proceed_of_ne hne).trans h
  · obtain ⟨new, hnew⟩ := s.tasks_step fun i heq => hproceed ⟨i, heq⟩
    rw [hnew, List.getElem?_append_left (List.getElem?_eq_some_iff.mp h).1, h]

/-- A task is there to stay, each step of its own leaves it one step less, and
what its steps keep is kept. -/
theorem task_run {index : Nat} {task : Task σ} (h : s.tasks[index]? = some task)
    (acts : List (Act σ)) :
    ∃ later, (s.run acts).tasks[index]? = some later ∧
      later.left ≤ task.left - acts.countP (Act.isStepOf index) ∧
      ∀ Q : Task σ → Prop, (∀ (c : Channel σ) task, Q task → Q (c.proceed task).1) →
        Q task → Q later := by
  induction acts generalizing s task with
  | nil => exact ⟨task, h, Nat.le_refl _, fun Q _ hQ => hQ⟩
  | cons act acts ih =>
      have hstep : ∃ next, (s.step act).tasks[index]? = some next ∧
          next.left ≤ task.left - (if act.isStepOf index then 1 else 0) ∧
          ∀ Q : Task σ → Prop, (∀ (c : Channel σ) task, Q task → Q (c.proceed task).1) →
            Q task → Q next := by
        cases hown : act.isStepOf index with
        | true =>
            exact ⟨_, getElem?_step_of_isStepOf h hown, s.channel.left_proceed task,
              fun Q hkeeps => hkeeps s.channel task⟩
        | false =>
            exact ⟨task, getElem?_step_of_not_isStepOf h hown, Nat.le_refl _, fun Q _ hQ => hQ⟩
      obtain ⟨next, hnext, hleft, hkept⟩ := hstep
      obtain ⟨later, hlater, hleft', hkept'⟩ := ih hnext
      refine ⟨later, hlater, ?_, fun Q hkeeps hQ => hkept' Q hkeeps (hkept Q hkeeps hQ)⟩
      rw [List.countP_cons]
      omega

end Scene

/-! ### Closed channels -/

/-- The channel refuses all that begins, and is not changed by it, neither by the
operation as a whole nor by its first step. What is to be sent has to be of a
registered type, and a reply has to go where a reply can go. -/
structure Channel.TurnsAway (c : Channel σ) : Prop where
  write : ∀ (m : Message) (entry : RegistryEntry), c.registry.lookupFor m = .ok entry →
    c.write m = (.error .closed, c)
  reply : ∀ (frameId : Int32) (m : Message) (entry : RegistryEntry),
    checkReply frameId m = .ok () → c.registry.lookupFor m = .ok entry →
    c.reply frameId m = (.error .closed, c)
  request : ∀ (r : RequestType) (payload : r.Payload) (entry : RegistryEntry),
    c.registry.lookupFor (Message.request r payload) = .ok entry →
    c.request r payload = (.error .closed, c)
  send : ∀ (o : Order) (entry : RegistryEntry), c.registry.lookupFor o.message = .ok entry →
    (∀ frameId m, o = .reply frameId m → checkReply frameId m = .ok ()) →
    c.advance o .check = (.ended (.error .closed), c)
  listen : ∀ frameId run, c.addResponseListener frameId run = (.error .closed, c) ∧
    c.proceed (.check frameId run) = (.listened frameId run (.error .closed), c)
  start : c.start true = (.error .closed, c) ∧
    c.proceed (.claim true) = (.started (.error .closed), c)

theorem Channel.turnsAway_of_closed {c : Channel σ} (h : c.isOpen = false) : c.TurnsAway := by
  have hlife : c.lifecycle = .closed := by simpa [isOpen] using h
  have hopen : c.checkOpen = .error .closed := by simp [checkOpen, h]
  have hsend {m : Message} {entry : RegistryEntry} (hentry : c.registry.lookupFor m = .ok entry) :
      c.checkSend m = .error .closed := by simp [checkSend, hentry, hopen]
  constructor
  · intro m entry hentry
    simp [write, hsend hentry]
  · intro frameId m entry hreply hentry
    simp [reply, hreply, hsend hentry]
  · intro r payload entry hentry
    simp [request, hsend hentry]
  · intro o entry hentry hreply
    have hsend := hsend hentry
    cases o with
    | write m =>
        rw [Order.message] at hsend
        simp [advance, checkOrder, hsend]
    | reply frameId m =>
        rw [Order.message] at hsend
        simp [advance, checkOrder, hreply frameId m rfl, hsend]
    | request r payload =>
        rw [Order.message] at hsend
        simp [advance, checkOrder, hsend]
  · intro frameId run
    simp [addResponseListener, addWaiter, proceed, hopen]
  · simp [start, claimStart, proceed, hlife]

/-- **The life of a channel goes one way.** However the steps of those who start
it, close it and listen to it come between the turns of its workers and whatever
else happens to it, the channel never goes back to an earlier stage. Among all
shutdowns one has closed the channel if it is closed, and none otherwise; every
task is over once it has taken four steps, and that shutdown then yields that it
has closed the channel, as no other one does. The streams go to the workers or
are dropped, once for all, and only those to whom they were given are at work.
Once the channel is closed, it stays so and turns away what begins. -/
theorem closed_once_for_all (registry : Registry) (config : ChannelConfig) (writes : List WriteTurn)
    (flushes : List FlushTurn) (app : σ) (acts more : List (Scene.Act σ)) :
    let s := (Scene.created registry config writes flushes app).run acts
    let later := s.run more
    s.channel.lifecycle.rank ≤ later.channel.lifecycle.rank ∧
      (s.tasks.countP Task.hasClosed = if s.channel.isOpen then 0 else 1) ∧
      ((∀ task ∈ s.tasks, task.isOver = true) →
        s.tasks.countP Task.yieldsTrue = if s.channel.isOpen then 0 else 1) ∧
      (∀ index task, s.tasks[index]? = some task →
        4 ≤ more.countP (Scene.Act.isStepOf index) →
        ∃ result, later.tasks[index]? = some result ∧ result.isOver = true ∧
          (task.hasClosed = true → result.yieldsTrue = true)) ∧
      (s.channel.workbench ≠ .held → later.channel.workbench = s.channel.workbench) ∧
      (s.channel.workbench ≠ .started →
        s.channel.reading = false ∧ s.channel.writing = false ∧ s.channel.relaying = false) ∧
      (s.channel.isOpen = false → later.channel.isOpen = false ∧ later.channel.TurnsAway) := by
  intro s later
  have hmoves : s.channel.MovesOn later.channel := s.movesOn_run more
  have hclosed : s.ClosedOnce := Scene.closedOnce_run registry config writes flushes app acts
  have htidy : s.channel.works.Tidy := Scene.tidy_run registry config writes flushes app acts
  refine ⟨hmoves.rank, hclosed, ?_, ?_, hmoves.workbench, htidy.workers, ?_⟩
  · intro hover
    rw [← hclosed]
    refine List.countP_congr fun task htask => ?_
    rw [Task.yieldsTrue_of_isOver (hover task htask)]
  · intro index task htask hsteps
    obtain ⟨result, hresult, hleft, hkept⟩ := Scene.task_run htask more
    have hnone : result.left = 0 := by
      have := task.left_le
      omega
    have hover := Task.isOver_of_left hnone
    refine ⟨result, hresult, hover, fun h => ?_⟩
    rw [Task.yieldsTrue_of_isOver hover]
    exact hkept (·.hasClosed = true) (fun c _ => c.hasClosed_of_proceed) h
  · intro hend
    have hlater := hmoves.isOpen hend
    exact ⟨hlater, Channel.turnsAway_of_closed hlater⟩

/-- A start that a shutdown overtakes finds no streams to give to the workers, and
the other shutdown comes too late. -/
example :
    let s := (Scene.created (σ := Unit) .catalog {} [] [] ()).run
      [.start true, .close, .close, .proceed 0, .proceed 1, .proceed 2, .proceed 1, .proceed 1,
        .proceed 1, .proceed 0]
    s.channel.workbench = .dropped ∧ s.channel.lifecycle = .closed ∧
      s.tasks.map Task.yieldsTrue = [false, true, false] ∧ s.tasks.all Task.isOver = true := by
  decide

end Parley
