/-
A shutdown and those who listen.

Whoever adds a listener looks whether the channel is open, puts the listener into
the table and looks again. Whoever closes the channel makes it closed before
taking back all that waits. However the steps of one shutdown come between those
of any number of calls that add listeners, no listener is left behind: it was
added for good before the channel was closed and was taken back with the others,
or its own call takes it back (`no_listener_survives`).
-/
import Parley.Proofs.Channel.Lifetime
import Parley.Proofs.Channel.Requests

namespace Parley

open scoped List

variable {σ : Type}

/-- A value that looks the same as the one that it replaces. -/
theorem filterMap_set_perm {α β : Type} (f : α → Option β) {l : List α} {index : Nat} {a b : α}
    (h : l[index]? = some a) (hf : f b = f a) : (l.set index b).filterMap f ~ l.filterMap f := by
  refine (filterMap_perm_set f h b).trans ?_
  rw [hf]
  exact (filterMap_perm_eraseIdx f h).symm

/-- What fails at first and holds in the end fails for a last time. -/
theorem exists_last_not {p : Nat → Prop} (hfirst : ¬ p 0) {n : Nat} (hn : p n) :
    ∃ k < n, ¬ p k ∧ ∀ j, k < j → j ≤ n → p j := by
  induction n with
  | zero => exact absurd hn hfirst
  | succ n ih =>
      by_cases hp : p n
      · obtain ⟨k, hk, hnot, hafter⟩ := ih hp
        refine ⟨k, Nat.lt_succ_of_lt hk, hnot, ?_⟩
        intro j hkj hj
        rcases Nat.le_or_eq_of_le_succ hj with hj | rfl
        · exact hafter j hkj hj
        · exact hn
      · refine ⟨n, Nat.lt_succ_self n, hp, ?_⟩
        intro j hnj hj
        rwa [Nat.le_antisymm hj hnj]

namespace Task

/-- The listener that a call is to add, with its frame id. -/
def listener? : Task σ → Option (Int32 × (σ → Message → σ))
  | check frameId run | insert frameId run | confirm frameId run | listened frameId run _ =>
    some (frameId, run)
  | _ => none

/-- The shutdown has taken back all that waited. -/
def hasSwept : Task σ → Bool
  | clearWorkbench _ | closed _ true => true
  | _ => false

theorem hasSwept_of_yieldsTrue {task : Task σ} (h : task.yieldsTrue = true) :
    task.hasSwept = true := by
  cases task with
  | closed closer first =>
      cases first with
      | true => rfl
      | false => cases h
  | _ => cases h

theorem hasClosed_of_hasSwept {task : Task σ} (h : task.hasSwept = true) :
    task.hasClosed = true := by
  cases task with
  | closed closer first =>
      cases first with
      | true => rfl
      | false => cases h
  | clearWorkbench => rfl
  | _ => cases h

/-- The listener that a call has put into the table and has not taken back. -/
def holds? : Task σ → Option (Int32 × (σ → Message → σ))
  | confirm frameId run | listened frameId run (.ok ()) => some (frameId, run)
  | _ => none

/-- The frame id of the listener that a call has yet to look after. -/
def confirming? : Task σ → Option Int32
  | confirm frameId _ => some frameId
  | _ => none

end Task

/-- The last step of a shutdown takes nothing back. -/
theorem Channel.waiters_letGo (c : Channel σ) (closer : Closer) :
    (c.clearWorkbench.leave closer).waiters = c.waiters := by
  unfold clearWorkbench
  split <;> cases closer <;> rfl

theorem Channel.waiters_leave (c : Channel σ) (closer : Closer) :
    (c.leave closer).waiters = c.waiters := by
  cases closer <;> rfl

/-! ### One step -/

/-- A shutdown and the calls that add some listeners, on one channel. As long as
the shutdown has not taken back what waits, every listener that was added is in
the table, each on a frame id of its own; afterwards only those are that their
calls have yet to look after. -/
structure Contest (listeners : List (Int32 × (σ → Message → σ))) (shutdown : Task σ)
    (calls : List (Task σ)) (c : Channel σ) : Prop where
  phase : if c.isOpen then shutdown = .flip .caller else shutdown.hasClosed = true
  listens : calls.map Task.listener? = listeners.map some
  held : shutdown.hasSwept = false → ∀ l ∈ calls.filterMap Task.holds?,
    (l.1, Waiter.listener l.2) ∈ c.waiters
  apart : shutdown.hasSwept = false → ((calls.filterMap Task.holds?).map Prod.fst).Nodup
  rest : shutdown.hasSwept = true → ∀ w ∈ c.waiters, w.1 ∈ calls.filterMap Task.confirming?

namespace Contest

variable {listeners : List (Int32 × (σ → Message → σ))} {shutdown : Task σ}
  {calls : List (Task σ)} {c : Channel σ}

theorem flip_of_isOpen (h : Contest listeners shutdown calls c) (hopen : c.isOpen = true) :
    shutdown = .flip .caller := by
  have hphase := h.phase
  rwa [if_pos hopen] at hphase

theorem hasClosed_of_closed (h : Contest listeners shutdown calls c) (hclosed : c.isOpen = false) :
    shutdown.hasClosed = true := by
  have hphase := h.phase
  rwa [hclosed] at hphase

/-- Before the channel is closed nothing is taken back. -/
theorem hasSwept_of_isOpen (h : Contest listeners shutdown calls c) (hopen : c.isOpen = true) :
    shutdown.hasSwept = false := by
  rw [h.flip_of_isOpen hopen]
  rfl

/-- The shutdown takes a step. -/
theorem shuts (h : Contest listeners shutdown calls c) :
    Contest listeners (c.proceed shutdown).1 calls (c.proceed shutdown).2 := by
  have hclosed (hflip : shutdown ≠ .flip .caller) : c.isOpen = false :=
    Bool.eq_false_iff.mpr fun hopen => hflip (h.flip_of_isOpen hopen)
  have hproceed := c.proceed_cases shutdown
  generalize c.proceed shutdown = after at hproceed
  cases hproceed with
  | ended => exact h
  | flips => exact ⟨rfl, h.listens, h.held, h.apart, nofun⟩
  | leaves hended => exact Bool.noConfusion (h.hasClosed_of_closed hended)
  | cancels =>
      refine ⟨?_, h.listens, h.held, h.apart, nofun⟩
      change if c.isOpen then _ else _
      rw [hclosed nofun]
      rfl
  | sweeps =>
      refine ⟨?_, h.listens, nofun, nofun, fun _ => List.forall_mem_nil _⟩
      change if c.isOpen then _ else _
      rw [hclosed nofun]
      rfl
  | clears =>
      refine ⟨?_, h.listens, nofun, nofun, ?_⟩
      · rw [c.clearWorkbench.isOpen_leave, c.isOpen_clearWorkbench, hclosed nofun]
        rfl
      · rw [c.waiters_letGo]
        exact h.rest
  | claims | declines | launches | checks | refuses | inserts | collides | confirms | withdraws =>
      have hphase := h.phase
      split at hphase <;> cases hphase

section Listening

variable {index : Nat} {task later : Task σ}

theorem listens_set (h : Contest listeners shutdown calls c) (htask : calls[index]? = some task)
    (hlater : later.listener? = task.listener?) :
    (calls.set index later).map Task.listener? = listeners.map some := by
  have hsame : (calls.map Task.listener?)[index]? = some task.listener? := by
    rw [List.getElem?_map, htask]
    rfl
  rw [List.map_set, hlater, set_of_getElem? hsame]
  exact h.listens

/-- A call goes on with its listener where it was. -/
theorem goesOn (h : Contest listeners shutdown calls c) (htask : calls[index]? = some task)
    (hlistens : later.listener? = task.listener?) (hholds : later.holds? = task.holds?)
    (hconfirming : shutdown.hasSwept = true → later.confirming? = task.confirming?) :
    Contest listeners shutdown (calls.set index later) c := by
  have hheld := filterMap_set_perm Task.holds? htask hholds
  refine ⟨h.phase, h.listens_set htask hlistens, ?_, ?_, ?_⟩
  · intro hswept l hl
    exact h.held hswept l (hheld.subset hl)
  · intro hswept
    exact (hheld.map Prod.fst).nodup_iff.mpr (h.apart hswept)
  · intro hswept w hw
    have hsame := filterMap_set_perm Task.confirming? htask (hconfirming hswept)
    exact hsame.symm.subset (h.rest hswept w hw)

variable {frameId : Int32} {run : σ → Message → σ}

/-- A call puts its listener into the table, where nothing waits on its frame id. -/
theorem inserts (h : Contest listeners shutdown calls c)
    (htask : calls[index]? = some (.insert frameId run)) (hfree : c.hasWaiter frameId = false) :
    Contest listeners shutdown (calls.set index (.confirm frameId run))
      { c with waiters := c.waiters ++ [(frameId, .listener run)] } := by
  have hothers := filterMap_perm_eraseIdx Task.holds? htask
  have hheld := filterMap_perm_set Task.holds? htask (.confirm frameId run)
  refine ⟨h.phase, h.listens_set htask rfl, ?_, ?_, ?_⟩
  · intro hswept l hl
    rcases List.mem_cons.mp (hheld.subset hl) with rfl | hl
    · exact List.mem_append_right _ (List.mem_singleton_self _)
    · exact List.mem_append_left _ (h.held hswept l (hothers.symm.subset hl))
  · intro hswept
    have hapart := (hothers.map Prod.fst).nodup_iff.mp (h.apart hswept)
    refine (hheld.map Prod.fst).nodup_iff.mpr (List.nodup_cons.mpr ⟨?_, hapart⟩)
    intro hmem
    obtain ⟨l, hl, heq⟩ := List.mem_map.mp hmem
    exact c.hasWaiter_eq_false.mp hfree _ (h.held hswept l (hothers.symm.subset hl)) heq
  · intro hswept w hw
    refine (filterMap_perm_set Task.confirming? htask _).symm.subset ?_
    rcases List.mem_append.mp hw with hw | hw
    · have hold := (filterMap_perm_eraseIdx Task.confirming? htask).subset (h.rest hswept w hw)
      exact List.mem_cons_of_mem _ hold
    · rw [List.mem_singleton.mp hw]
      exact List.mem_cons_self

/-- A call finds the channel closed and takes its listener back, and no other one. -/
theorem withdraws (h : Contest listeners shutdown calls c)
    (htask : calls[index]? = some (.confirm frameId run)) :
    Contest listeners shutdown (calls.set index (.listened frameId run (.error .closed)))
      (c.removeWaiter frameId) := by
  have hothers := filterMap_perm_eraseIdx Task.holds? htask
  have hheld := filterMap_perm_set Task.holds? htask (.listened frameId run (.error .closed))
  refine ⟨h.phase, h.listens_set htask rfl, ?_, ?_, ?_⟩
  · intro hswept l hl
    have hl := hheld.subset hl
    have hapart := (hothers.map Prod.fst).nodup_iff.mp (h.apart hswept)
    have hne : l.1 ≠ frameId := by
      intro heq
      exact (List.nodup_cons.mp hapart).1 (List.mem_map.mpr ⟨l, hl, heq⟩)
    have hwaits := h.held hswept l (hothers.symm.subset (List.mem_cons_of_mem _ hl))
    exact List.mem_filter.mpr ⟨hwaits, by simpa using hne⟩
  · intro hswept
    have hapart := (hothers.map Prod.fst).nodup_iff.mp (h.apart hswept)
    exact (hheld.map Prod.fst).nodup_iff.mpr (List.nodup_cons.mp hapart).2
  · intro hswept w hw
    obtain ⟨hw, hne⟩ := List.mem_filter.mp hw
    have hold := (filterMap_perm_eraseIdx Task.confirming? htask).subset (h.rest hswept w hw)
    rcases List.mem_cons.mp hold with heq | hold
    · exact absurd heq (by simpa using hne)
    · exact (filterMap_perm_set Task.confirming? htask _).symm.subset hold

/-- A call that adds a listener takes a step. -/
theorem listensOn (h : Contest listeners shutdown calls c) (htask : calls[index]? = some task) :
    Contest listeners shutdown (calls.set index (c.proceed task).1) (c.proceed task).2 := by
  have hlistener : ∃ l, task.listener? = some l := by
    have hmem : task.listener? ∈ listeners.map some :=
      h.listens ▸ List.mem_map_of_mem (List.mem_of_getElem? htask)
    obtain ⟨l, -, heq⟩ := List.mem_map.mp hmem
    exact ⟨l, heq.symm⟩
  have hproceed := c.proceed_cases task
  generalize c.proceed task = after at hproceed
  cases hproceed with
  | ended => exact h.goesOn htask rfl rfl fun _ => rfl
  | checks => exact h.goesOn htask rfl rfl fun _ => rfl
  | refuses => exact h.goesOn htask rfl rfl fun _ => rfl
  | collides => exact h.goesOn htask rfl rfl fun _ => rfl
  | inserts hfree => exact h.inserts htask hfree
  | withdraws => exact h.withdraws htask
  | confirms hopen =>
      refine h.goesOn htask rfl rfl fun hswept => ?_
      cases (h.hasSwept_of_isOpen hopen).symm.trans hswept
  | claims | declines | launches | flips | leaves | cancels | sweeps | clears =>
      obtain ⟨l, hl⟩ := hlistener
      cases hl

end Listening

/-! ### The end -/

/-- A shutdown that is over has closed the channel and taken back what waited. -/
theorem closed_of_over (h : Contest listeners shutdown calls c) (hover : shutdown.isOver = true) :
    c.isOpen = false ∧ shutdown.hasSwept = true := by
  have hclosed : c.isOpen = false := by
    refine Bool.eq_false_iff.mpr fun hopen => ?_
    rw [h.flip_of_isOpen hopen] at hover
    cases hover
  refine ⟨hclosed, ?_⟩
  have hcloser := h.hasClosed_of_closed hclosed
  cases shutdown with
  | closed closer first =>
      cases first with
      | true => rfl
      | false => cases hcloser
  | started | listened => cases hcloser
  | _ => cases hover

theorem waiters_of_over (h : Contest listeners shutdown calls c) (hover : shutdown.isOver = true)
    (hcalls : ∀ task ∈ calls, task.isOver = true) : c.waiters = [] := by
  refine List.eq_nil_iff_forall_not_mem.mpr fun w hw => ?_
  obtain ⟨task, htask, hconfirming⟩ :=
    List.mem_filterMap.mp (h.rest (h.closed_of_over hover).2 w hw)
  have hended := hcalls task htask
  cases task with
  | confirm => cases hended
  | _ => cases hconfirming

theorem exists_listened (h : Contest listeners shutdown calls c)
    (hcalls : ∀ task ∈ calls, task.isOver = true) {index : Nat} {frameId : Int32}
    {run : σ → Message → σ} (hindex : listeners[index]? = some (frameId, run)) :
    ∃ result, calls[index]? = some (.listened frameId run result) := by
  have hmapped := congrArg (·[index]?) h.listens
  simp only [List.getElem?_map, hindex, Option.map_some] at hmapped
  obtain ⟨task, htask, hlistener⟩ := Option.map_eq_some_iff.mp hmapped
  have hended := hcalls task (List.mem_of_getElem? htask)
  cases task with
  | listened id run' result =>
      cases hlistener
      exact ⟨result, htask⟩
  | check | insert | confirm => cases hended
  | _ => cases hlistener

end Contest

namespace Channel

variable {c : Channel σ} {task : Task σ}

/-- What waits is taken back in one step of a shutdown. -/
theorem sweeps_of_hasSwept (hbefore : task.hasSwept = false)
    (hafter : (c.proceed task).1.hasSwept = true) :
    (∃ closer, task = .clearWaiters closer) ∧ (c.proceed task).2.waiters = [] := by
  have hproceed := c.proceed_cases task
  generalize c.proceed task = after at hproceed hafter
  cases hproceed with
  | sweeps => exact ⟨⟨_, rfl⟩, rfl⟩
  | ended => cases hbefore.symm.trans hafter
  | clears => cases hbefore
  | _ => cases hafter

theorem hasSwept_of_proceed (h : task.hasSwept = true) : (c.proceed task).1.hasSwept = true := by
  have hproceed := c.proceed_cases task
  generalize c.proceed task = after at hproceed
  cases hproceed with
  | ended => exact h
  | clears => rfl
  | _ => cases h

/-- A listener is added for good where its call looks after it while the channel is open. -/
theorem confirms_of_listened {frameId : Int32} {run : σ → Message → σ}
    (hbefore : task ≠ .listened frameId run (.ok ()))
    (hafter : (c.proceed task).1 = .listened frameId run (.ok ())) :
    task = .confirm frameId run ∧ c.isOpen = true := by
  have hproceed := c.proceed_cases task
  generalize c.proceed task = after at hproceed hafter
  cases hproceed with
  | ended => exact absurd hafter hbefore
  | confirms hopen =>
      cases hafter
      exact ⟨rfl, hopen⟩
  | _ => cases hafter

end Channel

namespace Scene

/-! ### All steps -/

/-- A shutdown and calls that add listeners, none of which has begun. -/
def race (side : Side σ) (listeners : List (Int32 × (σ → Message → σ))) : Scene σ where
  side
  tasks := .flip .caller :: listeners.map fun l => .check l.1 l.2

/-- The race before the step of a number, by a schedule that says whose step is
next. The shutdown is number 0. -/
def raceAt (side : Side σ) (listeners : List (Int32 × (σ → Message → σ))) (schedule : List Nat)
    (n : Nat) : Scene σ :=
  (race side listeners).run ((schedule.take n).map .proceed)

section Race

variable {side : Side σ} {listeners : List (Int32 × (σ → Message → σ))} {schedule : List Nat}

theorem raceAt_succ {n index : Nat} (h : schedule[n]? = some index) :
    raceAt side listeners schedule (n + 1) = (raceAt side listeners schedule n).proceed index := by
  rw [raceAt, List.take_add_one, h, List.map_append]
  exact run_concat _ _ _

section

variable (side listeners schedule)

/-- **However the steps are interleaved, the contest goes on.** -/
theorem contest_raceAt (hopen : side.channel.isOpen = true) (n : Nat) :
    ∃ shutdown calls, (raceAt side listeners schedule n).tasks = shutdown :: calls ∧
      Contest listeners shutdown calls (raceAt side listeners schedule n).channel := by
  induction n with
  | zero =>
      refine ⟨.flip .caller, listeners.map fun l => .check l.1 l.2, rfl, ?_⟩
      have hnone : (listeners.map fun l => Task.check l.1 l.2).filterMap Task.holds? = [] := by
        simp [List.filterMap_map, Function.comp_def, Task.holds?]
      refine ⟨?_, ?_, ?_, ?_, nofun⟩
      · exact (if_pos hopen).mpr rfl
      · simp [Task.listener?]
      · rw [hnone]
        exact fun _ => List.forall_mem_nil _
      · rw [hnone]
        exact fun _ => List.nodup_nil
  | succ n ih =>
      cases hindex : schedule[n]? with
      | none =>
          have hend : schedule.length ≤ n := List.getElem?_eq_none_iff.mp hindex
          rw [raceAt, List.take_of_length_le (Nat.le_succ_of_le hend)]
          rwa [raceAt, List.take_of_length_le hend] at ih
      | some index =>
          obtain ⟨shutdown, calls, htasks, hcontest⟩ := ih
          rw [raceAt_succ hindex]
          generalize raceAt side listeners schedule n = s at htasks hcontest
          cases htask : s.tasks[index]? with
          | none =>
              rw [proceed, htask]
              exact ⟨shutdown, calls, htasks, hcontest⟩
          | some task =>
              rw [tasks_proceed htask, htasks]
              rw [htasks] at htask
              cases index with
              | zero =>
                  cases htask
                  exact ⟨_, calls, rfl, hcontest.shuts⟩
              | succ index => exact ⟨shutdown, _, rfl, hcontest.listensOn htask⟩

theorem raceAt_of_le {n k : Nat} (h : n ≤ k) :
    ∃ acts, raceAt side listeners schedule k = (raceAt side listeners schedule n).run acts := by
  refine ⟨((schedule.take k).drop n).map .proceed, ?_⟩
  have hsplit : schedule.take n ++ (schedule.take k).drop n = schedule.take k := by
    conv_rhs => rw [← List.take_append_drop n (schedule.take k)]
    rw [List.take_take, Nat.min_eq_left h]
  rw [raceAt, raceAt, ← run_append, ← List.map_append, hsplit]

/-- A task changes in a step of its own. -/
theorem getElem?_of_ne {n index : Nat}
    (h : (raceAt side listeners schedule (n + 1)).tasks[index]?
      ≠ (raceAt side listeners schedule n).tasks[index]?) : schedule[n]? = some index := by
  cases hother : schedule[n]? with
  | none =>
      refine absurd ?_ h
      rw [raceAt, raceAt, List.take_add_one, hother]
      simp
  | some other =>
      by_cases heq : other = index
      · rw [heq]
      · refine absurd ?_ h
        rw [raceAt_succ hother]
        exact getElem?_proceed_of_ne heq

end

theorem closed_raceAt {n k : Nat} (h : (raceAt side listeners schedule n).channel.isOpen = false)
    (hk : n ≤ k) : (raceAt side listeners schedule k).channel.isOpen = false := by
  obtain ⟨acts, heq⟩ := raceAt_of_le side listeners schedule hk
  rw [heq]
  exact (movesOn_run _ acts).isOpen h

/-- What the steps of a task keep is kept from one moment to a later one. -/
theorem task_raceAt {n k index : Nat} {task : Task σ}
    (h : (raceAt side listeners schedule n).tasks[index]? = some task) (hk : n ≤ k)
    {Q : Task σ → Prop} (hkeeps : ∀ (c : Channel σ) task, Q task → Q (c.proceed task).1)
    (hQ : Q task) : ∃ later, (raceAt side listeners schedule k).tasks[index]? = some later ∧
      Q later := by
  obtain ⟨acts, heq⟩ := raceAt_of_le side listeners schedule hk
  obtain ⟨later, hlater, -, hkept⟩ := task_run h acts
  rw [heq]
  exact ⟨later, hlater, hkept Q hkeeps hQ⟩

/-- The channel is closed in a step of the shutdown. -/
theorem exists_flip (hopen : side.channel.isOpen = true) {last : Nat}
    (hclosed : (raceAt side listeners schedule last).channel.isOpen = false) :
    ∃ flipped, schedule[flipped]? = some 0 ∧
      ∀ k, (raceAt side listeners schedule k).channel.isOpen = true ↔ k ≤ flipped := by
  have hfirst : ¬ (raceAt side listeners schedule 0).channel.isOpen = false := by
    rw [Bool.not_eq_false]
    exact hopen
  obtain ⟨flipped, hbefore, hnot, hafter⟩ :=
    exists_last_not (p := fun k => (raceAt side listeners schedule k).channel.isOpen = false)
      hfirst hclosed
  have hat : (raceAt side listeners schedule flipped).channel.isOpen = true := by
    rwa [Bool.not_eq_false] at hnot
  have hthen := hafter (flipped + 1) (Nat.lt_succ_self flipped) hbefore
  refine ⟨flipped, getElem?_of_ne side listeners schedule ?_, ?_⟩
  · obtain ⟨task, calls, htasks, hcontest⟩ :=
      contest_raceAt side listeners schedule hopen flipped
    obtain ⟨task', calls', htasks', hcontest'⟩ :=
      contest_raceAt side listeners schedule hopen (flipped + 1)
    have hflip := hcontest.flip_of_isOpen hat
    have hclosing := hcontest'.hasClosed_of_closed hthen
    rw [htasks, htasks', hflip]
    intro heq
    cases heq
    cases hclosing
  · intro k
    constructor
    · intro hk
      refine Nat.le_of_not_lt fun hlt => ?_
      cases hk.symm.trans (closed_raceAt hthen hlt)
    · intro hk
      refine Bool.of_not_eq_false fun hended => ?_
      cases hat.symm.trans (closed_raceAt hended hk)

/-- What waits is taken back in a step of the shutdown. -/
theorem exists_sweep (hopen : side.channel.isOpen = true) {last : Nat} {task : Task σ}
    (htask : (raceAt side listeners schedule last).tasks[0]? = some task)
    (hswept : task.hasSwept = true) :
    ∃ cleared, schedule[cleared]? = some 0 ∧
      (∃ closer, (raceAt side listeners schedule cleared).tasks[0]? = some (.clearWaiters closer)) ∧
      (raceAt side listeners schedule (cleared + 1)).channel.waiters = [] := by
  let p (k : Nat) := ∃ task, (raceAt side listeners schedule k).tasks[0]? = some task ∧
    task.hasSwept = true
  have hfirst : ¬ p 0 := by
    rintro ⟨task, htask, hswept⟩
    cases htask
    cases hswept
  obtain ⟨cleared, hbefore, hnot, hafter⟩ :=
    exists_last_not (p := p) hfirst ⟨task, htask, hswept⟩
  obtain ⟨later, hlater, hswept'⟩ := hafter (cleared + 1) (Nat.lt_succ_self cleared) hbefore
  have hstep : schedule[cleared]? = some 0 := by
    refine getElem?_of_ne side listeners schedule fun heq => hnot ?_
    exact ⟨later, heq ▸ hlater, hswept'⟩
  obtain ⟨earlier, calls, htasks, -⟩ :=
    contest_raceAt side listeners schedule hopen cleared
  have hearlier : (raceAt side listeners schedule cleared).tasks[0]? = some earlier := by
    rw [htasks]
    rfl
  have hunswept : earlier.hasSwept = false := by
    rw [← Bool.not_eq_true]
    exact fun h => hnot ⟨earlier, hearlier, h⟩
  rw [raceAt_succ hstep, tasks_proceed hearlier, htasks] at hlater
  cases hlater
  obtain ⟨⟨closer, rfl⟩, hwaiters⟩ := Channel.sweeps_of_hasSwept hunswept hswept'
  refine ⟨cleared, hstep, ⟨closer, hearlier⟩, ?_⟩
  rw [raceAt_succ hstep, tasks_proceed hearlier]
  exact hwaiters

/-- A listener is added for good in a step of its call, while the channel is open. -/
theorem exists_confirm {last index : Nat} {frameId : Int32} {run : σ → Message → σ}
    (htask : (raceAt side listeners schedule last).tasks[index + 1]?
      = some (.listened frameId run (.ok ()))) :
    ∃ n, schedule[n]? = some (index + 1) ∧
      (raceAt side listeners schedule n).tasks[index + 1]? = some (.confirm frameId run) ∧
      (raceAt side listeners schedule n).channel.isOpen = true ∧
      ∀ k, n < k → (raceAt side listeners schedule k).tasks[index + 1]?
        = some (.listened frameId run (.ok ())) := by
  let p (k : Nat) := (raceAt side listeners schedule k).tasks[index + 1]?
    = some (.listened frameId run (.ok ()))
  have hfirst : ¬ p 0 := by
    intro h
    have hmem : Task.listened frameId run (.ok ()) ∈ listeners.map fun l => Task.check l.1 l.2 :=
      List.mem_of_getElem? (show _[index]? = _ from h)
    obtain ⟨l, -, heq⟩ := List.mem_map.mp hmem
    cases heq
  obtain ⟨n, hbefore, hnot, hafter⟩ := exists_last_not (p := p) hfirst htask
  have hthen : (raceAt side listeners schedule (n + 1)).tasks[index + 1]?
      = some (.listened frameId run (.ok ())) := hafter (n + 1) (Nat.lt_succ_self n) hbefore
  have hstep : schedule[n]? = some (index + 1) :=
    getElem?_of_ne side listeners schedule fun heq => hnot (heq.symm.trans hthen)
  have hlater (k : Nat) (hk : n < k) : p k := by
    obtain ⟨task, htask, rfl⟩ := task_raceAt hthen hk
      (Q := (· = .listened frameId run (.ok ())))
      (fun c task htask => by rw [htask]; rfl) rfl
    exact htask
  cases hearlier : (raceAt side listeners schedule n).tasks[index + 1]? with
  | none =>
      rw [raceAt_succ hstep, proceed, hearlier] at hthen
      cases hearlier.symm.trans hthen
  | some task =>
      have hindex := (List.getElem?_eq_some_iff.mp hearlier).1
      rw [raceAt_succ hstep, tasks_proceed hearlier, List.getElem?_set_self hindex] at hthen
      have hne : task ≠ .listened frameId run (.ok ()) := by
        rintro rfl
        exact hnot hearlier
      obtain ⟨rfl, hopen⟩ := Channel.confirms_of_listened hne (Option.some.inj hthen)
      exact ⟨n, hstep, hearlier, hopen, hlater⟩

/-- Until what waits is taken back, a listener that was added for good is in the table. -/
theorem mem_waiters_raceAt (hopen : side.channel.isOpen = true) {k cleared index : Nat}
    (hk : k ≤ cleared) {closer : Closer} {frameId : Int32} {run : σ → Message → σ}
    (hclearing : (raceAt side listeners schedule cleared).tasks[0]? = some (.clearWaiters closer))
    (hcall : (raceAt side listeners schedule k).tasks[index + 1]?
      = some (.listened frameId run (.ok ()))) :
    (frameId, Waiter.listener run) ∈ (raceAt side listeners schedule k).channel.waiters := by
  obtain ⟨shutdown, calls, htasks, hcontest⟩ :=
    contest_raceAt side listeners schedule hopen k
  rw [htasks] at hcall
  have hcall : calls[index]? = some (.listened frameId run (.ok ())) := hcall
  refine hcontest.held ?_ (frameId, run)
    (List.mem_filterMap.mpr ⟨_, List.mem_of_getElem? hcall, rfl⟩)
  refine Bool.eq_false_iff.mpr fun hdone => ?_
  have hshutdown : (raceAt side listeners schedule k).tasks[0]? = some shutdown := by
    rw [htasks]
    rfl
  obtain ⟨later, hlater, hdone'⟩ := task_raceAt hshutdown hk
    (Q := (·.hasSwept = true)) (fun c _ => Channel.hasSwept_of_proceed) hdone
  cases hclearing.symm.trans hlater
  cases hdone'

/-- A call that looks after its listener on a closed channel fails. -/
theorem refused_raceAt {n index : Nat} {frameId : Int32} {run : σ → Message → σ}
    (hclosed : (raceAt side listeners schedule n).channel.isOpen = false)
    (hstep : schedule[n]? = some index)
    (hconfirm : (raceAt side listeners schedule n).tasks[index]? = some (.confirm frameId run)) :
    (raceAt side listeners schedule schedule.length).tasks[index]?
      = some (.listened frameId run (.error .closed)) := by
  have hfails : ((raceAt side listeners schedule n).channel.proceed (.confirm frameId run)).1
      = .listened frameId run (.error .closed) := by
    simp [Channel.proceed, Channel.confirmWaiter, Channel.checkOpen, hclosed]
  have hthen : (raceAt side listeners schedule (n + 1)).tasks[index]?
      = some (.listened frameId run (.error .closed)) := by
    have hbound := (List.getElem?_eq_some_iff.mp hconfirm).1
    rw [raceAt_succ hstep, tasks_proceed hconfirm, List.getElem?_set_self hbound, hfails]
  have hlength : n + 1 ≤ schedule.length := (List.getElem?_eq_some_iff.mp hstep).1
  obtain ⟨later, hlater, rfl⟩ := task_raceAt hthen hlength
    (Q := (· = .listened frameId run (.error .closed)))
    (fun c task htask => by rw [htask]; rfl) rfl
  exact hlater

end Race

end Scene

/-- **No listener survives a shutdown that it races.** On an open channel one
shutdown and any number of calls that add listeners are over, whatever the order
of their steps. Then nothing waits. The channel was closed in one step of the
shutdown and all that waited was taken back in a later one. A call that has
added its listener looked after it before the channel was closed, and the
listener was in the table from then until it was taken back; a call that looked
after its listener later has failed. -/
theorem no_listener_survives (side : Side σ) (listeners : List (Int32 × (σ → Message → σ)))
    (schedule : List Nat) (hopen : side.channel.isOpen = true)
    (hover : ∀ task ∈ (Scene.raceAt side listeners schedule schedule.length).tasks,
      task.isOver = true) :
    let moment := Scene.raceAt side listeners schedule
    (moment schedule.length).channel.waiters = [] ∧
      ∃ flipped cleared, flipped < cleared ∧ schedule[flipped]? = some 0 ∧
        (∀ k, (moment k).channel.isOpen = true ↔ k ≤ flipped) ∧ schedule[cleared]? = some 0 ∧
        (∃ closer, (moment cleared).tasks[0]? = some (.clearWaiters closer)) ∧
        (moment (cleared + 1)).channel.waiters = [] ∧
        ∀ index frameId run, listeners[index]? = some (frameId, run) →
          ∃ result,
            (moment schedule.length).tasks[index + 1]? = some (.listened frameId run result) ∧
            (result = .ok () → ∃ n < flipped, schedule[n]? = some (index + 1) ∧
              (moment n).tasks[index + 1]? = some (.confirm frameId run) ∧
              ∀ k, n < k → k ≤ cleared →
                (frameId, Waiter.listener run) ∈ (moment k).channel.waiters) ∧
            ∀ n, flipped < n → schedule[n]? = some (index + 1) →
              (moment n).tasks[index + 1]? = some (.confirm frameId run) →
              result = .error .closed := by
  intro moment
  obtain ⟨shutdown, calls, htasks, hcontest⟩ :=
    Scene.contest_raceAt side listeners schedule hopen schedule.length
  rw [htasks] at hover
  obtain ⟨hshut, hcalls⟩ := List.forall_mem_cons.mp hover
  obtain ⟨hclosed, hswept⟩ := hcontest.closed_of_over hshut
  have hfirst : (moment schedule.length).tasks[0]? = some shutdown := by
    rw [htasks]
    rfl
  obtain ⟨flipped, hflip, hbefore⟩ := Scene.exists_flip hopen hclosed
  obtain ⟨cleared, hclear, ⟨closer, hclearing⟩, hempty⟩ := Scene.exists_sweep hopen hfirst hswept
  have hlater : flipped < cleared := by
    refine Nat.lt_of_not_le fun hle => ?_
    obtain ⟨task, others, htasks', hcontest'⟩ :=
      Scene.contest_raceAt side listeners schedule hopen cleared
    rw [htasks', hcontest'.flip_of_isOpen ((hbefore cleared).mpr hle)] at hclearing
    cases hclearing
  refine ⟨hcontest.waiters_of_over hshut hcalls, flipped, cleared, hlater, hflip, hbefore, hclear,
    ⟨closer, hclearing⟩, hempty, ?_⟩
  intro index frameId run hindex
  obtain ⟨result, hcall⟩ := hcontest.exists_listened hcalls hindex
  have hresult : (moment schedule.length).tasks[index + 1]?
      = some (.listened frameId run result) := by
    rw [htasks]
    exact hcall
  refine ⟨result, hresult, ?_, ?_⟩
  · rintro rfl
    obtain ⟨n, hstep, hconfirm, hstill, hafter⟩ := Scene.exists_confirm hresult
    have hn : n < flipped := by
      refine Nat.lt_of_le_of_ne ((hbefore n).mp hstill) ?_
      rintro rfl
      cases hflip.symm.trans hstep
    refine ⟨n, hn, hstep, hconfirm, ?_⟩
    intro k hk hcleared
    exact Scene.mem_waiters_raceAt hopen hcleared hclearing (hafter k hk)
  · intro n hn hstep hconfirm
    have hended : (moment n).channel.isOpen = false := by
      refine Bool.eq_false_iff.mpr fun hstill => ?_
      exact Nat.not_le_of_lt hn ((hbefore n).mp hstill)
    cases hresult.symm.trans (Scene.refused_raceAt hended hstep hconfirm)
    rfl

/-- Three listeners that count messages race a shutdown. -/
def raceOfThree (n : Nat) : Scene Nat :=
  let run (count : Nat) (_ : Message) : Nat := count + 1
  Scene.raceAt (.created .catalog {} [] [] 0) [(7, run), (7, run), (8, run)]
    [1, 1, 2, 1, 3, 2, 3, 0, 3, 0, 0, 0] n

/-- One listener is added in time, one finds its frame id taken, and one comes too
late. None of them is left. -/
theorem none_left_of_three :
    (raceOfThree 0).channel.isOpen = true ∧
      (∀ task ∈ (raceOfThree 12).tasks, task.isOver = true) ∧
      (raceOfThree 12).tasks.map Task.holds? = [none, some (7, fun n _ => n + 1), none, none] ∧
      (raceOfThree 7).channel.waiters.map Prod.fst = [7, 8] ∧
      (raceOfThree 12).channel.waiters = [] := by
  have hover : ∀ task ∈ (raceOfThree 12).tasks, task.isOver = true := by decide
  exact ⟨rfl, hover, rfl, rfl, (no_listener_survives _ _ _ rfl hover).1⟩

end Parley
