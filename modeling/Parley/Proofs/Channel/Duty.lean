/-
Every request is answered once, by a reply that can be written.

A side that is not at rest can take a step that leaves less to do and keeps its
channel open, as long as its sink does not break off (`Side.exists_work`). So it
can always come to rest, and then each request that it has heard was answered and
each answer that becomes a frame was written. An answer that becomes none, as its
type is not registered or it is too large, is lost, and its request gets no reply
though the channel stays open (`Side.requests_answered_once`).
-/
import Parley.Proofs.Channel.Health
import Parley.Proofs.Channel.Replying

namespace Parley

open scoped List

variable {σ : Type}

/-! ### What there is to do -/

/-- A write that is held up has used up a turn. -/
theorem Sink.length_turns_drain (turns : List WriteTurn) (bs : Bytes) :
    (drain turns bs).turns.length ≤ turns.length ∧
      ((drain turns bs).progress = .pending → (drain turns bs).turns.length < turns.length) := by
  fun_induction drain turns bs with
  | case1 | case2 | case3 | case6 => simp
  | case7 => exact ⟨Nat.le_succ _, fun _ => Nat.lt_succ_self _⟩
  | case4 n turns bs _ hn later ih =>
      exact ⟨Nat.le_succ_of_le ih.1, fun h => Nat.lt_succ_of_lt (ih.2 h)⟩
  | case5 e turns bs _ hkind ih =>
      exact ⟨Nat.le_succ_of_le ih.1, fun h => Nat.lt_succ_of_lt (ih.2 h)⟩

/-- How many turns of the writer a sink can still hold up, and whether it does. -/
def Sink.load (s : Sink) : Nat := 2 * s.writes.length + s.stalled.toNat

/-- Writing to a sink that is not held up leaves it as it was, or one turn less. -/
theorem Sink.load_write {s : Sink} (h : s.stalled = false) (bs : Bytes) :
    (s.write bs).2.2.load ≤ s.load ∧
      ((s.write bs).1 = .pending → (s.write bs).2.2.load < s.load) := by
  obtain ⟨hle, hlt⟩ := length_turns_drain s.writes bs
  unfold write
  rw [h, if_neg Bool.false_ne_true]
  cases hprogress : (drain s.writes bs).progress with
  | pending =>
      have hturn := hlt hprogress
      simp only [load, hprogress, h, Bool.toNat_true, Bool.toNat_false]
      omega
  | done u =>
      simp only [load, hprogress, h, Bool.toNat_false]
      exact ⟨by omega, nofun⟩
  | failed e =>
      simp only [load, hprogress, h, Bool.toNat_false]
      exact ⟨by omega, nofun⟩

/-- How many steps a call takes at most until what it queues is written. -/
def Stage.load : Stage → Nat
  | .check => 10
  | .number => 9
  | .guard _ _ => 8
  | .await _ _ => 7
  | .confirm _ _ => 6
  | .enqueue _ _ => 5

/-- A call of a listener may lead to a call to reply, if it is for all traffic. -/
def Job.load : Job σ → Nat
  | .traffic _ _ _ => 11
  | _ => 1

/-- What is left to do for the workers of a channel. -/
def Channel.load (c : Channel σ) : Nat :=
  (if c.lifecycle = .created then 1 else 0) + c.sink.load
    + (3 * c.current.toList.length + 4 * c.queue.length)
    + ((c.pool.map Job.load).sum + (c.events.map fun j => j.load + 1).sum)

/-- What is left to do for a side. -/
def Side.load (s : Side σ) : Nat :=
  s.channel.load + (s.errands.map fun e => e.2.load).sum

theorem Job.load_pos (j : Job σ) : 0 < j.load := by
  cases j <;> exact Nat.succ_pos _

theorem Stage.load_pos (stage : Stage) : 0 < stage.load := by
  cases stage <;> exact Nat.succ_pos _

theorem Job.load_of_isAside {j : Job σ} (h : j.IsAside) : j.load = 1 := by
  cases j with
  | traffic => cases h.2
  | response | broadcast | written => rfl

namespace Side

/-- The events in which the workers and the calls under way go on, and the sink
takes bytes again. -/
def Event.isWork : Event σ → Bool
  | .start true | .act .relay | .act (.finish _) | .act (.advance _) | .act .write
  | .act .release => true
  | _ => false

variable {s : Side σ}

/-- The first of the calls under way takes a step. -/
theorem load_advance {order : Order} {stage : Stage} {rest : List (Order × Stage)}
    (hcall : s.errands = (order, stage) :: rest) : (s.advance 0).load < s.load := by
  have hfirst : s.errands[0]? = some (order, stage) := by rw [hcall]; rfl
  have hstep := s.channel.advance_cases order stage
  rw [advance, hfirst]
  dsimp only
  generalize s.channel.advance order stage = after at hstep
  obtain ⟨outcome, c⟩ := after
  have hpos := stage.load_pos
  have hload : s.load = s.channel.load + (stage.load + (rest.map fun e => e.2.load).sum) := by
    rw [load, hcall, List.map_cons, List.sum_cons]
  -- what a call does to the channel matters only when it queues something
  have hnext {c : Channel σ} {stage' : Stage} (hc : c.load = s.channel.load)
      (hless : stage'.load < stage.load) : (s.proceed 0 order c (.next stage')).load < s.load := by
    rw [hload, load]
    simp only [proceed, hcall, List.set_cons_zero, List.map_cons, List.sum_cons]
    omega
  have hended {c : Channel σ} {e : ChannelError} (hc : c.load = s.channel.load) :
      (s.proceed 0 order c (.ended (.error e))).load < s.load := by
    rw [hload, load]
    simp only [proceed, hcall, List.eraseIdx_cons_zero]
    omega
  cases hstep with
  | failed | withdrawn => exact hended rfl
  | known | unknown | guarded | waits | confirmed =>
      exact hnext rfl (by simp [Stage.load])
  | numbered =>
      refine hnext rfl ?_
      split <;> simp [Stage.load]
  | queued =>
      rw [hload, load]
      simp only [proceed, hcall, List.eraseIdx_cons_zero, Channel.load, List.length_append,
        List.length_singleton, Stage.load]
      omega

/-- The first of the calls of listeners in the pool finishes. -/
theorem load_finish {job : Job σ} {rest : List (Job σ)} (hpool : s.channel.pool = job :: rest) :
    (s.finish 0).load < s.load := by
  have hfirst : s.channel.pool[0]? = some job := by rw [hpool]; rfl
  have hpos := job.load_pos
  have hwithout : (s.channel.withoutJob 0).load + job.load = s.channel.load := by
    simp only [Channel.load, Channel.withoutJob, hpool, List.eraseIdx_cons_zero, List.map_cons,
      List.sum_cons]
    omega
  have hfinish := s.finish_cases 0
  generalize s.finish 0 = s' at hfinish
  cases hfinish with
  | absent hnone => cases hnone.symm.trans hfirst
  | aside | unanswered =>
      simp only [load]
      omega
  | reply =>
      change (s.channel.withoutJob 0).load + (s.errands.map fun e => e.2.load).sum < s.load
      rw [load]
      omega
  | answered hjob =>
      obtain rfl := Option.some.inj (hfirst.symm.trans hjob)
      simp only [load, List.map_append, List.sum_append, List.map_singleton, List.sum_singleton,
        Stage.load]
      simp only [Job.load] at hwithout
      omega

/-- The relay hands over the first of the calls that are due. -/
theorem load_relay {job : Job σ} {rest : List (Job σ)} (hevents : s.channel.events = job :: rest)
    (hrelaying : s.channel.relaying = true) : (s.step .relay).load < s.load := by
  change s.channel.relayStep.load + (s.errands.map fun e => e.2.load).sum < s.load
  have hrelay : s.channel.relayStep
      = { s.channel with events := rest, pool := s.channel.pool ++ [job] } := by
    rw [Channel.relayStep, if_pos hrelaying, hevents]
  rw [hrelay, load]
  simp only [Channel.load, hevents, List.map_append, List.sum_append, List.map_cons, List.sum_cons,
    List.map_nil, List.sum_nil]
  omega

/-- The writer goes on where there is something to write and nothing holds the
sink up. -/
theorem load_write (hwriting : s.channel.writing = true) (hunwritten : s.channel.unwritten ≠ [])
    (hstalled : s.channel.sink.stalled = false)
    (hopen : (s.step .write).channel.isOpen = true) : (s.step .write).load < s.load := by
  change s.channel.writeStep.load + (s.errands.map fun e => e.2.load).sum < s.load
  change s.channel.writeStep.isOpen = true at hopen
  have hputs := s.channel.puts_writeStep
  generalize s.channel.writeStep = c at hputs hopen
  rw [load]
  refine Nat.add_lt_add_right ?_ _
  cases hputs with
  | idle hidle =>
      rcases hidle with hended | hnone
      · cases hwriting.symm.trans hended
      · exact absurd hnone hunwritten
  | fails _ hclosed => cases hclosed.symm.trans hopen
  | @sends out hcurrent hpending =>
      have hsink := (Sink.load_write hstalled out.left).2 hpending
      simp only [Channel.load, hcurrent, Option.toList_some, List.length_singleton]
      omega
  | @written out calls hcurrent hdone haside hone =>
      have hsink := (Sink.load_write hstalled out.left).1
      have hflush : (s.channel.sink.write out.left).2.2.flush.2.load
          = (s.channel.sink.write out.left).2.2.load := rfl
      have hcalls : (calls.map fun j => j.load + 1).sum ≤ 2 := by
        rcases calls with _ | ⟨j, _ | ⟨k, more⟩⟩
        · exact Nat.zero_le _
        · simp [Job.load_of_isAside (haside j List.mem_cons_self)]
        · simp at hone
      simp only [Channel.load, hcurrent, Option.toList_some, List.length_singleton,
        Option.toList_none, List.length_nil, List.map_append, List.sum_append, hflush]
      omega
  | begins hcurrent hqueue =>
      simp only [Channel.load, hcurrent, hqueue, Option.toList_some, Option.toList_none,
        List.length_nil, List.length_cons]
      omega
  | refuses hcurrent hqueue =>
      simp only [Channel.load, hcurrent, hqueue, Option.toList_none, List.length_nil,
        List.length_cons]
      omega

/-- What is at work neither shuts the channel down nor reads. -/
theorem not_isShutdown_of_isWork {act : Act σ} (h : (Event.act act).isWork = true) :
    act.isShutdown = false ∧ act ≠ .read := by
  refine ⟨?_, fun hread => ?_⟩
  · cases act <;> first | rfl | cases h
  · subst hread
    cases h

/-- What is at work leaves an open channel open, and its sink sound. -/
theorem isOpen_step (hsmooth : s.channel.Smooth) (hopen : s.channel.isOpen = true) {act : Act σ}
    (hwork : (Event.act act).isWork = true) :
    (s.step act).channel.isOpen = true ∧ (s.step act).channel.Smooth := by
  obtain ⟨hact, hread⟩ := not_isShutdown_of_isWork hwork
  by_cases hwrite : act = .write
  · subst hwrite
    obtain ⟨hlife, hafter⟩ := Channel.life_writeStep hsmooth
    exact ⟨(Channel.isOpen_of_life hlife).trans hopen, hafter⟩
  · obtain ⟨hsame, -, hwrites, hflushes, -⟩ := life_step hact hread hwrite (s := s)
    rw [hsame, Channel.Smooth, hwrites, hflushes]
    exact ⟨hopen, hsmooth⟩

/-- **A side that is not at rest can go on**, and has less to do then. -/
theorem exists_work (hafloat : s.channel.Afloat) (hopen : s.channel.isOpen = true)
    (hsmooth : s.channel.Smooth) (hbusy : ¬ s.AtRest) :
    ∃ e : Event σ, e.isWork = true ∧ (s.happen e).channel.isOpen = true ∧
      (s.happen e).channel.Smooth ∧ (s.happen e).load < s.load := by
  -- an act of the workers or of the calls does it, once it leaves less to do
  have hact (act : Act σ) (hwork : (Event.act act).isWork = true)
      (hpermits : permits s.channel act = true)
      (hless : (s.step act).channel.isOpen = true → (s.step act).load < s.load) :
      ∃ e : Event σ, e.isWork = true ∧ (s.happen e).channel.isOpen = true ∧
        (s.happen e).channel.Smooth ∧ (s.happen e).load < s.load := by
    obtain ⟨hafter, hsmooth'⟩ := isOpen_step hsmooth hopen hwork
    refine ⟨.act act, hwork, ?_⟩
    rw [happen, if_pos hpermits]
    exact ⟨hafter, hsmooth', hless hafter⟩
  obtain ⟨-, ⟨hcreated, hheld⟩ | ⟨-, -, -, hwriting, hrelaying⟩⟩ := hafloat hopen
  · refine ⟨.start true, rfl, ?_⟩
    have hstart : (s.channel.start true).2 = { s.channel with
        lifecycle := .running, workbench := .started
        reading := true, writing := true, relaying := true } := by
      simp only [Channel.start, Channel.claimStart, hcreated, Channel.launch, hheld]
      rfl
    rw [happen, onChannel, hstart]
    refine ⟨rfl, hsmooth, ?_⟩
    simp only [load, Channel.load, hcreated]
    simp
  cases herrands : s.errands with
  | cons call rest =>
      obtain ⟨order, stage⟩ := call
      exact hact (.advance 0) rfl rfl fun _ => load_advance herrands
  | nil =>
  cases hpool : s.channel.pool with
  | cons job rest =>
      exact hact (.finish 0) rfl rfl fun _ => load_finish hpool
  | nil =>
  cases hevents : s.channel.events with
  | cons job rest =>
      exact hact .relay rfl rfl fun _ => load_relay hevents hrelaying
  | nil =>
  by_cases hunwritten : s.channel.unwritten = []
  · have hjobs : s.channel.jobs = [] := by rw [Channel.jobs, hpool, hevents]; rfl
    exact absurd ⟨herrands, hjobs, hunwritten⟩ hbusy
  by_cases hstalled : s.channel.sink.stalled = true
  · refine hact .release rfl rfl fun _ => ?_
    change ({ s.channel with sink := s.channel.sink.release } : Channel σ).load
      + (s.errands.map fun e => e.2.load).sum < s.load
    simp only [load, Channel.load, Sink.load, Sink.release, hstalled, Bool.toNat_true,
      Bool.toNat_false]
    omega
  · exact hact .write rfl rfl
      (load_write hwriting hunwritten (Bool.eq_false_iff.mpr hstalled))

/-! ### Coming to rest -/

/-- What is at work brings nothing to hear. -/
theorem heard_of_isWork {later : List (Event σ)} (hwork : ∀ e ∈ later, e.isWork = true) :
    s.heard later = [] := by
  induction later generalizing s with
  | nil => rfl
  | cons e rest ih =>
      obtain ⟨he, hrest⟩ := List.forall_mem_cons.mp hwork
      have hnothing : s.delivery? e = none := by
        cases e with
        | start runtime => rfl
        | act act =>
            cases act with
            | read => cases he
            | _ => rfl
      rw [heard, hears_of_delivery? hnothing, ih hrest]
      rfl

/-- **A side whose sink does not break off can always come to rest**, with its
channel open. -/
theorem exists_rest (hafloat : s.channel.Afloat) (hopen : s.channel.isOpen = true)
    (hsmooth : s.channel.Smooth) :
    ∃ later : List (Event σ), (∀ e ∈ later, e.isWork = true) ∧
      (s.course later).channel.isOpen = true ∧ (s.course later).AtRest := by
  induction hload : s.load using Nat.strong_induction_on generalizing s with
  | h n ih =>
      by_cases hrest : s.AtRest
      · exact ⟨[], List.forall_mem_nil _, hopen, hrest⟩
      · obtain ⟨e, he, hafter, hsmooth', hless⟩ := exists_work hafloat hopen hsmooth hrest
        obtain ⟨later, hwork, hend⟩ :=
          ih _ (hload ▸ hless) (s.afloat_happen hafloat e) hafter hsmooth' rfl
        exact ⟨e :: later, List.forall_mem_cons.mpr ⟨he, hwork⟩, hend⟩

/-! ### Answers that become frames -/

section Answers

variable {registry : Registry} {maxPayload : Nat} {said : List (Int32 × Message)}

/-- The frames of messages that all become one bear their frame ids. -/
theorem map_frameId_of_isSome (h : ∀ p ∈ said, (registry.frame? maxPayload p).isSome = true) :
    (said.filterMap (registry.frame? maxPayload)).map Frame.frameId = said.map Prod.fst := by
  induction said with
  | nil => rfl
  | cons p rest ih =>
      obtain ⟨hfirst, hrest⟩ := List.forall_mem_cons.mp h
      obtain ⟨f, hf⟩ := Option.isSome_iff_exists.mp hfirst
      rw [List.filterMap_cons_some hf, List.map_cons, List.map_cons, ih hrest,
        (Registry.frame_eq_ok (Registry.frame?_eq_some.mp hf)).1]

/-- There is a frame on the frame id of each request exactly if each message that
answers one becomes a frame. -/
theorem frames_match_iff {frames : List Frame} {requests : List (Int32 × Message)}
    (hframes : frames ~ said.filterMap (registry.frame? maxPayload))
    (hanswered : requests.map Prod.fst ~ said.map Prod.fst) :
    frames.map Frame.frameId ~ requests.map Prod.fst ↔
      ∀ p ∈ said, (registry.frame? maxPayload p).isSome = true := by
  constructor
  · intro hmatch
    refine List.filterMap_length_eq_length.mp ?_
    rw [← hframes.length_eq, ← List.length_map Frame.frameId, hmatch.length_eq,
      hanswered.length_eq, List.length_map]
  · intro hall
    refine (hframes.map Frame.frameId).trans ?_
    rw [map_frameId_of_isSome hall]
    exact hanswered.symm

end Answers

/-- **Every request that a side hears is answered once, and its answer is written
once if it becomes a frame.** The answer is the reply of the handler or a failure
that names the wire type id of the request. The reply frames in the sink are
frames of answers, none of them twice. A side whose sink does not break off can
always come to rest without hearing anything more. Then all answers were given and
written that become frames, and so each request has a reply frame of its own
exactly if the answers all become one: if the types of the replies are registered
and their payloads can be encoded within the limit. The channel stays open either
way. -/
theorem requests_answered_once {registry : Registry} (hregistry : registry.Built)
    (d : Dispatcher σ) (config : ChannelConfig) (writes : List WriteTurn)
    (flushes : List FlushTurn) (app : σ) {events : List (Event σ)}
    (hevents : ∀ e ∈ events, e.LeavesTo d) :
    let first := created registry config writes flushes app
    let s := first.course events
    let requests := first.heard events
    let answers := s.answered.map Answered.reply
    let frame? := registry.frame? config.limits.maxPayload
    s.channel.isOpen = true →
      (∀ a ∈ s.answered, d.Replies registry a.app a.message a.answer) ∧
      (∃ due, requests ~ s.answered.map Answered.request ++ due ∧ (s.AtRest → due = [])) ∧
      (∃ frames : List Frame,
        s.channel.sink.taken ++ s.channel.left = frames.flatMap Frame.bytes ∧
        frames.filter (Frame.isReply registry) <+~ answers.filterMap frame? ∧
        (s.AtRest → s.channel.left = [] ∧
          frames.filter (Frame.isReply registry) ~ answers.filterMap frame? ∧
          ((frames.filter (Frame.isReply registry)).map Frame.frameId ~ requests.map Prod.fst ↔
            ∀ p ∈ answers, (frame? p).isSome = true))) ∧
      (s.channel.Smooth → ∃ later : List (Event σ), (∀ e ∈ later, e.isWork = true) ∧
        (s.course later).channel.isOpen = true ∧ (s.course later).AtRest ∧
        first.heard (events ++ later) = requests) := by
  intro first s requests answers frame? hopen
  have hengaged : s.Engaged d registry config.limits.maxPayload requests :=
    (engaged_created d registry config writes flushes app).course hregistry hevents hopen
  obtain ⟨due, hdealt, hdue⟩ := hengaged.dealt
  obtain ⟨frames, hbytes, honce, hwritten⟩ := hengaged.replies hregistry
  refine ⟨fun a ha => (hengaged.attends.answered a ha).2, ⟨due, hdealt, hdue⟩,
    ⟨frames, hbytes, honce, ?_⟩, ?_⟩
  · intro hrest
    obtain ⟨hleft, hall⟩ := hwritten hrest
    rw [hdue hrest, List.append_nil] at hdealt
    have hids : requests.map Prod.fst ~ answers.map Prod.fst := by
      have hmapped := hdealt.map Prod.fst
      rwa [List.map_map] at hmapped ⊢
    exact ⟨hleft, hall, frames_match_iff hall hids⟩
  · intro hsmooth
    obtain ⟨later, hwork, hafter, hrest⟩ := exists_rest hengaged.afloat hopen hsmooth
    refine ⟨later, hwork, hafter, hrest, ?_⟩
    rw [heard_append, heard_of_isWork hwork, List.append_nil]

/-- What happens from the arrival of one request on to the end of the write of its
answer, where nothing holds anything up. -/
def serve (d : Dispatcher σ) (request : Frame) : List (Event σ) :=
  [.act (.onTraffic d.listener), .start true, .act (.arrive (.data request.bytes)), .act .read,
    .act .relay, .act (.finish 0), .act (.advance 0), .act (.advance 0), .act .write, .act .write]

theorem leavesTo_serve (d : Dispatcher σ) (request : Frame) :
    ∀ e ∈ serve d request, e.LeavesTo d := by
  simp [serve, Event.LeavesTo]

theorem atRest_of_lengths
    (h : s.errands.length + s.channel.jobs.length + s.channel.unwritten.length = 0) :
    s.AtRest :=
  ⟨List.length_eq_zero_iff.mp (by omega), List.length_eq_zero_iff.mp (by omega),
    List.length_eq_zero_iff.mp (by omega)⟩

/-- A ping that a handler answers has one reply frame in the sink. -/
theorem ping_has_one_reply :
    let d : Dispatcher Nat := Dispatcher.empty.register .ping fun pings _ => (pings + 1, .reply ())
    let first : Side Nat := created .catalog {} [] [] 0
    let events := serve d ⟨7, (MessageType.request .ping).wireId, []⟩
    first.heard events = [(7, .request .ping ())] ∧
      ∃ frames : List Frame, (first.course events).channel.sink.taken = frames.flatMap Frame.bytes ∧
        (frames.filter (Frame.isReply .catalog)).map Frame.frameId = [7] := by
  intro d first events
  have hheard : first.heard events = [(7, .request .ping ())] := by decide +kernel
  obtain ⟨-, -, ⟨frames, hbytes, -, hrest⟩, -⟩ :=
    requests_answered_once Registry.built_catalog d {} [] [] 0 (leavesTo_serve d _)
      (by decide +kernel : (first.course events).channel.isOpen = true)
  obtain ⟨hleft, -, hiff⟩ := hrest (atRest_of_lengths (by decide +kernel))
  refine ⟨hheard, frames, by rw [← hbytes, hleft, List.append_nil], ?_⟩
  have hone := hiff.mpr (by decide +kernel)
  rw [hheard] at hone
  exact List.perm_singleton.mp hone

/-- A handler's reply that is larger than the limit is lost: its request has no
reply frame, and nothing more is to come, though the channel is open and nothing
is wrong with the sink. -/
theorem oversized_reply_is_lost :
    let d : Dispatcher Nat := Dispatcher.empty.register .getLoaderClasses fun app _ =>
      (app, .reply ⟨7, ["com/example/Main", "com/example/Util"]⟩)
    let first : Side Nat := created .catalog { limits := { maxPayload := 30 } } [] [] 0
    let events :=
      serve d ⟨0, (MessageType.request .getLoaderClasses).wireId, Bytes.ofInt32 7⟩
    let s := first.course events
    (∀ e ∈ events, e.LeavesTo d) ∧ first.heard events = [(0, .request .getLoaderClasses 7)] ∧
      s.channel.isOpen = true ∧ s.channel.Smooth ∧ s.AtRest ∧ s.channel.sink.taken = [] := by
  intro d first events s
  refine ⟨leavesTo_serve d _, by decide +kernel, by decide +kernel, ?_,
    atRest_of_lengths (by decide +kernel), by decide +kernel⟩
  exact ⟨by decide +kernel, by decide +kernel⟩

end Side

end Parley
