/-
What comes of every write.

A message that is taken for writing either becomes a frame or is refused, and
which of the two depends on nothing but the message, the registry and the limit.
Three observers learn of it: the handle of the write, the other end of the
connection and the listener for what was written. On a channel that stays open
they agree: once nothing is left to be written, every handle has one outcome, the
sink has the frames of those that have a length, and the listener was to be called
for the same ones in the same order (`Side.writes_accounted_for`).
-/
import Parley.Proofs.Channel.Duty
import Parley.Proofs.Channel.Routing
import Parley.Proofs.Channel.Tickets

namespace Parley

open scoped List

variable {σ : Type}

/-! ### Verdicts -/

namespace Registry

variable (r : Registry) (maxPayload : Nat)

/-- The length of the payload that a message becomes, or why it becomes no frame. -/
def verdict (w : PendingWrite) : Except FrameError Nat :=
  (r.frame maxPayload w.frameId w.message).map fun f => f.payload.length

/-- The messages that become a frame, each with its frame. -/
def wire (writes : List PendingWrite) : List (PendingWrite × Frame) :=
  writes.filterMap fun w => (r.frame? maxPayload w.content).map (w, ·)

variable {r maxPayload} {w : PendingWrite} {writes : List PendingWrite} {f : Frame}

theorem mem_wire :
    (w, f) ∈ r.wire maxPayload writes ↔
      w ∈ writes ∧ r.frame maxPayload w.frameId w.message = .ok f := by
  simp only [wire, List.mem_filterMap, Option.map_eq_some_iff, frame?_eq_some]
  constructor
  · rintro ⟨v, hv, g, hframe, heq⟩
    cases heq
    exact ⟨hv, hframe⟩
  · rintro ⟨hw, hframe⟩
    exact ⟨w, hw, f, hframe, rfl⟩

theorem map_snd_wire :
    (r.wire maxPayload writes).map Prod.snd
      = (writes.map PendingWrite.content).filterMap (r.frame? maxPayload) := by
  rw [wire, List.map_filterMap, List.filterMap_map]
  refine List.filterMap_congr fun w _ => ?_
  cases hframe : r.frame? maxPayload w.content <;> simp [hframe]

theorem map_fst_wire :
    (r.wire maxPayload writes).map Prod.fst
      = writes.filter fun w => (r.frame? maxPayload w.content).isSome := by
  induction writes with
  | nil => rfl
  | cons w rest ih =>
      cases hframe : r.frame? maxPayload w.content with
      | none => simpa [wire, hframe] using ih
      | some f => simpa [wire, hframe] using ih

theorem verdict_eq_ok {n : Nat} :
    r.verdict maxPayload w = .ok n ↔
      ∃ f, r.frame maxPayload w.frameId w.message = .ok f ∧ f.payload.length = n := by
  rw [verdict]
  cases r.frame maxPayload w.frameId w.message with
  | ok f => simp [Except.map]
  | error e => simp [Except.map]

theorem verdict_eq_error {e : FrameError} :
    r.verdict maxPayload w = .error e ↔
      r.frame maxPayload w.frameId w.message = .error e := by
  rw [verdict]
  cases r.frame maxPayload w.frameId w.message <;> simp [Except.map]

end Registry

/-- What a frame has besides its frame id. -/
def Frame.body (f : Frame) : Int16 × Bytes := (f.typeId, f.payload)

/-- The length field of a frame that is within the limits is its payload's length. -/
theorem Frame.toInt_declaredLength {f : Frame} (h : f.payload.length ≤ maxLength) :
    (declaredLength f.bytes).toInt = f.payload.length := by
  rw [bytes, declaredLength_header, toInt_ofNat_of_le_maxLength h]

/-! ### Calls of the listener for what was written -/

/-- The message that a call is about, with its frame id, if the call is of the
listener for what was written. -/
def Job.written? : Job σ → Option (Int32 × Message)
  | .written _ frameId m => some (frameId, m)
  | _ => none

namespace Channel

variable {c c' : Channel σ}

/-- The messages that the listener for what was written is to be called for, from
one state of a channel to the next. -/
def tells (c c' : Channel σ) : List (Int32 × Message) := (c.posted c').filterMap Job.written?

theorem tells_of_append {jobs : List (Job σ)} (h : c'.events = c.events ++ jobs) :
    c.tells c' = jobs.filterMap Job.written? := by
  rw [tells, posted, h, List.drop_left]

theorem tells_of_same (h : c'.events = c.events) : c.tells c' = [] :=
  tells_of_append (h.trans (List.append_nil _).symm)

/-- Nothing has come of a write, and the listener for what was written is there if
it was there before. -/
structure Hushed (c c' : Channel σ) : Prop where
  outcomes : c'.outcomes = c.outcomes
  listens : c.onWritten.isSome = true → c'.onWritten.isSome = true
  tells : c.tells c' = []

theorem Hushed.of_same (houtcomes : c'.outcomes = c.outcomes)
    (hlistens : c'.onWritten = c.onWritten) (hevents : c'.events = c.events) : Hushed c c' :=
  ⟨houtcomes, fun h => hlistens ▸ h, tells_of_same hevents⟩

theorem Hushed.refl (c : Channel σ) : Hushed c c := .of_same rfl rfl rfl

variable (c)

theorem hushed_post {jobs : List (Job σ)} (h : jobs.filterMap Job.written? = []) :
    Hushed c (c.post jobs) := by
  unfold post
  split
  · exact ⟨rfl, id, (tells_of_append rfl).trans h⟩
  · exact .refl c

/-- What is delivered is nothing that was written. -/
theorem hushed_deliver (frameId : Int32) (m : Message) :
    Hushed c (c.deliver frameId m) := by
  unfold deliver
  split
  · refine c.hushed_post ?_
    rw [List.filterMap_map]
    exact List.filterMap_eq_nil_iff.mpr fun _ _ => rfl
  · have hnone : (((c.waiters.lookup frameId).toList.map fun w => Job.response w m)
        ++ c.onTraffic.toList.map fun l => Job.traffic l frameId m).filterMap Job.written?
        = [] := by
      rw [List.filterMap_append, List.filterMap_map, List.filterMap_map, List.append_eq_nil_iff]
      exact ⟨List.filterMap_eq_nil_iff.mpr fun _ _ => rfl,
        List.filterMap_eq_nil_iff.mpr fun _ _ => rfl⟩
    have hremoved := (c.removeWaiter frameId).hushed_post hnone
    exact ⟨hremoved.outcomes, hremoved.listens, hremoved.tells⟩

theorem hushed_readStep (hopen : c.readStep.isOpen = true) : Hushed c c.readStep := by
  have hclosed : c.collected.shutdown.2.endReading.isOpen = false := c.collected.isOpen_shutdown
  have hread := c.readStep_cases
  generalize c.readStep = c' at hread hopen
  generalize Side.incoming c = brought at hread
  cases hread with
  | idle => exact .refl c
  | waiting => exact .of_same rfl rfl rfl
  | dropped => cases hclosed.symm.trans hopen
  | failed => cases hclosed.symm.trans hopen
  | @delivered f _ m =>
      have hdelivered := c.collected.hushed_deliver f.frameId m
      exact ⟨hdelivered.outcomes, hdelivered.listens, hdelivered.tells⟩

theorem hushed_relayStep : Hushed c c.relayStep := by
  unfold relayStep
  split
  · split
    · exact .refl c
    next job events hevents =>
      have hnone : events.drop (job :: events).length = [] :=
        List.drop_eq_nil_of_le (Nat.le_succ _)
      refine ⟨rfl, id, ?_⟩
      rw [tells, posted, hevents]
      exact congrArg (List.filterMap Job.written?) hnone
  · exact .refl c

theorem hushed_start (runtime : Bool) : Hushed c (c.start runtime).2 := by
  unfold start claimStart
  split
  case isFalse => exact .refl c
  cases c.lifecycle with
  | running | closed => exact .refl c
  | created =>
      dsimp only
      unfold launch
      split
      · exact .of_same rfl rfl rfl
      · exact .of_same rfl rfl rfl

theorem hushed_listen (frameId : Int32) (run : σ → Message → σ) :
    Hushed c (c.addResponseListener frameId run).2 := by
  rw [addResponseListener]
  rcases c.addWaiter_cases frameId (.listener run) with ⟨-, heq⟩ | ⟨-, -, heq⟩ | ⟨-, -, heq⟩
  · rw [heq]
    exact .refl c
  · rw [heq]
    exact .refl c
  · rw [heq]
    exact .of_same rfl rfl rfl

end Channel

namespace Side

/-- The messages that the listener for what was written is to be called for in a
sequence of events, in order. -/
def told (s : Side σ) : List (Event σ) → List (Int32 × Message)
  | [] => []
  | e :: later => s.channel.tells (s.happen e).channel ++ (s.happen e).told later

variable (s : Side σ)

theorem hushed_advance (index : Nat) : s.channel.Hushed (s.advance index).channel := by
  rcases s.advance_eq index with heq | ⟨order, stage, outcome, channel, -, hstep, heq⟩
  · rw [heq]
    exact .refl _
  · rw [heq, proceed_channel]
    cases hstep with
    | failed | withdrawn | known | unknown | numbered | guarded | waits | confirmed | queued =>
        exact .of_same rfl rfl rfl

/-- **Nothing comes of a write but by a step of the writer.** -/
theorem hushed_happen (hafloat : s.channel.Afloat) {e : Event σ} (he : e ≠ .act .write)
    (hopen : (s.happen e).channel.isOpen = true) : s.channel.Hushed (s.happen e).channel := by
  have hbefore := s.isOpen_of_happen hafloat hopen
  cases e with
  | start runtime => exact s.channel.hushed_start runtime
  | act act =>
      rw [happen] at hopen ⊢
      split at hopen
      case isFalse hpermits =>
        rw [if_neg hpermits]
        exact .refl _
      rename_i hpermits
      rw [if_pos hpermits]
      have hcancelled := (hafloat hbefore).1
      cases act with
      | write => exact absurd rfl he
      | call | onTraffic | onBroadcast | arrive | release => exact .of_same rfl rfl rfl
      | onWritten listener => exact ⟨rfl, fun _ => rfl, Channel.tells_of_same rfl⟩
      | advance index => exact s.hushed_advance index
      | listen frameId run => exact s.channel.hushed_listen frameId run
      | read => exact s.channel.hushed_readStep hopen
      | relay => exact s.channel.hushed_relayStep
      | poll index =>
          change s.channel.Hushed (s.poll index).channel
          rcases s.poll_channel index with heq | ⟨a, -, -, heq⟩
          · exact heq ▸ .refl _
          · exact heq ▸ .of_same rfl rfl rfl
      | forget index =>
          change s.channel.Hushed (s.forget index).channel
          rcases s.forget_channel index with heq | ⟨a, -, heq⟩
          · exact heq ▸ .refl _
          · exact heq ▸ .of_same rfl rfl rfl
      | finish index =>
          change s.channel.Hushed (s.finish index).channel
          have hfinish := s.finish_cases index
          generalize s.finish index = s' at hfinish
          cases hfinish with
          | absent | aside | reply | unanswered | answered => exact .of_same rfl rfl rfl
      | flip => cases hopen
      | cancel | clearWaiters | clearWorkbench => simp [permits, hbefore] at hpermits
      | endReading | endWriting | endRelaying =>
          rw [step, onChannel, hcancelled]
          exact .refl _

/-! ### Accounts -/

/-- Of the messages that were taken for writing, those that are still to be written
are the last. What came of the others is what was to come of them, in order, and
the listener was to be called for those that have become a frame. -/
structure Accounts (registry : Registry) (maxPayload : Nat) (told : List (Int32 × Message))
    (s : Side σ) : Prop where
  wires : s.Wires registry maxPayload
  listens : s.channel.onWritten.isSome = true
  current : ∀ out, s.channel.current = some out →
    registry.verdict maxPayload out.write = .ok out.length
  settled : ∃ past, s.accepted = past ++ s.channel.unwritten ∧
    s.channel.outcomes = past.map (fun w => (w.ticket, registry.verdict maxPayload w)) ∧
    told = (registry.wire maxPayload past).map fun p => p.1.content

namespace Accounts

variable {s} {s' : Side σ} {registry : Registry} {maxPayload : Nat} {told : List (Int32 × Message)}
  {c : Channel σ}

/-- Where nothing comes of a write, messages are taken for writing at most. -/
theorem of_hushed (h : s.Accounts registry maxPayload told) (hwires : s'.Wires registry maxPayload)
    (hhushed : s.channel.Hushed s'.channel) (hcurrent : s'.channel.current = s.channel.current)
    {taken : List PendingWrite} (hqueue : s'.channel.queue = s.channel.queue ++ taken)
    (haccepted : s'.accepted = s.accepted ++ taken) :
    s'.Accounts registry maxPayload (told ++ s.channel.tells s'.channel) where
  wires := hwires
  listens := hhushed.listens h.listens
  current := by
    rw [hcurrent]
    exact h.current
  settled := by
    obtain ⟨past, hpast, houtcomes, htold⟩ := h.settled
    refine ⟨past, ?_, hhushed.outcomes.trans houtcomes, ?_⟩
    · rw [haccepted, hpast, Channel.unwritten, Channel.unwritten, hcurrent, hqueue]
      simp only [List.append_assoc]
    · rw [hhushed.tells, List.append_nil]
      exact htold

/-- Where nothing comes of a write, the one that is being written may be another. -/
theorem goesOn (h : s.Accounts registry maxPayload told)
    (hwires : ({ s with channel := c } : Side σ).Wires registry maxPayload)
    (hhushed : s.channel.Hushed c) (hunwritten : c.unwritten = s.channel.unwritten)
    (hcurrent : ∀ out, c.current = some out →
      registry.verdict maxPayload out.write = .ok out.length) :
    ({ s with channel := c } : Side σ).Accounts registry maxPayload
      (told ++ s.channel.tells c) where
  wires := hwires
  listens := hhushed.listens h.listens
  current := hcurrent
  settled := by
    obtain ⟨past, hpast, houtcomes, htold⟩ := h.settled
    refine ⟨past, ?_, hhushed.outcomes.trans houtcomes, ?_⟩
    · rw [hunwritten]
      exact hpast
    · rw [hhushed.tells, List.append_nil]
      exact htold

/-- What comes of the first of the messages that are still to be written. -/
theorem concludes (h : s.Accounts registry maxPayload told)
    (hwires : ({ s with channel := c } : Side σ).Wires registry maxPayload)
    (hlistens : c.onWritten = s.channel.onWritten) (hidle : c.current = none) {w : PendingWrite}
    (hfirst : s.channel.unwritten = w :: c.queue)
    (houtcomes : c.outcomes = s.channel.outcomes ++ [(w.ticket, registry.verdict maxPayload w)])
    (htells : s.channel.tells c = (registry.wire maxPayload [w]).map fun p => p.1.content) :
    ({ s with channel := c } : Side σ).Accounts registry maxPayload
      (told ++ s.channel.tells c) where
  wires := hwires
  listens := (congrArg Option.isSome hlistens).trans h.listens
  current := by
    intro out hout
    cases hidle.symm.trans hout
  settled := by
    obtain ⟨past, hpast, hbefore, htold⟩ := h.settled
    refine ⟨past ++ [w], ?_, ?_, ?_⟩
    · rw [hpast, hfirst, Channel.unwritten, hidle, List.append_assoc]
      rfl
    · rw [houtcomes, hbefore, List.map_append]
      rfl
    · rw [htells, htold, Registry.wire, Registry.wire, Registry.wire, List.filterMap_append,
        List.map_append]

/-- **A step of the writer concludes a write with what was to come of it.** -/
theorem write (h : s.Accounts registry maxPayload told) (hafloat : s.channel.Afloat)
    (hopen : s.channel.writeStep.isOpen = true) :
    (s.step .write).Accounts registry maxPayload
      (told ++ s.channel.tells s.channel.writeStep) := by
  have hputs := s.channel.puts_writeStep
  have hwires := h.wires.puts hputs hopen
  have htakes := (hafloat.takes (s.channel.holds_writeStep.isOpen hopen)).2
  have hunder := h.wires.under
  have hlimit := h.wires.limit
  change ({ s with channel := s.channel.writeStep } : Side σ).Accounts registry maxPayload _
  generalize s.channel.writeStep = c at hputs hwires hopen
  cases hputs with
  | fails _ hclosed => cases hclosed.symm.trans hopen
  | idle =>
      rw [Channel.tells_of_same rfl, List.append_nil]
      exact h
  | @sends out hcurrent =>
      refine h.goesOn hwires (.of_same rfl rfl rfl) ?_ ?_
      · simp [Channel.unwritten, hcurrent]
      · rintro - ⟨⟩
        exact h.current out hcurrent
  | @begins w queue f _ hcurrent hqueue hframe =>
      rw [hunder, hlimit] at hframe
      refine h.goesOn hwires (.of_same rfl rfl rfl) ?_ ?_
      · simp [Channel.unwritten, hcurrent, hqueue]
      · rintro - ⟨⟩
        exact Registry.verdict_eq_ok.mpr ⟨f, hframe, rfl⟩
  | @refuses w queue e _ hcurrent hqueue hframe =>
      rw [hunder, hlimit] at hframe
      have hnone : registry.frame? maxPayload w.content = none := by
        rw [Registry.frame?, PendingWrite.content, hframe]
        rfl
      refine h.concludes (w := w) hwires rfl rfl ?_ ?_ ?_
      · simp [Channel.unwritten, hcurrent, hqueue]
      · rw [Registry.verdict_eq_error.mpr hframe]
      · rw [Registry.wire, List.filterMap_cons_none (by rw [hnone]; rfl)]
        exact Channel.tells_of_same rfl
  | @written out calls hcurrent _ _ _ hcalls =>
      have hverdict := h.current out hcurrent
      obtain ⟨f, hframe, -⟩ := Registry.verdict_eq_ok.mp hverdict
      have hsome : registry.frame? maxPayload out.write.content = some f :=
        Registry.frame?_eq_some.mpr hframe
      obtain ⟨l, hl⟩ := Option.isSome_iff_exists.mp h.listens
      refine h.concludes (w := out.write) hwires rfl rfl ?_ ?_ ?_
      · simp [Channel.unwritten, hcurrent]
      · rw [hverdict]
      · rw [Channel.tells_of_append rfl, hcalls htakes, hl, Registry.wire,
          List.filterMap_cons_some (by rw [hsome]; rfl)]
        rfl

/-- **What happens to an open channel keeps the accounts.** -/
theorem happen (h : s.Accounts registry maxPayload told) (hafloat : s.channel.Afloat) {e : Event σ}
    (hopen : (s.happen e).channel.isOpen = true) :
    (s.happen e).Accounts registry maxPayload (told ++ s.channel.tells (s.happen e).channel) := by
  by_cases he : e = .act .write
  · subst he
    exact h.write hafloat hopen
  have hwires := h.wires.happen hafloat hopen
  have hhushed := s.hushed_happen hafloat he hopen
  have hdeals := s.deals hafloat hopen
  generalize s.happen e = s' at hopen hwires hhushed hdeals
  have hdesk (hdesk : s'.desk = s.desk) :
      s'.Accounts registry maxPayload (told ++ s.channel.tells s'.channel) :=
    h.of_hushed hwires hhushed (congrArg Desk.current hdesk)
      ((congrArg Desk.queue hdesk).trans (List.append_nil _).symm)
      ((congrArg Desk.accepted hdesk).trans (List.append_nil _).symm)
  cases hdeals with
  | aside heq => exact hdesk heq
  | brings heq => exact hdesk heq
  | ignores heq => exact hdesk heq
  | calls | installs | answers =>
      exact h.of_hushed hwires hhushed rfl (List.append_nil _).symm (List.append_nil _).symm
  | puts => exact absurd rfl he
  | @goesOn index order stage =>
      have hstep := s.channel.advance_cases order stage
      generalize s.channel.advance order stage = after at hwires hhushed hstep
      obtain ⟨outcome, c⟩ := after
      dsimp only at hwires hhushed hstep ⊢
      cases hstep with
      | failed | withdrawn | known | unknown | numbered | guarded | waits | confirmed =>
          exact h.of_hushed hwires hhushed rfl (List.append_nil _).symm (List.append_nil _).symm
      | queued => exact h.of_hushed hwires hhushed rfl rfl rfl

theorem course (h : s.Accounts registry maxPayload told) (hafloat : s.channel.Afloat)
    {events : List (Event σ)} (hopen : (s.course events).channel.isOpen = true) :
    (s.course events).Accounts registry maxPayload (told ++ s.told events) := by
  induction events generalizing s told with
  | nil =>
      rw [Side.told, List.append_nil]
      exact h
  | cons e rest ih =>
      have hafter := (s.happen e).isOpen_of_course (s.afloat_happen hafloat e) hopen
      rw [Side.told, ← List.append_assoc]
      exact ih (h.happen hafloat hafter) (s.afloat_happen hafloat e) hopen

end Accounts

/-! ### Once nothing is left to be written -/

/-- The handles of the writes, the other end of the connection and the listener for
what was written agree on what came of all messages that were taken for writing. -/
structure Settled (registry : Registry) (maxPayload : Nat) (told : List (Int32 × Message))
    (s : Side σ) : Prop where
  tickets : (s.accepted.map (·.ticket)).Nodup
  outcomes : s.channel.outcomes
    = s.accepted.map fun w => (w.ticket, registry.verdict maxPayload w)
  /-- The sink has the frames of the messages that become one, one each, in order. -/
  once : (registry.wire maxPayload s.accepted).map Prod.fst <+ s.accepted
  bytes : s.channel.sink.taken
    = ((registry.wire maxPayload s.accepted).map Prod.snd).flatMap Frame.bytes
  /-- A handle that has a length has that of the header of the frame. -/
  written : ∀ w ∈ s.accepted, ∀ length,
    s.channel.pollWrite ⟨w.ticket, w.frameId⟩ = some (.ok length) ↔
      ∃ f, (w, f) ∈ registry.wire maxPayload s.accepted ∧
        (Frame.declaredLength f.bytes).toInt = length
  /-- A handle that has an error has the one for which the message has no frame. -/
  refused : ∀ w ∈ s.accepted, ∀ e,
    s.channel.pollWrite ⟨w.ticket, w.frameId⟩ = some (.error e) ↔
      ∃ reason, registry.frame maxPayload w.frameId w.message = .error reason ∧ e = .frame reason
  /-- The sink has no frame of exactly those that were refused. -/
  silent : ∀ w ∈ s.accepted, (∃ e, s.channel.pollWrite ⟨w.ticket, w.frameId⟩ = some (.error e)) ↔
    ∀ f, (w, f) ∉ registry.wire maxPayload s.accepted
  told : told = (registry.wire maxPayload s.accepted).map fun p => p.1.content

/-- The handle of a message finds what was to come of it. -/
theorem pollWrite_of_outcomes {registry : Registry} {maxPayload : Nat} {s : Side σ}
    (htickets : (s.accepted.map (·.ticket)).Nodup)
    (houtcomes : s.channel.outcomes
      = s.accepted.map fun w => (w.ticket, registry.verdict maxPayload w))
    {w : PendingWrite} (hw : w ∈ s.accepted) :
    s.channel.pollWrite ⟨w.ticket, w.frameId⟩
      = some ((registry.verdict maxPayload w).mapError .frame) := by
  have hlookup := lookup_map_of_mem (registry.verdict maxPayload) htickets hw
  rw [Channel.pollWrite, houtcomes, hlookup]
  cases registry.verdict maxPayload w with
  | ok n => rfl
  | error e => rfl

theorem Accounts.settle {s : Side σ} {registry : Registry} {maxPayload : Nat}
    {told : List (Int32 × Message)} (h : s.Accounts registry maxPayload told)
    (htickets : s.Ticketed) (hdone : s.channel.unwritten = []) :
    s.Settled registry maxPayload told := by
  obtain ⟨past, hpast, houtcomes, htold⟩ := h.settled
  rw [hdone, List.append_nil] at hpast
  subst hpast
  have hnodup := htickets.nodup_accepted
  have hpoll (w : PendingWrite) (hw : w ∈ s.accepted) := pollWrite_of_outcomes hnodup houtcomes hw
  have hrefused (w : PendingWrite) (hw : w ∈ s.accepted) (e : ChannelError) :
      s.channel.pollWrite ⟨w.ticket, w.frameId⟩ = some (.error e) ↔
        ∃ reason, registry.frame maxPayload w.frameId w.message = .error reason ∧
          e = .frame reason := by
    rw [hpoll w hw]
    simp only [← Registry.verdict_eq_error]
    cases registry.verdict maxPayload w with
    | ok n => simp [Except.mapError]
    | error reason => simp [Except.mapError, eq_comm]
  refine ⟨hnodup, houtcomes, ?once, ?bytes, ?written, hrefused, ?silent, htold⟩
  case once =>
    rw [Registry.map_fst_wire]
    exact List.filter_sublist
  case bytes =>
    obtain ⟨begun, hbegun, hbytes⟩ := h.wires.bytes
    obtain ⟨hcurrent, hqueue⟩ := List.append_eq_nil_iff.mp hdone
    have hidle : s.channel.current = none := by simpa using hcurrent
    rw [hqueue, List.append_nil] at hbegun
    rw [Channel.left, hidle, Option.map_none, Option.getD_none, List.append_nil] at hbytes
    rw [hbytes, Registry.map_snd_wire, hbegun]
  case written =>
    intro w hw length
    rw [hpoll w hw]
    simp only [Registry.mem_wire, hw, true_and]
    constructor
    · intro hlength
      have hverdict : registry.verdict maxPayload w = .ok length := by
        cases hv : registry.verdict maxPayload w with
        | ok n => simpa [hv, Except.mapError] using hlength
        | error e => simp [hv, Except.mapError] at hlength
      obtain ⟨f, hframe, rfl⟩ := Registry.verdict_eq_ok.mp hverdict
      exact ⟨f, hframe, Frame.toInt_declaredLength (Registry.frame_eq_ok hframe).2.2⟩
    · rintro ⟨f, hframe, hlength⟩
      rw [Frame.toInt_declaredLength (Registry.frame_eq_ok hframe).2.2] at hlength
      rw [Registry.verdict_eq_ok.mpr ⟨f, hframe, Int.ofNat_inj.mp hlength⟩]
      rfl
  case silent =>
    intro w hw
    simp only [hrefused w hw, Registry.mem_wire, hw, true_and]
    cases registry.frame maxPayload w.frameId w.message with
    | ok f => simp
    | error e => simp

section Noting

variable (registry : Registry) (config : ChannelConfig) (writes : List WriteTurn)
  (flushes : List FlushTurn) (app : σ) (listener : WriteListener σ)

variable {registry config writes flushes app listener} {events : List (Event σ)}

end Noting

end Side

end Parley
