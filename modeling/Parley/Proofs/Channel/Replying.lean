/-
The reply frames that a side writes.

What the sink of an open channel has taken, with what is left of the frame that
is being written, is made of the frames of the messages that were queued, in
order (`Side.Wires`). So the reply frames among them are those of answers to
requests that were heard, none of them written twice, and once there is nothing
left to do they are the frames of all answers that become one
(`Side.Engaged.settled`).
-/
import Parley.Proofs.Channel.Answering

namespace Parley

open scoped List

variable {σ : Type}

/-! ### The frames of messages -/

namespace Registry

/-- The frame that a message becomes on a frame id, if it becomes one. -/
def frame? (r : Registry) (maxPayload : Nat) (p : Int32 × Message) : Option Frame :=
  (r.frame maxPayload p.1 p.2).toOption

end Registry

/-- The frame carries a message of a type that is registered as a reply. -/
def Frame.isReply (r : Registry) (f : Frame) : Bool :=
  match r.lookupId f.typeId with
  | .ok entry => entry.kind == .reply
  | .error _ => false

namespace Registry

variable {r : Registry} {maxPayload : Nat} {p : Int32 × Message} {f : Frame}

theorem frame?_eq_some : r.frame? maxPayload p = some f ↔ r.frame maxPayload p.1 p.2 = .ok f := by
  rw [frame?]
  cases r.frame maxPayload p.1 p.2 with
  | ok g => simp [Except.toOption]
  | error e => simp [Except.toOption]

/-- The frame of a reply is a reply on its frame id. -/
theorem Built.isReply_of_frame? (hr : r.Built) (h : r.frame? maxPayload p = some f) :
    f.isReply r = Parley.isReply p ∧ f.frameId = p.1 := by
  have hframe := frame?_eq_some.mp h
  refine ⟨?_, (frame_eq_ok hframe).1⟩
  obtain ⟨entry, hentry, hframe⟩ := bind_eq_ok.mp hframe
  obtain ⟨payload, -, hwithin⟩ := bind_eq_ok.mp hframe
  obtain ⟨rfl, -, -⟩ := Frame.within_eq_ok.mp hwithin
  obtain ⟨hid, htype⟩ := hr.lookupId_of_lookupFor hentry
  rw [Frame.isReply, hid]
  dsimp only
  rw [RegistryEntry.kind, htype]
  rfl

theorem frame?_of_not_knows (h : r.knows p = false) : r.frame? maxPayload p = none := by
  refine Option.eq_none_iff_forall_ne_some.mpr fun f hf => ?_
  obtain ⟨entry, hentry, -⟩ := bind_eq_ok.mp (frame?_eq_some.mp hf)
  rw [knows, hentry] at h
  cases h

/-- The reply frames of messages are the frames of the replies among them. -/
theorem Built.filter_isReply (hr : r.Built) (said : List (Int32 × Message)) :
    (said.filterMap (r.frame? maxPayload)).filter (Frame.isReply r)
      = (said.filter Parley.isReply).filterMap (r.frame? maxPayload) := by
  rw [List.filter_filterMap, List.filterMap_filter]
  refine List.filterMap_congr fun p _ => ?_
  cases hframe : r.frame? maxPayload p with
  | none => simp
  | some f => simp [Option.filter_some, (hr.isReply_of_frame? hframe).1]

/-- Messages of types that are not known become no frames. -/
theorem filterMap_filter_knows (said : List (Int32 × Message)) :
    (said.filter r.knows).filterMap (r.frame? maxPayload)
      = said.filterMap (r.frame? maxPayload) := by
  rw [List.filterMap_filter]
  refine List.filterMap_congr fun p _ => ?_
  cases hknown : r.knows p with
  | true => rfl
  | false => exact (frame?_of_not_knows hknown).symm

end Registry

/-! ### Bytes -/

namespace Side

/-- What has gone to the sink, and what is left of the frame that is being
written, are the frames of the messages that were taken out of the queue. -/
structure Wires (registry : Registry) (maxPayload : Nat) (s : Side σ) : Prop where
  under : s.channel.registry = registry
  limit : s.channel.writer.limits.maxPayload = maxPayload
  bytes : ∃ begun, s.accepted = begun ++ s.channel.queue ∧
    s.channel.sink.taken ++ s.channel.left
      = ((begun.map PendingWrite.content).filterMap (registry.frame? maxPayload)).flatMap
          Frame.bytes

namespace Wires

variable {registry : Registry} {maxPayload : Nat} {s s' : Side σ} {c : Channel σ}

theorem of_desk (h : s.Wires registry maxPayload) (hdesk : s'.desk = s.desk) :
    s'.Wires registry maxPayload where
  under := (congrArg Desk.registry hdesk).trans h.under
  limit := (congrArg Desk.limit hdesk).trans h.limit
  bytes := by
    have hcurrent : s'.channel.current = s.channel.current := congrArg Desk.current hdesk
    have htaken : s'.channel.sink.taken = s.channel.sink.taken := congrArg Desk.taken hdesk
    have hqueue : s'.channel.queue = s.channel.queue := congrArg Desk.queue hdesk
    have haccepted : s'.accepted = s.accepted := congrArg Desk.accepted hdesk
    rw [Channel.left, hcurrent, htaken, hqueue, haccepted]
    exact h.bytes

/-- What a call queues is written after what was queued before. -/
theorem goesOn (h : s.Wires registry maxPayload) (index : Nat) (order : Order) (stage : Stage) :
    (s.proceed index order (s.channel.advance order stage).2
      (s.channel.advance order stage).1).Wires registry maxPayload := by
  have hstep := s.channel.advance_cases order stage
  generalize s.channel.advance order stage = after at hstep
  obtain ⟨outcome, c⟩ := after
  dsimp only at hstep ⊢
  cases hstep with
  | failed | withdrawn | known | unknown | numbered | guarded | waits | confirmed =>
      exact ⟨h.under, h.limit, h.bytes⟩
  | queued =>
      obtain ⟨begun, haccepted, hbytes⟩ := h.bytes
      refine ⟨h.under, h.limit, begun, ?_, hbytes⟩
      change s.accepted ++ [_] = begun ++ (s.channel.queue ++ [_])
      rw [haccepted, List.append_assoc]

/-- A message taken out of the queue is written as the frame that it becomes, if
it becomes one. -/
theorem takesUp (h : s.Wires registry maxPayload) {w : PendingWrite} {queue : List PendingWrite}
    (hcurrent : s.channel.current = none) (hqueue : s.channel.queue = w :: queue)
    (hafter : c.queue = queue ∧ c.sink = s.channel.sink ∧ c.registry = s.channel.registry ∧
      c.writer.limits = s.channel.writer.limits)
    (hleft : c.left = ((s.channel.registry.frame? s.channel.writer.limits.maxPayload w.content).map
      Frame.bytes).getD []) :
    ({ s with channel := c } : Side σ).Wires registry maxPayload := by
  obtain ⟨begun, haccepted, hbytes⟩ := h.bytes
  obtain ⟨hrest, hsink, hregistry, hlimits⟩ := hafter
  refine ⟨hregistry.trans h.under, (congrArg FrameLimits.maxPayload hlimits).trans h.limit,
    begun ++ [w], ?_, ?_⟩
  · rw [haccepted, hqueue, hrest, List.append_assoc]
    rfl
  · rw [Channel.left, hcurrent, Option.map_none, Option.getD_none, List.append_nil] at hbytes
    rw [hleft, hsink, h.under, h.limit, List.map_append, List.filterMap_append,
      List.flatMap_append, ← hbytes]
    cases hframe : registry.frame? maxPayload w.content with
    | none => simp [hframe]
    | some f => simp [hframe]

/-- **A step of the writer puts the bytes of the frames into the sink in order.** -/
theorem puts (h : s.Wires registry maxPayload) (hputs : s.channel.Puts c)
    (hopen : c.isOpen = true) : ({ s with channel := c } : Side σ).Wires registry maxPayload := by
  obtain ⟨begun, haccepted, hbytes⟩ := h.bytes
  cases hputs with
  | idle => exact h
  | fails _ hclosed => cases hclosed.symm.trans hopen
  | @sends out hcurrent hpending =>
      obtain ⟨sent, hsent, htaken⟩ := s.channel.sink.taken_write out.left
      refine ⟨h.under, h.limit, begun, haccepted, ?_⟩
      rw [Channel.left, hcurrent] at hbytes
      rw [← hbytes, htaken, List.append_assoc]
      exact congrArg (s.channel.sink.taken ++ ·) hsent.symm
  | @written out calls hcurrent hdone _ _ _ =>
      obtain ⟨sent, hsent, htaken⟩ := s.channel.sink.taken_write out.left
      rw [Sink.left_eq_nil_of_write hdone, List.append_nil] at hsent
      refine ⟨h.under, h.limit, begun, haccepted, ?_⟩
      rw [Channel.left, hcurrent] at hbytes
      rw [← hbytes]
      change (s.channel.sink.write out.left).2.2.taken ++ [] = _
      rw [htaken, List.append_nil, ← hsent]
      rfl
  | begins hcurrent hqueue hframe hlimits =>
      refine h.takesUp hcurrent hqueue ⟨rfl, rfl, rfl, hlimits⟩ ?_
      rw [Registry.frame?_eq_some.mpr hframe]
      rfl
  | refuses hcurrent hqueue hframe hlimits =>
      refine h.takesUp hcurrent hqueue ⟨rfl, rfl, rfl, hlimits⟩ ?_
      rw [Registry.frame?, PendingWrite.content, hframe]
      rfl

theorem happen (h : s.Wires registry maxPayload) (hafloat : s.channel.Afloat) {e : Event σ}
    (hopen : (s.happen e).channel.isOpen = true) : (s.happen e).Wires registry maxPayload := by
  have hdeals := s.deals hafloat hopen
  generalize s.happen e = s' at hopen hdeals
  cases hdeals with
  | aside hdesk => exact h.of_desk hdesk
  | brings hdesk => exact h.of_desk hdesk
  | ignores hdesk => exact h.of_desk hdesk
  | calls | installs | answers => exact ⟨h.under, h.limit, h.bytes⟩
  | goesOn => exact h.goesOn _ _ _
  | puts hputs => exact h.puts hputs hopen

end Wires

/-! ### Courses -/

/-- There is nothing left to do for the workers and for the calls. -/
structure AtRest (s : Side σ) : Prop where
  errands : s.errands = []
  jobs : s.channel.jobs = []
  unwritten : s.channel.unwritten = []

/-- What holds of a side that a dispatcher answers for, as long as its channel is
open. -/
structure Engaged (d : Dispatcher σ) (registry : Registry) (maxPayload : Nat)
    (heard : List (Int32 × Message)) (s : Side σ) : Prop where
  afloat : s.channel.Afloat
  orderly : s.Orderly
  attends : s.Attends d registry heard
  wires : s.Wires registry maxPayload

theorem engaged_created (d : Dispatcher σ) (registry : Registry) (config : ChannelConfig)
    (writes : List WriteTurn) (flushes : List FlushTurn) (app : σ) :
    (created registry config writes flushes app).Engaged d registry config.limits.maxPayload
      [] where
  afloat := afloat_created registry config writes flushes app
  orderly := ⟨List.forall_mem_nil _, List.forall_mem_nil _⟩
  attends := ⟨rfl, nofun, List.forall_mem_nil _, .nil, List.forall_mem_nil _, List.forall_mem_nil _,
    .nil⟩
  wires := ⟨rfl, rfl, [], rfl, rfl⟩

namespace Engaged

variable {d : Dispatcher σ} {registry : Registry} {maxPayload : Nat}
  {heard : List (Int32 × Message)} {s : Side σ}

theorem happen (h : s.Engaged d registry maxPayload heard) (hregistry : registry.Built)
    {e : Event σ} (he : e.LeavesTo d) (hopen : (s.happen e).channel.isOpen = true) :
    (s.happen e).Engaged d registry maxPayload (heard ++ s.hears e) where
  afloat := s.afloat_happen h.afloat e
  orderly := s.orderly_happen h.orderly e
  attends := h.attends.happen hregistry h.orderly h.afloat he hopen
  wires := h.wires.happen h.afloat hopen

theorem course (h : s.Engaged d registry maxPayload heard) (hregistry : registry.Built)
    {events : List (Event σ)} (hevents : ∀ e ∈ events, e.LeavesTo d)
    (hopen : (s.course events).channel.isOpen = true) :
    (s.course events).Engaged d registry maxPayload (heard ++ s.heard events) := by
  induction events generalizing s heard with
  | nil =>
      rw [Side.heard, List.append_nil]
      exact h
  | cons e rest ih =>
      obtain ⟨he, hrest⟩ := List.forall_mem_cons.mp hevents
      have hafter := (s.happen e).isOpen_of_course (s.afloat_happen h.afloat e) hopen
      rw [Side.heard, ← List.append_assoc]
      exact ih (h.happen hregistry he hafter) hrest hopen

/-- **No request is answered twice, and none whose call is over is unanswered.** -/
theorem dealt (h : s.Engaged d registry maxPayload heard) :
    ∃ due, heard ~ s.answered.map Answered.request ++ due ∧ (s.AtRest → due = []) := by
  refine ⟨s.due, h.attends.dealt, fun hrest => ?_⟩
  rw [due, Channel.traffic, hrest.jobs]
  rfl

/-- **The reply frames that are written are frames of answers**, none twice, and
at rest of all answers that become a frame. -/
theorem replies (h : s.Engaged d registry maxPayload heard) (hregistry : registry.Built) :
    ∃ frames : List Frame,
      s.channel.sink.taken ++ s.channel.left = frames.flatMap Frame.bytes ∧
      frames.filter (Frame.isReply registry)
        <+~ (s.answered.map Answered.reply).filterMap (registry.frame? maxPayload) ∧
      (s.AtRest → s.channel.left = [] ∧ frames.filter (Frame.isReply registry)
        ~ (s.answered.map Answered.reply).filterMap (registry.frame? maxPayload)) := by
  obtain ⟨begun, haccepted, hbytes⟩ := h.wires.bytes
  refine ⟨_, hbytes, ?_⟩
  have hanswers := h.attends.replies.filterMap (registry.frame? maxPayload)
  rw [Registry.filterMap_filter_knows, List.filterMap_append] at hanswers
  rw [hregistry.filter_isReply]
  have hreplied : s.replied = (begun.map PendingWrite.content).filter isReply ++
      (s.channel.queue.map PendingWrite.content).filter isReply := by
    rw [replied, haccepted, List.map_append, List.filter_append]
  rw [hreplied, List.filterMap_append] at hanswers
  constructor
  · refine List.Subperm.trans ?_ hanswers.symm.subperm
    exact ((List.sublist_append_left _ _).trans (List.sublist_append_right _ _)).subperm
  · intro hrest
    obtain ⟨hcurrent, hqueue⟩ := List.append_eq_nil_iff.mp hrest.unwritten
    have hidle : s.channel.current = none := by simpa using hcurrent
    have howed : s.owed = [] := by rw [owed, hrest.errands]; rfl
    rw [howed, hqueue] at hanswers
    refine ⟨by rw [Channel.left, hidle]; rfl, ?_⟩
    simpa using hanswers.symm

/-- At rest every request that was heard was answered. -/
theorem dealt_of_rest (h : s.Engaged d registry maxPayload heard) (hrest : s.AtRest) :
    heard ~ s.answered.map Answered.request := by
  obtain ⟨due, hdealt, hnone⟩ := h.dealt
  rwa [hnone hrest, List.append_nil] at hdealt

/-- At rest the sink has the frames of all answers that become one. -/
theorem replies_of_rest (h : s.Engaged d registry maxPayload heard) (hregistry : registry.Built)
    (hrest : s.AtRest) :
    ∃ frames : List Frame, s.channel.sink.taken = frames.flatMap Frame.bytes ∧
      frames.filter (Frame.isReply registry)
        ~ (s.answered.map Answered.reply).filterMap (registry.frame? maxPayload) := by
  obtain ⟨frames, hbytes, -, hwritten⟩ := h.replies hregistry
  obtain ⟨hleft, hall⟩ := hwritten hrest
  rw [hleft, List.append_nil] at hbytes
  exact ⟨frames, hbytes, hall⟩

end Engaged

end Side

end Parley
