/-
What an event does to what an open side has to answer and to write.

A side hears a request when its reader delivers one while there is a listener for
all traffic. What is heard becomes a call of that listener, an answer becomes a
call to reply, a reply is queued, and what is queued goes to the sink as a frame.
`Side.Deals` has one rule for each event that moves something along this way, and
one for all the others; `Channel.Puts` says what a step of the writer does to the
bytes.
-/
import Parley.Proofs.Channel.Afloat
import Parley.Proofs.Channel.Service

namespace Parley

open scoped List

variable {σ : Type}

/-! ### Steps of the writer -/

namespace Channel

variable (c : Channel σ)

/-- What is left of the frame that is being written. -/
def left : Bytes := (c.current.map Outgoing.left).getD []

/-- What a step of the writer does, byte by byte. -/
inductive Puts : Channel σ → Prop
  | idle : c.writing = false ∨ c.unwritten = [] → Puts c
  | sends {out : Outgoing} : c.current = some out → (c.sink.write out.left).1 = .pending →
      Puts { c with
        sink := (c.sink.write out.left).2.2
        current := some { out with left := (c.sink.write out.left).2.1 } }
  | written {out : Outgoing} {calls : List (Job σ)} : c.current = some out →
      (c.sink.write out.left).1 = .done () → (∀ j ∈ calls, j.IsAside) → calls.length ≤ 1 →
      (c.takesEvents = true → calls = c.onWritten.toList.map fun l =>
        .written l out.write.frameId out.write.message) →
      Puts { c with
        sink := (c.sink.write out.left).2.2.flush.2
        current := none
        outcomes := c.outcomes ++ [(out.write.ticket, .ok out.length)]
        events := c.events ++ calls }
  | begins {w : PendingWrite} {queue : List PendingWrite} {f : Frame} {writer : FrameWriter} :
      c.current = none → c.queue = w :: queue →
      c.registry.frame c.writer.limits.maxPayload w.frameId w.message = .ok f →
      writer.limits = c.writer.limits →
      Puts { c with queue, writer, current := some ⟨w, f.payload.length, f.bytes⟩ }
  | refuses {w : PendingWrite} {queue : List PendingWrite} {e : FrameError}
      {writer : FrameWriter} : c.current = none → c.queue = w :: queue →
      c.registry.frame c.writer.limits.maxPayload w.frameId w.message = .error e →
      writer.limits = c.writer.limits →
      Puts { c with
        queue, writer, current := none, outcomes := c.outcomes ++ [(w.ticket, .error e)] }
  | fails {out : Outgoing} {c' : Channel σ} : c.current = some out → c'.isOpen = false → Puts c'

/-- Where a message was written, the listener for that is to be called. -/
theorem conclude_ok (w : PendingWrite) (length : Nat) :
    ∃ calls : List (Job σ), (∀ j ∈ calls, j.IsAside) ∧ calls.length ≤ 1 ∧
      (c.takesEvents = true →
        calls = c.onWritten.toList.map fun l => .written l w.frameId w.message) ∧
      c.conclude w (.ok length) = { c with
        current := none
        outcomes := c.outcomes ++ [(w.ticket, .ok length)]
        events := c.events ++ calls } := by
  rw [conclude]
  dsimp only
  unfold post
  split
  · refine ⟨_, ?_, ?_, fun _ => rfl, rfl⟩
    · intro j hj
      obtain ⟨l, -, rfl⟩ := List.mem_map.mp hj
      exact ⟨rfl, rfl⟩
    · rw [List.length_map]
      exact Option.length_toList_le
  next hnot =>
    refine ⟨[], List.forall_mem_nil _, Nat.zero_le _, fun htakes => absurd htakes hnot, ?_⟩
    rw [List.append_nil]

/-- A failure of the stream closes the channel. -/
theorem isOpen_conclude_failed (w : PendingWrite) {e : FrameError}
    (h : e.isTransportFailure = true) : (c.conclude w (.error e)).isOpen = false := by
  rw [conclude, if_pos h]
  exact isOpen_shutdown { c with current := none }

/-- The writer goes on with the frame that it is writing. -/
theorem puts_push {out : Outgoing} (hcurrent : c.current = some out) : c.Puts (c.push out) := by
  have hlasting := (c.sink.sends_write out.left).lasting
  have hsends := @Puts.sends σ c out hcurrent
  have hwritten := @Puts.written σ c out
  unfold push
  generalize c.sink.write out.left = outcome at hlasting hsends hwritten
  obtain ⟨progress, left, sink⟩ := outcome
  cases progress with
  | pending => exact hsends rfl
  | failed e =>
      exact .fails hcurrent (isOpen_conclude_failed _ _
        (FrameWriter.isTransportFailure_of_isLasting (hlasting e rfl)))
  | done u =>
      have hlasting := sink.sends_flush.lasting
      dsimp only at hwritten ⊢
      generalize sink.flush = flushed at hlasting hwritten
      obtain ⟨progress, after⟩ := flushed
      obtain ⟨calls, haside, hone, hcalls, heq⟩ :=
        ({ c with sink := after } : Channel σ).conclude_ok out.write out.length
      cases progress with
      | failed e =>
          exact .fails hcurrent (isOpen_conclude_failed _ _
            (FrameWriter.isTransportFailure_of_isLasting (hlasting e rfl)))
      | done u | pending =>
          dsimp only
          rw [heq]
          exact hwritten hcurrent rfl haside hone hcalls

/-- **A step of the writer, case by case.** -/
theorem puts_writeStep : c.Puts c.writeStep := by
  unfold writeStep
  split
  case isFalse hwriting => exact .idle (Or.inl (Bool.eq_false_iff.mpr hwriting))
  split
  next out hcurrent => exact c.puts_push hcurrent
  next hcurrent hqueue => exact .idle (Or.inr (by simp [unwritten, hcurrent, hqueue]))
  next w queue hcurrent hqueue =>
    -- whether there is a frame decides before the stream is touched
    have hlimits : (c.writer.stage c.registry w.frameId w.message).2.limits = c.writer.limits := rfl
    cases hframe : c.registry.frame c.writer.limits.maxPayload w.frameId w.message with
    | ok f =>
        obtain ⟨hlength, hbytes⟩ := c.writer.bytes_stage_of_frame hframe
        generalize c.writer.stage c.registry w.frameId w.message = staged at hlimits hlength hbytes
        obtain ⟨result, writer⟩ := staged
        dsimp only at hlength hbytes
        subst hlength
        dsimp only
        rw [hbytes]
        exact .begins hcurrent hqueue hframe hlimits
    | error e =>
        have hresult := c.writer.stage_of_error hframe
        have hrefused := Registry.isTransportFailure_of_frame hframe
        generalize c.writer.stage c.registry w.frameId w.message = staged at hlimits hresult
        obtain ⟨result, writer⟩ := staged
        dsimp only at hresult
        subst hresult
        have hputs := Puts.refuses hcurrent hqueue hframe hlimits
        simpa [conclude, hrefused] using hputs

/-- As long as the channel stays open, the writer calls no listener for all traffic. -/
theorem Puts.keeps {c c' : Channel σ} (h : c.Puts c') (hopen : c'.isOpen = true) :
    c'.registry = c.registry ∧ c'.onTraffic = c.onTraffic ∧ c'.traffic = c.traffic := by
  cases h with
  | idle | sends | begins | refuses => exact ⟨rfl, rfl, rfl⟩
  | fails _ hclosed => cases hclosed.symm.trans hopen
  | @written out calls _ _ haside _ _ =>
      have hnone : calls.filterMap Job.traffic? = [] :=
        List.filterMap_eq_nil_iff.mpr fun j hj => (haside j hj).2
      refine ⟨rfl, rfl, ?_⟩
      simp [traffic, jobs, hnone]

/-! ### What a message that is delivered leads to -/

theorem traffic_post {jobs : List (Job σ)} (h : c.takesEvents = true) :
    (c.post jobs).traffic = c.traffic ++ jobs.filterMap Job.traffic? := by
  rw [post, if_pos h, traffic, traffic, ← List.filterMap_append]
  exact congrArg (List.filterMap Job.traffic?) (List.append_assoc _ _ _).symm

/-- The listener for all traffic is to be called for what is delivered, except
for a broadcast. -/
theorem traffic_deliver_eq (h : c.takesEvents = true) (frameId : Int32) (m : Message) :
    (c.deliver frameId m).traffic = c.traffic ++
      if frameId = broadcastId then [] else c.onTraffic.toList.map fun l => (l, frameId, m) := by
  rw [deliver]
  by_cases hid : frameId = broadcastId
  · rw [if_pos hid, if_pos hid, c.traffic_post h, List.filterMap_map]
    exact congrArg (c.traffic ++ ·) (List.filterMap_eq_nil_iff.mpr fun _ _ => rfl)
  · have htakes : (c.removeWaiter frameId).takesEvents = true := h
    have hjobs := c.filterMap_traffic?_jobsFor hid m
    rw [jobsFor, if_neg hid] at hjobs
    rw [if_neg hid, if_neg hid, traffic_post _ htakes, hjobs]
    rfl

end Channel

/-! ### What a side hears -/

/-- What a frame brings was decoded from it and belongs on its frame id. -/
theorem Frame.brings_eq_some {r : Registry} {f : Frame} {m : Message}
    (h : f.brings r = some (f.frameId, m)) :
    Channel.kindMatchesFrame f.frameId m.kind = true ∧ f.decode r = .ok m := by
  rw [brings] at h
  split at h
  next m' hdecode =>
    split at h
    next hkind =>
      cases h
      exact ⟨hkind, hdecode⟩
    next => cases h
  next => cases h

/-- The message is a request. -/
def isRequest (p : Int32 × Message) : Bool := p.2.kind == .request

/-- No request travels on the frame id of broadcasts. -/
theorem isRequest_broadcastId {m : Message}
    (h : Channel.kindMatchesFrame broadcastId m.kind = true) :
    isRequest (broadcastId, m) = false := by
  rw [Channel.kindMatchesFrame, beq_self_eq_true] at h
  have hbroadcast : m.kind = .broadcast := beq_iff_eq.mp (beq_iff_eq.mp h).symm
  rw [isRequest, hbroadcast]
  rfl

namespace Side

/-- The request that an event delivers while there is a listener for all traffic. -/
def hears (s : Side σ) (e : Event σ) : List (Int32 × Message) :=
  if s.channel.onTraffic.isSome then (s.delivery? e).toList.filter isRequest else []

/-- The requests that a sequence of events delivers while there is a listener for
all traffic. -/
def heard (s : Side σ) : List (Event σ) → List (Int32 × Message)
  | [] => []
  | e :: later => s.hears e ++ (s.happen e).heard later

theorem heard_append (s : Side σ) (events later : List (Event σ)) :
    s.heard (events ++ later) = s.heard events ++ (s.course events).heard later := by
  induction events generalizing s with
  | nil => rfl
  | cons e rest ih =>
      rw [List.cons_append, heard, ih, heard, List.append_assoc]
      rfl

/-! ### What an event does -/

/-- The parts of a side that say what it has to answer and to write. -/
structure Desk (σ : Type) where
  registry : Registry
  onTraffic : Option (TrafficListener σ)
  limit : Nat
  taken : Bytes
  current : Option Outgoing
  queue : List PendingWrite
  errands : List (Order × Stage)
  accepted : List PendingWrite
  answered : List (Answered σ)

def desk (s : Side σ) : Desk σ where
  registry := s.channel.registry
  onTraffic := s.channel.onTraffic
  limit := s.channel.writer.limits.maxPayload
  taken := s.channel.sink.taken
  current := s.channel.current
  queue := s.channel.queue
  errands := s.errands
  accepted := s.accepted
  answered := s.answered

/-- What an event does to a side whose channel is open after it. -/
inductive Deals (s : Side σ) : Event σ → Side σ → Prop
  | aside {e : Event σ} {s' : Side σ} : s'.desk = s.desk → s'.channel.traffic ~ s.channel.traffic →
      s.hears e = [] → Deals s e s'
  | calls {order : Order} :
      Deals s (.act (.call order)) { s with errands := s.errands ++ [(order, .check)] }
  | installs {listener : TrafficListener σ} :
      Deals s (.act (.onTraffic listener)) (s.onChannel ({ · with onTraffic := some listener }))
  | goesOn {index : Nat} {order : Order} {stage : Stage} :
      s.errands[index]? = some (order, stage) →
      Deals s (.act (.advance index))
        (s.proceed index order (s.channel.advance order stage).2 (s.channel.advance order stage).1)
  | brings {l : TrafficListener σ} {f : Frame} {m : Message} {s' : Side σ} :
      s'.desk = s.desk → s'.channel.traffic ~ (l, f.frameId, m) :: s.channel.traffic →
      s.channel.onTraffic = some l → f.frameId ≠ broadcastId →
      f.decode s.channel.registry = .ok m →
      s.hears (.act .read) = [(f.frameId, m)].filter isRequest → Deals s (.act .read) s'
  | ignores {index : Nat} {l : TrafficListener σ} {frameId : Int32} {m : Message} {app : σ}
      {s' : Side σ} :
      s'.desk = s.desk → s.channel.traffic ~ (l, frameId, m) :: s'.channel.traffic →
      l s.channel.registry s.app frameId m = (app, none) → Deals s (.act (.finish index)) s'
  | answers {index : Nat} {l : TrafficListener σ} {frameId : Int32} {m answer : Message} {app : σ} :
      s.channel.traffic ~ (l, frameId, m) :: (s.channel.withoutJob index).traffic →
      l s.channel.registry s.app frameId m = (app, some answer) →
      Deals s (.act (.finish index))
        { s with
          channel := s.channel.withoutJob index
          app
          errands := s.errands ++ [(.reply frameId answer, .check)]
          answered := s.answered ++ [⟨frameId, m, s.app, answer⟩] }
  | puts {c : Channel σ} : s.channel.Puts c → Deals s (.act .write) { s with channel := c }

theorem hears_of_delivery? {s : Side σ} {e : Event σ} (h : s.delivery? e = none) :
    s.hears e = [] := by
  rw [hears, h]
  split
  · rfl
  · rfl

/-- What changes nothing on the desk and brings nothing is set aside. -/
theorem Deals.of_desk {s s' : Side σ} {e : Event σ} (hdesk : s'.desk = s.desk)
    (htraffic : s'.channel.traffic = s.channel.traffic) (hdelivery : s.delivery? e = none) :
    Deals s e s' :=
  .aside hdesk (List.Perm.of_eq htraffic) (hears_of_delivery? hdelivery)

variable (s : Side σ)

theorem desk_start (runtime : Bool) :
    (s.happen (.start runtime)).desk = s.desk ∧
      (s.happen (.start runtime)).channel.traffic = s.channel.traffic := by
  rw [happen, onChannel, Channel.start, Channel.claimStart]
  split
  case isFalse => exact ⟨rfl, rfl⟩
  cases s.channel.lifecycle with
  | running | closed => exact ⟨rfl, rfl⟩
  | created =>
      dsimp only
      unfold Channel.launch
      split
      · exact ⟨rfl, rfl⟩
      · exact ⟨rfl, rfl⟩

theorem desk_listen (frameId : Int32) (run : σ → Message → σ) :
    (s.step (.listen frameId run)).desk = s.desk ∧
      (s.step (.listen frameId run)).channel.traffic = s.channel.traffic := by
  change ({ s with channel := (s.channel.addWaiter frameId (.listener run)).2 } : Side σ).desk
      = s.desk ∧ (s.channel.addWaiter frameId (.listener run)).2.traffic = s.channel.traffic
  rcases s.channel.addWaiter_cases frameId (.listener run) with ⟨-, heq⟩ | ⟨-, -, heq⟩ | ⟨-, -, heq⟩
  · rw [heq]
    exact ⟨rfl, rfl⟩
  · rw [heq]
    exact ⟨rfl, rfl⟩
  · rw [heq]
    exact ⟨rfl, rfl⟩

/-- What says nothing and gives up one frame id at most leaves the desk as it is. -/
theorem desk_of_same {s' : Side σ} (hsame : s.Same s')
    (hchannel : s'.channel = s.channel ∨ ∃ frameId, s'.channel = s.channel.removeWaiter frameId) :
    s'.desk = s.desk ∧ s'.channel.traffic = s.channel.traffic := by
  have hdesk {c : Channel σ} (hchannel : s'.channel = c)
      (hc : ({ s with channel := c } : Side σ).desk = s.desk) : s'.desk = s.desk := by
    rw [← hc, desk, desk, hchannel, hsame.errands, hsame.accepted, hsame.answered]
  rcases hchannel with heq | ⟨frameId, heq⟩
  · exact ⟨hdesk heq rfl, by rw [heq]⟩
  · exact ⟨hdesk heq rfl, by rw [heq]; rfl⟩

theorem desk_poll (index : Nat) :
    (s.poll index).desk = s.desk ∧ (s.poll index).channel.traffic = s.channel.traffic :=
  s.desk_of_same (s.same_poll index) <|
    (s.poll_channel index).imp_right fun ⟨a, _, _, heq⟩ => ⟨a.handle.frameId, heq⟩

theorem desk_forget (index : Nat) :
    (s.forget index).desk = s.desk ∧ (s.forget index).channel.traffic = s.channel.traffic :=
  s.desk_of_same (s.same_forget index) <|
    (s.forget_channel index).imp_right fun ⟨a, _, heq⟩ => ⟨a.handle.frameId, heq⟩

theorem desk_relay :
    (s.step .relay).desk = s.desk ∧ (s.step .relay).channel.traffic = s.channel.traffic := by
  change ({ s with channel := s.channel.relayStep } : Side σ).desk = s.desk ∧
    s.channel.relayStep.traffic = s.channel.traffic
  unfold Channel.relayStep
  split
  · split
    · exact ⟨rfl, rfl⟩
    next job events hevents =>
      refine ⟨rfl, ?_⟩
      simp [Channel.traffic, Channel.jobs, hevents]
  · exact ⟨rfl, rfl⟩

theorem desk_deliver (frameId : Int32) (m : Message) (delivered : List (Int32 × Message)) :
    ({ s with channel := s.channel.collected.deliver frameId m, delivered } : Side σ).desk
      = s.desk := by
  have hcore := s.channel.collected.deliver_core frameId m
  have hstreams := s.channel.collected.deliver_streams frameId m
  have hregistry := congrArg Channel.Core.registry hcore
  have hlistens := congrArg Channel.Core.onTraffic hcore
  have hwriter := congrArg Channel.Streams.writer hstreams
  have htaken := congrArg Channel.Streams.taken hstreams
  have hcurrent := congrArg Channel.Streams.current hstreams
  have hqueue := congrArg Channel.Streams.queue hstreams
  simp only [Channel.core, Channel.streams] at hregistry hlistens hwriter htaken hcurrent hqueue
  simp only [desk, hregistry, hlistens, hwriter, htaken, hcurrent, hqueue]
  rfl

/-- A step of the reader of a channel that is open after it brings a message to
the listener for all traffic, or nothing that is heard. -/
theorem deals_read (hafloat : s.channel.Afloat)
    (hopen : (s.step .read).channel.isOpen = true) : s.Deals (.act .read) (s.step .read) := by
  have hbefore : s.channel.isOpen = true := s.channel.holds_readStep.isOpen hopen
  have htakes : s.channel.collected.takesEvents = true := (hafloat.takes hbefore).2
  have hclosed : s.channel.collected.shutdown.2.endReading.isOpen = false :=
    s.channel.collected.isOpen_shutdown
  have hread := s.channel.readStep_cases
  have hhears : s.hears (.act .read) = if s.channel.onTraffic.isSome then
      (incoming s.channel).toList.filter isRequest else [] := rfl
  change Deals s (.act .read)
    { s with channel := s.channel.readStep
             delivered := s.delivered ++ (incoming s.channel).toList }
  change s.channel.readStep.isOpen = true at hopen
  generalize s.channel.readStep = c at hread hopen
  have hnone (h : incoming s.channel = none) : s.hears (.act .read) = [] := hears_of_delivery? h
  generalize incoming s.channel = brought at hread hhears hnone
  cases hread with
  | idle => exact .aside rfl (List.Perm.refl _) (hnone rfl)
  | waiting => exact .aside rfl (List.Perm.refl _) (hnone rfl)
  | dropped => cases hclosed.symm.trans hopen
  | failed => cases hclosed.symm.trans hopen
  | @delivered f rest m _ _ _ hbrings _ =>
      have hdesk := s.desk_deliver f.frameId m (s.delivered ++ [(f.frameId, m)])
      have htraffic := s.channel.collected.traffic_deliver_eq htakes f.frameId m
      obtain ⟨hkind, hdecode⟩ := Frame.brings_eq_some hbrings
      rw [Option.toList_some] at hhears
      by_cases hid : f.frameId = broadcastId
      · have hnot : isRequest (f.frameId, m) = false := by
          rw [hid] at hkind ⊢
          exact isRequest_broadcastId hkind
        rw [if_pos hid, List.append_nil] at htraffic
        refine .aside hdesk (List.Perm.of_eq htraffic) ?_
        rw [hhears, List.filter_cons_of_neg (by rw [hnot]; exact Bool.false_ne_true)]
        exact ite_self _
      · rw [if_neg hid] at htraffic
        have hsame : s.channel.collected.onTraffic = s.channel.onTraffic := rfl
        rw [hsame] at htraffic
        cases hlistens : s.channel.onTraffic with
        | none =>
            rw [hlistens] at htraffic hhears
            refine .aside hdesk (List.Perm.of_eq ?_) hhears
            exact htraffic.trans (List.append_nil _)
        | some l =>
            rw [hlistens] at htraffic hhears
            refine .brings hdesk ?_ hlistens hid hdecode hhears
            change (s.channel.collected.deliver f.frameId m).traffic ~ _
            rw [htraffic]
            exact List.perm_append_comm

/-- A call of a listener that finishes is due no longer, and may have answered. -/
theorem deals_finish (index : Nat) : s.Deals (.act (.finish index)) (s.finish index) := by
  have hfinish := s.finish_cases index
  generalize s.finish index = s' at hfinish
  cases hfinish with
  | absent => exact .of_desk rfl rfl rfl
  | aside hjob haside =>
      refine .aside rfl ?_ (hears_of_delivery? rfl)
      have htraffic := Channel.traffic_perm_withoutJob hjob
      rw [haside.2] at htraffic
      exact htraffic.symm
  | reply hjob =>
      refine .aside rfl ?_ (hears_of_delivery? rfl)
      exact (Channel.traffic_perm_withoutJob hjob).symm
  | unanswered hjob hlistener =>
      exact .ignores rfl (Channel.traffic_perm_withoutJob hjob) hlistener
  | answered hjob hlistener => exact .answers (Channel.traffic_perm_withoutJob hjob) hlistener

/-- **What an event does to a side whose channel is open after it.** -/
theorem deals (hafloat : s.channel.Afloat) {e : Event σ}
    (hopen : (s.happen e).channel.isOpen = true) : s.Deals e (s.happen e) := by
  have hbefore := s.isOpen_of_happen hafloat hopen
  cases e with
  | start runtime =>
      obtain ⟨hdesk, htraffic⟩ := s.desk_start runtime
      exact .of_desk hdesk htraffic rfl
  | act act =>
      rw [happen] at hopen ⊢
      split at hopen
      case isFalse hpermits =>
        rw [if_neg hpermits]
        -- only steps in which a channel is closed can be out of place
        cases act with
        | cancel | clearWaiters | clearWorkbench => exact .of_desk rfl rfl rfl
        | _ => exact absurd rfl hpermits
      rename_i hpermits
      rw [if_pos hpermits]
      -- no worker was told to stop
      have hcancelled := (hafloat hbefore).1
      cases act with
      | call order => exact .calls
      | onTraffic listener => exact .installs
      | onBroadcast | onWritten | arrive | release => exact .of_desk rfl rfl rfl
      | read => exact s.deals_read hafloat hopen
      | write => exact .puts s.channel.puts_writeStep
      | relay => exact .of_desk s.desk_relay.1 s.desk_relay.2 rfl
      | finish index => exact s.deals_finish index
      | listen frameId run =>
          exact .of_desk (s.desk_listen frameId run).1 (s.desk_listen frameId run).2 rfl
      | poll index => exact .of_desk (s.desk_poll index).1 (s.desk_poll index).2 rfl
      | forget index => exact .of_desk (s.desk_forget index).1 (s.desk_forget index).2 rfl
      | advance index =>
          change s.Deals _ (s.advance index)
          rw [advance]
          cases hcall : s.errands[index]? with
          | none => exact .of_desk rfl rfl rfl
          | some call => exact .goesOn hcall
      | flip => cases hopen
      | cancel | clearWaiters | clearWorkbench => simp [permits, hbefore] at hpermits
      | endReading | endWriting | endRelaying =>
          rw [step, onChannel, hcancelled]
          exact .of_desk rfl rfl rfl

end Side

end Parley
