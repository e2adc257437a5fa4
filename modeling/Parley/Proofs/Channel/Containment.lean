/-
Faults of handlers stay where they are.

What a handler makes of a request, be it a reply, an error or a panic, becomes one
message: a reply on the frame id of the request. No call to send it is turned away
for not being one, and on its way it touches neither the state of the channel nor
those that wait (`Side.Contains`). This is so whether the channel is open or not,
so the invariant asks for neither (`Side.Heeds`). And where handlers keep no state,
requests can be left out of a course without a change to the answers to the others
(`Side.handler_faults_contained`).
-/
import Parley.Proofs.Channel.Bindings
import Parley.Proofs.Channel.Duty
import Parley.Proofs.Channel.Sparing

namespace Parley

open scoped List

variable {σ : Type}

/-! ### What is brought to a dispatcher -/

/-- A call to send a proper reply may fail, but not for the reply. -/
theorem Channel.advance_reply_ne_invalid {c : Channel σ} {frameId id : Int32} {m : Message}
    {stage : Stage} {type : String} (hreply : checkReply frameId m = .ok ())
    (hsound : stage.Sound (.reply frameId m)) :
    (c.advance (.reply frameId m) stage).1 ≠ .ended (.error (.invalidReply type id)) := by
  cases stage with
  | check =>
      simp only [advance, checkOrder, hreply]
      cases hsend : c.checkSend m with
      | ok u =>
          intro hended
          cases hended
      | error e =>
          rintro ⟨⟩
          rw [checkSend] at hsend
          split at hsend
          · cases hsend
          · rw [checkOpen] at hsend
            split at hsend <;> cases hsend
  | enqueue ticket target =>
      rw [advance]
      rcases c.enqueue_cases ⟨ticket, target, m⟩ with heq | heq
      · simp [Order.message, heq]
      · simp [Order.message, heq]
  | number => cases hsound
  | guard | await | confirm => cases hsound.1

namespace Side

/-- What is brought to a dispatcher belongs to requests, and what is replied was
answered to them, be the channel open or closed. -/
structure Heeds (d : Dispatcher σ) (registry : Registry) (s : Side σ) : Prop where
  under : s.channel.registry = registry
  listens : ∀ l, s.channel.onTraffic = some l → l = d.listener
  traffic : ∀ t ∈ s.channel.traffic, t.1 = d.listener ∧ t.2.1 ≠ broadcastId
  answered : ∀ a ∈ s.answered, a.frameId ≠ broadcastId ∧
    (d.listener registry a.app a.frameId a.message).2 = some a.answer
  replies : ∀ e ∈ s.errands, ∀ p, e.1.reply? = some p → ∃ a ∈ s.answered, a.reply = p

namespace Heeds

variable {d : Dispatcher σ} {registry : Registry} {s s' : Side σ}

theorem of_same (h : s.Heeds d registry) (hregistry : s'.channel.registry = s.channel.registry)
    (hlistens : s'.channel.onTraffic = s.channel.onTraffic)
    (htraffic : s'.channel.traffic ⊆ s.channel.traffic) (herrands : s'.errands = s.errands)
    (hanswered : s'.answered = s.answered) : s'.Heeds d registry where
  under := hregistry.trans h.under
  listens := fun l hl => h.listens l (hlistens.symm.trans hl)
  traffic := fun t ht => h.traffic t (htraffic ht)
  answered := hanswered ▸ h.answered
  replies := by
    rw [herrands, hanswered]
    exact h.replies

theorem of_spares (h : s.Heeds d registry) (hspares : s.channel.Spares s'.channel)
    (herrands : s'.errands = s.errands) (hanswered : s'.answered = s.answered) :
    s'.Heeds d registry :=
  h.of_same (congrArg Channel.Fixture.registry hspares.fixture)
    (congrArg Channel.Fixture.onTraffic hspares.fixture) hspares.traffic.subset herrands hanswered

/-- A step of a call leaves it what it was to reply. -/
theorem advance (h : s.Heeds d registry) (index : Nat) : (s.advance index).Heeds d registry := by
  rcases s.advance_eq index with heq | ⟨order, stage, outcome, channel, hcall, hstep, heq⟩
  · rw [heq]
    exact h
  have hsame : channel.registry = s.channel.registry ∧ channel.onTraffic = s.channel.onTraffic ∧
      channel.traffic = s.channel.traffic := by
    cases hstep with
    | failed | withdrawn | known | unknown | numbered | guarded | waits | confirmed | queued =>
        exact ⟨rfl, rfl, rfl⟩
  obtain ⟨hregistry, hlistens, htraffic⟩ := hsame
  have hstays : ({ s with channel } : Side σ).Heeds d registry :=
    h.of_same hregistry hlistens (htraffic ▸ List.Subset.refl _) rfl rfl
  have herased : ∀ e ∈ s.errands.eraseIdx index, ∀ p, e.1.reply? = some p →
      ∃ a ∈ s.answered, a.reply = p :=
    fun e he => h.replies e (List.mem_of_mem_eraseIdx he)
  rw [heq]
  cases outcome with
  | next stage' =>
      refine ⟨hstays.under, hstays.listens, hstays.traffic, h.answered, fun e he => ?_⟩
      rcases List.mem_or_eq_of_mem_set he with he | rfl
      · exact h.replies e he
      · exact h.replies (order, stage) (List.mem_of_getElem? hcall)
  | ended result =>
      cases result with
      | error e => exact ⟨hstays.under, hstays.listens, hstays.traffic, h.answered, herased⟩
      | ok w => exact ⟨hstays.under, hstays.listens, hstays.traffic, h.answered, herased⟩

/-- What the dispatcher answers is to be replied on the frame id of a request. -/
theorem finish (h : s.Heeds d registry) (index : Nat) : (s.finish index).Heeds d registry := by
  have hspares : s.channel.Spares (s.finish index).channel :=
    s.spares_happen (e := .act (.finish index)) nofun nofun nofun
  have hfinish := s.finish_cases index
  generalize s.finish index = s' at hfinish hspares
  cases hfinish with
  | absent | aside | reply | unanswered => exact h.of_spares hspares rfl rfl
  | @answered listener frameId m answer app hjob hanswer =>
      have hdue := Channel.traffic_perm_withoutJob hjob
      obtain ⟨rfl, hid⟩ := h.traffic (listener, frameId, m)
        (hdue.symm.subset (List.mem_append_left _ (List.mem_singleton_self _)))
      refine ⟨h.under, h.listens, fun t ht => h.traffic t (hspares.traffic.subset ht), ?_, ?_⟩
      · refine List.forall_mem_append.mpr ⟨h.answered, fun a ha => ?_⟩
        rw [List.mem_singleton.mp ha]
        rw [h.under] at hanswer
        exact ⟨hid, congrArg Prod.snd hanswer⟩
      · refine List.forall_mem_append.mpr ⟨fun e he p hp => ?_, fun e he p hp => ?_⟩
        · obtain ⟨a, ha, heq⟩ := h.replies e he p hp
          exact ⟨a, List.mem_append_left _ ha, heq⟩
        · rw [List.mem_singleton.mp he] at hp
          cases hp
          exact ⟨_, List.mem_append_right _ (List.mem_singleton_self _), rfl⟩

/-- What the reader brings to the dispatcher is no broadcast. -/
theorem read (h : s.Heeds d registry) : s.read.Heeds d registry := by
  have hfixture := s.channel.fixture_readStep
  have hlistens : s.channel.readStep.onTraffic = s.channel.onTraffic :=
    congrArg Channel.Fixture.onTraffic hfixture
  refine ⟨(congrArg Channel.Fixture.registry hfixture).trans h.under,
    fun l hl => h.listens l (hlistens.symm.trans hl), ?_, h.answered, h.replies⟩
  intro t ht
  rcases s.channel.mem_traffic_readStep ht with ht | ⟨hl, hid⟩
  · exact h.traffic t ht
  · exact ⟨h.listens _ hl, hid⟩

/-- **Whatever happens, a dispatcher heeds requests alone.** -/
theorem happen (h : s.Heeds d registry) {e : Event σ} (he : e.LeavesTo d) :
    (s.happen e).Heeds d registry := by
  have hspares := s.spares_happen (e := e)
  cases e with
  | start runtime => exact h.of_spares (hspares (by simp) (by simp) (by simp)) rfl rfl
  | act act =>
      rw [Side.happen] at hspares ⊢
      split
      case isFalse => exact h
      next hpermits =>
      rw [if_pos hpermits] at hspares
      cases act with
      | call order =>
          refine ⟨h.under, h.listens, h.traffic, h.answered, ?_⟩
          refine List.forall_mem_append.mpr ⟨h.replies, fun e hnew p hp => ?_⟩
          rw [List.mem_singleton.mp hnew] at hp
          cases order with
          | write | request => cases hp
          | reply frameId m => exact he.elim
      | advance index => exact h.advance index
      | onTraffic listener =>
          obtain rfl := he
          refine ⟨h.under, ?_, h.traffic, h.answered, h.replies⟩
          rintro l ⟨⟩
          rfl
      | poll index =>
          have hsaid := s.same_poll index
          exact h.of_spares (hspares (by simp) (by simp) (by simp)) hsaid.errands hsaid.answered
      | forget index =>
          have hsaid : s.Same (s.forget index) := s.same_step (rfl : (Act.forget index).isPlain = _)
          exact h.of_spares (hspares (by simp) (by simp) (by simp)) hsaid.errands hsaid.answered
      | read => exact h.read
      | finish index => exact h.finish index
      | listen | onBroadcast | onWritten | write | relay | arrive | release | flip | cancel
      | clearWaiters | clearWorkbench | endReading | endWriting | endRelaying =>
          exact h.of_spares (hspares (by simp) (by simp) (by simp)) rfl rfl

theorem course (h : s.Heeds d registry) {events : List (Event σ)}
    (hevents : ∀ e ∈ events, e.LeavesTo d) : (s.course events).Heeds d registry := by
  induction events generalizing s with
  | nil => exact h
  | cons e rest ih =>
      obtain ⟨he, hrest⟩ := List.forall_mem_cons.mp hevents
      exact ih (h.happen he) hrest

end Heeds

theorem heeds_created (d : Dispatcher σ) (registry : Registry) (config : ChannelConfig)
    (writes : List WriteTurn) (flushes : List FlushTurn) (app : σ) :
    (created registry config writes flushes app).Heeds d registry :=
  ⟨rfl, nofun, List.forall_mem_nil _, List.forall_mem_nil _, List.forall_mem_nil _⟩

/-! ### An answer on its way -/

/-- An event brings an answer on its way: the call of the listener for all traffic
finishes, the call to reply takes a step, or the writer takes up what was queued. -/
inductive Conveys (s : Side σ) : Event σ → Prop
  | answers {index : Nat} {listener : TrafficListener σ} {frameId : Int32} {m : Message} :
      s.channel.pool[index]? = some (.traffic listener frameId m) →
      Conveys s (.act (.finish index))
  | replies {index : Nat} {frameId : Int32} {m : Message} {stage : Stage} :
      s.errands[index]? = some (.reply frameId m, stage) → Conveys s (.act (.advance index))
  | writes {w : PendingWrite} {queue : List PendingWrite} :
      s.channel.current = none → s.channel.queue = w :: queue → Conveys s (.act .write)

/-- **Whatever a handler made of its request, nobody else notices**: on its way an
answer changes neither the state of the channel nor the table of those that wait. -/
theorem Conveys.unharmed {s : Side σ} {e : Event σ} (h : s.Conveys e) (horderly : s.Orderly) :
    (s.happen e).channel.lifecycle = s.channel.lifecycle ∧
      (s.happen e).channel.waiters = s.channel.waiters := by
  cases h with
  | @answers index listener frameId m hjob =>
      change (s.finish index).channel.lifecycle = _ ∧ (s.finish index).channel.waiters = _
      have hfinish := s.finish_cases index
      generalize s.finish index = s' at hfinish
      cases hfinish with
      | absent | aside | reply | unanswered | answered => exact ⟨rfl, rfl⟩
  | @replies index frameId m stage hcall =>
      change (s.advance index).channel.lifecycle = _ ∧ (s.advance index).channel.waiters = _
      rcases s.advance_eq index with heq | ⟨order, stage', outcome, channel, hcall', hstep, heq⟩
      · rw [heq]
        exact ⟨rfl, rfl⟩
      cases hcall.symm.trans hcall'
      have hsound := horderly.errands _ (List.mem_of_getElem? hcall)
      rw [heq, proceed_channel]
      cases hstep with
      | failed | known | unknown | numbered | guarded | confirmed | queued => exact ⟨rfl, rfl⟩
      | waits => cases hsound.1
      | withdrawn hplaced =>
          -- only a call that waits for an answer has anything in the table
          cases stage with
          | confirm ticket id => cases hsound.1
          | check | number | guard | await | enqueue => cases hplaced
  | @writes w queue hcurrent hqueue =>
      change s.channel.writeStep.lifecycle = _ ∧ s.channel.writeStep.waiters = _
      have hputs := s.channel.puts_writeStep
      generalize s.channel.writeStep = c at hputs
      cases hputs with
      | idle | begins | refuses => exact ⟨rfl, rfl⟩
      | sends hbusy => cases hcurrent.symm.trans hbusy
      | written hbusy => cases hcurrent.symm.trans hbusy
      | fails hbusy => cases hcurrent.symm.trans hbusy

/-! ### Requests that are left out -/

section LeftOut

variable {bs : List Binding} {registry : Registry} {s s' : Side σ}
  {heard heard' : List (Int32 × Message)}

/-- An answer is a function of the request. -/
theorem Heeds.replyTo?_request (h : s.Heeds (.ofBindings bs) registry) {a : Answered σ}
    (ha : a ∈ s.answered) : Dispatcher.replyTo? bs registry a.request = some a.reply :=
  Dispatcher.replyTo?_of_listener (h.answered a ha).2

/-- The same request gets the same answer, on whatever side it is answered. -/
theorem Heeds.reply_eq (h : s.Heeds (.ofBindings bs) registry)
    (h' : s'.Heeds (.ofBindings bs) registry) {a a' : Answered σ} (ha : a ∈ s.answered)
    (ha' : a' ∈ s'.answered) (hsame : a'.request = a.request) : a'.reply = a.reply := by
  have hreply := h'.replyTo?_request ha'
  rw [hsame, h.replyTo?_request ha] at hreply
  exact (Option.some.inj hreply).symm

theorem Heeds.map_reply (h : s.Heeds (.ofBindings bs) registry) {answered : List (Answered σ)}
    (hanswered : answered ⊆ s.answered) :
    answered.map Answered.reply
      = (answered.map Answered.request).filterMap (Dispatcher.replyTo? bs registry) := by
  rw [List.filterMap_map, ← List.filterMap_eq_map]
  exact List.filterMap_congr fun a ha => (h.replyTo?_request (hanswered ha)).symm

/-- **Requests that are left out change nothing about the answers to the others.** -/
theorem Heeds.replies_of_leftOut (h : s.Heeds (.ofBindings bs) registry)
    (h' : s'.Heeds (.ofBindings bs) registry) (hdealt : heard ~ s.answered.map Answered.request)
    (hdealt' : heard' ~ s'.answered.map Answered.request) {leftOut : Int32 × Message → Bool}
    (hothers : heard' ~ heard.filter fun p => !leftOut p) :
    s'.answered.map Answered.reply
      ~ (s.answered.filter fun a => !leftOut a.request).map Answered.reply := by
  have hrequests : s'.answered.map Answered.request
      ~ (s.answered.filter fun a => !leftOut a.request).map Answered.request := by
    refine hdealt'.symm.trans (hothers.trans ((hdealt.filter _).trans ?_))
    rw [List.filter_map]
    exact List.Perm.refl _
  rw [h'.map_reply (List.Subset.refl _), h.map_reply (List.filter_subset_self _)]
  exact hrequests.filterMap _

/-- The reply frames of all answers are those of the others and of the ones left out. -/
theorem frames_of_leftOut {frame? : Int32 × Message → Option Frame} {frames frames' : List Frame}
    {leftOut : Int32 × Message → Bool}
    (hframes : frames ~ (s.answered.map Answered.reply).filterMap frame?)
    (hframes' : frames' ~ (s'.answered.map Answered.reply).filterMap frame?)
    (hothers : s'.answered.map Answered.reply
      ~ (s.answered.filter fun a => !leftOut a.request).map Answered.reply) :
    frames ~ frames' ++
      ((s.answered.filter fun a => leftOut a.request).map Answered.reply).filterMap frame? := by
  have hparts := (List.filter_append_perm (fun a => leftOut a.request) s.answered).symm
  have hsplit := (hparts.trans List.perm_append_comm).map Answered.reply
  rw [List.map_append] at hsplit
  refine hframes.trans ((hsplit.filterMap _).trans ?_)
  rw [List.filterMap_append]
  exact ((hframes'.trans (hothers.filterMap _)).symm).append_right _

end LeftOut

/-! ### The theorem -/

/-- What handlers that keep no state make of a side, whatever else happens to it. -/
structure Contains (bs : List Binding) (registry : Registry) (s : Side σ) : Prop where
  /-- Every answer was given to a request as it was to be, and passes for a reply. -/
  answered : ∀ a ∈ s.answered, Channel.checkReply a.frameId a.answer = .ok () ∧
    ∃ entry, registry.lookupFor a.message = .ok entry ∧
      Binding.Answers bs entry.wireId a.message a.answer
  /-- No call to reply is turned away for having no reply to send. -/
  proper : ∀ (index : Nat) (frameId : Int32) (m : Message) (stage : Stage) (type : String)
    (id : Int32), s.errands[index]? = some (.reply frameId m, stage) →
      (s.channel.advance (.reply frameId m) stage).1 ≠ .ended (.error (.invalidReply type id))
  /-- An answer on its way changes neither the state of the channel nor the table. -/
  unharmed : ∀ e, s.Conveys e → (s.happen e).channel.lifecycle = s.channel.lifecycle ∧
    (s.happen e).channel.waiters = s.channel.waiters

theorem Heeds.contains {bs : List Binding} {registry : Registry} {s : Side σ}
    (h : s.Heeds (.ofBindings bs) registry) (horderly : s.Orderly) : s.Contains bs registry := by
  have hanswered : ∀ a ∈ s.answered, Channel.checkReply a.frameId a.answer = .ok () ∧
      ∃ entry, registry.lookupFor a.message = .ok entry ∧
        Binding.Answers bs entry.wireId a.message a.answer := by
    intro a ha
    obtain ⟨hid, hlistener⟩ := h.answered a ha
    obtain ⟨entry, hentry, hanswers⟩ := Dispatcher.answers_of_listener hlistener
    exact ⟨if_neg (by simp [hid, hanswers.kind_reply]), entry, hentry, hanswers⟩
  refine ⟨hanswered, ?_, fun e he => he.unharmed horderly⟩
  intro index frameId m stage type id hcall hrefused
  obtain ⟨a, ha, hreply⟩ := h.replies _ (List.mem_of_getElem? hcall) (frameId, m) rfl
  cases hreply
  exact Channel.advance_reply_ne_invalid (hanswered a ha).1
    (horderly.errands _ (List.mem_of_getElem? hcall)) hrefused

/-- **Faults of handlers are contained.** Take any dispatcher that a sequence of
bindings led to. It answers every message with a reply: that of the handler that was
bound last to its type, or a failure that names the wire type id and says what is
wrong. Where it listens to all traffic and nobody else replies, every request is
answered so, whatever happens: the answer is taken for a reply, and on its way it
leaves the state of the channel and the table of those that wait alone. A side
whose sink does not break off can come to rest with its channel open. The same
request gets the same answer in any other course. And if in that course some of
the requests are left out, be it those of which a handler made a fault or any
others, the other requests get the same replies at rest, message by message and
frame by frame. -/
theorem handler_faults_contained {registry : Registry} (hregistry : registry.Built)
    (bs : List Binding) (config : ChannelConfig) :
    let d : Dispatcher σ := .ofBindings bs
    let frame? := registry.frame? config.limits.maxPayload
    let first : List WriteTurn → List FlushTurn → σ → Side σ := created registry config
    (∀ (app : σ) (requestId : Int16) (m : Message), ∃ answer,
      d.answer app requestId m = (app, answer) ∧
        Binding.Answers bs requestId m answer ∧ answer.kind = MessageKind.reply) ∧
    ∀ (writes : List WriteTurn) (flushes : List FlushTurn) (app : σ) (events : List (Event σ)),
      (∀ e ∈ events, e.LeavesTo d) →
      let s := (first writes flushes app).course events
      let heard := (first writes flushes app).heard events
      s.Contains bs registry ∧
      (s.channel.isOpen = true → s.channel.Smooth →
        ∃ later : List (Event σ), (∀ e ∈ later, e.isWork = true) ∧
          (s.course later).channel.isOpen = true ∧ (s.course later).AtRest ∧
          (first writes flushes app).heard (events ++ later) = heard) ∧
      ∀ (writes' : List WriteTurn) (flushes' : List FlushTurn) (app' : σ)
        (events' : List (Event σ)) (leftOut : Int32 × Message → Bool),
        (∀ e ∈ events', e.LeavesTo d) →
        let s' := (first writes' flushes' app').course events'
        let heard' := (first writes' flushes' app').heard events'
        (∀ a ∈ s.answered, ∀ a' ∈ s'.answered, a'.request = a.request → a'.reply = a.reply) ∧
        (s.channel.isOpen = true → s'.channel.isOpen = true → s.AtRest → s'.AtRest →
          heard' ~ heard.filter (fun p => !leftOut p) →
            s'.answered.map Answered.reply
              ~ (s.answered.filter fun a => !leftOut a.request).map Answered.reply ∧
            ∃ frames frames' : List Frame,
              s.channel.sink.taken = frames.flatMap Frame.bytes ∧
              s'.channel.sink.taken = frames'.flatMap Frame.bytes ∧
              frames.filter (Frame.isReply registry)
                ~ frames'.filter (Frame.isReply registry) ++
                  ((s.answered.filter fun a => leftOut a.request).map Answered.reply).filterMap
                    frame?) := by
  intro d frame? first
  refine ⟨fun app requestId m => ?_, fun writes flushes app events hevents => ?_⟩
  · obtain ⟨answer, hanswers⟩ := Binding.exists_answers bs requestId m
    exact ⟨answer, Dispatcher.answer_eq_of_answers hanswers app, hanswers, hanswers.kind_reply⟩
  intro s heard
  have horderly : (first writes flushes app).Orderly :=
    ⟨List.forall_mem_nil _, List.forall_mem_nil _⟩
  have hheeds : s.Heeds d registry :=
    (heeds_created d registry config writes flushes app).course hevents
  have hengaged := (engaged_created d registry config writes flushes app).course hregistry hevents
  refine ⟨?_, ?_, ?_⟩
  · exact hheeds.contains (orderly_course _ horderly events)
  · intro hopen hsmooth
    obtain ⟨later, hwork, hafter, hrest⟩ := exists_rest (hengaged hopen).afloat hopen hsmooth
    refine ⟨later, hwork, hafter, hrest, ?_⟩
    rw [heard_append, heard_of_isWork hwork, List.append_nil]
  · intro writes' flushes' app' events' leftOut hevents' s' heard'
    have hheeds' : s'.Heeds d registry :=
      (heeds_created d registry config writes' flushes' app').course hevents'
    refine ⟨fun a ha a' ha' => hheeds.reply_eq hheeds' ha ha', ?_⟩
    intro hopen hopen' hrest hrest' hothers
    have hengaged' :=
      (engaged_created d registry config writes' flushes' app').course hregistry hevents' hopen'
    have hreplies := hheeds.replies_of_leftOut hheeds' ((hengaged hopen).dealt_of_rest hrest)
      (hengaged'.dealt_of_rest hrest') hothers
    obtain ⟨frames, htaken, hframes⟩ := (hengaged hopen).replies_of_rest hregistry hrest
    obtain ⟨frames', htaken', hframes'⟩ := hengaged'.replies_of_rest hregistry hrest'
    exact ⟨hreplies, frames, frames', htaken, htaken', frames_of_leftOut hframes hframes' hreplies⟩

/-- A ping whose handler panics does nothing to the answer to another request. -/
theorem panic_leaves_others_alone :
    let bs : List Binding := [⟨.ping, fun _ => .reply ()⟩,
      ⟨.getLoaderClasses, fun loader => .reply ⟨loader, []⟩⟩,
      ⟨.ping, fun _ => .panicked (some "out of balls")⟩]
    let d : Dispatcher Nat := .ofBindings bs
    let first : Side Nat := created .catalog {} [] [] 0
    let asks := serve d ⟨8, (MessageType.request .getLoaderClasses).wireId, Bytes.ofInt32 3⟩
    let events := serve d ⟨7, (MessageType.request .ping).wireId, []⟩ ++ asks
    first.heard events = [(7, .request .ping ()), (8, .request .getLoaderClasses 3)] ∧
      first.heard asks = [(8, .request .getLoaderClasses 3)] ∧
      (first.course events).answered.map Answered.reply
        = [(7, .failure 100 "handler panicked: out of balls"),
          (8, .reply .getLoaderClasses ⟨3, []⟩)] ∧
      (first.course asks).answered.map Answered.reply
        ~ [(8, .reply .getLoaderClasses ⟨3, []⟩)] := by
  intro bs d first asks events
  have hheard : first.heard events
      = [(7, .request .ping ()), (8, .request .getLoaderClasses 3)] := by decide +kernel
  have hheard' : first.heard asks = [(8, .request .getLoaderClasses 3)] := by decide +kernel
  have hleaves : ∀ e ∈ events, e.LeavesTo d :=
    List.forall_mem_append.mpr ⟨leavesTo_serve d _, leavesTo_serve d _⟩
  obtain ⟨-, -, hothers⟩ := (handler_faults_contained Registry.built_catalog bs {}).2 [] [] 0
    events hleaves
  obtain ⟨hreplies, -⟩ := (hothers [] [] 0 asks (fun p => p.2.type == .request .ping)
    (leavesTo_serve d _)).2 (by decide +kernel) (by decide +kernel)
    (atRest_of_lengths (by decide +kernel)) (atRest_of_lengths (by decide +kernel))
    (List.Perm.of_eq (by decide +kernel))
  refine ⟨hheard, hheard', by decide +kernel, hreplies.trans (List.Perm.of_eq ?_)⟩
  decide +kernel

end Side

end Parley
