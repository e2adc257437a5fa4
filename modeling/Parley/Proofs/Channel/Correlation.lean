/-
Every request gets the answer that was given to it.

The near side of a line asks, and the far side serves. Whatever happens on both
sides and in whatever order, a reply that a handle brings is the one with which
the dispatcher of the far side answered the request of that handle, or the
failure that it gave for that request, and no answer is brought to two handles
(`Line.replies_match_requests`).
-/
import Parley.Proofs.Channel.Exchange
import Parley.Proofs.Channel.Service

namespace Parley

open scoped List

variable {σ τ : Type}

/-! ### What a handle yields -/

namespace Dispatcher

/-- What can come of a request, given what the dispatcher makes of it. -/
inductive Resolves (d : Dispatcher τ) (app : τ) (r : RequestType) (payload : r.Payload) :
    Except ChannelError r.Reply → Prop
  /-- The handler has replied; the reply reads back as its normal form. -/
  | replied {value received : r.Reply} : d.handled? app r payload = some (.reply value) →
      (Message.reply r value).normalForm = .reply r received →
        Resolves d app r payload (.ok received)
  | failed {text : String} : d.handled? app r payload = some (.failed text) →
      Resolves d app r payload (.error (.remote (MessageType.request r).wireId text))
  | panicked {reason : Option String} : d.handled? app r payload = some (.panicked reason) →
      Resolves d app r payload (.error (.remote (MessageType.request r).wireId
        ("handler panicked: " ++ reason.getD "unknown panic")))
  | missing : d.handled? app r payload = none →
      Resolves d app r payload (.error (.remote (MessageType.request r).wireId
        ("no handler for " ++ (MessageType.request r).name)))

/-- The answer of a dispatcher is a reply that its request expects, or a failure. -/
theorem resolves_typedReply (d : Dispatcher τ) (app : τ) (r : RequestType) (payload : r.Payload) :
    d.Resolves app r payload (Channel.typedReply r (d.reply app r payload).normalForm) := by
  have hnormal (value : r.Reply) :
      ∃ received, (Message.reply r value).normalForm = .reply r received := by
    cases r with
    | getClass => exact ⟨_, rfl⟩
    | _ => exact ⟨value, rfl⟩
  rw [reply]
  cases hhandled : d.handled? app r payload with
  | none => exact .missing hhandled
  | some outcome =>
      cases outcome with
      | failed text => exact .failed hhandled
      | panicked reason => exact .panicked hhandled
      | reply value =>
          obtain ⟨received, hreceived⟩ := hnormal value
          have htyped : Channel.typedReply r (.reply r received) = .ok received := dif_pos rfl
          change d.Resolves app r payload (Channel.typedReply r (Message.reply r value).normalForm)
          rw [hreceived, htyped]
          exact .replied hhandled hreceived

end Dispatcher

/-- What a look at the handle of a request can show: what the reply means that
was brought to it, or why the request was not written, or that the channel is
closed, as no reply can come any more or as the request is lost. -/
inductive Channel.ReplyShows (c : Channel σ) (h : ReplyHandle) :
    Except ChannelError h.expects.Reply → Prop
  | answered {m : Message} : (h.ticket, m) ∈ c.replies → ReplyShows c h (typedReply h.expects m)
  | refused {e : FrameError} : (h.ticket, .error e) ∈ c.outcomes →
      ReplyShows c h (.error (.frame e))
  | unanswered : (∀ m, (h.ticket, m) ∉ c.replies) → c.holdsReply h.ticket = false →
      ReplyShows c h (.error .closed)
  | lost : (∀ outcome, (h.ticket, outcome) ∉ c.outcomes) → c.holdsWrite h.ticket = false →
      ReplyShows c h (.error .closed)

theorem Channel.pollReply_shows (c : Channel σ) (h : ReplyHandle)
    {result : Except ChannelError h.expects.Reply} (hpoll : (c.pollReply h).1 = some result) :
    c.ReplyShows h result := by
  have harrival (hpoll : c.pollArrival h = some result) : c.ReplyShows h result := by
    unfold pollArrival at hpoll
    split at hpoll
    next m hlookup =>
      cases hpoll
      exact .answered (mem_of_lookup hlookup)
    next hlookup =>
      split at hpoll
      next => cases hpoll
      next hholds =>
        cases hpoll
        exact .unanswered (not_mem_of_lookup hlookup) (Bool.eq_false_iff.mpr hholds)
  unfold pollReply at hpoll
  split at hpoll
  next => exact harrival hpoll
  next =>
    split at hpoll
    next => exact harrival hpoll
    next e hwrite =>
      cases hpoll
      unfold pollWrite at hwrite
      split at hwrite
      next => cases hwrite
      next hlookup =>
        cases hwrite
        exact .refused (mem_of_lookup hlookup)
      next hlookup =>
        split at hwrite
        next => cases hwrite
        next hholds =>
          cases hwrite
          exact .lost (not_mem_of_lookup hlookup) (Bool.eq_false_iff.mpr hholds)
    next => exact harrival hpoll

/-! ### Sides that ask and sides that answer -/

namespace Side

/-- What holds of a side that asks. -/
def Asks (limits : FrameLimits) (s : Side σ) : Prop :=
  s.channel.Steady limits ∧ s.Orderly ∧ ∃ issued, s.Books issued

/-- What holds of a side that answers. -/
def Answers (d : Dispatcher τ) (limits : FrameLimits) (s : Side τ) : Prop :=
  s.channel.Steady limits ∧ s.Orderly ∧ s.Serves d

variable {limits : FrameLimits}

/-- A side that was started and has done nothing yet keeps empty books. -/
theorem asks_opened (config : ChannelConfig) (writes : List WriteTurn) (flushes : List FlushTurn)
    (app : σ) : (opened config writes flushes app).Asks config.limits := by
  refine ⟨steady_opened config writes flushes app,
    ⟨List.forall_mem_nil _, List.forall_mem_nil _⟩, [], ?_, ?_, ?_, ?_⟩
  · exact ⟨rfl, Nat.zero_le _, List.nodup_nil, List.forall_mem_nil _⟩
  · exact ⟨List.forall_mem_nil _, List.forall_mem_nil _⟩
  · exact List.Subperm.refl _
  · exact List.Sublist.refl _

theorem Asks.step {s : Side σ} (h : s.Asks limits) (act : Act σ) : (s.step act).Asks limits := by
  obtain ⟨hsteady, horderly, hbooks⟩ := h
  exact ⟨steady_step hsteady act, s.orderly_step horderly act,
    books_step hbooks hsteady.started horderly act⟩

theorem Answers.step {d : Dispatcher τ} {s : Side τ} (h : s.Answers d limits) {act : Act τ}
    (hact : act.isServing = true) : (s.step act).Answers d limits := by
  obtain ⟨hsteady, horderly, hserves⟩ := h
  exact ⟨steady_step hsteady act, s.orderly_step horderly act,
    serves_step hserves hsteady horderly hact⟩

/-- Bytes that are carried away matter neither to a side that asks nor to one
that answers. -/
theorem Asks.carried {s : Side σ} (h : s.Asks limits) (taken : Bytes) :
    (s.onChannel fun c => { c with sink := { c.sink with taken } }).Asks limits := by
  obtain ⟨hsteady, horderly, issued, hbooks⟩ := h
  refine ⟨⟨hsteady.registry, hsteady.started, hsteady.reader, hsteady.writer⟩,
    ⟨horderly.errands, horderly.accepted⟩, issued, hbooks.of_quiet ?_ ⟨rfl, rfl, rfl, rfl, rfl⟩⟩
  exact .of_sublist rfl (List.Sublist.refl _) (List.Sublist.refl _)

theorem Answers.carried {d : Dispatcher τ} {s : Side τ} (h : s.Answers d limits) (taken : Bytes) :
    (s.onChannel fun c => { c with sink := { c.sink with taken } }).Answers d limits := by
  obtain ⟨hsteady, horderly, hserves⟩ := h
  refine ⟨⟨hsteady.registry, hsteady.started, hsteady.reader, hsteady.writer⟩,
    ⟨horderly.errands, horderly.accepted⟩, hserves.of_quiet ?_ ⟨rfl, rfl, rfl, rfl, rfl⟩⟩
  exact .of_sublist rfl (List.Sublist.refl _) (List.Sublist.refl _)

theorem upholds_asks : Upholds (σ := σ) (Asks limits) (fun _ => true) limits where
  steady h := h.1
  orderly h := h.2.1
  step h _ := h.step _
  arrive _ h := h.step _
  carried taken h := h.carried taken

theorem upholds_answers {d : Dispatcher τ} : Upholds (Answers d limits) Act.isServing limits where
  steady h := h.1
  orderly h := h.2.1
  step h hact := h.step hact
  arrive _ h := h.step rfl
  carried taken h := h.carried taken

end Side

/-! ### Lines -/

namespace Line

/-- The far side answers, and of the bytes that arrive all were carried there. -/
def Act.isGenuine : Act σ τ → Bool
  | .near (.arrive a) => a.bytes.isEmpty
  | .far (.arrive a) => a.bytes.isEmpty
  | .far act => act.isServing
  | _ => true

/-- The near side asks, the far side answers, and each reads what the other has said. -/
structure Linked (d : Dispatcher τ) (limits limits' : FrameLimits) (l : Line σ τ) : Prop where
  asks : l.near.Asks limits
  answers : l.far.Answers d limits'
  out : Flow limits.maxPayload l.near.outbox l.far.channel.unread l.far.delivered
  back : Flow limits'.maxPayload l.far.outbox l.near.channel.unread l.near.delivered

namespace Linked

variable {d : Dispatcher τ} {limits limits' : FrameLimits} {l : Line σ τ}

/-- **Whatever happens, the sides stay linked.** -/
theorem step (h : l.Linked d limits limits') {act : Act σ τ} (hact : act.isGenuine = true) :
    (l.step act).Linked d limits limits' := by
  have hwithin : act.isWithin (fun _ => true) Side.Act.isServing = true := by
    cases act with
    | near act =>
        cases act with
        | arrive a => exact hact
        | _ => rfl
    | far act =>
        cases act with
        | _ => exact hact
    | _ => rfl
  have hjoined : l.Joined (Side.Asks limits) (Side.Answers d limits') limits limits' :=
    ⟨h.asks, h.answers, h.out, h.back⟩
  obtain ⟨hasks, hanswers, hout, hback⟩ :=
    hjoined.step Side.upholds_asks Side.upholds_answers hwithin
  exact ⟨hasks, hanswers, hout, hback⟩

/-- **A reply that is kept for a handle answers its request.** -/
theorem answered_of_reply (h : l.Linked d limits limits') {a : Asked} (ha : a ∈ l.near.asked)
    {m : Message} (hm : (a.handle.ticket, m) ∈ l.near.channel.replies) :
    ∃ e ∈ l.far.answered, e.frameId = a.handle.frameId ∧
      e.message = .request a.handle.expects a.payload ∧
      m = (d.reply e.app a.handle.expects a.payload).normalForm := by
  obtain ⟨-, hasksOrderly, issued, hbooks⟩ := h.asks
  obtain ⟨-, hanswersOrderly, hserves⟩ := h.answers
  have hdelivered := hbooks.delivered_of_reply ha hm
  -- so the far side has said it there, as an answer
  obtain ⟨w, haccepted, hid, rfl⟩ := h.back.accepted_of_delivered hdelivered
  obtain ⟨e, he, heid, hanswer⟩ : ∃ e ∈ l.far.answered, e.frameId = w.frameId ∧
      e.answer = w.message := by
    rcases hserves.accepted w haccepted with hkind | hanswered
    · refine absurd ?_ (hbooks.ne_broadcastId_of_asked ha)
      have hmatches := hanswersOrderly.accepted w haccepted
      rw [Channel.kindMatchesFrame, hkind, hid] at hmatches
      simpa using hmatches
    · exact hanswered
  -- to a request that was delivered on this frame id, which can only be this one
  have hlistener := hserves.answered e he
  have hdealt : (e.frameId, e.message) ∈ l.far.delivered :=
    hserves.dealt.subset (List.mem_append_left _ (List.mem_map_of_mem he))
  obtain ⟨w', haccepted', hid', hmessage⟩ := h.out.accepted_of_delivered hdealt
  have hkind : w'.isRequest = true := by
    have hrequest := Dispatcher.kind_of_listener hlistener
    rw [← hmessage, Message.kind_normalForm] at hrequest
    exact beq_iff_eq.mpr hrequest
  have hissued : w' ∈ issued :=
    hbooks.requests.subset (List.mem_filter.mpr ⟨List.mem_append_left _ haccepted', hkind⟩)
  obtain rfl : w' = a.write := by
    refine List.inj_on_of_nodup_map hbooks.issues.nodup_frameIds hissued
      (hbooks.issued_of_asked ha) ?_
    exact hid'.trans (heid.trans hid)
  have hrequest : e.message = .request a.handle.expects a.payload := by
    rw [← hmessage]
    exact Message.normalForm_request _ _
  refine ⟨e, he, heid.trans hid, hrequest, ?_⟩
  rw [hrequest, Dispatcher.listener_request] at hlistener
  rw [← hanswer, ← Option.some.inj hlistener]

/-- No frame id is asked on twice. -/
theorem nodup_asked (h : l.Linked d limits limits') :
    (l.near.asked.map (·.handle.frameId)).Nodup := by
  obtain ⟨-, -, issued, hbooks⟩ := h.asks
  have hnodup := nodup_map_of_subperm
    (hbooks.requests_of_asked.subperm.trans hbooks.requests) hbooks.issues.nodup_frameIds
  rwa [List.map_map] at hnodup

/-- No frame id is answered on twice. -/
theorem nodup_answered (h : l.Linked d limits limits') :
    (l.far.answered.map (·.frameId)).Nodup := by
  obtain ⟨-, -, issued, hbooks⟩ := h.asks
  obtain ⟨-, -, hserves⟩ := h.answers
  let isRequest : Int32 × Message → Bool := fun m => m.2.kind == .request
  have hanswered : (l.far.answered.map fun e => (e.frameId, e.message))
      <+~ l.far.delivered.filter isRequest := by
    have hall : (l.far.answered.map fun e => (e.frameId, e.message)).filter isRequest
        = l.far.answered.map fun e => (e.frameId, e.message) := by
      refine List.filter_eq_self.mpr ?_
      intro m hm
      obtain ⟨e, he, rfl⟩ := List.mem_map.mp hm
      exact beq_iff_eq.mpr (Dispatcher.kind_of_listener (hserves.answered e he))
    rw [← hall]
    exact ((List.sublist_append_left _ _).subperm.trans hserves.dealt).filter isRequest
  have hdelivered : (l.far.delivered.filter isRequest).Sublist
      ((l.near.accepted.filter PendingWrite.isRequest).map PendingWrite.received) := by
    refine (h.out.delivered_prefix.sublist.filter isRequest).trans ?_
    rw [Side.said, List.filter_map]
    refine List.Sublist.map _ ?_
    have hkind : isRequest ∘ PendingWrite.received = PendingWrite.isRequest := by
      funext w
      exact congrArg (· == MessageKind.request) w.message.kind_normalForm
    rw [hkind]
    exact List.filter_sublist.filter _
  have hrequests : (l.near.accepted.filter PendingWrite.isRequest) <+~ issued :=
    (List.Sublist.filter _ (List.sublist_append_left _ _)).subperm.trans hbooks.requests
  have hnodup := nodup_map_of_subperm hrequests hbooks.issues.nodup_frameIds
  have hreceived : (((l.near.accepted.filter PendingWrite.isRequest).map
      PendingWrite.received).map Prod.fst).Nodup := by
    rw [List.map_map]
    exact hnodup
  have hpairs := nodup_map_of_subperm (hanswered.trans hdelivered.subperm) hreceived
  rwa [List.map_map] at hpairs

end Linked

/-! ### Correlation -/

/-- Two sides that were started, of which one has a dispatcher, are linked. -/
theorem linked_opened (d : Dispatcher τ) (config config' : ChannelConfig)
    (writes writes' : List WriteTurn) (flushes flushes' : List FlushTurn) (app : σ) (app' : τ) :
    Linked d config.limits config'.limits
      ⟨.opened config writes flushes app,
        (Side.opened config' writes' flushes' app').onChannel d.install⟩ where
  asks := Side.asks_opened config writes flushes app
  answers := by
    refine ⟨⟨rfl, rfl, rfl, rfl⟩, ⟨List.forall_mem_nil _, List.forall_mem_nil _⟩, ?_⟩
    exact ⟨rfl, List.forall_mem_nil _, List.Subperm.refl _, List.forall_mem_nil _,
      List.forall_mem_nil _, List.forall_mem_nil _⟩
  out := ⟨[], [], [], [], rfl, rfl, rfl, fun _ => ⟨rfl, rfl⟩⟩
  back := ⟨[], [], [], [], rfl, rfl, rfl, fun _ => ⟨rfl, rfl⟩⟩

/-- **Every reply is the one that was given to its request.** A handle yields
nothing but what the dispatcher has made of its own request, unless the channel
was closed or the request became no frame; and on no frame id is there more
than one handle or more than one answer. -/
theorem replies_match_requests (d : Dispatcher τ) (config config' : ChannelConfig)
    (writes writes' : List WriteTurn) (flushes flushes' : List FlushTurn) (app : σ) (app' : τ)
    {acts : List (Act σ τ)} (hacts : ∀ act ∈ acts, act.isGenuine = true) :
    let l := run ⟨.opened config writes flushes app,
      (Side.opened config' writes' flushes' app').onChannel d.install⟩ acts
    (∀ a ∈ l.near.asked, ∀ result, (l.near.channel.pollReply a.handle).1 = some result →
      result = .error .closed ∨ (∃ e, result = .error (.frame e)) ∨
        ∃ e ∈ l.far.answered, e.frameId = a.handle.frameId ∧
          e.message = .request a.handle.expects a.payload ∧
          d.Resolves e.app a.handle.expects a.payload result) ∧
      (l.near.asked.map (·.handle.frameId)).Nodup ∧ (l.far.answered.map (·.frameId)).Nodup := by
  intro l
  have h : l.Linked d config.limits config'.limits :=
    run_keeps (fun l act hact h => h.step (hacts act hact))
      (linked_opened d config config' writes writes' flushes flushes' app app')
  refine ⟨?_, h.nodup_asked, h.nodup_answered⟩
  intro a ha result hpoll
  cases l.near.channel.pollReply_shows a.handle hpoll with
  | unanswered | lost => exact Or.inl rfl
  | @refused e => exact Or.inr (Or.inl ⟨e, rfl⟩)
  | answered hm =>
      obtain ⟨e, he, hid, hmessage, rfl⟩ := h.answered_of_reply ha hm
      exact Or.inr (Or.inr ⟨e, he, hid, hmessage, d.resolves_typedReply _ _ _⟩)

/-- Two requests that are answered in the other order. -/
theorem reply_matches_later_answer :
    let d : Dispatcher Unit :=
      Dispatcher.empty.register .getLoaderClasses fun app loader => (app, .reply ⟨loader, []⟩)
    let request (r : RequestType) (payload : r.Payload) : List (Act Unit Unit) :=
      .near (.call (.request r payload)) :: List.replicate 6 (.near (.advance 0))
    let answer (index : Nat) : List (Act Unit Unit) :=
      [.far .relay, .far (.finish index), .far (.advance 0), .far (.advance 0)]
    let acts := request .getLoaderClasses 7 ++ request .ping () ++
      List.replicate 4 (.near .write) ++ [.carry 100, .far .read, .far .read, .far .relay] ++
      answer 1 ++ answer 0 ++ List.replicate 4 (.far .write) ++
      [.carryBack 100, .near .read, .near .read, .near .relay, .near .relay, .near (.finish 1),
        .near (.finish 0)]
    let l := run ⟨.opened {} [] [] (), (Side.opened {} [] [] ()).onChannel d.install⟩ acts
    let a : Asked := ⟨{ ticket := 0, frameId := 0, expects := .getLoaderClasses }, (7 : Int32)⟩
    a ∈ l.near.asked ∧ (l.near.channel.pollReply a.handle).1 = some (.ok ⟨7, []⟩) ∧
      ∃ e ∈ l.far.answered, e.frameId = 0 ∧ e.message = .request .getLoaderClasses (7 : Int32) ∧
        d.Resolves e.app .getLoaderClasses (7 : Int32) (.ok ⟨7, []⟩) := by
  intro d request answer acts l a
  have hacts : ∀ act ∈ acts, act.isGenuine = true := by decide
  have hasked : a ∈ l.near.asked := by decide +kernel
  have hpoll : (l.near.channel.pollReply a.handle).1 = some (.ok ⟨7, []⟩) := by decide +kernel
  refine ⟨hasked, hpoll, ?_⟩
  rcases (replies_match_requests d {} {} [] [] [] [] () () hacts).1 a hasked _ hpoll with
    hclosed | ⟨e, hframe⟩ | hanswered
  · cases hclosed
  · cases hframe
  · exact hanswered

end Line

end Parley
