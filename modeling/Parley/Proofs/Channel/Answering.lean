/-
What becomes of the requests that a side hears.

Where a dispatcher listens to all traffic and nobody else replies, each request
that is heard is answered once, unless the call that is to answer it is still due.
Each answer whose type the registry knows is queued once, unless the call to reply
is still under way. Whatever happens, this stays so as long as the channel is open
(`Side.Attends.happen`).
-/
import Parley.Proofs.Channel.Dealings
import Parley.Proofs.Channel.Handles
import Parley.Proofs.Channel.Race
import Parley.Proofs.Message.Registration

namespace Parley

open scoped List

variable {σ : Type}

/-! ### Answers -/

/-- The message is a reply. -/
def isReply (p : Int32 × Message) : Bool := p.2.kind == .reply

/-- The registry has an entry for the type of a message. -/
def Registry.knows (r : Registry) (p : Int32 × Message) : Bool := (r.lookupFor p.2).isOk

namespace Dispatcher

/-- A dispatcher answers a request: by the reply of its handler, or else by a
failure that names the wire type id of the request. -/
inductive Replies (d : Dispatcher σ) (registry : Registry) (app : σ) : Message → Message → Prop
  | reply {r : RequestType} {payload : r.Payload} {value : r.Reply} :
      d.handled? app r payload = some (.reply value) →
      Replies d registry app (.request r payload) (.reply r value)
  | failure {r : RequestType} {payload : r.Payload} {entry : RegistryEntry} {text : String} :
      registry.lookupFor (Message.request r payload) = .ok entry →
      (∀ value, d.handled? app r payload ≠ some (.reply value)) →
      Replies d registry app (.request r payload) (.failure entry.wireId text)

variable {d : Dispatcher σ} {registry : Registry} {app app' : σ} {frameId : Int32}
  {m answer : Message}

theorem Replies.kind_reply (h : d.Replies registry app m answer) : answer.kind = .reply := by
  cases h with
  | reply => rfl
  | failure => rfl

theorem Replies.kind_request (h : d.Replies registry app m answer) : m.kind = .request := by
  cases h with
  | reply => rfl
  | failure => rfl

theorem replies_answer {r : RequestType} {payload : r.Payload} {entry : RegistryEntry}
    (hentry : registry.lookupFor (Message.request r payload) = .ok entry) :
    d.Replies registry app (.request r payload)
      (d.answer app entry.wireId (.request r payload)).2 := by
  have hhandled : d.handled? app r payload
      = (d.handlers r).map fun handler => (handler app payload).2 := rfl
  unfold answer Message.request
  dsimp only
  cases hhandler : d.handlers r with
  | none =>
      rw [hhandler] at hhandled
      refine .failure hentry fun value hvalue => ?_
      cases hhandled.symm.trans hvalue
  | some handler =>
      rw [hhandler, Option.map_some] at hhandled
      dsimp only
      generalize handler app payload = outcome at hhandled
      obtain ⟨after, handled⟩ := outcome
      dsimp only at hhandled ⊢
      have hfails (hnot : ∀ value, handled ≠ .reply value) (value : r.Reply) :
          d.handled? app r payload ≠ some (.reply value) := by
        intro hvalue
        exact hnot value (Option.some.inj (hhandled.symm.trans hvalue))
      cases handled with
      | reply value => exact .reply hhandled
      | failed text => exact .failure hentry (hfails fun value heq => nomatch heq)
      | panicked reason => exact .failure hentry (hfails fun value heq => nomatch heq)

/-- What a dispatcher says to a message is an answer to a request. -/
theorem replies_of_listener (h : d.listener registry app frameId m = (app', some answer)) :
    d.Replies registry app m answer := by
  rw [listener] at h
  split at h
  next entry hkind hentry =>
    obtain ⟨type, payload⟩ := m
    cases type with
    | failure | reply | broadcast => cases hkind
    | request r =>
        have hreply := @replies_answer σ d registry app r payload entry hentry
        cases h
        exact hreply
  next => cases h

/-- A dispatcher says nothing to what is no request of a type that the registry knows. -/
theorem not_request_of_listener (h : d.listener registry app frameId m = (app', none))
    (hknown : registry.knows (frameId, m) = true) : isRequest (frameId, m) = false := by
  rw [listener] at h
  split at h
  next => cases h
  next hnot =>
    refine Bool.eq_false_iff.mpr fun hrequest => ?_
    rw [Registry.knows] at hknown
    cases hentry : registry.lookupFor m with
    | error e =>
        rw [hentry] at hknown
        cases hknown
    | ok entry => exact hnot entry (beq_iff_eq.mp hrequest) hentry

end Dispatcher

/-! ### What is said -/

/-- The request that was answered, with its frame id. -/
def Answered.request (a : Answered σ) : Int32 × Message := (a.frameId, a.message)

/-- The answer, with the frame id of its request. -/
def Answered.reply (a : Answered σ) : Int32 × Message := (a.frameId, a.answer)

/-- A queued message with its frame id. -/
def PendingWrite.content (w : PendingWrite) : Int32 × Message := (w.frameId, w.message)

/-- What a call is to reply, with the frame id. -/
def Order.reply? : Order → Option (Int32 × Message)
  | .reply frameId m => some (frameId, m)
  | _ => none

/-- What holds of a call under way where nobody but a dispatcher replies: only a
call to reply sends a reply, and it has passed its check only if the registry
knows the type. -/
structure Order.Fits (registry : Registry) (o : Order) (stage : Stage) : Prop where
  others : o.reply? = none → o.message.kind ≠ .reply
  frameId : ∀ p, o.reply? = some p → p.1 ≠ broadcastId
  kind : ∀ p, o.reply? = some p → p.2.kind = .reply
  known : ∀ p, o.reply? = some p → stage = .check ∨ registry.knows p = true

namespace Channel

variable {c : Channel σ}

/-- A reply passes its check if the registry knows its type. -/
theorem advance_reply_of_knows (hopen : c.isOpen = true) {frameId : Int32} {m : Message}
    (hid : frameId ≠ broadcastId) (hkind : m.kind = .reply)
    (hknown : c.registry.knows (frameId, m) = true) :
    c.advance (.reply frameId m) .check
      = (.next (.enqueue c.nextTicket frameId), { c with nextTicket := c.nextTicket + 1 }) := by
  have hreply : checkReply frameId m = .ok () := if_neg (by simp [hid, hkind])
  rw [Registry.knows] at hknown
  cases hentry : c.registry.lookupFor m with
  | error e =>
      rw [hentry] at hknown
      cases hknown
  | ok entry =>
      have hsend : c.checkSend m = .ok () := by
        rw [checkSend, hentry]
        exact if_pos hopen
      simp only [advance, checkOrder, hreply, hsend]
      rfl

/-- A reply whose type the registry does not know is lost. -/
theorem advance_reply_of_not_knows {frameId : Int32} {m : Message} (hid : frameId ≠ broadcastId)
    (hkind : m.kind = .reply) (hunknown : c.registry.knows (frameId, m) = false) :
    ∃ e, c.advance (.reply frameId m) .check = (.ended (.error e), c) := by
  have hreply : checkReply frameId m = .ok () := if_neg (by simp [hid, hkind])
  rw [Registry.knows] at hunknown
  cases hentry : c.registry.lookupFor m with
  | ok entry =>
      rw [hentry] at hunknown
      cases hunknown
  | error e =>
      have hsend : c.checkSend m = .error (.frame e) := by rw [checkSend, hentry]
      exact ⟨.frame e, by simp only [advance, checkOrder, hreply, hsend]⟩

theorem advance_enqueue (htakes : c.takesWrites = true) (o : Order) (ticket : Nat)
    (frameId : Int32) :
    c.advance o (.enqueue ticket frameId) = (.ended (.ok ⟨ticket, frameId⟩),
      { c with queue := c.queue ++ [⟨ticket, frameId, o.message⟩] }) := by
  rw [advance, enqueue, if_pos htakes]

end Channel

namespace Side

/-- An event leaves it to a dispatcher to listen to all traffic and to reply. -/
def Event.LeavesTo (d : Dispatcher σ) : Event σ → Prop
  | .act (.call (.reply _ _)) => False
  | .act (.call (.write m)) => m.kind ≠ .reply
  | .act (.onTraffic listener) => listener = d.listener
  | _ => True

/-- The replies that calls under way are to queue. -/
def owed (s : Side σ) : List (Int32 × Message) := s.errands.filterMap fun e => e.1.reply?

/-- The replies that were queued. -/
def replied (s : Side σ) : List (Int32 × Message) :=
  (s.accepted.map PendingWrite.content).filter isReply

/-- The requests for which the listener for all traffic is still to be called. -/
def due (s : Side σ) : List (Int32 × Message) := (s.channel.traffic.map (·.2)).filter isRequest

/-- **Each request that a side has heard is dealt with once, and so is each
answer.** -/
structure Attends (d : Dispatcher σ) (registry : Registry) (heard : List (Int32 × Message))
    (s : Side σ) : Prop where
  under : s.channel.registry = registry
  listens : ∀ l, s.channel.onTraffic = some l → l = d.listener
  traffic : ∀ t ∈ s.channel.traffic, t.1 = d.listener ∧ t.2.1 ≠ broadcastId ∧
    registry.knows t.2 = true
  dealt : heard ~ s.answered.map Answered.request ++ s.due
  answered : ∀ a ∈ s.answered, a.frameId ≠ broadcastId ∧
    d.Replies registry a.app a.message a.answer
  errands : ∀ e ∈ s.errands, e.1.Fits registry e.2
  replies : (s.answered.map Answered.reply).filter registry.knows
    ~ s.owed.filter registry.knows ++ s.replied

namespace Attends

variable {d : Dispatcher σ} {registry : Registry} {heard : List (Int32 × Message)} {s s' : Side σ}

/-- Where nothing is said, it is enough to look at what is heard and what is due. -/
theorem of_said (h : s.Attends d registry heard) {heard' : List (Int32 × Message)}
    (hregistry : s'.channel.registry = s.channel.registry)
    (hlistens : s'.channel.onTraffic = s.channel.onTraffic)
    (hsaid : s'.errands = s.errands ∧ s'.accepted = s.accepted ∧ s'.answered = s.answered)
    (htraffic : ∀ t ∈ s'.channel.traffic, t.1 = d.listener ∧ t.2.1 ≠ broadcastId ∧
      registry.knows t.2 = true)
    (hdealt : heard' ~ s.answered.map Answered.request ++ s'.due) :
    s'.Attends d registry heard' := by
  obtain ⟨herrands, haccepted, hanswered⟩ := hsaid
  refine ⟨hregistry.trans h.under, fun l hl => h.listens l (hlistens.symm.trans hl), htraffic, ?_,
    hanswered ▸ h.answered, herrands ▸ h.errands, ?_⟩
  · rw [hanswered]
    exact hdealt
  · rw [hanswered, owed, replied, herrands, haccepted]
    exact h.replies

/-- What leaves the traffic and what is said alone changes nothing. -/
theorem of_same (h : s.Attends d registry heard)
    (hregistry : s'.channel.registry = s.channel.registry)
    (hlistens : s'.channel.onTraffic = s.channel.onTraffic)
    (hsaid : s'.errands = s.errands ∧ s'.accepted = s.accepted ∧ s'.answered = s.answered)
    (htraffic : s'.channel.traffic ~ s.channel.traffic) : s'.Attends d registry heard :=
  h.of_said hregistry hlistens hsaid (fun t ht => h.traffic t (htraffic.subset ht))
    (h.dealt.trans (((htraffic.symm.map _).filter _).append_left _))

/-- A channel in the place of another changes nothing, with the same to hear. -/
theorem of_channel (h : s.Attends d registry heard) {c : Channel σ}
    (hregistry : c.registry = s.channel.registry) (hlistens : c.onTraffic = s.channel.onTraffic)
    (htraffic : c.traffic = s.channel.traffic) :
    ({ s with channel := c } : Side σ).Attends d registry heard :=
  h.of_same hregistry hlistens ⟨rfl, rfl, rfl⟩ (List.Perm.of_eq htraffic)

/-- As long as nothing on the desk changes, only what is heard and what is due matters. -/
theorem of_desk (h : s.Attends d registry heard) {heard' : List (Int32 × Message)}
    (hdesk : s'.desk = s.desk)
    (htraffic : ∀ t ∈ s'.channel.traffic, t.1 = d.listener ∧ t.2.1 ≠ broadcastId ∧
      registry.knows t.2 = true)
    (hdealt : heard' ~ s.answered.map Answered.request ++ s'.due) :
    s'.Attends d registry heard' :=
  h.of_said (congrArg Desk.registry hdesk) (congrArg Desk.onTraffic hdesk)
    ⟨congrArg Desk.errands hdesk, congrArg Desk.accepted hdesk, congrArg Desk.answered hdesk⟩
    htraffic hdealt

/-- A call that is made is to say what the event says. -/
theorem calls (h : s.Attends d registry heard) {order : Order}
    (he : (Event.act (.call order)).LeavesTo d) :
    ({ s with errands := s.errands ++ [(order, .check)] } : Side σ).Attends d registry heard := by
  have hother : order.reply? = none ∧ order.message.kind ≠ .reply := by
    cases order with
    | write m => exact ⟨rfl, he⟩
    | reply frameId m => exact he.elim
    | request r payload => exact ⟨rfl, MessageKind.noConfusion⟩
  refine ⟨h.under, h.listens, h.traffic, h.dealt, h.answered, ?_, ?_⟩
  · refine List.forall_mem_append.mpr ⟨h.errands, fun e he => ?_⟩
    rw [List.mem_singleton.mp he]
    have hnone (p : Int32 × Message) : order.reply? ≠ some p := by
      rw [hother.1]
      exact nofun
    exact ⟨fun _ => hother.2, fun p hp => absurd hp (hnone p), fun p hp => absurd hp (hnone p),
      fun p hp => absurd hp (hnone p)⟩
  · have howed : ({ s with errands := s.errands ++ [(order, .check)] } : Side σ).owed = s.owed := by
      simp [owed, hother.1]
    rw [howed]
    exact h.replies

/-- A message that is brought to the dispatcher is heard if it is a request. -/
theorem brings (h : s.Attends d registry heard) {p : Int32 × Message} (hdesk : s'.desk = s.desk)
    (htraffic : s'.channel.traffic ~ (d.listener, p) :: s.channel.traffic)
    (hid : p.1 ≠ broadcastId) (hknown : registry.knows p = true) :
    s'.Attends d registry (heard ++ [p].filter isRequest) := by
  refine h.of_desk hdesk ?_ ?_
  · intro t ht
    rcases List.mem_cons.mp (htraffic.subset ht) with rfl | ht
    · exact ⟨rfl, hid, hknown⟩
    · exact h.traffic t ht
  · have hdue : s'.due ~ [p].filter isRequest ++ s.due := by
      rw [due, due, ← List.filter_append]
      exact (htraffic.map _).filter _
    refine (h.dealt.append_right _).trans ?_
    rw [List.append_assoc]
    exact (List.perm_append_comm.trans hdue.symm).append_left _

/-- A message that the dispatcher ignores is no request. -/
theorem ignores (h : s.Attends d registry heard) {l : TrafficListener σ} {p : Int32 × Message}
    {app : σ} (hdesk : s'.desk = s.desk)
    (htraffic : s.channel.traffic ~ (l, p) :: s'.channel.traffic)
    (hanswer : l s.channel.registry s.app p.1 p.2 = (app, none)) : s'.Attends d registry heard := by
  obtain ⟨rfl, -, hknown⟩ := h.traffic (l, p) (htraffic.symm.subset List.mem_cons_self)
  rw [h.under] at hanswer
  have hnot := Dispatcher.not_request_of_listener hanswer hknown
  refine h.of_desk hdesk ?_ ?_
  · intro t ht
    exact h.traffic t (htraffic.symm.subset (List.mem_cons_of_mem _ ht))
  · have hdue := (htraffic.map (·.2)).filter isRequest
    rw [List.map_cons, List.filter_cons_of_neg (by rw [hnot]; exact Bool.false_ne_true)] at hdue
    exact h.dealt.trans (hdue.append_left _)

/-- A request that the dispatcher answers is due no longer, and its answer is to
be queued. -/
theorem answers (h : s.Attends d registry heard) {l : TrafficListener σ} {frameId : Int32}
    {m answer : Message} {app : σ} {c : Channel σ}
    (hregistry : c.registry = s.channel.registry) (hlistens : c.onTraffic = s.channel.onTraffic)
    (htraffic : s.channel.traffic ~ (l, frameId, m) :: c.traffic)
    (hanswer : l s.channel.registry s.app frameId m = (app, some answer)) :
    ({ s with
      channel := c
      app
      errands := s.errands ++ [(.reply frameId answer, .check)]
      answered := s.answered ++ [⟨frameId, m, s.app, answer⟩] } : Side σ).Attends d registry
        heard := by
  obtain ⟨rfl, hid, -⟩ := h.traffic (l, frameId, m) (htraffic.symm.subset List.mem_cons_self)
  rw [h.under] at hanswer
  have hreplies := Dispatcher.replies_of_listener hanswer
  refine ⟨hregistry.trans h.under, ?_, ?_, ?_, ?_, ?_, ?_⟩
  · intro l hl
    exact h.listens l (hlistens.symm.trans hl)
  · intro t ht
    exact h.traffic t (htraffic.symm.subset (List.mem_cons_of_mem _ ht))
  · have hrequest : isRequest (frameId, m) = true := beq_iff_eq.mpr hreplies.kind_request
    have hdue := (htraffic.map (·.2)).filter isRequest
    rw [List.map_cons, List.filter_cons_of_pos hrequest] at hdue
    rw [List.map_append, List.append_assoc]
    exact h.dealt.trans (hdue.append_left _)
  · refine List.forall_mem_append.mpr ⟨h.answered, fun a ha => ?_⟩
    rw [List.mem_singleton.mp ha]
    exact ⟨hid, hreplies⟩
  · refine List.forall_mem_append.mpr ⟨h.errands, fun e he => ?_⟩
    rw [List.mem_singleton.mp he]
    refine ⟨nofun, ?_, ?_, fun _ _ => Or.inl rfl⟩
    · rintro p ⟨⟩
      exact hid
    · rintro p ⟨⟩
      exact hreplies.kind_reply
  · rw [owed, List.map_append, List.filter_append, List.filterMap_append, List.filter_append]
    refine (h.replies.append_right _).trans ?_
    rw [List.append_assoc, List.append_assoc]
    exact List.perm_append_comm.append_left _

section Calls

variable {index : Nat} {order : Order} {stage stage' : Stage} {c : Channel σ} {e : ChannelError}
  {w : WriteHandle}

/-- A call that goes on is still to say the same. -/
theorem next (h : s.Attends d registry heard) (hcall : s.errands[index]? = some (order, stage))
    (hregistry : c.registry = s.channel.registry) (hlistens : c.onTraffic = s.channel.onTraffic)
    (htraffic : c.traffic = s.channel.traffic)
    (hfits : order.Fits registry stage') :
    (s.proceed index order c (.next stage')).Attends d registry heard := by
  have hsame := h.of_channel hregistry hlistens htraffic
  refine ⟨hsame.under, hsame.listens, hsame.traffic, hsame.dealt, hsame.answered, ?_, ?_⟩
  · intro e he
    rcases List.mem_or_eq_of_mem_set he with he | rfl
    · exact h.errands e he
    · exact hfits
  · refine h.replies.trans (((List.Perm.filter _ ?_).symm).append_right _)
    exact filterMap_set_perm _ hcall rfl

/-- A call that ends says nothing, unless it was to reply. -/
theorem drops (h : s.Attends d registry heard) (hcall : s.errands[index]? = some (order, stage))
    (hregistry : c.registry = s.channel.registry) (hlistens : c.onTraffic = s.channel.onTraffic)
    (htraffic : c.traffic = s.channel.traffic)
    (hunknown : ∀ p, order.reply? = some p → registry.knows p = false) :
    (s.proceed index order c (.ended (.error e))).Attends d registry heard := by
  have hsame := h.of_channel hregistry hlistens htraffic
  refine ⟨hsame.under, hsame.listens, hsame.traffic, hsame.dealt, hsame.answered, ?_, ?_⟩
  · intro e he
    exact h.errands e (List.mem_of_mem_eraseIdx he)
  · have howed := (filterMap_perm_eraseIdx (fun e => e.1.reply?) hcall).filter registry.knows
    have hnone : order.reply?.toList.filter registry.knows = [] := by
      refine List.filter_eq_nil_iff.mpr fun p hp => ?_
      rw [hunknown p (Option.mem_toList.mp hp)]
      exact Bool.false_ne_true
    rw [List.filter_append, hnone, List.nil_append] at howed
    exact h.replies.trans (howed.append_right _)

/-- A call that ends with a message in the queue was to reply what is queued, or
what is queued is no reply. -/
theorem queues (h : s.Attends d registry heard) (hcall : s.errands[index]? = some (order, stage))
    (hregistry : c.registry = s.channel.registry) (hlistens : c.onTraffic = s.channel.onTraffic)
    (htraffic : c.traffic = s.channel.traffic)
    (hqueued : [(w.frameId, order.message)].filter isReply
      = order.reply?.toList.filter registry.knows) :
    (s.proceed index order c (.ended (.ok w))).Attends d registry heard := by
  have hsame := h.of_channel hregistry hlistens htraffic
  refine ⟨hsame.under, hsame.listens, hsame.traffic, hsame.dealt, hsame.answered, ?_, ?_⟩
  · intro e he
    exact h.errands e (List.mem_of_mem_eraseIdx he)
  · have howed := (filterMap_perm_eraseIdx (fun e => e.1.reply?) hcall).filter registry.knows
    rw [List.filter_append, ← hqueued] at howed
    have haccepted : (s.proceed index order c (.ended (.ok w))).accepted
        = s.accepted ++ [⟨w.ticket, w.frameId, order.message⟩] := rfl
    have hreplied : (s.proceed index order c (.ended (.ok w))).replied
        = s.replied ++ [(w.frameId, order.message)].filter isReply := by
      rw [replied, haccepted, List.map_append, List.filter_append]
      rfl
    rw [hreplied]
    refine h.replies.trans ((howed.append_right _).trans ?_)
    rw [List.append_assoc]
    refine List.perm_append_comm.trans ?_
    rw [List.append_assoc]
    rfl

/-- A step of a call that is not to reply queues no reply. -/
theorem goesOn_other (h : s.Attends d registry heard)
    (hcall : s.errands[index]? = some (order, stage)) (hreply : order.reply? = none) :
    (s.proceed index order (s.channel.advance order stage).2
      (s.channel.advance order stage).1).Attends d registry heard := by
  have hfits := h.errands _ (List.mem_of_getElem? hcall)
  have hnone (p : Int32 × Message) : order.reply? ≠ some p := by
    rw [hreply]
    exact nofun
  have hanywhere (stage' : Stage) : order.Fits registry stage' :=
    ⟨hfits.others, hfits.frameId, hfits.kind, fun p hp => absurd hp (hnone p)⟩
  have hstep := s.channel.advance_cases order stage
  generalize s.channel.advance order stage = after at hstep
  obtain ⟨outcome, c⟩ := after
  dsimp only at hstep ⊢
  cases hstep with
  | failed | withdrawn => exact h.drops hcall rfl rfl rfl fun p hp => absurd hp (hnone p)
  | known | unknown | numbered | guarded | waits | confirmed =>
      exact h.next hcall rfl rfl rfl (hanywhere _)
  | queued =>
      refine h.queues hcall rfl rfl rfl ?_
      rw [hreply]
      exact List.filter_cons_of_neg fun hkind => hfits.others hreply (beq_iff_eq.mp hkind)

/-- A call to reply is turned away if the type of the reply is not registered, and
queues the reply otherwise. -/
theorem goesOn_reply {frameId : Int32} {m : Message} (h : s.Attends d registry heard)
    (horderly : s.Orderly) (hopen : s.channel.isOpen = true)
    (htakes : s.channel.takesWrites = true)
    (hcall : s.errands[index]? = some (.reply frameId m, stage)) :
    (s.proceed index (.reply frameId m) (s.channel.advance (.reply frameId m) stage).2
      (s.channel.advance (.reply frameId m) stage).1).Attends d registry heard := by
  have hfits := h.errands _ (List.mem_of_getElem? hcall)
  have hsound := horderly.errands _ (List.mem_of_getElem? hcall)
  dsimp only at hfits hsound
  have hid := hfits.frameId _ rfl
  have hkind := hfits.kind _ rfl
  cases stage with
  | check =>
      cases hknown : registry.knows (frameId, m) with
      | true =>
          rw [s.channel.advance_reply_of_knows hopen hid hkind (h.under.symm ▸ hknown)]
          exact h.next hcall rfl rfl rfl
            ⟨hfits.others, hfits.frameId, hfits.kind, by rintro p ⟨⟩; exact Or.inr hknown⟩
      | false =>
          obtain ⟨e, heq⟩ := s.channel.advance_reply_of_not_knows hid hkind (h.under.symm ▸ hknown)
          rw [heq]
          exact h.drops hcall rfl rfl rfl (by rintro p ⟨⟩; exact hknown)
  | enqueue ticket frameId' =>
      obtain rfl : frameId = frameId' := hsound.1 frameId rfl
      have hknown : registry.knows (frameId, m) = true :=
        (hfits.known _ rfl).resolve_left nofun
      rw [s.channel.advance_enqueue htakes]
      refine h.queues hcall rfl rfl rfl ?_
      have hisReply : isReply (frameId, m) = true := beq_iff_eq.mpr hkind
      simp [Order.message, Order.reply?, hisReply, hknown]
  | number => cases hsound
  | guard | await | confirm => cases hsound.1

/-- **A step of a call brings a reply on its way or queues it.** -/
theorem goesOn (h : s.Attends d registry heard) (horderly : s.Orderly)
    (hopen : s.channel.isOpen = true) (htakes : s.channel.takesWrites = true)
    (hcall : s.errands[index]? = some (order, stage)) :
    (s.proceed index order (s.channel.advance order stage).2
      (s.channel.advance order stage).1).Attends d registry heard := by
  cases order with
  | write | request => exact h.goesOn_other hcall rfl
  | reply frameId m => exact h.goesOn_reply horderly hopen htakes hcall

end Calls

/-- **An event deals with what was heard, and adds what it lets hear.** -/
theorem happen (h : s.Attends d registry heard) (hregistry : registry.Built)
    (horderly : s.Orderly) (hafloat : s.channel.Afloat) {e : Event σ} (he : e.LeavesTo d)
    (hopen : (s.happen e).channel.isOpen = true) :
    (s.happen e).Attends d registry (heard ++ s.hears e) := by
  have hbefore := s.isOpen_of_happen hafloat hopen
  have hdeals := s.deals hafloat hopen
  have hsame {s' : Side σ} {heard' : List (Int32 × Message)} (hs' : s'.Attends d registry heard)
      (hnone : heard' = []) : s'.Attends d registry (heard ++ heard') := by
    rw [hnone, List.append_nil]
    exact hs'
  generalize s.happen e = s' at hopen hdeals
  cases hdeals with
  | aside hdesk htraffic hhears =>
      refine hsame ?_ hhears
      exact h.of_same (congrArg Desk.registry hdesk) (congrArg Desk.onTraffic hdesk)
        ⟨congrArg Desk.errands hdesk, congrArg Desk.accepted hdesk, congrArg Desk.answered hdesk⟩
        htraffic
  | calls => exact hsame (h.calls he) (hears_of_delivery? rfl)
  | installs =>
      obtain rfl := he
      refine hsame ?_ (hears_of_delivery? rfl)
      refine ⟨h.under, ?_, h.traffic, h.dealt, h.answered, h.errands, h.replies⟩
      rintro l ⟨⟩
      rfl
  | goesOn hcall =>
      exact hsame (h.goesOn horderly hbefore (hafloat.takes hbefore).1 hcall)
        (hears_of_delivery? rfl)
  | @brings l f m _ hdesk htraffic hlistens hid hdecode hhears =>
      obtain rfl := h.listens l hlistens
      rw [hhears]
      refine h.brings hdesk htraffic hid ?_
      rw [h.under] at hdecode
      obtain ⟨entry, hentry, hdecoded⟩ := bind_eq_ok.mp hdecode
      obtain ⟨payload, -, hmessage⟩ := bind_eq_ok.mp hdecoded
      have htype : m.type = entry.type := by
        cases hmessage
        rfl
      rw [Registry.knows, hregistry.lookupFor_of_lookupId hentry htype]
      rfl
  | ignores hdesk htraffic hanswer =>
      exact hsame (h.ignores hdesk htraffic hanswer) (hears_of_delivery? rfl)
  | answers htraffic hanswer =>
      exact hsame (h.answers rfl rfl htraffic hanswer) (hears_of_delivery? rfl)
  | puts hputs =>
      obtain ⟨hkept, hlistens, htraffic⟩ := hputs.keeps hopen
      exact hsame (h.of_channel hkept hlistens htraffic) (hears_of_delivery? rfl)

end Attends

end Side

end Parley
