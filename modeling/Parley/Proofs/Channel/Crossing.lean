/-
Requests that cross.

Both sides of a line ask, and each numbers its requests from zero, so requests
of the two sides have the same frame ids. What comes in is brought to whoever
waits on its frame id, whatever kind of message it is. So a request of the other
side can end the wait of a handle (`Line.request_ends_wait`), but only of the
one that waits on its own frame id, and that handle then yields no reply: it says
that something unexpected came (`Line.waits_end_on_own_frame_id`).
-/
import Parley.Proofs.Channel.Correlation
import Parley.Proofs.Channel.Waiting

namespace Parley

variable {σ τ : Type}

/-- A request is not a reply of any type. -/
theorem Channel.typedReply_of_request (r : RequestType) {m : Message} (h : m.kind = .request) :
    typedReply r m = .error (.unexpectedReply (MessageType.reply r).name m.typeName) := by
  obtain ⟨type, payload⟩ := m
  cases type with
  | request r' => rfl
  | reply r' => cases h
  | broadcast b => cases h
  | failure => cases h

namespace Side

variable {s : Side σ} {peer : Side τ} {limits : FrameLimits} {maxPayload : Nat}

/-- What comes of a handle whose side reads what its peer has said. -/
inductive Concludes (s : Side σ) (peer : Side τ) (h : ReplyHandle) :
    Except ChannelError h.expects.Reply → Prop
  /-- No reply was brought to the handle, and none can come. -/
  | unanswered : (∀ m, (h.ticket, m) ∉ s.channel.replies) →
      s.channel.holdsReply h.ticket = false → Concludes s peer h (.error .closed)
  /-- The request was given up before it was written or refused. -/
  | lost : (∀ outcome, (h.ticket, outcome) ∉ s.channel.outcomes) →
      s.channel.holdsWrite h.ticket = false → Concludes s peer h (.error .closed)
  /-- The request became no frame, for the reason that was recorded for it. -/
  | refused {e : FrameError} : (h.ticket, .error e) ∈ s.channel.outcomes →
      Concludes s peer h (.error (.frame e))
  | reply {w : PendingWrite} : w ∈ peer.accepted → w.frameId = h.frameId →
      w.message.kind = .reply → w.received ∈ s.delivered →
      Concludes s peer h (Channel.typedReply h.expects w.message.normalForm)
  /-- The peer has itself asked something under the same number. -/
  | request {w : PendingWrite} : w ∈ peer.accepted → w.frameId = h.frameId →
      w.message.kind = .request → w.received ∈ s.delivered →
      Concludes s peer h
        (.error (.unexpectedReply (MessageType.reply h.expects).name w.message.typeName))

/-- A request that comes in reaches what waits on its own frame id and nothing
else, and it is no reply to any handle. -/
structure TellsApart (s : Side σ) (peer : Side τ) : Prop where
  waiters : ∀ frameId m, incoming s.channel = some (frameId, m) → m.kind = .request →
    (s.step .read).channel.waiters = s.channel.waiters.filter (·.1 ≠ frameId)
  calls : ∀ frameId m, incoming s.channel = some (frameId, m) → m.kind = .request →
    (s.step .read).channel.responses = s.channel.responses ++
      if s.channel.relaying then (s.channel.waiters.lookup frameId).toList.map fun w => (w, m)
      else []
  handles : ∀ a ∈ s.asked, ∀ result, (s.channel.pollReply a.handle).1 = some result →
    s.Concludes peer a.handle result

/-- What is no broadcast does not come in on the frame id of broadcasts. -/
theorem ne_broadcastId_of_incoming {c : Channel σ} {frameId : Int32} {m : Message}
    (h : incoming c = some (frameId, m)) (hkind : m.kind ≠ .broadcast) :
    frameId ≠ broadcastId := by
  have hmatches : Channel.kindMatchesFrame frameId m.kind = true := by
    unfold incoming at h
    split at h
    · split at h
      · split at h
        next hmatches =>
          cases h
          exact hmatches
        · cases h
      · cases h
    · cases h
  rintro rfl
  rw [Channel.kindMatchesFrame, beq_eq_false_iff_ne.mpr hkind] at hmatches
  cases hmatches

/-- **Where a request that comes in is brought.** -/
theorem read_of_request (hstarted : s.channel.workbench = .started) {frameId : Int32} {m : Message}
    (h : incoming s.channel = some (frameId, m)) (hkind : m.kind = .request) :
    (s.step .read).channel.waiters = s.channel.waiters.filter (·.1 ≠ frameId) ∧
      (s.step .read).channel.responses = s.channel.responses ++
        if s.channel.relaying then (s.channel.waiters.lookup frameId).toList.map fun w => (w, m)
        else [] := by
  have hid : frameId ≠ broadcastId := by
    refine ne_broadcastId_of_incoming h ?_
    rw [hkind]
    exact MessageKind.noConfusion
  have hchannel : (s.step .read).channel = s.channel.collected.deliver frameId m :=
    s.channel.readStep_of_incoming h
  have htakes : s.channel.collected.takesEvents = s.channel.relaying := by
    change (s.channel.workbench == .held || s.channel.relaying) = s.channel.relaying
    rw [hstarted]
    rfl
  rw [hchannel]
  constructor
  · exact congrArg Channel.Ledger.waiters (s.channel.collected.ledger_deliver hid m)
  · rw [s.channel.collected.responses_deliver_eq hid m, htakes]
    rfl

/-- **A side tells requests from replies**, as long as it reads what its peer has said. -/
theorem tellsApart_of_asks (h : s.Asks limits) (hpeer : peer.Orderly)
    (hflow : Flow maxPayload peer.outbox s.channel.unread s.delivered) : s.TellsApart peer := by
  obtain ⟨hsteady, -, issued, hbooks⟩ := h
  refine ⟨?_, ?_, ?_⟩
  · intro frameId m hincoming hkind
    exact (read_of_request hsteady.started hincoming hkind).1
  · intro frameId m hincoming hkind
    exact (read_of_request hsteady.started hincoming hkind).2
  · intro a ha result hpoll
    cases s.channel.pollReply_shows a.handle hpoll with
    | unanswered hnone hnever => exact .unanswered hnone hnever
    | lost hnone hnever => exact .lost hnone hnever
    | refused hrecorded => exact .refused hrecorded
    | answered hm =>
      -- what was kept for the handle came on its frame id, and the peer has said it there
      have hdelivered := hbooks.delivered_of_reply ha hm
      obtain ⟨w, haccepted, hid, rfl⟩ := hflow.accepted_of_delivered hdelivered
      rw [← hid] at hdelivered
      cases hkind : w.message.kind with
      | reply => exact .reply haccepted hid hkind hdelivered
      | request =>
          have hrequest : w.message.normalForm.kind = .request := by
            rw [Message.kind_normalForm, hkind]
          have hname : w.message.normalForm.typeName = w.message.typeName :=
            congrArg MessageType.name w.message.type_normalForm
          rw [Channel.typedReply_of_request _ hrequest, hname]
          exact .request haccepted hid hkind hdelivered
      | broadcast =>
          have hmatches := hpeer.accepted w haccepted
          rw [Channel.kindMatchesFrame, hkind, hid,
            beq_eq_false_iff_ne.mpr (hbooks.ne_broadcastId_of_asked ha)] at hmatches
          cases hmatches

end Side

namespace Line

/-- A side pings, in all the steps of the call. -/
def pinging : List (Side.Act Unit) :=
  .call (.request .ping ()) :: List.replicate 6 (.advance 0)

/-- Answers pings. -/
def ponging : Dispatcher Unit := Dispatcher.empty.register .ping fun app _ => (app, .reply ())

/-- Two sides that answer pings. -/
def pingPong : Line Unit Unit :=
  ⟨(Side.opened {} [] [] ()).onChannel ponging.install,
    (Side.opened {} [] [] ()).onChannel ponging.install⟩

/-- Both sides ping. The ping of the far side comes in while the near side waits
for its own answer, takes the place of the answer and is no answer. -/
theorem request_ends_wait :
    let l := pingPong.run
      (pinging.map .near ++ pinging.map .far ++ [.far .write, .far .write, .carryBack 100])
    let s := l.near.step .read
    let s' := (s.step .relay).step (.finish 0)
    let h : ReplyHandle := { ticket := 0, frameId := 0, expects := .ping }
    l.near.asked = [⟨h, ()⟩] ∧
      l.near.channel.waiters.map (fun w => (w.1, w.2.ticket?)) = [(0, some 0)] ∧
      Side.incoming l.near.channel = some (0, .request .ping ()) ∧
      s.channel.waiters.map (fun w => (w.1, w.2.ticket?)) = [] ∧
      s.channel.responses.map (fun r => (r.1.ticket?, r.2)) = [(some 0, .request .ping ())] ∧
      (s.channel.pollReply h).1 = none ∧
      (s'.channel.pollReply h).1 = some (.error (.unexpectedReply
        "agentwire_message::reply::Pong" "agentwire_message::request::Ping")) := by
  intro l s s' h
  refine ⟨?_, ?_, ?_, ?_, ?_, ?_, ?_⟩
  · decide +kernel
  · decide +kernel
  · decide +kernel
  · decide +kernel
  · decide +kernel
  · decide +kernel
  · decide +kernel

/-- Of the bytes that arrive on either side all were carried there. -/
def Act.isCarried : Act σ τ → Bool := isWithin (fun _ => true) (fun _ => true)

/-- Two sides that were started, each with a dispatcher, are joined. -/
theorem joined_opened (d : Dispatcher σ) (d' : Dispatcher τ) (config config' : ChannelConfig)
    (writes writes' : List WriteTurn) (flushes flushes' : List FlushTurn) (app : σ) (app' : τ) :
    Joined (Side.Asks config.limits) (Side.Asks config'.limits) config.limits config'.limits
      ⟨(Side.opened config writes flushes app).onChannel d.install,
        (Side.opened config' writes' flushes' app').onChannel d'.install⟩ where
  near := (Side.asks_opened config writes flushes app).step (.onTraffic d.listener)
  far := (Side.asks_opened config' writes' flushes' app').step (.onTraffic d'.listener)
  out := ⟨[], [], [], [], rfl, rfl, rfl, fun _ => ⟨rfl, rfl⟩⟩
  back := ⟨[], [], [], [], rfl, rfl, rfl, fun _ => ⟨rfl, rfl⟩⟩

/-- **A request ends no wait but that on its own frame id.** Both sides ask and
both have dispatchers. Whatever they do, a request that comes in is brought to
what waits on its frame id and leaves alone what waits on any other; and what
ends the wait of a handle is a reply on its frame id, a request that the other
side has made under the same number, which is reported as unexpected, or a
failure of its own side. -/
theorem waits_end_on_own_frame_id (d : Dispatcher σ) (d' : Dispatcher τ)
    (config config' : ChannelConfig) (writes writes' : List WriteTurn)
    (flushes flushes' : List FlushTurn) (app : σ) (app' : τ) {acts : List (Act σ τ)}
    (hacts : ∀ act ∈ acts, act.isCarried = true) :
    let l := run ⟨(Side.opened config writes flushes app).onChannel d.install,
      (Side.opened config' writes' flushes' app').onChannel d'.install⟩ acts
    l.near.TellsApart l.far ∧ l.far.TellsApart l.near := by
  intro l
  have h : l.Joined (Side.Asks config.limits) (Side.Asks config'.limits) config.limits
      config'.limits :=
    run_keeps (fun l act hact h => h.step Side.upholds_asks Side.upholds_asks (hacts act hact))
      (joined_opened d d' config config' writes writes' flushes flushes' app app')
  constructor
  · exact Side.tellsApart_of_asks h.near h.far.2.1 h.back
  · exact Side.tellsApart_of_asks h.far h.near.2.1 h.out

/-- The near side pings twice and the far side once. The first answer is missed,
and the second one comes to its handle. -/
theorem second_ping_is_answered :
    let acts : List (Act Unit Unit) :=
      pinging.map .near ++ pinging.map .near ++ pinging.map .far ++
        [.far .write, .far .write, .carryBack 100, .near .read] ++
        List.replicate 4 (.near .write) ++ [.carry 100, .far .read, .far .read] ++
        List.replicate 3 (.far .relay) ++ List.replicate 3 (.far (.finish 0)) ++
        List.replicate 4 (.far (.advance 0)) ++ List.replicate 4 (.far .write) ++
        [.carryBack 100, .near .read, .near .read] ++
        List.replicate 5 (.near .relay) ++ List.replicate 5 (.near (.finish 0))
    let l := pingPong.run acts
    let first : ReplyHandle := { ticket := 0, frameId := 0, expects := .ping }
    let second : ReplyHandle := { ticket := 1, frameId := 1, expects := .ping }
    l.near.Concludes l.far first (.error (.unexpectedReply
        "agentwire_message::reply::Pong" "agentwire_message::request::Ping")) ∧
      l.near.Concludes l.far second (.ok ()) := by
  intro acts l first second
  have hacts : ∀ act ∈ acts, act.isCarried = true := by decide
  have hnear : l.near.TellsApart l.far :=
    (waits_end_on_own_frame_id ponging ponging {} {} [] [] [] [] () () hacts).1
  constructor
  · exact hnear.handles ⟨first, ()⟩ (by decide +kernel) _ (by decide +kernel)
  · exact hnear.handles ⟨second, ()⟩ (by decide +kernel) _ (by decide +kernel)

end Line

end Parley
