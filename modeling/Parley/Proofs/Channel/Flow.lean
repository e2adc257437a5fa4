/-
Messages on their way from one side to the other.

`Flow` ties together what a side has taken for writing, what is under way, and
what the other side has delivered: the messages that become frames are those
delivered, those whose frames make up the bytes under way, and those still
queued, in this order. It holds at the start, and steps of the outbox, bytes
that are carried over and frames that are read keep it.
-/
import Parley.Proofs.Channel.Outbox

namespace Parley

open Relation

/-- The written form of a frame tells where it ends. -/
theorem Frame.bytes_append_inj {f g : Frame} {x y : Bytes} (hf : f.payload.length ≤ maxLength)
    (hg : g.payload.length ≤ maxLength) (h : f.bytes ++ x = g.bytes ++ y) : f = g ∧ x = y := by
  have hsplit : split? maxLength (f.bytes ++ x) = .ok (some (f, x)) :=
    split?_eq_some.mpr ⟨rfl, hf, hf⟩
  have hsplit' : split? maxLength (f.bytes ++ x) = .ok (some (g, y)) :=
    split?_eq_some.mpr ⟨h, hg, hg⟩
  cases hsplit.symm.trans hsplit'
  exact ⟨rfl, rfl⟩

namespace PendingWrite

variable {maxPayload : Nat} {w : PendingWrite}

/-- A queued message that belongs on its frame id is what its frame brings. -/
theorem brings_of_frame {f : Frame} (h : w.frame maxPayload = .ok f)
    (hkind : Channel.kindMatchesFrame w.frameId w.message.kind = true) :
    f.frameId = w.frameId ∧ f.brings .catalog = some w.received := by
  obtain ⟨hid, -, -⟩ := Registry.frame_eq_ok h
  refine ⟨hid, ?_⟩
  rw [Frame.brings, Registry.decode_of_frame h, hid]
  dsimp only
  rw [Message.kind_normalForm, if_pos hkind]
  rfl

end PendingWrite

/-- What a side has said, as it reads back: the messages that it has taken for
writing and that become frames, in the order of the queue. -/
def Side.said {σ : Type} (s : Side σ) (maxPayload : Nat) : List (Int32 × Message) :=
  (s.accepted.filter (·.fits maxPayload)).map PendingWrite.received

/-! ### The bytes under way -/

/-- What was accepted, what is under way and what was delivered agree. `ahead`
are the messages whose frames are under way; what a writer that has ended was
about to send is lost. -/
def Flow (maxPayload : Nat) (o : Outbox) (unread : Bytes) (delivered : List (Int32 × Message)) :
    Prop :=
  ∃ done ahead behind : List PendingWrite, ∃ lost : Bytes,
    o.accepted.filter (·.fits maxPayload) = done ++ ahead ++ behind ∧
      unread ++ o.taken ++ o.left ++ lost = ahead.flatMap (·.wire maxPayload) ∧
      delivered = done.map PendingWrite.received ∧
      (o.writing = true → behind = o.queue.filter (·.fits maxPayload) ∧ lost = [])

namespace Flow

variable {maxPayload : Nat} {o o' : Outbox} {unread : Bytes}
  {delivered : List (Int32 × Message)}

/-- The messages delivered are the first of those that were said. -/
theorem delivered_prefix {σ : Type} {s : Side σ} (h : Flow maxPayload s.outbox unread delivered) :
    delivered <+: s.said maxPayload := by
  obtain ⟨done, ahead, behind, lost, haccepted, -, rfl, -⟩ := h
  change s.accepted.filter (·.fits maxPayload) = done ++ ahead ++ behind at haccepted
  rw [Side.said, haccepted, List.append_assoc, List.map_append]
  exact List.prefix_append _ _

/-- What was delivered was taken for writing. -/
theorem accepted_of_delivered {σ : Type} {s : Side σ}
    (h : Flow maxPayload s.outbox unread delivered) {frameId : Int32} {m : Message}
    (hm : (frameId, m) ∈ delivered) :
    ∃ w ∈ s.accepted, w.frameId = frameId ∧ w.message.normalForm = m := by
  obtain ⟨w, hw, hsaid⟩ := List.mem_map.mp (h.delivered_prefix.subset hm)
  obtain ⟨hid, hmessage⟩ := Prod.mk.inj hsaid
  exact ⟨w, (List.mem_filter.mp hw).1, hid, hmessage⟩

theorem step (h : Flow maxPayload o unread delivered) (hstep : Outbox.Step maxPayload o o') :
    Flow maxPayload o' unread delivered := by
  obtain ⟨done, ahead, behind, lost, haccepted, hbytes, hdelivered, hwriting⟩ := h
  cases hstep with
  | accept w hopen =>
      obtain ⟨hbehind, hlost⟩ := hwriting hopen
      refine ⟨done, ahead, behind ++ [w].filter (·.fits maxPayload), lost, ?_, hbytes, hdelivered,
        ?_⟩
      · rw [List.filter_append, haccepted, List.append_assoc]
      · intro _
        constructor
        · rw [List.filter_append, hbehind]
        · exact hlost
  | refuse hopen hqueue hfits =>
      refine ⟨done, ahead, behind, lost, haccepted, hbytes, hdelivered, ?_⟩
      intro _
      obtain ⟨hbehind, hlost⟩ := hwriting hopen
      rw [hqueue, List.filter_cons_of_neg (Bool.eq_false_iff.mp hfits)] at hbehind
      exact ⟨hbehind, hlost⟩
  | @start w rest hopen hqueue hfits hleft =>
      obtain ⟨hbehind, rfl⟩ := hwriting hopen
      rw [hqueue, List.filter_cons_of_pos hfits] at hbehind
      refine ⟨done, ahead ++ [w], rest.filter (·.fits maxPayload), [], ?_, ?_, hdelivered,
        fun _ => ⟨rfl, rfl⟩⟩
      · rw [haccepted, hbehind]
        simp only [List.append_assoc, List.singleton_append]
      · rw [hleft, List.append_nil, List.append_nil] at hbytes
        rw [List.flatMap_append, ← hbytes, List.flatMap_singleton, List.append_nil]
  | send hsent =>
      refine ⟨done, ahead, behind, lost, haccepted, ?_, hdelivered, hwriting⟩
      rw [hsent] at hbytes
      rw [← hbytes]
      simp only [List.append_assoc]
  | cease =>
      refine ⟨done, ahead, behind, o.left ++ lost, haccepted, ?_, hdelivered, ?_⟩
      · rw [← hbytes]
        simp only [List.append_assoc, List.nil_append]
      · intro hopen
        cases hopen

theorem steps (h : Flow maxPayload o unread delivered)
    (hsteps : ReflTransGen (Outbox.Step maxPayload) o o') :
    Flow maxPayload o' unread delivered := by
  induction hsteps with
  | refl => exact h
  | tail _ hstep ih => exact ih.step hstep

/-- Bytes that are carried over stay in order. -/
theorem carry (h : Flow maxPayload o unread delivered) {unread' taken : Bytes}
    (hbytes : unread' ++ taken = unread ++ o.taken) :
    Flow maxPayload { o with taken } unread' delivered := by
  obtain ⟨done, ahead, behind, lost, haccepted, hall, hdelivered, hwriting⟩ := h
  exact ⟨done, ahead, behind, lost, haccepted, by rw [hbytes]; exact hall, hdelivered, hwriting⟩

/-- **A frame that is read is the next one that was written**, and brings its
message. -/
theorem receive (h : Flow maxPayload o unread delivered)
    (hkinds : ∀ w ∈ o.accepted, Channel.kindMatchesFrame w.frameId w.message.kind = true)
    {limit : Nat} {f : Frame} {rest : Bytes}
    (hsplit : Frame.split? limit unread = .ok (some (f, rest))) :
    ∃ m, f.brings .catalog = some (f.frameId, m) ∧
      Flow maxPayload o rest (delivered ++ [(f.frameId, m)]) := by
  obtain ⟨done, ahead, behind, lost, haccepted, hbytes, rfl, hwriting⟩ := h
  obtain ⟨rfl, -, hlength⟩ := Frame.split?_eq_some.mp hsplit
  cases ahead with
  | nil =>
      have hnil : f.bytes = [] := by
        simp only [List.append_assoc, List.flatMap_nil, List.append_eq_nil_iff] at hbytes
        exact hbytes.1
      exact absurd hnil f.bytes_ne_nil
  | cons w ahead =>
      have hmem : w ∈ o.accepted.filter (·.fits maxPayload) := by simp [haccepted]
      obtain ⟨haccept, hfits⟩ := List.mem_filter.mp hmem
      obtain ⟨g, hframe, hwire⟩ := PendingWrite.frame_of_fits hfits
      obtain ⟨-, -, hlength'⟩ := Registry.frame_eq_ok hframe
      rw [List.flatMap_cons, hwire] at hbytes
      simp only [List.append_assoc] at hbytes
      obtain ⟨rfl, hrest⟩ := Frame.bytes_append_inj hlength hlength' hbytes
      obtain ⟨hid, hbrings⟩ := PendingWrite.brings_of_frame hframe (hkinds w haccept)
      rw [hid]
      refine ⟨w.message.normalForm, hbrings, done ++ [w], ahead, behind, lost, ?_, ?_, ?_,
        hwriting⟩
      · rw [haccepted]
        simp only [List.append_assoc, List.cons_append, List.nil_append]
      · simpa only [List.append_assoc] using hrest
      · rw [List.map_append]
        rfl

/-- No header that was written is refused by a side with a limit as high. -/
theorem split?_ne_error (h : Flow maxPayload o unread delivered) {limit : Nat}
    (hlimit : maxPayload ≤ limit) (e : FrameError) : Frame.split? limit unread ≠ .error e := by
  intro hrefused
  obtain ⟨done, ahead, behind, lost, haccepted, hbytes, -, -⟩ := h
  have hrefused := Frame.split?_append_of_error hrefused (o.taken ++ (o.left ++ lost))
  simp only [List.append_assoc] at hbytes
  rw [hbytes] at hrefused
  cases ahead with
  | nil => exact absurd (Frame.headerSize_le_of_split?_error hrefused) (Nat.not_succ_le_zero 9)
  | cons w ahead =>
      have hmem : w ∈ o.accepted.filter (·.fits maxPayload) := by simp [haccepted]
      obtain ⟨g, hframe, hwire⟩ := PendingWrite.frame_of_fits (List.mem_filter.mp hmem).2
      obtain ⟨-, hmax, hlength⟩ := Registry.frame_eq_ok hframe
      rw [List.flatMap_cons, hwire,
        Frame.split?_bytes_append (Nat.le_trans hmax hlimit) hlength] at hrefused
      cases hrefused

/-- Once all bytes have arrived, either everything was delivered or the next
message that was accepted can be read. -/
theorem arrived (h : Flow maxPayload o unread delivered) (hwriting : o.writing = true)
    (hqueue : o.queue = []) (hleft : o.left = []) (htaken : o.taken = []) :
    delivered = (o.accepted.filter (·.fits maxPayload)).map PendingWrite.received ∨
      ∃ (f : Frame) (rest : Bytes), f.payload.length ≤ maxPayload ∧ f.payload.length ≤ maxLength ∧
        unread = f.bytes ++ rest := by
  obtain ⟨done, ahead, behind, lost, haccepted, hbytes, rfl, hopen⟩ := h
  obtain ⟨rfl, rfl⟩ := hopen hwriting
  rw [hleft, htaken, List.append_nil, List.append_nil, List.append_nil] at hbytes
  cases ahead with
  | nil =>
      left
      rw [haccepted, hqueue, List.append_nil, List.filter_nil, List.append_nil]
  | cons w ahead =>
      right
      have hmem : w ∈ o.accepted.filter (·.fits maxPayload) := by simp [haccepted]
      obtain ⟨g, hframe, hwire⟩ := PendingWrite.frame_of_fits (List.mem_filter.mp hmem).2
      obtain ⟨-, hmax, hlength⟩ := Registry.frame_eq_ok hframe
      rw [List.flatMap_cons, hwire] at hbytes
      exact ⟨g, _, hmax, hlength, hbytes⟩

end Flow

/-! ### The receiving side -/

namespace Side

variable {τ : Type} {limits : FrameLimits} {s : Side τ} {maxPayload : Nat} {o : Outbox}

theorem unread_shutdown_endReading (c : Channel τ) (h : c.workbench = .started) :
    c.shutdown.2.endReading.unread = c.unread := by
  have hstreams := ((Channel.keeps_shutdown c h).trans (Channel.keeps_endReading _)).streams
  exact congrArg (fun t => t.reader.unread t.source) hstreams

/-- A step of the reader delivers what comes next, and no frame is dropped. -/
theorem flow_read (h : Flow maxPayload o s.channel.unread s.delivered)
    (hsteady : s.channel.Steady limits)
    (hkinds : ∀ w ∈ o.accepted, Channel.kindMatchesFrame w.frameId w.message.kind = true) :
    Flow maxPayload o (s.step .read).channel.unread (s.step .read).delivered := by
  change Flow maxPayload o s.channel.readStep.unread
    (s.delivered ++ (incoming s.channel).toList)
  have hread := s.channel.readStep_cases
  have hstarted := (Channel.steady_collected hsteady).started
  generalize s.channel.readStep = c' at hread
  generalize incoming s.channel = brought at hread
  cases hread with
  | idle =>
      rw [Option.toList_none, List.append_nil]
      exact h
  | @delivered f rest m _ hsplit hrest hbrings =>
      obtain ⟨m', hbrings', hflow⟩ := h.receive hkinds hsplit
      rw [hsteady.registry] at hbrings
      cases hbrings.symm.trans hbrings'
      have hstreams := s.channel.collected.deliver_streams f.frameId m
      have hunread :
          (s.channel.collected.deliver f.frameId m).unread = s.channel.collected.unread :=
        congrArg (fun t => t.reader.unread t.source) hstreams
      rw [hunread, hrest, Option.toList_some]
      exact hflow
  | dropped _ hsplit _ hbrings =>
      obtain ⟨m', hbrings', -⟩ := h.receive hkinds hsplit
      rw [hsteady.registry] at hbrings
      cases hbrings.symm.trans hbrings'
  | failed _ _ hunread =>
      rw [unread_shutdown_endReading _ hstarted, hunread, Option.toList_none, List.append_nil]
      exact h
  | waiting _ _ hunread =>
      rw [hunread, Option.toList_none, List.append_nil]
      exact h

/-- What arrives lies behind what has arrived. -/
theorem unread_arrive (s : Side τ) (a : Arrival) :
    (s.step (.arrive a)).channel.unread = s.channel.unread ++ a.bytes := by
  change s.channel.reader.arena.bytes ++ (s.channel.source.push a).text = _
  rw [Channel.unread, FrameReader.unread, Source.text, Source.text, Source.push]
  simp

/-- Nothing else touches what has arrived and what was delivered. -/
theorem reader_step (hstarted : s.channel.workbench = .started) {act : Act τ} (hread : act ≠ .read)
    (harrive : ∀ a, act ≠ .arrive a) :
    (s.step act).channel.reader = s.channel.reader ∧
      (s.step act).channel.source = s.channel.source ∧ (s.step act).delivered = s.delivered := by
  cases hplain : act.isPlain with
  | true =>
      have hstreams := (s.keeps_step hstarted hplain).streams
      exact ⟨congrArg Channel.Streams.reader hstreams, congrArg Channel.Streams.source hstreams,
        (s.same_step hplain).delivered⟩
  | false =>
      cases act with
      | call => exact ⟨rfl, rfl, rfl⟩
      | advance index =>
          change (s.advance index).channel.reader = _ ∧ (s.advance index).channel.source = _ ∧
            (s.advance index).delivered = _
          rcases s.advance_eq index with heq | ⟨order, stage, outcome, channel, -, hstep, heq⟩
          · rw [heq]
            exact ⟨rfl, rfl, rfl⟩
          rw [heq]
          cases hstep with
          | failed | withdrawn | known | unknown | numbered | guarded | waits | confirmed
            | queued => exact ⟨rfl, rfl, rfl⟩
      | onTraffic listener => exact ⟨rfl, rfl, rfl⟩
      | read => exact absurd rfl hread
      | write =>
          obtain ⟨hreader, hsource, -⟩ := Channel.reader_writeStep hstarted
          exact ⟨hreader, hsource, rfl⟩
      | finish index =>
          change (s.finish index).channel.reader = _ ∧ (s.finish index).channel.source = _ ∧
            (s.finish index).delivered = _
          have hfinish := s.finish_cases index
          generalize s.finish index = s' at hfinish
          cases hfinish with
          | absent | aside | reply | unanswered | answered => exact ⟨rfl, rfl, rfl⟩
      | arrive a => exact absurd rfl (harrive a)
      | endWriting =>
          change (if s.channel.cancelled then s.channel.endWriting else s.channel).reader = _ ∧
            (if s.channel.cancelled then s.channel.endWriting else s.channel).source = _ ∧ _
          split
          · exact ⟨rfl, rfl, rfl⟩
          · exact ⟨rfl, rfl, rfl⟩
      | _ => cases hplain

/-- **What happens to a side keeps the flow towards it**, as long as no bytes
come but those of the other side. -/
theorem flow_step (h : Flow maxPayload o s.channel.unread s.delivered)
    (hsteady : s.channel.Steady limits)
    (hkinds : ∀ w ∈ o.accepted, Channel.kindMatchesFrame w.frameId w.message.kind = true)
    {act : Act τ} (hdata : ∀ a, act = .arrive a → a.bytes = []) :
    Flow maxPayload o (s.step act).channel.unread (s.step act).delivered := by
  by_cases hread : act = .read
  · subst hread
    exact flow_read h hsteady hkinds
  by_cases harrive : ∃ a, act = .arrive a
  · obtain ⟨a, rfl⟩ := harrive
    rw [unread_arrive, hdata a rfl, List.append_nil]
    exact h
  · obtain ⟨hreader, hsource, hdelivered⟩ :=
      reader_step hsteady.started hread fun a heq => harrive ⟨a, heq⟩
    rw [Channel.unread, hreader, hsource, hdelivered]
    exact h

end Side

/-! ### The connection -/

namespace Line

variable {σ τ : Type} {maxPayload : Nat} {receiver : Side τ}

/-- What every act of a run keeps holds after the run. -/
theorem run_keeps {P : Line σ τ → Prop} {acts : List (Act σ τ)}
    (hstep : ∀ l, ∀ act ∈ acts, P l → P (l.step act)) {l : Line σ τ} (h : P l) :
    P (l.run acts) := by
  induction acts generalizing l with
  | nil => exact h
  | cons act later ih =>
      refine ih (fun l act hact => hstep l act (List.mem_cons_of_mem _ hact)) ?_
      exact hstep l act List.mem_cons_self h

/-- Bytes that are carried over, in pieces of any size, stay in the flow. -/
theorem flow_move (sender : Side σ) (count : Nat)
    (h : Flow maxPayload sender.outbox receiver.channel.unread receiver.delivered) :
    Flow maxPayload (move count sender receiver).1.outbox
      (move count sender receiver).2.channel.unread (move count sender receiver).2.delivered := by
  unfold move
  dsimp only
  split
  · exact h
  · refine h.carry (?_ : _ = receiver.channel.unread ++ sender.channel.sink.taken)
    rw [Side.unread_arrive, List.append_assoc]
    exact congrArg (receiver.channel.unread ++ ·) (List.take_append_drop count _)

/-- Bytes that are carried over are not those that come the other way. -/
theorem flow_move_back (sender : Side σ) (count : Nat)
    (h : Flow maxPayload receiver.outbox sender.channel.unread sender.delivered) :
    Flow maxPayload (move count sender receiver).2.outbox
      (move count sender receiver).1.channel.unread (move count sender receiver).1.delivered := by
  unfold move
  dsimp only
  split
  · exact h
  · exact h

theorem flow_tell (sender : Side σ) {o : Outbox}
    (h : Flow maxPayload o receiver.channel.unread receiver.delivered) :
    Flow maxPayload o (tell sender receiver).channel.unread (tell sender receiver).delivered := by
  unfold tell
  split
  · rw [Side.unread_arrive]
    change Flow maxPayload o (receiver.channel.unread ++ []) receiver.delivered
    rw [List.append_nil]
    exact h
  · exact h

end Line

end Parley
