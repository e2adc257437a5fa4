/-
What the reader of a channel does in a step.

The reader takes at most one frame off what is left to read. If the frame
carries a message that belongs on its frame id, the message is routed to what
waits for it; otherwise nothing is brought to anyone (`readStep_cases`).
-/
import Parley.Proofs.Channel.Keeps
import Parley.Proofs.Stream.Reading

namespace Parley

theorem mem_of_lookup {α β : Type} [BEq α] [LawfulBEq α] {l : List (α × β)} {key : α} {value : β}
    (h : l.lookup key = some value) : (key, value) ∈ l := by
  obtain ⟨front, back, rfl, -⟩ := List.lookup_eq_some_iff.mp h
  exact List.mem_append_right _ List.mem_cons_self

theorem not_mem_of_lookup {α β : Type} [BEq α] [LawfulBEq α] {l : List (α × β)} {key : α}
    (h : l.lookup key = none) (value : β) : (key, value) ∉ l := by
  intro hmem
  simpa using List.lookup_eq_none_iff.mp h _ hmem

/-- The message that a frame brings with its frame id, unless it does not decode
or does not belong there. -/
def Frame.brings (r : Registry) (f : Frame) : Option (Int32 × Message) :=
  match f.decode r with
  | .ok m => if Channel.kindMatchesFrame f.frameId m.kind then some (f.frameId, m) else none
  | .error _ => none

namespace Channel

variable {σ : Type} (c : Channel σ)

/-- The bytes that have reached a channel and have not become frames. -/
def unread : Bytes := c.reader.unread c.source

/-- The channel after its reader has looked for the next message. -/
def collected : Channel σ :=
  { c with
    reader := (c.reader.next c.source).2.1
    source := (c.reader.next c.source).2.2 }

theorem quiet_collected : Quiet c c.collected :=
  .of_sublist rfl (List.Sublist.refl _) (List.Sublist.refl _)

/-- A reader that refuses what has come closes the channel. -/
theorem quiet_refuse (h : c.workbench = .started) :
    Quiet c c.collected.shutdown.2.endReading :=
  c.quiet_collected.trans
    ((keeps_shutdown c.collected h).toQuiet.trans (keeps_endReading _).toQuiet)

/-! ### Routing -/

/-- The calls of listeners that a message leads to. -/
def jobsFor (frameId : Int32) (m : Message) : List (Job σ) :=
  if frameId = broadcastId then c.onBroadcast.toList.map fun l => .broadcast l m
  else
    ((c.waiters.lookup frameId).toList.map fun w => .response w m)
      ++ c.onTraffic.toList.map fun l => .traffic l frameId m

/-- Nothing but the table and what is queued for listeners is touched. -/
theorem deliver_eq (frameId : Int32) (m : Message) :
    c.deliver frameId m = { c with
      waiters := (c.deliver frameId m).waiters
      events := (c.deliver frameId m).events } := by
  unfold deliver post
  split
  · split
    · rfl
    · rfl
  · dsimp only
    split
    · rfl
    · rfl

theorem deliver_core (frameId : Int32) (m : Message) : (c.deliver frameId m).core = c.core := by
  rw [deliver_eq]
  rfl

theorem deliver_streams (frameId : Int32) (m : Message) :
    (c.deliver frameId m).streams = c.streams := by
  rw [deliver_eq]
  rfl

theorem deliver_waiters (frameId : Int32) (m : Message) :
    (c.deliver frameId m).waiters.Sublist c.waiters := by
  unfold deliver post
  split
  · split
    · exact List.Sublist.refl _
    · exact List.Sublist.refl _
  · dsimp only
    split
    · exact List.filter_sublist
    · exact List.filter_sublist

theorem deliver_jobs (frameId : Int32) (m : Message) :
    (c.deliver frameId m).jobs.Sublist (c.jobs ++ c.jobsFor frameId m) := by
  unfold deliver post jobsFor
  split
  · split
    · simp [jobs]
    · simp [jobs]
  · dsimp only
    split
    · simp [jobs, removeWaiter]
    · simp [jobs, removeWaiter]

/-- A reply is brought to a handle only if it waits on the frame id. -/
theorem waits_of_mem_jobsFor {frameId : Int32} {m m' : Message} {ticket : Nat} {j : Job σ}
    (hj : j ∈ c.jobsFor frameId m) (hreply : j.reply? = some (ticket, m')) :
    m' = m ∧ ∃ w, (frameId, w) ∈ c.waiters ∧ w.ticket? = some ticket := by
  unfold jobsFor at hj
  split at hj
  · obtain ⟨l, -, rfl⟩ := List.mem_map.mp hj
    cases hreply
  · rcases List.mem_append.mp hj with hj | hj
    · obtain ⟨w, hw, rfl⟩ := List.mem_map.mp hj
      have hmem : (frameId, w) ∈ c.waiters := mem_of_lookup (Option.mem_toList.mp hw)
      cases w with
      | handle t =>
          cases hreply
          exact ⟨rfl, _, hmem, rfl⟩
      | listener run => cases hreply
    · obtain ⟨l, -, rfl⟩ := List.mem_map.mp hj
      cases hreply

/-- The listener for all traffic is called for what is no broadcast. -/
theorem filterMap_traffic?_jobsFor {frameId : Int32} (h : frameId ≠ broadcastId) (m : Message) :
    (c.jobsFor frameId m).filterMap Job.traffic?
      = c.onTraffic.toList.map fun l => (l, frameId, m) := by
  rw [jobsFor, if_neg h, List.filterMap_append]
  have hresponse (ws : List (Waiter σ)) :
      (ws.map fun w => Job.response w m).filterMap Job.traffic? = [] := by
    rw [List.filterMap_map]
    exact List.filterMap_eq_nil_iff.mpr fun _ _ => rfl
  rw [hresponse, List.nil_append, List.filterMap_map]
  change c.onTraffic.toList.filterMap (some ∘ fun l => (l, frameId, m)) = _
  rw [List.filterMap_eq_map]

theorem filterMap_traffic?_jobsFor_broadcastId (m : Message) :
    (c.jobsFor broadcastId m).filterMap Job.traffic? = [] := by
  rw [jobsFor, if_pos rfl, List.filterMap_map]
  exact List.filterMap_eq_nil_iff.mpr fun _ _ => rfl

/-! ### A step of the reader -/

/-- What a step of the reader does: it delivers the message of a frame, or drops
a frame, or takes no frame at all. -/
inductive Reads : Channel σ → Option (Int32 × Message) → Channel σ → Prop
  | idle {c : Channel σ} (h : c.reading = false) : Reads c none c
  | delivered {c : Channel σ} {f : Frame} {rest : Bytes} {m : Message} :
      c.reading = true →
      Frame.split? c.reader.limits.maxPayload c.unread = .ok (some (f, rest)) →
      c.collected.unread = rest → f.brings c.registry = some (f.frameId, m) →
      (c.reader.next c.source).1 = .done f →
      Reads c (some (f.frameId, m)) (c.collected.deliver f.frameId m)
  | dropped {c : Channel σ} {f : Frame} {rest : Bytes} :
      c.reading = true →
      Frame.split? c.reader.limits.maxPayload c.unread = .ok (some (f, rest)) →
      c.collected.unread = rest → f.brings c.registry = none →
      (c.reader.next c.source).1 = .done f →
      Reads c none c.collected.shutdown.2.endReading
  | failed {c : Channel σ} {e : FrameError} : c.reading = true →
      (c.reader.next c.source).1 = .failed e → c.collected.unread = c.unread →
      Reads c none c.collected.shutdown.2.endReading
  | waiting {c : Channel σ} : c.reading = true →
      (c.reader.next c.source).1 = .pending → c.collected.unread = c.unread →
      Reads c none c.collected

/-- **A step of the reader, case by case.** -/
theorem readStep_cases : Reads c (Side.incoming c) c.readStep := by
  unfold readStep Side.incoming
  by_cases hreading : c.reading = true
  case neg =>
    rw [if_neg hreading, if_neg hreading]
    exact .idle (Bool.eq_false_iff.mpr hreading)
  rw [if_pos hreading, if_pos hreading]
  have hcall := c.reader.call_next c.source
  have hcollected : c.collected = { c with
    reader := (c.reader.next c.source).2.1
    source := (c.reader.next c.source).2.2 } := rfl
  cases hnext : c.reader.next c.source with
  | mk progress after =>
      obtain ⟨reader, source⟩ := after
      rw [hnext] at hcall hcollected
      dsimp only at hcall hcollected
      have hunread : c.collected.unread = reader.unread source := by rw [hcollected, unread]
      rw [FrameReader.nextMessage, hnext]
      dsimp only
      cases progress with
      | done f =>
          have hsplit := hcall.split_of_done
          have hdone : (c.reader.next c.source).1 = .done f := congrArg Prod.fst hnext
          dsimp only
          cases hdecode : f.decode c.registry with
          | error e =>
              have hbrings : f.brings c.registry = none := by rw [Frame.brings, hdecode]
              have hread := Reads.dropped hreading hsplit hunread hbrings hdone
              rwa [hcollected] at hread
          | ok m =>
              dsimp only
              by_cases hkind : kindMatchesFrame f.frameId m.kind = true
              · have hbrings : f.brings c.registry = some (f.frameId, m) := by
                  rw [Frame.brings, hdecode]
                  exact if_pos hkind
                have hread := Reads.delivered hreading hsplit hunread hbrings hdone
                rw [if_pos hkind, if_pos hkind]
                rwa [hcollected] at hread
              · have hbrings : f.brings c.registry = none := by
                  rw [Frame.brings, hdecode]
                  exact if_neg hkind
                have hread := Reads.dropped hreading hsplit hunread hbrings hdone
                rw [if_neg hkind, if_neg hkind]
                rwa [hcollected] at hread
      | failed e =>
          have htext : c.unread = reader.unread source := hcall.text_eq
          have hread := Reads.failed hreading (congrArg Prod.fst hnext)
            (hunread.trans htext.symm)
          rwa [hcollected] at hread
      | pending =>
          have htext : c.unread = reader.unread source := hcall.text_eq
          have hread := Reads.waiting hreading (congrArg Prod.fst hnext)
            (hunread.trans htext.symm)
          rwa [hcollected] at hread

end Channel

end Parley
