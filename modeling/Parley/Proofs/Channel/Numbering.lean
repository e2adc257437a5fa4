/-
Frame ids, and who gets them.

Calls to write and to request ask for a frame id on their way, and others may ask
for one directly. Whatever comes in whatever order, the ids that are given are
counted from zero and none is given twice. A call is given one only if its message
is of a registered type and is no broadcast, and if the channel was open when the
call began, and what it queues goes out under it. When there are no more ids,
whoever asks is refused and nothing else happens (`Side.frame_ids_counted`).
-/
import Parley.Proofs.Channel.Afloat
import Parley.Proofs.Channel.Handles
import Parley.Proofs.Channel.Sparing

namespace Parley

open scoped List

variable {σ : Type}

/-! ### What is left alone -/

namespace Channel

/-- The parts of a channel that say what can be sent and which frame id is next. -/
structure Meter where
  registry : Registry
  nextFrameId : Nat

def meter (c : Channel σ) : Meter := ⟨c.registry, c.nextFrameId⟩

/-! ### The check of a call -/

variable {c : Channel σ}

/-- A call goes on from its check only if its message is of a registered type and the
channel is open. -/
theorem checkOrder_eq_ok {o : Order} (h : c.checkOrder o = .ok ()) :
    (∃ entry, c.registry.lookupFor o.message = .ok entry) ∧ c.isOpen = true := by
  have hsend : c.checkSend o.message = .ok () := by
    cases o with
    | write m => exact h
    | request r payload => exact h
    | reply frameId m =>
        rw [checkOrder] at h
        split at h
        · cases h
        · exact h
  rw [checkSend] at hsend
  split at hsend
  · cases hsend
  next entry hentry =>
    rw [checkOpen] at hsend
    cases hopen : c.isOpen with
    | true => exact ⟨⟨entry, hentry⟩, rfl⟩
    | false =>
        rw [hopen] at hsend
        cases hsend

/-- What a call goes on to that is past its check. -/
theorem advance_eq_next {o : Order} {stage stage' : Stage}
    {channel : Channel σ} (h : c.advance o stage = (.next stage', channel)) :
    stage = .check ∧ c.checkOrder o = .ok () ∨ stage ≠ .check := by
  by_cases hcheck : stage = .check
  · subst hcheck
    refine Or.inl ⟨rfl, ?_⟩
    rw [advance] at h
    cases horder : c.checkOrder o with
    | ok u => rfl
    | error e =>
        rw [horder] at h
        cases h
  · exact Or.inr hcheck

end Channel

/-! ### Frame ids of calls -/

/-- An order that was carried out and the frame id that it has, unless it names one. -/
def Order.numbered? : Order × WriteHandle → Option (Order × Int32)
  | (order, w) => if order.frameId?.isNone then some (order, w.frameId) else none

/-- The order of a call under way and the frame id that it was given, unless it names
one. -/
def Stage.numbered? : Order × Stage → Option (Order × Int32)
  | (order, .guard _ frameId) | (order, .await _ frameId) | (order, .confirm _ frameId)
  | (order, .enqueue _ frameId) => if order.frameId?.isNone then some (order, frameId) else none
  | _ => none

namespace Side

variable (s : Side σ)

/-- Nothing but the steps of calls changes what frame id is next, and nothing what
can be sent. -/
theorem meter_happen {e : Event σ} (he : ∀ index, e ≠ .act (.advance index)) :
    (s.happen e).channel.meter = s.channel.meter := by
  have hmeter {c : Channel σ} (hc : c.fixture = s.channel.fixture) : c.meter = s.channel.meter :=
    congrArg (fun f : Channel.Fixture σ => (⟨f.registry, f.nextFrameId⟩ : Channel.Meter)) hc
  by_cases hread : e = .act .read
  · subst hread
    exact hmeter s.channel.fixture_readStep
  by_cases hlistener : ∃ l, e = .act (.onTraffic l)
  · obtain ⟨l, rfl⟩ := hlistener
    rfl
  · exact hmeter (s.spares_happen hread he fun l heq => hlistener ⟨l, heq⟩).fixture

/-- Events that are no steps of calls take no message for writing, and what calls
begin in them have done nothing yet. -/
theorem errands_happen {e : Event σ} (he : ∀ index, e ≠ .act (.advance index)) :
    (s.happen e).accepted = s.accepted ∧
      ∃ calls, (s.happen e).errands = s.errands ++ calls ∧ ∀ call ∈ calls, call.2 = .check := by
  have hnone : ∃ calls, s.errands = s.errands ++ calls ∧ ∀ call ∈ calls, call.2 = Stage.check :=
    ⟨[], (List.append_nil _).symm, List.forall_mem_nil _⟩
  cases e with
  | start runtime => exact ⟨rfl, hnone⟩
  | act act =>
      have hact (index : Nat) : act ≠ .advance index := fun heq => he index (congrArg _ heq)
      rw [happen]
      split
      case isFalse => exact ⟨rfl, hnone⟩
      exact ⟨s.accepted_step act hact, (s.requests_step act hact).2⟩

/-! ### Uses of a side -/

/-- What can happen to a side whose channel is also asked for frame ids directly. -/
inductive Use (σ : Type)
  | event (event : Event σ)
  | number

/-- What a use does. -/
def use (s : Side σ) : Use σ → Side σ
  | .event e => s.happen e
  | .number => s.onChannel fun c => c.takeFrameId.2

/-- What a sequence of uses leads to. -/
def used (s : Side σ) (uses : List (Use σ)) : Side σ := uses.foldl use s

/-- What comes of the frame id that a use asks for, if it asks for one. -/
def allocation? (s : Side σ) : Use σ → Option (Except ChannelError Int32)
  | .number => some s.channel.takeFrameId.1
  | .event (.act (.advance index)) =>
    match s.errands[index]? with
    | some (_, .number) => some s.channel.takeFrameId.1
    | _ => none
  | _ => none

/-- What comes of all frame ids that a sequence of uses asks for, in order. -/
def allocations (s : Side σ) : List (Use σ) → List (Except ChannelError Int32)
  | [] => []
  | u :: later => (s.allocation? u).toList ++ (s.use u).allocations later

/-- The frame ids that are given in a sequence of uses, in order. -/
def allocated (s : Side σ) (uses : List (Use σ)) : List Int32 :=
  (s.allocations uses).filterMap Except.toOption

/-- The order of the call that is given a frame id in a use, with the id. -/
def grant? (s : Side σ) : Use σ → Option (Order × Int32)
  | .event (.act (.advance index)) =>
    match s.errands[index]? with
    | some (order, .number) => s.channel.takeFrameId.1.toOption.map fun frameId => (order, frameId)
    | _ => none
  | _ => none

/-- All orders whose calls are given frame ids in a sequence of uses, in order. -/
def grants (s : Side σ) : List (Use σ) → List (Order × Int32)
  | [] => []
  | u :: later => (s.grant? u).toList ++ (s.use u).grants later

/-- The order that a use carries out, with the handle of what was queued, if it
brings a call to a good end. -/
def taken? (s : Side σ) : Use σ → Option (Order × WriteHandle)
  | .event (.act (.advance index)) =>
    match s.errands[index]? with
    | none => none
    | some (order, stage) =>
      match (s.channel.advance order stage).1 with
      | .ended (.ok w) => some (order, w)
      | _ => none
  | _ => none

/-- All orders that a sequence of uses carries out, in order. -/
def takings (s : Side σ) : List (Use σ) → List (Order × WriteHandle)
  | [] => []
  | u :: later => (s.taken? u).toList ++ (s.use u).takings later

/-- Each order that was carried out has the frame id that it names, or else one that
a call with this order was given, and no two of the latter have the same. -/
structure Granted (first : Side σ) (uses : List (Use σ)) : Prop where
  accepted : (first.used uses).accepted = first.accepted ++
    (first.takings uses).map fun t => ⟨t.2.ticket, t.2.frameId, t.1.message⟩
  named : ∀ t ∈ first.takings uses, ∀ frameId, t.1.frameId? = some frameId →
    t.2.frameId = frameId
  granted : (first.takings uses).filterMap Order.numbered? <+~ first.grants uses
  allocated : (first.grants uses).map Prod.snd <+ first.allocated uses
  apart : (((first.takings uses).filterMap Order.numbered?).map Prod.snd).Nodup

/-- For each call under way whether the channel was open when the call began, after
one more use. -/
def beganOpen (s : Side σ) (began : List Bool) : Use σ → List Bool
  | .event (.act (.advance index)) =>
    if (s.advance index).errands.length < s.errands.length then began.eraseIdx index else began
  | u =>
    began ++ List.replicate ((s.use u).errands.length - s.errands.length) s.channel.isOpen

/-- The same after a sequence of uses. -/
def begunOpen (s : Side σ) (began : List Bool) : List (Use σ) → List Bool
  | [] => began
  | u :: later => (s.use u).begunOpen (s.beganOpen began u) later

/-- The side once a call that takes a step has ended, and nothing else has changed. -/
def dropped (s : Side σ) : Use σ → Side σ
  | .event (.act (.advance index)) => { s with errands := s.errands.eraseIdx index }
  | _ => s

theorem channel_dropped (u : Use σ) : (s.dropped u).channel = s.channel := by
  unfold dropped
  split
  · rfl
  · rfl

/-- What a use does to the counter of frame ids. -/
inductive Counts (s : Side σ) (u : Use σ) : Prop
  | asksNone : s.allocation? u = none →
      (s.use u).channel.nextFrameId = s.channel.nextFrameId → Counts s u
  | counts : s.allocation? u = some (.ok (Int32.ofNat s.channel.nextFrameId)) →
      s.channel.nextFrameId < Channel.frameIdLimit →
      (s.use u).channel.nextFrameId = s.channel.nextFrameId + 1 → Counts s u
  | exhausted : s.allocation? u = some (.error .frameIdsExhausted) →
      ¬ s.channel.nextFrameId < Channel.frameIdLimit → s.use u = s.dropped u → Counts s u

/-- What a call does that asks for a frame id. -/
theorem advance_number {index : Nat} {order : Order}
    (hcall : s.errands[index]? = some (order, .number)) :
    s.advance index =
      if s.channel.nextFrameId < Channel.frameIdLimit then
        s.proceed index order
          { s.channel with
            nextFrameId := s.channel.nextFrameId + 1, nextTicket := s.channel.nextTicket + 1 }
          (.next (if order.awaitsReply
            then .guard s.channel.nextTicket (Int32.ofNat s.channel.nextFrameId)
            else .enqueue s.channel.nextTicket (Int32.ofNat s.channel.nextFrameId)))
      else { s with errands := s.errands.eraseIdx index } := by
  rw [advance, hcall]
  dsimp only [Channel.advance]
  rw [Channel.takeFrameId]
  by_cases hlimit : s.channel.nextFrameId < Channel.frameIdLimit
  · rw [if_pos hlimit, if_pos hlimit]
    rfl
  · rw [if_neg hlimit, if_neg hlimit]
    rfl

/-- **Who asks for a frame id gets the next one, or is refused where there are no more.** -/
theorem counts (u : Use σ) : s.Counts u := by
  have htaken (hlimit : s.channel.nextFrameId < Channel.frameIdLimit) :
      s.channel.takeFrameId.1 = .ok (Int32.ofNat s.channel.nextFrameId) := by
    rw [Channel.takeFrameId, if_pos hlimit]
  have hrefused (hlimit : ¬ s.channel.nextFrameId < Channel.frameIdLimit) :
      s.channel.takeFrameId.1 = .error .frameIdsExhausted := by
    rw [Channel.takeFrameId, if_neg hlimit]
  cases u with
  | number =>
      by_cases hlimit : s.channel.nextFrameId < Channel.frameIdLimit
      · refine .counts (congrArg some (htaken hlimit)) hlimit ?_
        rw [use, onChannel, Channel.takeFrameId, if_pos hlimit]
      · refine .exhausted (congrArg some (hrefused hlimit)) hlimit ?_
        rw [use, onChannel, Channel.takeFrameId, if_neg hlimit]
        rfl
  | event e =>
      by_cases he : ∃ index, e = .act (.advance index)
      case neg =>
        have hother (index : Nat) : e ≠ .act (.advance index) := fun heq => he ⟨index, heq⟩
        refine .asksNone ?_ (congrArg Channel.Meter.nextFrameId (s.meter_happen hother))
        cases e with
        | start runtime => rfl
        | act act =>
            cases act with
            | advance index => exact absurd rfl (hother index)
            | _ => rfl
      obtain ⟨index, rfl⟩ := he
      have huse : s.use (.event (.act (.advance index))) = s.advance index := rfl
      cases hcall : s.errands[index]? with
      | none =>
          have hstays : s.advance index = s := by rw [advance, hcall]
          exact .asksNone (by rw [allocation?, hcall]) (by rw [huse, hstays])
      | some call =>
          obtain ⟨order, stage⟩ := call
          by_cases hnumber : stage = .number
          · subst hnumber
            have hasks : s.allocation? (.event (.act (.advance index)))
                = some s.channel.takeFrameId.1 := by rw [allocation?, hcall]
            have hadvance := s.advance_number hcall
            by_cases hlimit : s.channel.nextFrameId < Channel.frameIdLimit
            · refine .counts (hasks.trans (congrArg some (htaken hlimit))) hlimit ?_
              rw [huse, hadvance, if_pos hlimit]
              rfl
            · refine .exhausted (hasks.trans (congrArg some (hrefused hlimit))) hlimit ?_
              rw [huse, hadvance, if_neg hlimit]
              rfl
          · refine .asksNone ?_ ?_
            · rw [allocation?, hcall]
              cases stage with
              | number => exact absurd rfl hnumber
              | _ => rfl
            · have hstep := s.channel.advance_cases order stage
              rw [huse, advance, hcall]
              dsimp only
              generalize s.channel.advance order stage = after at hstep
              obtain ⟨outcome, channel⟩ := after
              dsimp only at hstep ⊢
              cases hstep with
              | numbered => exact absurd rfl hnumber
              | failed | withdrawn | known | unknown | guarded | waits | confirmed | queued => rfl

namespace Counts

variable {s} {u : Use σ}

theorem limit (h : s.Counts u) (hlimit : s.channel.nextFrameId ≤ Channel.frameIdLimit) :
    (s.use u).channel.nextFrameId ≤ Channel.frameIdLimit := by
  cases h with
  | asksNone _ hsame => rwa [hsame]
  | counts _ hless hcounted => rwa [hcounted]
  | exhausted _ _ hdropped => rwa [hdropped, channel_dropped]

/-- What comes of asking for a frame id depends on whether there are more. -/
theorem result {result : Except ChannelError Int32} (h : s.Counts u)
    (hresult : s.allocation? u = some result) :
    (s.channel.nextFrameId < Channel.frameIdLimit →
      result = .ok (Int32.ofNat s.channel.nextFrameId)) ∧
    (s.channel.nextFrameId = Channel.frameIdLimit →
      result = .error .frameIdsExhausted ∧ s.use u = s.dropped u) := by
  cases h with
  | asksNone hnone => cases hnone.symm.trans hresult
  | counts hsome hless =>
      cases hsome.symm.trans hresult
      exact ⟨fun _ => rfl, fun hlimit => absurd hlimit (Nat.ne_of_lt hless)⟩
  | exhausted hsome hnot hdropped =>
      cases hsome.symm.trans hresult
      exact ⟨fun hless => absurd hless hnot, fun _ => ⟨rfl, hdropped⟩⟩

/-- The frame ids that were given were given. -/
theorem range (h : s.Counts u) :
    (List.range s.channel.nextFrameId).map Int32.ofNat
      <+~ (List.range (s.use u).channel.nextFrameId).map Int32.ofNat := by
  have hle : s.channel.nextFrameId ≤ (s.use u).channel.nextFrameId := by
    cases h with
    | asksNone _ hsame => exact Nat.le_of_eq hsame.symm
    | counts _ _ hcounted => exact hcounted ▸ Nat.le_succ _
    | exhausted _ _ hdropped => rw [hdropped, channel_dropped]
  exact ((List.range_sublist.mpr hle).map _).subperm

end Counts

/-- Who asks for a frame id. -/
theorem asks_of_allocation? {u : Use σ} {result : Except ChannelError Int32}
    (h : s.allocation? u = some result) :
    u = .number ∨ ∃ index order, u = .event (.act (.advance index)) ∧
      s.errands[index]? = some (order, .number) := by
  unfold allocation? at h
  split at h
  · exact Or.inl rfl
  next index =>
    split at h
    next order hcall => exact Or.inr ⟨index, order, rfl, hcall⟩
    next => cases h
  · cases h

/-! ### Ids in a row -/

/-- The frame ids that are given are counted on from the one that is next. -/
theorem allocated_used (uses : List (Use σ)) :
    ∃ count, s.allocated uses = (List.range' s.channel.nextFrameId count).map Int32.ofNat ∧
      (s.used uses).channel.nextFrameId = s.channel.nextFrameId + count := by
  induction uses generalizing s with
  | nil => exact ⟨0, rfl, rfl⟩
  | cons u later ih =>
      obtain ⟨count, hallocated, hnext⟩ := ih (s.use u)
      have hused : s.used (u :: later) = (s.use u).used later := rfl
      have hfirst : s.allocated (u :: later) =
          (s.allocation? u).toList.filterMap Except.toOption ++ (s.use u).allocated later :=
        List.filterMap_append
      rw [hused, hnext, hfirst, hallocated]
      cases s.counts u with
      | asksNone hnone hsame => exact ⟨count, by rw [hnone, hsame]; rfl, by rw [hsame]⟩
      | counts hsome hlimit hcounted =>
          refine ⟨count + 1, ?_, by rw [hcounted]; omega⟩
          rw [hsome, hcounted, List.range'_succ]
          rfl
      | exhausted hsome hlimit hdropped =>
          have hsame : (s.use u).channel.nextFrameId = s.channel.nextFrameId := by
            rw [hdropped, channel_dropped]
          exact ⟨count, by rw [hsome, hsame]; rfl, by rw [hsame]⟩

section Range

variable {n : Nat}

theorem map_toInt_range (h : n ≤ Channel.frameIdLimit) :
    ((List.range n).map Int32.ofNat).map Int32.toInt = (List.range n).map Int.ofNat := by
  rw [List.map_map]
  refine List.map_congr_left fun k hk => ?_
  exact toInt_ofNat_of_le_maxLength (Nat.le_trans (Nat.le_of_lt (List.mem_range.mp hk)) h)

theorem nodup_range (h : n ≤ Channel.frameIdLimit) :
    ((List.range n).map Int32.ofNat).Nodup := by
  apply List.Nodup.of_map Int32.toInt
  rw [map_toInt_range h]
  exact List.nodup_range.map fun _ _ => Int.ofNat_inj.mp

theorem broadcastId_not_mem_range (h : n ≤ Channel.frameIdLimit) :
    broadcastId ∉ (List.range n).map Int32.ofNat := by
  intro hmem
  obtain ⟨k, hk, heq⟩ := List.mem_map.mp hmem
  exact ofNat_ne_broadcastId (Nat.lt_of_lt_of_le (List.mem_range.mp hk) h) heq

end Range

/-! ### Who has which id -/

/-- What carries out an order is the last step of its call. -/
theorem taken?_eq_some {u : Use σ} {t : Order × WriteHandle} (h : s.taken? u = some t) :
    ∃ index, u = .event (.act (.advance index)) ∧
      s.errands[index]? = some (t.1, .enqueue t.2.ticket t.2.frameId) := by
  unfold taken? at h
  split at h
  case h_2 => cases h
  next index =>
    split at h
    case h_1 => cases h
    next order stage hcall =>
      have hstep := s.channel.advance_cases order stage
      generalize s.channel.advance order stage = after at h hstep
      obtain ⟨outcome, channel⟩ := after
      dsimp only at h hstep
      split at h
      case h_2 => cases h
      next w =>
        cases h
        cases hstep with
        | queued => exact ⟨index, rfl, hcall⟩

/-- Nothing is carried out but by steps of calls. -/
theorem taken?_of_ne {e : Event σ} (he : ∀ index, e ≠ .act (.advance index)) :
    s.taken? (.event e) = none := by
  refine Option.eq_none_iff_forall_ne_some.mpr fun t ht => ?_
  obtain ⟨index, heq, -⟩ := s.taken?_eq_some ht
  exact he index (Use.event.inj heq)

/-- What a use takes for writing is what it carries out. -/
theorem accepted_use (u : Use σ) :
    (s.use u).accepted = s.accepted ++
      (s.taken? u).toList.map fun t => ⟨t.2.ticket, t.2.frameId, t.1.message⟩ := by
  have hnone (h : s.taken? u = none) (hsame : (s.use u).accepted = s.accepted) :
      (s.use u).accepted = s.accepted ++
        (s.taken? u).toList.map fun t => ⟨t.2.ticket, t.2.frameId, t.1.message⟩ := by
    rw [h, hsame]
    exact (List.append_nil _).symm
  cases u with
  | number => exact hnone rfl rfl
  | event e =>
      by_cases he : ∃ index, e = .act (.advance index)
      case neg =>
        have hother (index : Nat) : e ≠ .act (.advance index) := fun heq => he ⟨index, heq⟩
        exact hnone (s.taken?_of_ne hother) (s.errands_happen hother).1
      obtain ⟨index, rfl⟩ := he
      have huse : s.use (.event (.act (.advance index))) = s.advance index := rfl
      cases hcall : s.errands[index]? with
      | none =>
          refine hnone ?_ ?_
          · rw [taken?, hcall]
          · rw [huse, advance, hcall]
      | some call =>
          obtain ⟨order, stage⟩ := call
          rw [huse, advance, taken?, hcall]
          dsimp only
          generalize s.channel.advance order stage = after
          obtain ⟨outcome, channel⟩ := after
          rcases outcome with stage' | ⟨e | w⟩
          · exact (List.append_nil _).symm
          · exact (List.append_nil _).symm
          · rfl

/-- Whatever is given to a call is given. -/
theorem grant?_sublist (u : Use σ) :
    (s.grant? u).toList.map Prod.snd <+ (s.allocation? u).toList.filterMap Except.toOption := by
  unfold grant?
  split
  next index =>
    split
    next order hcall =>
      rw [allocation?, hcall]
      cases s.channel.takeFrameId.1 with
      | error e => exact List.nil_sublist _
      | ok frameId => exact List.Sublist.refl _
    next => exact List.nil_sublist _
  next => exact List.nil_sublist _

/-- A step of a call passes on what the call was given, or adds what it is given now. -/
theorem numbered_advance {index : Nat} {order : Order} {stage : Stage}
    (hcall : s.errands[index]? = some (order, stage)) (hsound : stage.Sound order) :
    (s.taken? (.event (.act (.advance index)))).toList.filterMap Order.numbered?
        ++ (s.advance index).errands.filterMap Stage.numbered?
      <+~ s.errands.filterMap Stage.numbered?
        ++ (s.grant? (.event (.act (.advance index)))).toList := by
  have hbefore := filterMap_perm_eraseIdx Stage.numbered? hcall
  have hadvance : s.advance index = s.proceed index order (s.channel.advance order stage).2
      (s.channel.advance order stage).1 := by rw [advance, hcall]
  rw [hadvance, taken?, grant?, hcall]
  dsimp only
  have hstep := s.channel.advance_cases order stage
  generalize hafter : s.channel.advance order stage = after at hstep
  obtain ⟨outcome, channel⟩ := after
  dsimp only at hstep ⊢
  -- a call that goes on has at most what it had, and what it is given
  have hgoesOn {stage' : Stage} {given : List (Order × Int32)}
      (hgiven : (Stage.numbered? (order, stage')).toList
        <+~ (Stage.numbered? (order, stage)).toList ++ given) :
      (s.errands.set index (order, stage')).filterMap Stage.numbered?
        <+~ s.errands.filterMap Stage.numbered? ++ given := by
    refine (filterMap_perm_set Stage.numbered? hcall _).subperm.trans ?_
    refine ((List.subperm_append_right _).mpr hgiven).trans (List.Perm.subperm ?_)
    rw [List.append_assoc]
    refine (List.perm_append_comm.append_left _).trans ?_
    rw [← List.append_assoc]
    exact hbefore.symm.append_right _
  -- a call that ends leaves the others as they are
  have hends : (s.errands.eraseIdx index).filterMap Stage.numbered?
      <+~ s.errands.filterMap Stage.numbered? :=
    ((List.eraseIdx_sublist _ _).filterMap _).subperm
  have hsame {stage' : Stage} {given : List (Order × Int32)}
      (h : Stage.numbered? (order, stage') = Stage.numbered? (order, stage)) :
      (s.errands.set index (order, stage')).filterMap Stage.numbered?
        <+~ s.errands.filterMap Stage.numbered? ++ given :=
    hgoesOn (h ▸ (List.sublist_append_left _ _).subperm)
  cases hstep with
  | failed | withdrawn => exact hends.trans (List.sublist_append_left _ _).subperm
  | known hid =>
      refine hgoesOn (List.Sublist.subperm ?_)
      rw [Stage.numbered?, hid]
      exact List.nil_sublist _
  | unknown => exact hsame rfl
  | guarded | waits | confirmed => exact hsame rfl
  | numbered hlimit =>
      have hgiven : s.channel.takeFrameId.1 = .ok (Int32.ofNat s.channel.nextFrameId) := by
        rw [Channel.takeFrameId, if_pos hlimit]
      rw [hgiven]
      refine hgoesOn (List.Sublist.subperm ?_)
      have hid : order.frameId? = none := hsound
      split
      · rw [Stage.numbered?, hid]
        exact List.Sublist.refl _
      · rw [Stage.numbered?, hid]
        exact List.Sublist.refl _
  | @queued ticket frameId htakes =>
      refine List.Subperm.trans ?_ (List.sublist_append_left _ _).subperm
      refine List.Perm.subperm (List.Perm.trans ?_ hbefore.symm)
      have hnumbered : Order.numbered? (order, ⟨ticket, frameId⟩)
          = Stage.numbered? (order, .enqueue ticket frameId) := rfl
      rw [Option.toList_some, List.filterMap_cons, hnumbered]
      cases Stage.numbered? (order, .enqueue ticket frameId) with
      | none => exact List.Perm.refl _
      | some call => exact List.Perm.refl _

/-- Every use passes on what calls were given, or adds what one is given now. -/
theorem numbered_use (h : s.Orderly) (u : Use σ) :
    (s.taken? u).toList.filterMap Order.numbered? ++ (s.use u).errands.filterMap Stage.numbered?
      <+~ s.errands.filterMap Stage.numbered? ++ (s.grant? u).toList := by
  cases u with
  | number => exact (List.sublist_append_left _ _).subperm
  | event e =>
      by_cases he : ∃ index, e = .act (.advance index)
      case neg =>
        have hother (index : Nat) : e ≠ .act (.advance index) := fun heq => he ⟨index, heq⟩
        obtain ⟨-, calls, herrands, hcheck⟩ := s.errands_happen hother
        have huse : s.use (.event e) = s.happen e := rfl
        rw [s.taken?_of_ne hother, huse, filterMap_of_calls herrands hcheck fun _ => rfl]
        exact (List.sublist_append_left _ _).subperm
      obtain ⟨index, rfl⟩ := he
      cases hcall : s.errands[index]? with
      | none =>
          have huse : s.use (.event (.act (.advance index))) = s := by
            change s.advance index = s
            rw [advance, hcall]
          rw [taken?, hcall, huse]
          exact (List.sublist_append_left _ _).subperm
      | some call =>
          obtain ⟨order, stage⟩ := call
          exact s.numbered_advance hcall (h.errands _ (List.mem_of_getElem? hcall))

theorem orderly_use (h : s.Orderly) (u : Use σ) : (s.use u).Orderly := by
  cases u with
  | number => exact ⟨h.errands, h.accepted⟩
  | event e => exact s.orderly_happen h e

/-- What a sequence of uses takes for writing is what it carries out. -/
theorem accepted_used (uses : List (Use σ)) :
    (s.used uses).accepted = s.accepted ++
      (s.takings uses).map fun t => ⟨t.2.ticket, t.2.frameId, t.1.message⟩ := by
  induction uses generalizing s with
  | nil => exact (List.append_nil _).symm
  | cons u later ih =>
      change ((s.use u).used later).accepted = _
      rw [ih, s.accepted_use u, takings, List.map_append, List.append_assoc]

theorem grants_sublist (uses : List (Use σ)) :
    (s.grants uses).map Prod.snd <+ s.allocated uses := by
  induction uses generalizing s with
  | nil => exact List.Sublist.refl _
  | cons u later ih =>
      rw [grants, allocated, allocations, List.map_append, List.filterMap_append]
      exact (s.grant?_sublist u).append (ih (s.use u))

/-- What a sequence of uses leads to has what was given before, and what is given in it. -/
theorem numbered_used (h : s.Orderly) (uses : List (Use σ)) :
    (s.takings uses).filterMap Order.numbered?
        ++ (s.used uses).errands.filterMap Stage.numbered?
      <+~ s.errands.filterMap Stage.numbered? ++ s.grants uses := by
  induction uses generalizing s with
  | nil => exact (List.append_nil _).symm ▸ List.Subperm.refl _
  | cons u later ih =>
      have hlater := ih (s.use u) (s.orderly_use h u)
      have hused : s.used (u :: later) = (s.use u).used later := rfl
      rw [takings, grants, List.filterMap_append, hused, List.append_assoc]
      refine ((List.subperm_append_left _).mpr hlater).trans ?_
      rw [← List.append_assoc, ← List.append_assoc]
      exact (List.subperm_append_right _).mpr (s.numbered_use h u)

/-- An order that names a frame id is carried out under it. -/
theorem named_takings (h : s.Orderly) (uses : List (Use σ)) :
    ∀ t ∈ s.takings uses, ∀ frameId, t.1.frameId? = some frameId → t.2.frameId = frameId := by
  induction uses generalizing s with
  | nil => exact List.forall_mem_nil _
  | cons u later ih =>
      refine List.forall_mem_append.mpr ⟨?_, ih (s.use u) (s.orderly_use h u)⟩
      intro t ht frameId hid
      obtain ⟨index, -, hcall⟩ := s.taken?_eq_some (Option.mem_toList.mp ht)
      exact ((h.errands _ (List.mem_of_getElem? hcall)).1 frameId hid).symm

/-- Orders have the frame ids that they name, or that their calls were given. -/
theorem granted_used (h : s.Orderly) (hfresh : s.errands = [])
    (uses : List (Use σ)) (hnodup : (s.allocated uses).Nodup) : s.Granted uses := by
  have hgranted : (s.takings uses).filterMap Order.numbered? <+~ s.grants uses := by
    have hused := s.numbered_used h uses
    rw [hfresh, List.filterMap_nil, List.nil_append] at hused
    exact (List.sublist_append_left _ _).subperm.trans hused
  have hsub := s.grants_sublist uses
  exact {
    accepted := s.accepted_used uses
    named := s.named_takings h uses
    granted := hgranted
    allocated := hsub
    apart := nodup_map_of_subperm hgranted (hnodup.sublist hsub) }

/-! ### Calls that were let in -/

/-- Whatever calls are under way, those that are past their check are for messages of
registered types and began while the channel was open. The requests of a side have
frame ids of their own among those that were given. -/
structure Numbered (registry : Registry) (began : List Bool) (s : Side σ) : Prop where
  afloat : s.channel.Afloat
  orderly : s.Orderly
  under : s.channel.registry = registry
  limit : s.channel.nextFrameId ≤ Channel.frameIdLimit
  length : began.length = s.errands.length
  opened : s.channel.isOpen = true → ∀ b ∈ began, b = true
  entered : ∀ (index : Nat) (order : Order) (stage : Stage),
    s.errands[index]? = some (order, stage) → stage ≠ .check →
    began[index]? = some true ∧ ∃ entry, registry.lookupFor order.message = .ok entry
  requests : s.requests.map (·.frameId)
    <+~ (List.range s.channel.nextFrameId).map Int32.ofNat

namespace Numbered

variable {s} {registry : Registry} {began : List Bool}

theorem number (h : s.Numbered registry began) :
    (s.use .number).Numbered registry (s.beganOpen began .number) := by
  have hbegan : s.beganOpen began .number = began := by
    change began ++ List.replicate (s.errands.length - s.errands.length) _ = began
    rw [Nat.sub_self, List.replicate_zero, List.append_nil]
  have hchannel : s.channel.takeFrameId.2.rig = s.channel.rig ∧
      s.channel.takeFrameId.2.registry = s.channel.registry := by
    rw [Channel.takeFrameId]
    split
    · exact ⟨rfl, rfl⟩
    · exact ⟨rfl, rfl⟩
  rw [hbegan]
  exact {
    afloat := Channel.Holds.afloat (.of_rig hchannel.1) h.afloat
    orderly := s.orderly_use h.orderly .number
    under := hchannel.2.trans h.under
    limit := (s.counts .number).limit h.limit
    length := h.length
    opened := fun hopen => h.opened ((Channel.isOpen_of_rig hchannel.1).symm.trans hopen)
    entered := h.entered
    requests := h.requests.trans (s.counts .number).range }

/-- Calls that begin are at their check. -/
theorem begins (h : s.Numbered registry began) {e : Event σ}
    (he : ∀ index, e ≠ .act (.advance index)) :
    (s.happen e).Numbered registry (s.beganOpen began (.event e)) := by
  obtain ⟨haccepted, calls, herrands, hcheck⟩ := s.errands_happen he
  have hbegan : s.beganOpen began (.event e)
      = began ++ List.replicate calls.length s.channel.isOpen := by
    have hbegan : s.beganOpen began (.event e) = began ++
        List.replicate ((s.happen e).errands.length - s.errands.length) s.channel.isOpen := by
      cases e with
      | start runtime => rfl
      | act act =>
          cases act with
          | advance index => exact absurd rfl (he index)
          | _ => rfl
    rw [hbegan, herrands, List.length_append, Nat.add_sub_cancel_left]
  have hmeter := s.meter_happen he
  rw [hbegan]
  exact {
    afloat := s.afloat_happen h.afloat e
    orderly := s.orderly_happen h.orderly e
    under := (congrArg Channel.Meter.registry hmeter).trans h.under
    limit := (s.counts (.event e)).limit h.limit
    length := by
      rw [herrands, List.length_append, List.length_append, List.length_replicate, h.length]
    opened := by
      intro hopen
      have hbefore := s.isOpen_of_happen h.afloat hopen
      refine List.forall_mem_append.mpr ⟨h.opened hbefore, ?_⟩
      intro b hb
      rw [List.eq_of_mem_replicate hb]
      exact hbefore
    entered := by
      intro index order stage hcall hstage
      rw [herrands] at hcall
      rcases Nat.lt_or_ge index s.errands.length with hindex | hindex
      · rw [List.getElem?_append_left hindex] at hcall
        rw [List.getElem?_append_left (h.length.symm ▸ hindex)]
        exact h.entered index order stage hcall hstage
      · rw [List.getElem?_append_right hindex] at hcall
        exact absurd (hcheck _ (List.mem_of_getElem? hcall)) hstage
    requests := by
      have hrequests : (s.happen e).requests = s.requests := by
        rw [Side.requests, Side.requests, haccepted,
          filterMap_of_calls herrands hcheck fun _ => rfl]
      rw [hrequests]
      exact h.requests.trans (s.counts (.event e)).range }

/-- A call that counts a frame id for a request has it for itself. -/
theorem requests_advance (h : s.Numbered registry began) (index : Nat) :
    (s.advance index).requests.map (·.frameId)
      <+~ (List.range (s.advance index).channel.nextFrameId).map Int32.ofNat := by
  rcases s.advance_eq index with heq | ⟨order, stage, outcome, channel, hcall, hstep, heq⟩
  · rw [heq]
    exact h.requests
  rw [heq, proceed_channel]
  rcases Side.requests_advance hcall hstep with ⟨hnext, hsame⟩ | ⟨hnext, hmore⟩
  · rw [hnext]
    exact (subperm_map (·.frameId) hsame).trans h.requests
  · rw [hnext, List.range_succ, List.map_append]
    refine (subperm_map (·.frameId) hmore).trans ?_
    rw [List.map_append]
    exact (List.subperm_append_right _).mpr h.requests

/-- A step of a call lets it in, or ends it, or leaves it where it was let in. -/
theorem advances (h : s.Numbered registry began) (index : Nat) :
    (s.advance index).Numbered registry (s.beganOpen began (.event (.act (.advance index)))) := by
  cases hcall : s.errands[index]? with
  | none =>
      have hstays : s.advance index = s := by rw [advance, hcall]
      rw [beganOpen, hstays, if_neg (Nat.lt_irrefl _)]
      exact h
  | some call =>
      obtain ⟨order, stage⟩ := call
      have hindex : index < began.length := h.length ▸ (List.getElem?_eq_some_iff.mp hcall).1
      have heq : s.advance index = s.proceed index order (s.channel.advance order stage).2
          (s.channel.advance order stage).1 := by rw [advance, hcall]
      have hpast (stage' : Stage) (hnext : (s.channel.advance order stage).1 = .next stage') :
          began[index]? = some true ∧ ∃ entry, registry.lookupFor order.message = .ok entry := by
        rcases Channel.advance_eq_next (Prod.ext hnext rfl) with ⟨rfl, hcheck⟩ | hstage
        · obtain ⟨hentry, hopen⟩ := Channel.checkOrder_eq_ok hcheck
          refine ⟨?_, h.under ▸ hentry⟩
          rw [List.getElem?_eq_getElem hindex, h.opened hopen _ (List.getElem_mem hindex)]
        · exact h.entered index order stage hcall hstage
      have hstep := s.channel.advance_cases order stage
      have hregistry : (s.advance index).channel.registry = s.channel.registry := by
        rw [heq]
        generalize s.channel.advance order stage = after at hstep
        obtain ⟨outcome, channel⟩ := after
        dsimp only at hstep ⊢
        cases hstep with
        | failed | withdrawn | known | unknown | numbered | guarded | waits | confirmed
        | queued => rfl
      -- what is left to say is about the calls that are still under way
      have hmade {began' : List Bool} (hlength : began'.length = (s.advance index).errands.length)
          (hsub : began' ⊆ began)
          (hentered : ∀ (i : Nat) (o : Order) (st : Stage),
            (s.advance index).errands[i]? = some (o, st) → st ≠ .check →
            began'[i]? = some true ∧ ∃ entry, registry.lookupFor o.message = .ok entry) :
          (s.advance index).Numbered registry began' :=
        { afloat := s.afloat_happen h.afloat (.act (.advance index))
          orderly := s.orderly_advance h.orderly index
          under := hregistry.trans h.under
          limit := (s.counts (.event (.act (.advance index)))).limit h.limit
          length := hlength
          opened := fun hopen b hb =>
            h.opened (s.isOpen_of_happen (e := .act (.advance index)) h.afloat hopen) b (hsub hb)
          entered := hentered
          requests := h.requests_advance index }
      cases houtcome : (s.channel.advance order stage).1 with
      | next stage' =>
          have herrands : (s.advance index).errands = s.errands.set index (order, stage') := by
            rw [heq, houtcome]
            rfl
          have hbegan : s.beganOpen began (.event (.act (.advance index))) = began := by
            rw [beganOpen, herrands, List.length_set, if_neg (Nat.lt_irrefl _)]
          rw [hbegan]
          refine hmade ?_ (List.Subset.refl _) ?_
          · rw [herrands, List.length_set, h.length]
          · intro i o st hi hst
            rw [herrands] at hi
            by_cases hsame : index = i
            · subst hsame
              rw [List.getElem?_set_self (h.length ▸ hindex)] at hi
              cases hi
              exact hpast _ houtcome
            · rw [List.getElem?_set_ne hsame] at hi
              exact h.entered i o st hi hst
      | ended result =>
          have herrands : (s.advance index).errands = s.errands.eraseIdx index := by
            rw [heq, houtcome]
            cases result <;> rfl
          have hless : (s.errands.eraseIdx index).length < s.errands.length := by
            rw [List.length_eraseIdx_of_lt (h.length ▸ hindex)]
            exact Nat.sub_lt (Nat.lt_of_le_of_lt (Nat.zero_le _) (h.length ▸ hindex)) Nat.one_pos
          have hbegan : s.beganOpen began (.event (.act (.advance index)))
              = began.eraseIdx index := by
            rw [beganOpen, herrands, if_pos hless]
          rw [hbegan]
          refine hmade ?_ (List.eraseIdx_sublist _ _).subset ?_
          · rw [herrands, List.length_eraseIdx, List.length_eraseIdx, h.length]
          · intro i o st hi hst
            rw [herrands, List.getElem?_eraseIdx] at hi
            rw [List.getElem?_eraseIdx]
            split at hi
            next hbefore =>
              rw [if_pos hbefore]
              exact h.entered i o st hi hst
            next hbehind =>
              rw [if_neg hbehind]
              exact h.entered (i + 1) o st hi hst

theorem use (h : s.Numbered registry began) (u : Use σ) :
    (s.use u).Numbered registry (s.beganOpen began u) := by
  cases u with
  | number => exact h.number
  | event e =>
      by_cases he : ∃ index, e = .act (.advance index)
      · obtain ⟨index, rfl⟩ := he
        exact h.advances index
      · exact h.begins fun index heq => he ⟨index, heq⟩

theorem used (h : s.Numbered registry began) (uses : List (Use σ)) :
    (s.used uses).Numbered registry (s.begunOpen began uses) := by
  induction uses generalizing s began with
  | nil => exact h
  | cons u later ih => exact ih (h.use u)

/-- Who asks for a frame id has begun while the channel was open, and what is to be sent
is of a registered type and no broadcast. -/
theorem asks (h : s.Numbered registry began) {u : Use σ} {result : Except ChannelError Int32}
    (hresult : s.allocation? u = some result) :
    u = .number ∨ ∃ index order, u = .event (.act (.advance index)) ∧
      s.errands[index]? = some (order, .number) ∧ began[index]? = some true ∧
      (∃ entry, registry.lookupFor order.message = .ok entry) ∧
      order.message.kind ≠ .broadcast := by
  rcases s.asks_of_allocation? hresult with hnumber | ⟨index, order, heq, hcall⟩
  · exact Or.inl hnumber
  · obtain ⟨hbegan, hentry⟩ := h.entered index order .number hcall nofun
    have hsound := h.orderly.errands _ (List.mem_of_getElem? hcall)
    exact Or.inr ⟨index, order, heq, hcall, hbegan, hentry, Order.kind_ne_broadcast hsound⟩

/-- Broadcasts and nothing else were taken under their frame id. -/
theorem broadcastId_iff (h : s.Numbered registry began) {w : PendingWrite} (hw : w ∈ s.accepted) :
    w.frameId = broadcastId ↔ w.message.kind = .broadcast := by
  have hmatches := h.orderly.accepted w hw
  rw [Channel.kindMatchesFrame, beq_iff_eq] at hmatches
  rw [← beq_iff_eq, hmatches, beq_iff_eq]

end Numbered

theorem numbered_created (registry : Registry) (config : ChannelConfig) (writes : List WriteTurn)
    (flushes : List FlushTurn) (app : σ) :
    (created registry config writes flushes app).Numbered registry [] where
  afloat := afloat_created registry config writes flushes app
  orderly := ⟨List.forall_mem_nil _, List.forall_mem_nil _⟩
  under := rfl
  limit := Nat.zero_le _
  length := rfl
  opened := fun _ => List.forall_mem_nil _
  entered := nofun
  requests := List.Subperm.refl _

/-! ### When there are no more -/

/-- A call that is refused at its check ends, and nothing else happens. -/
theorem use_of_refused {index : Nat} {order : Order}
    (hcall : s.errands[index]? = some (order, .check))
    (hrefused : (∀ entry, s.channel.registry.lookupFor order.message ≠ .ok entry) ∨
      s.channel.isOpen = false) :
    s.use (.event (.act (.advance index))) = s.dropped (.event (.act (.advance index))) := by
  have huse : s.use (.event (.act (.advance index))) = s.advance index := rfl
  rw [huse, advance, hcall]
  dsimp only [Channel.advance]
  cases hcheck : s.channel.checkOrder order with
  | error e => rfl
  | ok u =>
      obtain ⟨⟨entry, hentry⟩, hopen⟩ := Channel.checkOrder_eq_ok hcheck
      rcases hrefused with hunknown | hclosed
      · exact absurd hentry (hunknown entry)
      · cases hclosed.symm.trans hopen

/-- Where there are no more frame ids, there never are again. -/
theorem allocations_exhausted (h : s.channel.nextFrameId = Channel.frameIdLimit)
    (later : List (Use σ)) :
    (s.used later).channel.nextFrameId = Channel.frameIdLimit ∧
      ∀ result ∈ s.allocations later, result = .error .frameIdsExhausted := by
  induction later generalizing s with
  | nil => exact ⟨h, List.forall_mem_nil _⟩
  | cons u rest ih =>
      cases s.counts u with
      | asksNone hnone hsame =>
          obtain ⟨hend, hrest⟩ := ih (s.use u) (hsame.trans h)
          exact ⟨hend, by rwa [allocations, hnone]⟩
      | counts _ hlimit => exact absurd h (Nat.ne_of_lt hlimit)
      | exhausted hsome _ hdropped =>
          have hsame : (s.use u).channel.nextFrameId = s.channel.nextFrameId := by
            rw [hdropped, channel_dropped]
          obtain ⟨hend, hrest⟩ := ih (s.use u) (hsame.trans h)
          refine ⟨hend, ?_⟩
          rw [allocations, hsome]
          exact List.forall_mem_cons.mpr ⟨rfl, hrest⟩

/-- There are no more frame ids once enough were asked for. -/
theorem used_replicate_number {n : Nat} (h : s.channel.nextFrameId + n ≤ Channel.frameIdLimit) :
    (s.used (List.replicate n .number)).channel.nextFrameId = s.channel.nextFrameId + n := by
  induction n generalizing s with
  | zero => rfl
  | succ n ih =>
      have hnext : (s.use .number).channel.nextFrameId = s.channel.nextFrameId + 1 := by
        rw [use, onChannel, Channel.takeFrameId, if_pos (by omega)]
      have hused : s.used (List.replicate (n + 1) .number)
          = (s.use .number).used (List.replicate n .number) := rfl
      rw [hused, ih _ (by omega), hnext]
      omega

/-- **Frame ids are counted from zero and none is given twice.** Each is given to who
asks for one directly, or to a call to write or to request that began while the
channel was open, whose message is of a registered type and no broadcast. A call
whose message is of no registered type, or on a closed channel, ends at its check
and nothing else happens. Whatever a call queues has the frame id that its order
names or that it was given itself. Broadcasts and nothing else have the frame id of
broadcasts. Once the last frame id was given, whoever asks for one is refused, the
call ends and nothing else happens. So no two requests have the same frame id, and
none has that of broadcasts. -/
theorem frame_ids_counted (registry : Registry) (config : ChannelConfig)
    (writes : List WriteTurn) (flushes : List FlushTurn) (app : σ) (uses : List (Use σ)) :
    let first := created registry config writes flushes app
    let s := first.used uses
    let began := first.begunOpen [] uses
    ((first.allocated uses).map Int32.toInt
        = (List.range s.channel.nextFrameId).map Int.ofNat ∧
      s.channel.nextFrameId ≤ Channel.frameIdLimit) ∧
    (∀ u result, s.allocation? u = some result →
      (s.channel.nextFrameId < Channel.frameIdLimit →
        result = .ok (Int32.ofNat s.channel.nextFrameId)) ∧
      (s.channel.nextFrameId = Channel.frameIdLimit →
        result = .error .frameIdsExhausted ∧ s.use u = s.dropped u) ∧
      (u = .number ∨ ∃ index order, u = .event (.act (.advance index)) ∧
        s.errands[index]? = some (order, .number) ∧ began[index]? = some true ∧
        (∃ entry, registry.lookupFor order.message = .ok entry) ∧
        order.message.kind ≠ .broadcast)) ∧
    (∀ index order, s.errands[index]? = some (order, .check) →
      (∀ entry, registry.lookupFor order.message ≠ .ok entry) ∨ s.channel.isOpen = false →
      s.use (.event (.act (.advance index))) = s.dropped (.event (.act (.advance index)))) ∧
    (∃ later, (s.used later).channel.nextFrameId = Channel.frameIdLimit) ∧
    (s.channel.nextFrameId = Channel.frameIdLimit → ∀ later,
      (s.used later).channel.nextFrameId = Channel.frameIdLimit ∧
      ∀ result ∈ s.allocations later, result = .error .frameIdsExhausted) ∧
    (∀ w ∈ s.accepted, w.frameId = broadcastId ↔ w.message.kind = .broadcast) ∧
    s.requests.map (·.frameId) <+~ first.allocated uses ∧
    (s.requests.map (·.frameId)).Nodup ∧ broadcastId ∉ first.allocated uses ∧
    first.Granted uses := by
  intro first s began
  have hnumbered : s.Numbered registry began :=
    (numbered_created registry config writes flushes app).used uses
  have hlimit := hnumbered.limit
  obtain ⟨count, hallocated, hnext⟩ := first.allocated_used uses
  have hids : first.allocated uses = (List.range s.channel.nextFrameId).map Int32.ofNat := by
    rw [hallocated, hnext.trans (Nat.zero_add count), List.range_eq_range']
    rfl
  have hnodup : (first.allocated uses).Nodup := hids ▸ nodup_range hlimit
  have hrequests : s.requests.map (·.frameId) <+~ first.allocated uses :=
    hids ▸ hnumbered.requests
  have hgranted : first.Granted uses :=
    granted_used first (numbered_created registry config writes flushes app).orderly rfl uses hnodup
  refine ⟨⟨hids ▸ map_toInt_range hlimit, hlimit⟩, ?asked, ?refused, ?reached,
    s.allocations_exhausted, fun w hw => hnumbered.broadcastId_iff hw, hrequests,
    nodup_of_subperm hrequests hnodup, hids ▸ broadcastId_not_mem_range hlimit, hgranted⟩
  case asked =>
    intro u result hresult
    obtain ⟨hmore, hnone⟩ := (s.counts u).result hresult
    exact ⟨hmore, hnone, hnumbered.asks hresult⟩
  case refused =>
    intro index order hcall hrefused
    exact s.use_of_refused hcall (hnumbered.under.symm ▸ hrefused)
  case reached =>
    refine ⟨List.replicate (Channel.frameIdLimit - s.channel.nextFrameId) .number, ?_⟩
    rw [s.used_replicate_number (by omega)]
    omega

end Side

end Parley
