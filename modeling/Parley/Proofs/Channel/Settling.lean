/-
What settles the handle of a request.

A handle is settled when a look at it finds what came of its request, or when it
is dropped before. From then on it is of no use: it is not looked at again, and
takes nothing back. So each handle is settled once (`Side.settles_once`), and
its flag says whether it has been (`Side.flagged_course`). A session keeps no
handle that is settled, and treats the others as a side does
(`Session.Mirrors.look`, `Session.Mirrors.dropHandle`).
-/
import Parley.Channel.Session
import Parley.Proofs.Channel.Tickets

namespace Parley

open scoped List

variable {σ : Type}

namespace Side

variable {s : Side σ}

/-- What an event does to the handles that were given out: none of them is
touched, one more is given out, or one of them remembers more. -/
inductive Hands (s : Side σ) (e : Event σ) : Prop
  | leaves (asked : (s.happen e).asked = s.asked)
      (accepted : s.accepted <+ (s.happen e).accepted) (unsettled : s.settled? e = none)
  | gives {a : Asked} {w : PendingWrite} (asked : (s.happen e).asked = s.asked ++ [a])
      (accepted : (s.happen e).accepted = s.accepted ++ [w]) (same : w.ticket = a.handle.ticket)
      (fresh : a.handle.settled = false) (unsettled : s.settled? e = none)
  | marks {index : Nat} {a : Asked} {written settled : Bool} (found : s.asked[index]? = some a)
      (asked : (s.happen e).asked = s.asked.set index (a.mark written settled))
      (accepted : (s.happen e).accepted = s.accepted)
      (remembers : a.handle.settled = true → settled = true)
      (settles : s.settled? e
        = if !a.handle.settled && settled then some a.handle.ticket else none)

theorem hands (s : Side σ) (e : Event σ) : s.Hands e := by
  cases e with
  | start runtime => exact .leaves rfl (List.Sublist.refl _) rfl
  | act act =>
      by_cases hpermits : permits s.channel act = true
      case neg =>
        have hstays : s.happen (.act act) = s := by rw [happen, if_neg hpermits]
        refine .leaves (by rw [hstays]) (by rw [hstays]) ?_
        cases act with
        | poll | forget => exact absurd rfl hpermits
        | _ => rfl
      have hhappen : s.happen (.act act) = s.step act := by rw [happen, if_pos hpermits]
      by_cases hadvance : ∃ index, act = .advance index
      case neg =>
        have hact (index : Nat) : act ≠ .advance index := fun heq => hadvance ⟨index, heq⟩
        have haccepted := s.accepted_step act hact
        rw [← hhappen] at haccepted
        cases s.marks_step hact with
        | leaves hasked hunsettled =>
            rw [← hhappen] at hasked
            exact .leaves hasked (haccepted ▸ List.Sublist.refl _) hunsettled
        | marks _ _ hfound hasked hremembers hsettles _ =>
            rw [← hhappen] at hasked
            exact .marks hfound hasked haccepted hremembers hsettles
      obtain ⟨index, rfl⟩ := hadvance
      have hstep : s.happen (.act (.advance index)) = s.advance index := rfl
      rcases s.advance_eq index with heq | ⟨order, stage, outcome, channel, -, -, heq⟩
      · exact .leaves (by rw [hstep, heq]) (by rw [hstep, heq]) rfl
      rw [heq] at hstep
      cases outcome with
      | next stage => exact .leaves (by rw [hstep]; rfl) (by rw [hstep]; rfl) rfl
      | ended result =>
          cases result with
          | error e => exact .leaves (by rw [hstep]; rfl) (by rw [hstep]; rfl) rfl
          | ok w =>
              have haccepted : (s.happen (.act (.advance index))).accepted
                  = s.accepted ++ [⟨w.ticket, w.frameId, order.message⟩] := by
                rw [hstep]
                rfl
              cases order with
              | request r payload =>
                  exact .gives (by rw [hstep]; rfl) haccepted rfl rfl rfl
              | write m =>
                  exact .leaves (by rw [hstep]; rfl) (haccepted ▸ List.sublist_append_left _ _) rfl
              | reply id m =>
                  exact .leaves (by rw [hstep]; rfl) (haccepted ▸ List.sublist_append_left _ _) rfl

/-! ### The flags of handles -/

/-- The flag of a handle says whether an event has settled it. -/
structure Flagged (s : Side σ) (events : List (Event σ)) : Prop where
  tickets : ((s.course events).asked.map fun a => a.handle.ticket)
    <+ (s.course events).accepted.map (·.ticket)
  known : ∀ n ticket, s.Settles events n ticket →
    ticket ∈ (s.course events).asked.map fun a => a.handle.ticket
  flags : ∀ a ∈ (s.course events).asked,
    a.handle.settled = true ↔ ∃ n, s.Settles events n a.handle.ticket

namespace Flagged

variable {events : List (Event σ)} {e : Event σ}

theorem nodup (h : s.Flagged events) (hticketed : (s.course events).Ticketed) :
    ((s.course events).asked.map fun a => a.handle.ticket).Nodup :=
  hticketed.nodup_accepted.sublist h.tickets

theorem exists_settles_concat {ticket : Nat} :
    (∃ n, s.Settles (events ++ [e]) n ticket) ↔
      (∃ n, s.Settles events n ticket) ∨ (s.course events).settled? e = some ticket := by
  simp only [settles_concat, exists_or, exists_eq_left]

/-- A handle that is given out is fresh. -/
theorem gives (h : s.Flagged events) (hticketed : ((s.course events).happen e).Ticketed)
    {a : Asked} {w : PendingWrite}
    (hasked : ((s.course events).happen e).asked = (s.course events).asked ++ [a])
    (haccepted : ((s.course events).happen e).accepted = (s.course events).accepted ++ [w])
    (hsame : w.ticket = a.handle.ticket) (hfresh : a.handle.settled = false)
    (hunsettled : (s.course events).settled? e = none) : s.Flagged (events ++ [e]) := by
  have htickets : (((s.course events).asked ++ [a]).map fun a => a.handle.ticket)
      <+ ((s.course events).accepted ++ [w]).map (·.ticket) := by
    rw [List.map_append, List.map_append, List.map_singleton, List.map_singleton, hsame]
    exact h.tickets.append_right _
  have hnew : a.handle.ticket ∉ (s.course events).asked.map fun a => a.handle.ticket := by
    have hnodup := hticketed.nodup_accepted
    rw [haccepted] at hnodup
    have hasked := hnodup.sublist htickets
    rw [List.map_append, List.map_singleton, List.nodup_append] at hasked
    intro hmem
    exact hasked.2.2 _ hmem _ (List.mem_singleton_self _) rfl
  refine ⟨?_, ?_, ?_⟩
  · rw [course_concat, hasked, haccepted]
    exact htickets
  · intro n ticket hsettles
    rw [course_concat, hasked, List.map_append]
    rcases settles_concat.mp hsettles with hbefore | ⟨-, hnow⟩
    · exact List.mem_append_left _ (h.known n ticket hbefore)
    · cases hunsettled.symm.trans hnow
  · rw [course_concat, hasked]
    intro b hb
    rw [exists_settles_concat, hunsettled, or_iff_left nofun]
    rcases List.mem_append.mp hb with hb | hb
    · exact h.flags b hb
    · rw [List.mem_singleton.mp hb, hfresh]
      exact iff_of_false nofun fun ⟨n, hsettles⟩ => hnew (h.known n _ hsettles)

/-- What a handle remembers is what has happened. -/
theorem marks (h : s.Flagged events) (hticketed : (s.course events).Ticketed) {index : Nat}
    {a : Asked} {written settled : Bool} (hfound : (s.course events).asked[index]? = some a)
    (hasked : ((s.course events).happen e).asked
      = (s.course events).asked.set index (a.mark written settled))
    (haccepted : ((s.course events).happen e).accepted = (s.course events).accepted)
    (hremembers : a.handle.settled = true → settled = true)
    (hsettles : (s.course events).settled? e
      = if !a.handle.settled && settled then some a.handle.ticket else none) :
    s.Flagged (events ++ [e]) := by
  have htickets : (((s.course events).asked.set index (a.mark written settled)).map
      fun a => a.handle.ticket) = (s.course events).asked.map fun a => a.handle.ticket := by
    have hticket : ((s.course events).asked.map fun a => a.handle.ticket)[index]?
        = some (a.mark written settled).handle.ticket := by
      rw [List.getElem?_map, hfound]
      rfl
    rw [List.map_set, set_of_getElem? hticket]
  have hmarked : a.mark written settled
      ∈ (s.course events).asked.set index (a.mark written settled) :=
    List.mem_set (List.getElem?_eq_some_iff.mp hfound).1 _
  have hmem := List.mem_of_getElem? hfound
  refine ⟨?_, ?_, ?_⟩
  · rw [course_concat, hasked, haccepted, htickets]
    exact h.tickets
  · intro n ticket hsettled
    rw [course_concat, hasked, htickets]
    rcases settles_concat.mp hsettled with hbefore | ⟨-, hnow⟩
    · exact h.known n ticket hbefore
    · rw [hsettles] at hnow
      split at hnow
      · cases hnow
        exact List.mem_map_of_mem hmem
      · cases hnow
  · rw [course_concat, hasked]
    intro b hb
    rw [exists_settles_concat, hsettles]
    by_cases hticket : b.handle.ticket = a.handle.ticket
    · -- no other handle has the ticket
      have hnodup := h.nodup hticketed
      rw [← htickets] at hnodup
      obtain rfl : b = a.mark written settled :=
        List.inj_on_of_nodup_map hnodup hb hmarked hticket
      have hflag := h.flags a hmem
      change settled = true ↔ (∃ n, s.Settles events n a.handle.ticket) ∨ _
      rw [← hflag]
      cases hsettled : a.handle.settled with
      | true => exact iff_of_true (hremembers hsettled) (Or.inl rfl)
      | false => cases settled <;> simp [Asked.mark]
    · rcases List.mem_or_eq_of_mem_set hb with hb | rfl
      · rw [h.flags b hb]
        refine (or_iff_left ?_).symm
        intro hnow
        split at hnow
        · exact hticket (Option.some.inj hnow).symm
        · cases hnow
      · exact absurd rfl hticket

theorem concat (h : s.Flagged events) (hticketed : s.Ticketed) : s.Flagged (events ++ [e]) := by
  have hnow := hticketed.course events
  cases (s.course events).hands e with
  | leaves hasked haccepted hunsettled =>
      refine ⟨?_, ?_, ?_⟩
      · rw [course_concat, hasked]
        exact h.tickets.trans (haccepted.map _)
      · intro n ticket hsettles
        rw [course_concat, hasked]
        rcases settles_concat.mp hsettles with hbefore | ⟨-, hnow⟩
        · exact h.known n ticket hbefore
        · cases hunsettled.symm.trans hnow
      · rw [course_concat, hasked]
        intro a ha
        rw [exists_settles_concat, hunsettled, or_iff_left nofun]
        exact h.flags a ha
  | gives hasked haccepted hsame hfresh hunsettled =>
      exact h.gives (hnow.happen e) hasked haccepted hsame hfresh hunsettled
  | marks hfound hasked haccepted hremembers hsettles =>
      exact h.marks hnow hfound hasked haccepted hremembers hsettles

end Flagged

/-- **The flag of a handle says whether an event has settled it**, whatever
happens to a channel from its creation on. -/
theorem flagged_course (registry : Registry) (config : ChannelConfig) (writes : List WriteTurn)
    (flushes : List FlushTurn) (app : σ) (events : List (Event σ)) :
    (created registry config writes flushes app).Flagged events := by
  induction events using List.reverseRecOn with
  | nil =>
      exact ⟨List.Sublist.refl _, fun _ _ hsettles => (nomatch hsettles), List.forall_mem_nil _⟩
  | append_singleton events e ih =>
      exact ih.concat (ticketed_created registry config writes flushes app)

/-- **No handle is settled twice.** -/
theorem settles_once (registry : Registry) (config : ChannelConfig) (writes : List WriteTurn)
    (flushes : List FlushTurn) (app : σ) (events : List (Event σ)) {n k ticket : Nat}
    (hn : (created registry config writes flushes app).Settles events n ticket)
    (hk : (created registry config writes flushes app).Settles events k ticket) : n = k := by
  have hticketed := ticketed_created registry config writes flushes app
  have hflagged := flagged_course registry config writes flushes app
  generalize created registry config writes flushes app = s at *
  -- at the later event the handle is flagged, and its flag is not looked past
  have hearlier {n k : Nat} (hn : s.Settles events n ticket) (hk : s.Settles events k ticket) :
      ¬ n < k := by
    intro hlt
    obtain ⟨e, -, hsettled⟩ := Option.bind_eq_some_iff.mp hk
    obtain ⟨a, ha, hunsettled, rfl⟩ := (s.moment events k).asked_of_settled? hsettled
    have hflag := ((hflagged (events.take k)).flags a ha).mpr ⟨n, (settles_take hlt).mpr hn⟩
    cases hunsettled.symm.trans hflag
  exact Nat.le_antisymm (Nat.le_of_not_lt (hearlier hk hn)) (Nat.le_of_not_lt (hearlier hn hk))

end Side

/-! ### Handles of sessions -/

/-- What a session keeps of the handle of a request. -/
def ReplyHandle.kept (h : ReplyHandle) : Option Handle :=
  if h.settled then none else some (.reply h)

namespace Session

/-- A session and a side are on one channel, and a handle of the session is a
handle of the side. -/
structure Mirrors (session : Session σ) (side : Side σ) (number index : Nat) : Prop where
  channel : session.channel = side.channel
  handle : ∃ a, side.asked[index]? = some a ∧ session.handles[number]? = some a.handle.kept

namespace Mirrors

variable {session : Session σ} {side : Side σ} {number index : Nat}

/-- **A session and a side look at a handle in the same way.** -/
theorem look (h : session.Mirrors side number index) :
    (session.look number).2.Mirrors (side.poll index) number index := by
  obtain ⟨hchannel, a, hasked, hkept⟩ := h
  have hbound := (List.getElem?_eq_some_iff.mp hkept).1
  rw [ReplyHandle.kept] at hkept
  cases hsettled : a.handle.settled with
  | true =>
      rw [hsettled, if_pos rfl] at hkept
      have hlook : (session.look number).2 = session := by rw [Session.look, hkept]
      have hpoll : side.poll index = side := by
        rw [Side.poll, Side.open?, hasked, Option.filter_some, hsettled]
        rfl
      rw [hlook, hpoll]
      exact ⟨hchannel, a, hasked, by rw [hkept, ReplyHandle.kept, hsettled, if_pos rfl]⟩
  | false =>
      rw [hsettled, if_neg Bool.false_ne_true] at hkept
      have hopen : side.open? index = some a := Side.open?_eq_some.mpr ⟨hasked, hsettled⟩
      have hmarked (b : Asked) : (side.asked.set index b)[index]? = some b :=
        List.getElem?_set_self (List.getElem?_eq_some_iff.mp hasked).1
      have hpending (written : Bool) :
          (a.mark written false).handle.kept = some (.reply { a.handle with written }) := by
        rw [← hsettled]
        exact if_neg (Bool.eq_false_iff.mp hsettled)
      rw [Session.look, hkept, Side.poll, hopen]
      dsimp only
      rw [hchannel]
      cases (side.channel.pollReply a.handle).1 with
      | some outcome => exact ⟨rfl, _, hmarked _, List.getElem?_set_self hbound⟩
      | none =>
          refine ⟨rfl, _, hmarked _, ?_⟩
          change (session.handles.set number _)[number]? = _
          rw [List.getElem?_set_self hbound]
          exact congrArg some (hpending _).symm

/-- **A session and a side drop a handle in the same way.** -/
theorem dropHandle (h : session.Mirrors side number index) :
    (session.dropHandle number).Mirrors (side.forget index) number index := by
  obtain ⟨hchannel, a, hasked, hkept⟩ := h
  have hbound := (List.getElem?_eq_some_iff.mp hkept).1
  have hmarked (b : Asked) : (side.asked.set index b)[index]? = some b :=
    List.getElem?_set_self (List.getElem?_eq_some_iff.mp hasked).1
  rw [ReplyHandle.kept] at hkept
  rw [Side.forget, hasked, Session.dropHandle]
  cases hsettled : a.handle.settled with
  | true =>
      rw [hsettled, if_pos rfl] at hkept
      rw [hkept]
      refine ⟨?_, _, hmarked _, List.getElem?_set_self hbound⟩
      change session.channel = side.channel.dropReply a.handle
      rw [Channel.dropReply, if_pos hsettled, hchannel]
  | false =>
      rw [hsettled, if_neg Bool.false_ne_true] at hkept
      rw [hkept]
      refine ⟨?_, _, hmarked _, List.getElem?_set_self hbound⟩
      exact congrArg (·.dropReply a.handle) hchannel

end Mirrors

end Session

end Parley
