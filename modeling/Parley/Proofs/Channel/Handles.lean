/-
No handle of a request waits longer than it has to.

Where only requests wait for messages, the table of an open channel has an entry
for each request whose handle exists, is not settled and has not been delivered
to, and no other entry (`Tracked`). Once a channel is closed and swept, nothing
is left in the table.
-/
import Parley.Proofs.Channel.Listeners
import Parley.Proofs.Channel.Requests
import Mathlib.Data.Set.Card

namespace Parley

open scoped List

variable {σ : Type}

namespace Side

/-- The handle of a request was made to wait on its frame id, and nothing was
delivered there since. -/
def Pends (s : Side σ) (events : List (Event σ)) (ticket : Nat) (frameId : Int32) : Prop :=
  ∃ n, s.Registers events n frameId (.handle ticket) ∧
    ∀ k m, n < k → ¬ s.Delivers events k frameId m

/-- A handle exists, is not settled and has not been delivered to. -/
structure Unanswered (s : Side σ) (events : List (Event σ)) (a : Asked) : Prop where
  asked : a ∈ (s.course events).asked
  unsettled : ∀ n, ¬ s.Settles events n a.handle.ticket
  pends : s.Pends events a.handle.ticket a.handle.frameId

/-- Whoever made the channel closed has taken back what waits. -/
def Swept (s : Side σ) (events : List (Event σ)) : Prop :=
  ∀ n, events[n]? = some (.act .flip) → (s.moment events n).channel.isOpen = true →
    ∃ k, n < k ∧ events[k]? = some (.act .clearWaiters)

/-! ### What handles and replies come from -/

section Origins

variable (s : Side σ) {e : Event σ}

theorem orderly_happen (h : s.Orderly) (e : Event σ) : (s.happen e).Orderly := by
  cases e with
  | start runtime => exact ⟨h.errands, h.accepted⟩
  | act act =>
      rw [happen]
      split
      · exact s.orderly_step h act
      · exact h

theorem orderly_course (h : s.Orderly) (events : List (Event σ)) : (s.course events).Orderly := by
  induction events generalizing s with
  | nil => exact h
  | cons e rest ih => exact ih (s.happen e) (s.orderly_happen h e)

/-- No handle is taken back. -/
theorem asked_happen (e : Event σ) :
    s.asked.map Asked.token ⊆ (s.happen e).asked.map Asked.token := by
  cases e with
  | start runtime => exact List.Subset.refl _
  | act act =>
      rw [happen]
      split
      case isFalse => exact List.Subset.refl _
      by_cases hadvance : ∃ index, act = .advance index
      case neg =>
        have hact : ∀ index, act ≠ .advance index := by
          intro index heq
          exact hadvance ⟨index, heq⟩
        rw [(s.requests_step act hact).1]
        exact List.Subset.refl _
      obtain ⟨index, rfl⟩ := hadvance
      change _ ⊆ (s.advance index).asked.map _
      rcases s.advance_eq index with heq | ⟨order, stage, outcome, channel, -, -, heq⟩
      · rw [heq]
        exact List.Subset.refl _
      rw [heq]
      cases outcome with
      | next stage => exact List.Subset.refl _
      | ended result =>
          cases result with
          | error e => exact List.Subset.refl _
          | ok w =>
              cases order with
              | write m => exact List.Subset.refl _
              | reply id m => exact List.Subset.refl _
              | request r payload =>
                  rw [proceed, List.map_append]
                  exact List.subset_append_left _ _

/-- A reply is kept for a handle when the handle is called with it. -/
theorem replies_happen (e : Event σ) :
    (s.happen e).channel.replies = s.channel.replies ∨ ∃ ticket m,
      (s.happen e).channel.replies = s.channel.replies ++ [(ticket, m)] ∧
        s.invocation? e = some (.handle ticket, m) := by
  have hrests {c : Channel σ} (h : s.channel.Rests c) : c.replies = s.channel.replies := by
    rcases h.ledger with hl | hl
    · exact congrArg Channel.Ledger.replies hl
    · exact congrArg Channel.Ledger.replies hl
  cases e with
  | start runtime => exact Or.inl (hrests (s.channel.rests_start runtime))
  | act act =>
      by_cases hpermits : permits s.channel act = true
      case neg =>
        rw [happen, if_neg hpermits]
        exact Or.inl rfl
      rw [happen, if_pos hpermits]
      cases hidle : act.isIdle with
      | true => exact Or.inl (hrests (s.rests_step hidle))
      | false =>
          cases act with
          | flip => exact Or.inl rfl
          | clearWaiters => exact Or.inl rfl
          | advance index =>
              change (s.advance index).channel.replies = _ ∨ _
              rcases s.advance_eq index with heq | ⟨order, stage, outcome, channel, -, hstep, heq⟩
              · rw [heq]
                exact Or.inl rfl
              rw [heq]
              cases hstep with
              | failed | withdrawn | known | unknown | numbered | guarded | waits | confirmed
              | queued => exact Or.inl rfl
          | listen frameId run =>
              change (s.channel.addWaiter frameId (.listener run)).2.replies = _ ∨ _
              rcases s.channel.addWaiter_cases frameId (.listener run) with
                ⟨-, heq⟩ | ⟨-, -, heq⟩ | ⟨-, -, heq⟩
              · rw [heq]
                exact Or.inl rfl
              · rw [heq]
                exact Or.inl rfl
              · rw [heq]
                exact Or.inl rfl
          | poll index =>
              change (s.poll index).channel.replies = _ ∨ _
              rcases s.poll_channel index with heq | ⟨a, -, -, heq⟩
              · exact Or.inl (by rw [heq])
              · exact Or.inl (by rw [heq]; rfl)
          | forget index =>
              change (s.forget index).channel.replies = _ ∨ _
              rcases s.forget_channel index with heq | ⟨a, -, heq⟩
              · exact Or.inl (by rw [heq])
              · exact Or.inl (by rw [heq]; rfl)
          | read =>
              change s.channel.readStep.replies = _ ∨ _
              cases hbrought : incoming s.channel with
              | none => exact Or.inl (hrests (s.channel.rests_readStep hbrought))
              | some brought =>
                  have hcore := s.channel.collected.deliver_core brought.1 brought.2
                  rw [s.channel.readStep_of_incoming hbrought]
                  exact Or.inl (congrArg Channel.Core.replies hcore)
          | finish index =>
              change (s.finish index).channel.replies = _ ∨ ∃ ticket m,
                (s.finish index).channel.replies = _ ∧ s.channel.pool[index]?.bind _ = _
              have hfinish := s.finish_cases index
              generalize s.finish index = s' at hfinish
              cases hfinish with
              | absent | aside | unanswered | answered => exact Or.inl rfl
              | @reply ticket m hjob =>
                  refine Or.inr ⟨ticket, m, rfl, ?_⟩
                  rw [hjob]
                  rfl
          | _ => cases hidle

end Origins

section Tracking

variable {s : Side σ} {events : List (Event σ)} {e : Event σ}

theorem Pends.of_concat {ticket : Nat} {frameId : Int32}
    (h : s.Pends (events ++ [e]) ticket frameId) :
    ((s.course events).happen e).channel.waiters
        = (s.course events).channel.waiters ++ [(frameId, .handle ticket)] ∨
      s.Pends events ticket frameId ∧ ∀ m, (s.course events).delivery? e ≠ some (frameId, m) := by
  obtain ⟨n, hregisters, hnone⟩ := h
  rcases registers_concat.mp hregisters with hbefore | ⟨-, hnow⟩
  · refine Or.inr ⟨⟨n, hbefore, ?_⟩, ?_⟩
    · intro k m hk hdelivers
      exact hnone k m hk (delivers_concat.mpr (Or.inl hdelivers))
    · intro m hdelivery
      exact hnone events.length m hbefore.lt_length (delivers_concat.mpr (Or.inr ⟨rfl, hdelivery⟩))
  · exact Or.inl ((registration?_eq_some _).mp hnow)

theorem Swept.of_concat (h : s.Swept (events ++ [e])) (he : e ≠ .act .clearWaiters) :
    s.Swept events := by
  intro n hflip hopen
  have hn := (List.getElem?_eq_some_iff.mp hflip).1
  have hflip' : (events ++ [e])[n]? = some (.act .flip) := by
    rw [List.getElem?_append_left hn, hflip]
  rw [← s.moment_append (Nat.le_of_lt hn) [e]] at hopen
  obtain ⟨k, hk, hclear⟩ := h n hflip' hopen
  refine ⟨k, hk, ?_⟩
  rcases Nat.lt_trichotomy k events.length with hlt | rfl | hgt
  · rwa [List.getElem?_append_left hlt] at hclear
  · rw [List.getElem?_concat_length] at hclear
    exact absurd (Option.some.inj hclear) he
  · have hk := (List.getElem?_eq_some_iff.mp hclear).1
    rw [List.length_append, List.length_singleton] at hk
    omega

/-- What ties the table to the requests of a side. -/
structure Tracked (s : Side σ) (events : List (Event σ)) : Prop where
  orderly : (s.course events).Orderly
  /-- Tickets and frame ids are given out once. -/
  issued : ∃ issued, Issues (s.course events).channel issued ∧
    (s.course events).owners ++ (s.course events).coming
      <+~ issued.map fun w => (w.ticket, w.frameId)
  keys : ((s.course events).channel.waiters.map Prod.fst).Nodup
  /-- What waits is the handle of a request and is not settled. -/
  owned : ∀ x ∈ (s.course events).channel.waiters, ∃ ticket, x.2 = .handle ticket ∧
    (ticket, x.1) ∈ (s.course events).owners ∧ ∀ n, ¬ s.Settles events n ticket
  /-- Handles that can still be delivered to wait. -/
  kept : (s.course events).channel.isOpen = true →
    ∀ ticket frameId, (ticket, frameId) ∈ (s.course events).owners →
      (∀ n, ¬ s.Settles events n ticket) → s.Pends events ticket frameId →
      (frameId, .handle ticket) ∈ (s.course events).channel.waiters
  registered : ∀ n frameId w, s.Registers events n frameId w → ∃ ticket, w = .handle ticket ∧
    ticket < (s.course events).channel.nextTicket ∧
      ticket ∉ (s.course events).coming.map Prod.fst
  once : ∀ n n' frameId frameId' ticket, s.Registers events n frameId (.handle ticket) →
    s.Registers events n' frameId' (.handle ticket) → n = n'
  /-- The handle of each request was made to wait before it was given out. -/
  enrolled : ∀ ticket frameId, (ticket, frameId) ∈ (s.course events).owners →
    ∃ n, s.Registers events n frameId (.handle ticket)
  settled : ∀ n ticket, s.Settles events n ticket →
    ∃ frameId, (ticket, frameId) ∈ (s.course events).asked.map Asked.token
  answered : ∀ r ∈ (s.course events).channel.replies,
    ∃ n, s.Invokes events n (.handle r.1) r.2
  /-- On a closed channel only calls that are yet to find it closed have handles waiting. -/
  swept : (s.course events).channel.isOpen = false → s.Swept events →
    ∀ x ∈ (s.course events).channel.waiters, ∃ ticket, x.2 = .handle ticket ∧
      (ticket, x.1) ∈ (s.course events).confirming

namespace Tracked

/-! ### What the numbers give -/

theorem nodup (h : Tracked s events) :
    (((s.course events).owners ++ (s.course events).coming).map Prod.fst).Nodup ∧
      (((s.course events).owners ++ (s.course events).coming).map Prod.snd).Nodup := by
  obtain ⟨issued, hissues, hsub⟩ := h.issued
  constructor
  · refine nodup_map_of_subperm hsub ?_
    rw [List.map_map]
    exact hissues.tickets
  · refine nodup_map_of_subperm hsub ?_
    rw [List.map_map]
    exact hissues.nodup_frameIds

/-- A ticket belongs to one frame id. -/
theorem frameId_eq (h : Tracked s events) {ticket : Nat} {frameId frameId' : Int32}
    (howns : (ticket, frameId) ∈ (s.course events).owners)
    (howns' : (ticket, frameId') ∈ (s.course events).owners) : frameId = frameId' := by
  have hsame := List.inj_on_of_nodup_map h.nodup.1 (List.mem_append_left _ howns)
    (List.mem_append_left _ howns') rfl
  exact congrArg Prod.snd hsame

/-- A frame id belongs to one ticket. -/
theorem ticket_eq (h : Tracked s events) {ticket ticket' : Nat} {frameId : Int32}
    (howns : (ticket, frameId) ∈ (s.course events).owners)
    (howns' : (ticket', frameId) ∈ (s.course events).owners) : ticket = ticket' := by
  have hsame := List.inj_on_of_nodup_map h.nodup.2 (List.mem_append_left _ howns)
    (List.mem_append_left _ howns') rfl
  exact congrArg Prod.fst hsame

/-- What is yet to wait owns nothing. -/
theorem not_mem_owners (h : Tracked s events) {ticket : Nat} {frameId frameId' : Int32}
    (hcoming : (ticket, frameId) ∈ (s.course events).coming) :
    (ticket, frameId') ∉ (s.course events).owners := by
  intro howns
  have hdisjoint := h.nodup.1
  rw [List.map_append] at hdisjoint
  exact List.disjoint_of_nodup_append hdisjoint (List.mem_map.mpr ⟨_, howns, rfl⟩)
    (List.mem_map.mpr ⟨_, hcoming, rfl⟩)

theorem token_mem_owners {a : Asked} (ha : a ∈ (s.course events).asked) :
    (a.handle.ticket, a.handle.frameId) ∈ (s.course events).owners :=
  List.mem_append_left _ (List.mem_map_of_mem (f := Asked.token) ha)

/-- A handle whose reply has come waits no longer. -/
theorem ticket?_ne_of_reply (h : Tracked s events) (hwaiters : s.channel.waiters = [])
    (hresponses : s.channel.responses = []) {ticket : Nat} {m : Message}
    (hreply : (ticket, m) ∈ (s.course events).channel.replies) :
    ∀ w ∈ (s.course events).channel.waiters, w.2.ticket? ≠ some ticket := by
  intro w hw hticket
  obtain ⟨waiting, due, made, hattributed⟩ := attributed_course hwaiters hresponses events
  -- the waiter was registered by one event, and the one that was called by another
  rw [← hattributed.table] at hw
  obtain ⟨⟨n, frameId, w⟩, hwaiting, rfl⟩ := List.mem_map.mp hw
  have hregisters := (hattributed.waits _ hwaiting).registers
  cases w with
  | listener run => cases hticket
  | handle ticket =>
      cases hticket
      obtain ⟨k, hinvokes⟩ := h.answered _ hreply
      obtain ⟨⟨k, c⟩, hmade, rfl⟩ := hattributed.all k _ _ hinvokes
      obtain ⟨hholds, -, hcalled⟩ := hattributed.calls _ hmade
      have hwaiter : c.waiter = .handle ticket :=
        congrArg Prod.fst (Option.some.inj (hcalled.symm.trans hinvokes))
      have hcalled := hholds.registers
      rw [hwaiter] at hcalled
      have hsame := h.once _ _ _ _ _ hregisters hcalled
      have hdisjoint := List.disjoint_of_nodup_append hattributed.once
      refine hdisjoint (List.mem_map_of_mem hwaiting) (List.mem_append_right _ ?_)
      exact List.mem_map.mpr ⟨_, hmade, hsame.symm⟩

/-! ### One event more -/

theorem issued_concat (h : Tracked s events) (hshift : (s.course events).Shift e) :
    ∃ issued, Issues ((s.course events).happen e).channel issued ∧
      ((s.course events).happen e).owners ++ ((s.course events).happen e).coming
        <+~ issued.map fun w => (w.ticket, w.frameId) := by
  obtain ⟨issued, hissues, hsub⟩ := h.issued
  have hkept (hkept : Kept (s.course events) ((s.course events).happen e)) :
      ∃ issued, Issues ((s.course events).happen e).channel issued ∧
        ((s.course events).happen e).owners ++ ((s.course events).happen e).coming
          <+~ issued.map fun w => (w.ticket, w.frameId) :=
    ⟨issued, hissues.of_counters hkept.nextFrameId hkept.nextTicket,
      (hkept.owners.subperm.append hkept.coming).trans hsub⟩
  cases hshift with
  | keeps hkept' => exact hkept hkept'
  | shuts hkept' => exact hkept hkept'
  | delivers _ _ hkept' => exact hkept hkept'
  | settles _ hkept' => exact hkept hkept'
  | numbers _ howners hcoming _ hlimit hid hticket =>
      -- the frame id is issued whether or not it is for a request
      have hmore := hissues.append hlimit (.request .ping ())
      refine ⟨_, hmore.of_counters hid (Nat.le_of_eq hticket.symm), ?_⟩
      rw [List.map_append]
      refine (howners.subperm.append hcoming).trans ?_
      refine List.Subperm.trans (List.Perm.subperm ?_) ((List.subperm_append_right _).mpr hsub)
      exact List.perm_middle.trans (List.perm_append_singleton _ _).symm
  | places ticket frameId _ howners hcoming _ hid hticket =>
      refine ⟨issued, hissues.of_counters hid (Nat.le_of_eq hticket.symm), ?_⟩
      refine List.Subperm.trans (List.Perm.subperm ?_) hsub
      refine (howners.append_right _).trans ?_
      refine List.Perm.trans ?_ (hcoming.symm.append_left _)
      exact List.perm_middle.symm
  | drops ticket frameId _ howners hcoming _ hid hticket =>
      refine ⟨issued, hissues.of_counters hid (Nat.le_of_eq hticket.symm), ?_⟩
      refine List.Subperm.trans (List.Subperm.append ?_ hcoming) hsub
      exact (List.sublist_cons_self _ _).subperm.trans howners.symm.subperm

theorem keys_concat (h : Tracked s events) (hshift : (s.course events).Shift e) :
    (((s.course events).happen e).channel.waiters.map Prod.fst).Nodup := by
  have hfilter (frameId : Int32) :
      (((s.course events).channel.waiters.filter (·.1 ≠ frameId)).map Prod.fst).Nodup :=
    h.keys.sublist (List.filter_sublist.map _)
  cases hshift with
  | keeps _ _ hwaiters => exact hwaiters ▸ h.keys
  | numbers _ _ _ _ _ _ _ hwaiters => exact hwaiters ▸ h.keys
  | places ticket frameId _ _ _ _ _ _ hfree hwaiters =>
      rw [hwaiters, List.map_append]
      refine List.Nodup.append h.keys (List.nodup_singleton _) ?_
      intro id hid hnew
      obtain ⟨w, hw, rfl⟩ := List.mem_map.mp hid
      exact (s.course events).channel.hasWaiter_eq_false.mp hfree w hw (List.mem_singleton.mp hnew)
  | drops _ _ _ _ _ _ _ _ hwaiters => exact hwaiters ▸ hfilter _
  | shuts _ _ hwaiters => exact hwaiters ▸ List.nodup_nil
  | delivers _ _ _ _ _ _ hwaiters => exact hwaiters ▸ hfilter _
  | settles a _ _ _ _ hwaiters =>
      rcases hwaiters with hwaiters | ⟨hwaiters, -⟩
      · exact hwaiters ▸ hfilter _
      · exact hwaiters ▸ h.keys

theorem settled_concat (h : Tracked s events) (n ticket : Nat)
    (hsettles : s.Settles (events ++ [e]) n ticket) :
    ∃ frameId, (ticket, frameId) ∈ ((s.course events).happen e).asked.map Asked.token := by
  rcases settles_concat.mp hsettles with hbefore | ⟨-, hnow⟩
  · obtain ⟨frameId, hasked⟩ := h.settled n ticket hbefore
    exact ⟨frameId, (s.course events).asked_happen e hasked⟩
  · obtain ⟨a, ha, -, rfl⟩ := (s.course events).asked_of_settled? hnow
    refine ⟨a.handle.frameId, (s.course events).asked_happen e ?_⟩
    exact List.mem_map_of_mem (f := Asked.token) ha

theorem answered_concat (h : Tracked s events) :
    ∀ r ∈ ((s.course events).happen e).channel.replies,
      ∃ n, s.Invokes (events ++ [e]) n (.handle r.1) r.2 := by
  intro r hr
  have hearlier (hr : r ∈ (s.course events).channel.replies) :
      ∃ n, s.Invokes (events ++ [e]) n (.handle r.1) r.2 := by
    obtain ⟨n, hinvokes⟩ := h.answered r hr
    exact ⟨n, invokes_concat.mpr (Or.inl hinvokes)⟩
  rcases (s.course events).replies_happen e with heq | ⟨ticket, m, heq, hinvocation⟩
  · exact hearlier (heq ▸ hr)
  · rw [heq] at hr
    rcases List.mem_append.mp hr with hr | hr
    · exact hearlier hr
    · rw [List.mem_singleton.mp hr]
      exact ⟨events.length, invokes_concat.mpr (Or.inr ⟨rfl, hinvocation⟩)⟩

/-- Where no handle is settled, those that were not settled are not. -/
theorem unsettled_concat {ticket : Nat} (hsettled : (s.course events).settled? e ≠ some ticket)
    (h : ∀ n, ¬ s.Settles events n ticket) (n : Nat) : ¬ s.Settles (events ++ [e]) n ticket := by
  intro hsettles
  rcases settles_concat.mp hsettles with hbefore | ⟨-, hnow⟩
  · exact h n hbefore
  · exact hsettled hnow

/-- Where a handle is settled, what stays in the table was there and is another's. -/
theorem other_of_settles (h : Tracked s events) (hwaiters : s.channel.waiters = [])
    (hresponses : s.channel.responses = []) {a : Asked} (ha : a ∈ (s.course events).asked)
    {entries : List (Int32 × Waiter σ)}
    (hentries : entries = (s.course events).channel.waiters.filter (·.1 ≠ a.handle.frameId) ∨
      entries = (s.course events).channel.waiters ∧
        ((∃ m, (a.handle.ticket, m) ∈ (s.course events).channel.replies) ∨
          ∀ w ∈ (s.course events).channel.waiters, w.2.ticket? ≠ some a.handle.ticket))
    {x : Int32 × Waiter σ} (hx : x ∈ entries) :
    x ∈ (s.course events).channel.waiters ∧
      (x.2 = .handle a.handle.ticket →
        (a.handle.ticket, x.1) ∉ (s.course events).owners) := by
  rcases hentries with rfl | ⟨rfl, hgone⟩
  · obtain ⟨hx, hother⟩ := List.mem_filter.mp hx
    refine ⟨hx, ?_⟩
    intro _ howns
    rw [h.frameId_eq howns (token_mem_owners ha)] at hother
    simp at hother
  · have hgone : ∀ w ∈ (s.course events).channel.waiters,
        w.2.ticket? ≠ some a.handle.ticket := by
      rcases hgone with ⟨m, hreply⟩ | hgone
      · exact h.ticket?_ne_of_reply hwaiters hresponses hreply
      · exact hgone
    refine ⟨hx, ?_⟩
    intro hhandle
    have hticket := hgone x hx
    rw [hhandle] at hticket
    exact absurd rfl hticket

theorem owned_concat (h : Tracked s events) (hwaiters : s.channel.waiters = [])
    (hresponses : s.channel.responses = []) (hshift : (s.course events).Shift e) :
    ∀ x ∈ ((s.course events).happen e).channel.waiters, ∃ ticket, x.2 = .handle ticket ∧
      (ticket, x.1) ∈ ((s.course events).happen e).owners ∧
        ∀ n, ¬ s.Settles (events ++ [e]) n ticket := by
  -- an entry stays as it is where the requests stay and its handle is not settled
  have hstays {x : Int32 × Waiter σ} (hx : x ∈ (s.course events).channel.waiters)
      (howners : ∀ ticket, (ticket, x.1) ∈ (s.course events).owners →
        (ticket, x.1) ∈ ((s.course events).happen e).owners)
      (hsettled : ∀ ticket, x.2 = .handle ticket → (ticket, x.1) ∈ (s.course events).owners →
        (s.course events).settled? e ≠ some ticket) :
      ∃ ticket, x.2 = .handle ticket ∧ (ticket, x.1) ∈ ((s.course events).happen e).owners ∧
        ∀ n, ¬ s.Settles (events ++ [e]) n ticket := by
    obtain ⟨ticket, hhandle, howns, hunsettled⟩ := h.owned x hx
    exact ⟨ticket, hhandle, howners ticket howns,
      unsettled_concat (hsettled ticket hhandle howns) hunsettled⟩
  have hnone (hsettled : (s.course events).settled? e = none) (ticket : Nat) :
      (s.course events).settled? e ≠ some ticket := by
    rw [hsettled]
    exact nofun
  intro x hx
  cases hshift with
  | keeps hkept hsettled hentries =>
      rw [hentries] at hx
      exact hstays hx (fun _ => (hkept.owners.symm.subset ·)) fun t _ _ => hnone hsettled t
  | numbers hsettled howners _ _ _ _ _ hentries =>
      rw [hentries] at hx
      exact hstays hx (fun _ => (howners.symm.subset ·)) fun t _ _ => hnone hsettled t
  | places ticket frameId hsettled howners hcoming _ _ _ _ hentries =>
      rw [hentries] at hx
      rcases List.mem_append.mp hx with hx | hx
      · exact hstays hx (fun _ howns => howners.symm.subset (List.mem_cons_of_mem _ howns))
          fun t _ _ => hnone hsettled t
      · rw [List.mem_singleton.mp hx]
        refine ⟨ticket, rfl, howners.symm.subset List.mem_cons_self, ?_⟩
        refine unsettled_concat (hnone hsettled ticket) fun n hsettles => ?_
        obtain ⟨frameId', hasked⟩ := h.settled n ticket hsettles
        exact h.not_mem_owners (hcoming.symm.subset List.mem_cons_self)
          (List.mem_append_left _ hasked)
  | drops ticket frameId hsettled howners _ _ _ _ hentries =>
      rw [hentries] at hx
      obtain ⟨hx, hother⟩ := List.mem_filter.mp hx
      refine hstays hx (fun t howns => ?_) fun t _ _ => hnone hsettled t
      rcases List.mem_cons.mp (howners.subset howns) with heq | howns
      · cases heq
        simp at hother
      · exact howns
  | shuts _ _ hentries =>
      rw [hentries] at hx
      cases hx
  | delivers frameId m hkept _ _ hsettled hentries =>
      rw [hentries] at hx
      exact hstays (List.mem_of_mem_filter hx) (fun _ => (hkept.owners.symm.subset ·))
        fun t _ _ => hnone hsettled t
  | settles a hkept ha _ hsettled hentries =>
      obtain ⟨hbefore, hother⟩ := h.other_of_settles hwaiters hresponses ha hentries hx
      refine hstays hbefore (fun _ => (hkept.owners.symm.subset ·)) ?_
      intro ticket hhandle howns heq
      rw [hsettled] at heq
      cases heq
      exact hother hhandle howns

theorem kept_concat (h : Tracked s events) (hshift : (s.course events).Shift e)
    (hflip : e = .act .flip → ((s.course events).happen e).channel.isOpen = false)
    (hopen : ((s.course events).happen e).channel.isOpen = true) (ticket : Nat) (frameId : Int32)
    (howns : (ticket, frameId) ∈ ((s.course events).happen e).owners)
    (hunsettled : ∀ n, ¬ s.Settles (events ++ [e]) n ticket)
    (hpends : s.Pends (events ++ [e]) ticket frameId) :
    (frameId, .handle ticket) ∈ ((s.course events).happen e).channel.waiters := by
  rcases hpends.of_concat with hadded | ⟨hpends, hdelivery⟩
  · rw [hadded]
    exact List.mem_append_right _ (List.mem_singleton_self _)
  have hunsettled' : ∀ n, ¬ s.Settles events n ticket :=
    fun n hsettles => hunsettled n (settles_concat.mpr (Or.inl hsettles))
  have hbefore (hopen : (s.course events).channel.isOpen = true)
      (howns : (ticket, frameId) ∈ (s.course events).owners) :
      (frameId, .handle ticket) ∈ (s.course events).channel.waiters :=
    h.kept hopen ticket frameId howns hunsettled' hpends
  have hfilter {frameId' : Int32} (hother : frameId ≠ frameId')
      (hmem : (frameId, .handle ticket) ∈ (s.course events).channel.waiters) :
      (frameId, .handle ticket) ∈ (s.course events).channel.waiters.filter (·.1 ≠ frameId') :=
    List.mem_filter.mpr ⟨hmem, decide_eq_true hother⟩
  cases hshift with
  | keeps hkept _ hentries hstays =>
      rw [hentries]
      rcases hstays with hstays | he
      · exact hbefore (hstays ▸ hopen) (hkept.owners.subset howns)
      · cases (hflip he).symm.trans hopen
  | numbers _ howners _ _ _ _ _ hentries hstays =>
      rw [hentries]
      exact hbefore (hstays ▸ hopen) (howners.subset howns)
  | places ticket' frameId' _ howners _ _ _ _ _ hentries hstays =>
      rw [hentries]
      rcases List.mem_cons.mp (howners.subset howns) with heq | howns
      · cases heq
        exact List.mem_append_right _ (List.mem_singleton_self _)
      · exact List.mem_append_left _ (hbefore (hstays ▸ hopen) howns)
  | drops ticket' frameId' _ howners _ _ _ _ hentries hstays =>
      have howns' := howners.symm.subset (List.mem_cons_of_mem _ howns)
      rw [hentries]
      refine hfilter ?_ (hbefore (hstays ▸ hopen) howns')
      rintro rfl
      -- the frame id of the request that failed is that of no other
      have hnodup := h.nodup.2
      rw [List.map_append] at hnodup
      have hnodup := ((howners.map Prod.snd).nodup_iff.mp (List.nodup_append.mp hnodup).1)
      exact (List.nodup_cons.mp hnodup).1 (List.mem_map.mpr ⟨_, howns, rfl⟩)
  | shuts _ _ _ hclosed => cases hclosed.symm.trans hopen
  | delivers frameId' m hkept _ hdelivers _ hentries hstays =>
      rw [hentries]
      refine hfilter ?_ (hbefore (hstays ▸ hopen) (hkept.owners.subset howns))
      rintro rfl
      exact hdelivery m hdelivers
  | settles a hkept ha _ hsettled hentries hstays =>
      have howns' := hkept.owners.subset howns
      have hmem := hbefore (hstays ▸ hopen) howns'
      rcases hentries with hentries | ⟨hentries, -⟩
      · rw [hentries]
        refine hfilter ?_ hmem
        rintro rfl
        refine hunsettled events.length (settles_concat.mpr (Or.inr ⟨rfl, ?_⟩))
        rw [hsettled, h.ticket_eq howns' (token_mem_owners ha)]
      · rwa [hentries]

/-- No event but one that puts a handle into the table adds to it. -/
theorem of_shift_append (hshift : (s.course events).Shift e) {frameId : Int32} {w : Waiter σ}
    (hadded : ((s.course events).happen e).channel.waiters
      = (s.course events).channel.waiters ++ [(frameId, w)]) :
    ∃ ticket, w = .handle ticket ∧
      (s.course events).coming ~ (ticket, frameId) :: ((s.course events).happen e).coming ∧
        ((s.course events).happen e).channel.nextTicket = (s.course events).channel.nextTicket := by
  have hfewer (hsub : ((s.course events).happen e).channel.waiters
      <+ (s.course events).channel.waiters) : False := by
    rw [hadded] at hsub
    simpa using hsub.length_le
  have hsame (heq : ((s.course events).happen e).channel.waiters
      = (s.course events).channel.waiters) : False := hfewer (heq ▸ List.Sublist.refl _)
  have hfilter {p : Int32 × Waiter σ → Bool} (heq : ((s.course events).happen e).channel.waiters
      = (s.course events).channel.waiters.filter p) : False := by
    refine hfewer ?_
    rw [heq]
    exact List.filter_sublist
  cases hshift with
  | places ticket frameId' _ _ hcoming _ _ hticket _ hentries =>
      rw [hentries] at hadded
      cases List.append_cancel_left hadded
      exact ⟨ticket, rfl, hcoming, hticket⟩
  | keeps _ _ hentries => exact (hsame hentries).elim
  | numbers _ _ _ _ _ _ _ hentries => exact (hsame hentries).elim
  | drops _ _ _ _ _ _ _ _ hentries => exact (hfilter hentries).elim
  | shuts _ _ hentries =>
      refine (hfewer ?_).elim
      rw [hentries]
      exact List.nil_sublist _
  | delivers _ _ _ _ _ _ hentries => exact (hfilter hentries).elim
  | settles _ _ _ _ _ hentries =>
      rcases hentries with hentries | ⟨hentries, -⟩
      · exact (hfilter hentries).elim
      · exact (hsame hentries).elim

theorem registered_concat (h : Tracked s events) (hshift : (s.course events).Shift e) (n : Nat)
    (frameId : Int32) (w : Waiter σ) (hregisters : s.Registers (events ++ [e]) n frameId w) :
    ∃ ticket, w = .handle ticket ∧
      ticket < ((s.course events).happen e).channel.nextTicket ∧
        ticket ∉ ((s.course events).happen e).coming.map Prod.fst := by
  rcases registers_concat.mp hregisters with hbefore | ⟨-, hadded⟩
  · obtain ⟨ticket, hw, hlt, hcoming⟩ := h.registered n frameId w hbefore
    refine ⟨ticket, hw, ?_⟩
    have hkept (hkept : Kept (s.course events) ((s.course events).happen e)) :
        ticket < ((s.course events).happen e).channel.nextTicket ∧
          ticket ∉ ((s.course events).happen e).coming.map Prod.fst := by
      refine ⟨Nat.lt_of_lt_of_le hlt hkept.nextTicket, fun hmem => hcoming ?_⟩
      exact List.map_subset _ hkept.coming.subset hmem
    cases hshift with
    | keeps hkept' => exact hkept hkept'
    | shuts hkept' => exact hkept hkept'
    | delivers _ _ hkept' => exact hkept hkept'
    | settles _ hkept' => exact hkept hkept'
    | numbers _ _ hcoming' _ _ _ hticket =>
        refine ⟨by omega, fun hmem => ?_⟩
        rcases List.mem_cons.mp (List.map_subset _ hcoming'.subset hmem) with heq | hmem
        · exact absurd heq (Nat.ne_of_lt hlt)
        · exact hcoming hmem
    | places _ _ _ _ hcoming' _ _ hticket =>
        refine ⟨hticket ▸ hlt, fun hmem => hcoming ?_⟩
        refine List.map_subset _ hcoming'.symm.subset ?_
        exact List.mem_cons_of_mem _ hmem
    | drops _ _ _ _ hcoming' _ _ hticket =>
        exact ⟨hticket ▸ hlt, fun hmem => hcoming (List.map_subset _ hcoming'.subset hmem)⟩
  · obtain ⟨ticket, rfl, hcoming, hticket⟩ :=
      of_shift_append hshift ((registration?_eq_some _).mp hadded)
    refine ⟨ticket, rfl, ?_, ?_⟩
    · obtain ⟨issued, hissues, hsub⟩ := h.issued
      have hmem := hsub.subset (List.mem_append_right _ (hcoming.symm.subset List.mem_cons_self))
      obtain ⟨w, hw, heq⟩ := List.mem_map.mp hmem
      have hlt := hissues.bound w hw
      rw [hticket]
      cases heq
      exact hlt
    · have hnodup := h.nodup.1
      rw [List.map_append] at hnodup
      have hnodup := (hcoming.map Prod.fst).nodup_iff.mp (List.nodup_append.mp hnodup).2.1
      exact (List.nodup_cons.mp hnodup).1

theorem once_concat (h : Tracked s events) (hshift : (s.course events).Shift e)
    (n n' : Nat) (frameId frameId' : Int32) (ticket : Nat)
    (hregisters : s.Registers (events ++ [e]) n frameId (.handle ticket))
    (hregisters' : s.Registers (events ++ [e]) n' frameId' (.handle ticket)) : n = n' := by
  -- whoever is put into the table was not there before
  have hnew {k : Nat} {id id' : Int32} (hbefore : s.Registers events k id (.handle ticket))
      (hadded : (s.course events).registration? e = some (id', .handle ticket)) : False := by
    obtain ⟨ticket', hw, -, hnone⟩ := h.registered k id _ hbefore
    obtain ⟨ticket'', hw', hcoming, -⟩ :=
      of_shift_append hshift ((registration?_eq_some _).mp hadded)
    cases hw
    cases hw'
    exact hnone (List.mem_map.mpr ⟨_, hcoming.symm.subset List.mem_cons_self, rfl⟩)
  rcases registers_concat.mp hregisters with hbefore | ⟨rfl, hadded⟩
  · rcases registers_concat.mp hregisters' with hbefore' | ⟨-, hadded'⟩
    · exact h.once n n' frameId frameId' ticket hbefore hbefore'
    · exact (hnew hbefore hadded').elim
  · rcases registers_concat.mp hregisters' with hbefore' | ⟨rfl, -⟩
    · exact (hnew hbefore' hadded).elim
    · rfl

theorem enrolled_concat (h : Tracked s events) (hshift : (s.course events).Shift e)
    (ticket : Nat) (frameId : Int32)
    (howns : (ticket, frameId) ∈ ((s.course events).happen e).owners) :
    ∃ n, s.Registers (events ++ [e]) n frameId (.handle ticket) := by
  have hbefore (howns : (ticket, frameId) ∈ (s.course events).owners) :
      ∃ n, s.Registers (events ++ [e]) n frameId (.handle ticket) := by
    obtain ⟨n, hregisters⟩ := h.enrolled ticket frameId howns
    exact ⟨n, registers_concat.mpr (Or.inl hregisters)⟩
  cases hshift with
  | keeps hkept => exact hbefore (hkept.owners.subset howns)
  | shuts hkept => exact hbefore (hkept.owners.subset howns)
  | delivers _ _ hkept => exact hbefore (hkept.owners.subset howns)
  | settles _ hkept => exact hbefore (hkept.owners.subset howns)
  | numbers _ howners => exact hbefore (howners.subset howns)
  | drops _ _ _ howners => exact hbefore (howners.symm.subset (List.mem_cons_of_mem _ howns))
  | places ticket' frameId' _ howners _ _ _ _ _ hwaiters =>
      rcases List.mem_cons.mp (howners.subset howns) with heq | howns
      · cases heq
        have hnow := (registration?_eq_some _).mpr hwaiters
        exact ⟨events.length, registers_concat.mpr (Or.inr ⟨rfl, hnow⟩)⟩
      · exact hbefore howns

/-- Nobody has swept the table by the time that the channel is closed. -/
theorem swept_of_open (hshift : (s.course events).Shift e)
    (hopen : (s.course events).channel.isOpen = true)
    (hclosed : ((s.course events).happen e).channel.isOpen = false)
    (hswept : s.Swept (events ++ [e])) : ((s.course events).happen e).channel.waiters = [] := by
  have hcloses (hstays : ((s.course events).happen e).channel.isOpen
      = (s.course events).channel.isOpen) : False := by
    cases (hclosed.symm.trans hstays).trans hopen
  cases hshift with
  | keeps _ _ _ hstays =>
      rcases hstays with hstays | rfl
      · exact (hcloses hstays).elim
      · -- nothing has come after this event, so nobody has swept
        obtain ⟨k, hk, hclear⟩ := hswept events.length List.getElem?_concat_length (by
          rwa [s.moment_append (Nat.le_refl _), moment_length])
        have hlt := (List.getElem?_eq_some_iff.mp hclear).1
        rw [List.length_append, List.length_singleton] at hlt
        omega
  | numbers _ _ _ _ _ _ _ _ hstays => exact (hcloses hstays).elim
  | places _ _ _ _ _ _ _ _ _ _ hstays => exact (hcloses hstays).elim
  | drops _ _ _ _ _ _ _ _ _ hstays => exact (hcloses hstays).elim
  | shuts _ _ hentries => exact hentries
  | delivers _ _ _ _ _ _ _ hstays => exact (hcloses hstays).elim
  | settles _ _ _ _ _ _ hstays => exact (hcloses hstays).elim

/-- On a channel that was closed before, what waits is the handle of a call that is
yet to find it closed, as it was before. -/
theorem swept_of_closed (hshift : (s.course events).Shift e)
    (hclosed : (s.course events).channel.isOpen = false)
    (hbefore : ∀ x ∈ (s.course events).channel.waiters, ∃ ticket, x.2 = .handle ticket ∧
      (ticket, x.1) ∈ (s.course events).confirming) :
    ∀ x ∈ ((s.course events).happen e).channel.waiters, ∃ ticket, x.2 = .handle ticket ∧
      (ticket, x.1) ∈ ((s.course events).happen e).confirming := by
  intro x hx
  have hstays (hx : x ∈ (s.course events).channel.waiters)
      (hconfirming : (s.course events).confirming
        ⊆ ((s.course events).happen e).confirming) :
      ∃ ticket, x.2 = .handle ticket ∧
        (ticket, x.1) ∈ ((s.course events).happen e).confirming := by
    obtain ⟨ticket, hhandle, hmem⟩ := hbefore x hx
    exact ⟨ticket, hhandle, hconfirming hmem⟩
  cases hshift with
  | keeps hkept _ hentries =>
      rw [hentries] at hx
      exact hstays hx (hkept.confirming hclosed)
  | numbers _ _ _ hconfirming _ _ _ hentries =>
      rw [hentries] at hx
      exact hstays hx hconfirming
  | places ticket frameId _ _ _ hconfirming _ _ _ hentries =>
      rw [hentries] at hx
      rcases List.mem_append.mp hx with hx | hx
      · exact hstays hx fun _ hy => hconfirming (List.mem_cons_of_mem _ hy)
      · rw [List.mem_singleton.mp hx]
        exact ⟨ticket, rfl, hconfirming List.mem_cons_self⟩
  | drops ticket frameId _ _ _ hconfirming _ _ hentries =>
      rw [hentries] at hx
      obtain ⟨hx, hother⟩ := List.mem_filter.mp hx
      obtain ⟨ticket', hhandle, hmem⟩ := hbefore x hx
      refine ⟨ticket', hhandle, ?_⟩
      rcases List.mem_cons.mp (hconfirming hmem) with heq | hmem
      · cases heq
        simp at hother
      · exact hmem
  | shuts _ _ hentries =>
      rw [hentries] at hx
      cases hx
  | delivers _ _ hkept _ _ _ hentries =>
      rw [hentries] at hx
      exact hstays (List.mem_of_mem_filter hx) (hkept.confirming hclosed)
  | settles _ hkept _ _ _ hentries =>
      rcases hentries with hentries | ⟨hentries, -⟩
      · rw [hentries] at hx
        exact hstays (List.mem_of_mem_filter hx) (hkept.confirming hclosed)
      · rw [hentries] at hx
        exact hstays hx (hkept.confirming hclosed)

/-- A closed channel whose table was just cleared has nothing in it. -/
theorem waiters_clearWaiters {s : Side σ}
    (hclosed : (s.happen (.act .clearWaiters)).channel.isOpen = false) :
    (s.happen (.act .clearWaiters)).channel.waiters = [] := by
  have hhappen : (s.happen (.act .clearWaiters)).channel
      = if permits s.channel .clearWaiters then s.channel.clearWaiters else s.channel := by
    rw [happen, apply_ite Side.channel]
    rfl
  rw [hhappen, permits] at hclosed ⊢
  cases hopen : s.channel.isOpen with
  | true =>
      rw [hopen] at hclosed
      cases hopen.symm.trans hclosed
  | false => rfl

theorem swept_concat (h : Tracked s events) (hshift : (s.course events).Shift e)
    (hclosed : ((s.course events).happen e).channel.isOpen = false)
    (hswept : s.Swept (events ++ [e])) :
    ∀ x ∈ ((s.course events).happen e).channel.waiters, ∃ ticket, x.2 = .handle ticket ∧
      (ticket, x.1) ∈ ((s.course events).happen e).confirming := by
  by_cases he : e = .act .clearWaiters
  · subst he
    rw [waiters_clearWaiters hclosed]
    exact List.forall_mem_nil _
  cases hopen : (s.course events).channel.isOpen with
  | true =>
      rw [swept_of_open hshift hopen hclosed hswept]
      exact List.forall_mem_nil _
  | false => exact swept_of_closed hshift hopen (h.swept hopen (hswept.of_concat he))

/-- **One event more**, where no listeners are added but those of requests. -/
theorem concat (h : Tracked s events) (hwaiters : s.channel.waiters = [])
    (hresponses : s.channel.responses = [])
    (he : ∀ frameId run, e ≠ .act (.listen frameId run)) : Tracked s (events ++ [e]) := by
  have hshift := (s.course events).shift h.orderly he
  have hflip : e = .act .flip → ((s.course events).happen e).channel.isOpen = false := by
    rintro rfl
    rfl
  exact {
    orderly := by
      rw [course_concat]
      exact (s.course events).orderly_happen h.orderly e
    issued := by
      rw [course_concat]
      exact h.issued_concat hshift
    keys := by
      rw [course_concat]
      exact h.keys_concat hshift
    owned := by
      rw [course_concat]
      exact h.owned_concat hwaiters hresponses hshift
    kept := by
      rw [course_concat]
      exact h.kept_concat hshift hflip
    registered := by
      rw [course_concat]
      exact h.registered_concat hshift
    once := h.once_concat hshift
    enrolled := by
      rw [course_concat]
      exact h.enrolled_concat hshift
    settled := by
      rw [course_concat]
      exact h.settled_concat
    answered := by
      rw [course_concat]
      exact h.answered_concat
    swept := by
      rw [course_concat]
      exact h.swept_concat hshift }

end Tracked

/-- **The table is tied to the requests throughout a course** in which no
listeners are added but those of requests. -/
theorem tracked_course (registry : Registry) (config : ChannelConfig) (writes : List WriteTurn)
    (flushes : List FlushTurn) (app : σ) {events : List (Event σ)}
    (hevents : ∀ frameId run, .act (.listen frameId run) ∉ events) :
    Tracked (created registry config writes flushes app) events := by
  induction events using List.reverseRecOn with
  | nil =>
      have hnone {n : Nat} {frameId : Int32} {w : Waiter σ} :
          ¬ (created registry config writes flushes app).Registers [] n frameId w :=
        fun hregisters => nomatch hregisters.lt_length
      exact {
        orderly := ⟨List.forall_mem_nil _, List.forall_mem_nil _⟩
        issued := ⟨[], ⟨rfl, Nat.zero_le _, List.nodup_nil, List.forall_mem_nil _⟩,
          List.Subperm.refl _⟩
        keys := List.nodup_nil
        owned := List.forall_mem_nil _
        kept := fun _ _ _ howns => nomatch howns
        registered := fun _ _ _ hregisters => (hnone hregisters).elim
        once := fun _ _ _ _ _ hregisters => (hnone hregisters).elim
        enrolled := fun _ _ howns => nomatch howns
        settled := fun _ _ hsettles => nomatch hsettles
        answered := List.forall_mem_nil _
        swept := fun _ _ => List.forall_mem_nil _ }
  | append_singleton events e ih =>
      have hbefore : ∀ frameId run, Event.act (.listen frameId run) ∉ events :=
        fun frameId run hmem => hevents frameId run (List.mem_append_left _ hmem)
      refine (ih hbefore).concat rfl rfl ?_
      rintro frameId run rfl
      exact hevents frameId run (List.mem_append_right _ (List.mem_singleton_self _))

/-! ### The table and the handles -/

namespace Tracked

/-- What waits on a frame id of an open channel is the handle of the request that
has the frame id, for as long as that can be delivered to. -/
theorem hasWaiter_iff (h : Tracked s events) (hwaiters : s.channel.waiters = [])
    (hresponses : s.channel.responses = []) (hopen : (s.course events).channel.isOpen = true)
    (frameId : Int32) :
    (s.course events).channel.hasWaiter frameId = true ↔
      ∃ ticket, (ticket, frameId) ∈ (s.course events).owners ∧
        (∀ n, ¬ s.Settles events n ticket) ∧ s.Pends events ticket frameId := by
  constructor
  · intro hwaits
    obtain ⟨w, hw⟩ := (s.course events).channel.hasWaiter_eq_true.mp hwaits
    obtain ⟨ticket, hhandle, howns, hunsettled⟩ := h.owned _ hw
    refine ⟨ticket, howns, hunsettled, ?_⟩
    have hid : frameId ≠ broadcastId := by
      obtain ⟨issued, hissues, hsub⟩ := h.issued
      obtain ⟨i, hi, heq⟩ := List.mem_map.mp (hsub.subset (List.mem_append_left _ howns))
      cases heq
      exact hissues.ne_broadcastId hi
    obtain ⟨waiting, due, made, hattributed⟩ := attributed_course hwaiters hresponses events
    rw [← hattributed.table] at hw
    obtain ⟨⟨n, frameId, w⟩, hwaiting, heq⟩ := List.mem_map.mp hw
    cases heq
    cases hhandle
    have hwaits := hattributed.waits _ hwaiting
    exact ⟨n, hwaits.registers, fun k m hk => hwaits.first hid k hk m⟩
  · rintro ⟨ticket, howns, hunsettled, hpends⟩
    have hmem := h.kept hopen ticket frameId howns hunsettled hpends
    exact (s.course events).channel.hasWaiter_eq_true.mpr ⟨_, hmem⟩

theorem nodup_owners (h : Tracked s events) :
    ((s.course events).owners.map Prod.fst).Nodup ∧
      ((s.course events).owners.map Prod.snd).Nodup := by
  obtain ⟨hfst, hsnd⟩ := h.nodup
  rw [List.map_append] at hfst hsnd
  exact ⟨(List.nodup_append.mp hfst).1, (List.nodup_append.mp hsnd).1⟩

/-- The handle of a call that is under way is not settled. -/
theorem unsettled_of_placed (h : Tracked s events) {ticket : Nat} {frameId : Int32}
    (hplaced : (ticket, frameId) ∈ (s.course events).errands.filterMap Stage.placed?) (n : Nat) :
    ¬ s.Settles events n ticket := by
  intro hsettles
  obtain ⟨frameId', hasked⟩ := h.settled n ticket hsettles
  have hnodup := h.nodup_owners.1
  rw [owners, List.map_append] at hnodup
  exact List.disjoint_of_nodup_append hnodup (List.mem_map.mpr ⟨_, hasked, rfl⟩)
    (List.mem_map.mpr ⟨_, hplaced, rfl⟩)

theorem hasWaiter_iff_unanswered (h : Tracked s events) (hwaiters : s.channel.waiters = [])
    (hresponses : s.channel.responses = []) (hopen : (s.course events).channel.isOpen = true)
    (frameId : Int32) :
    (s.course events).channel.hasWaiter frameId = true ↔
      (∃ a, s.Unanswered events a ∧ a.handle.frameId = frameId) ∨
        ∃ ticket, (ticket, frameId) ∈ (s.course events).errands.filterMap Stage.placed? ∧
          s.Pends events ticket frameId := by
  rw [h.hasWaiter_iff hwaiters hresponses hopen]
  constructor
  · rintro ⟨ticket, howns, hunsettled, hpends⟩
    rcases List.mem_append.mp howns with hasked | hplaced
    · obtain ⟨a, ha, heq⟩ := List.mem_map.mp hasked
      cases heq
      exact Or.inl ⟨a, ⟨ha, hunsettled, hpends⟩, rfl⟩
    · exact Or.inr ⟨ticket, hplaced, hpends⟩
  · rintro (⟨a, ha, rfl⟩ | ⟨ticket, hplaced, hpends⟩)
    · exact ⟨_, token_mem_owners ha.asked, ha.unsettled, ha.pends⟩
    · exact ⟨ticket, List.mem_append_right _ hplaced, h.unsettled_of_placed hplaced, hpends⟩

/-- The count of what waits is the count of the handles, once their frame ids are the same. -/
theorem pendingReplies_eq (h : Tracked s events)
    (hids : {frameId | (s.course events).channel.hasWaiter frameId = true}
      = (fun a => a.handle.frameId) '' {a | s.Unanswered events a}) :
    (s.course events).channel.pendingReplies = {a | s.Unanswered events a}.ncard := by
  have hinjective : Set.InjOn (fun a : Asked => a.handle.frameId) {a | s.Unanswered events a} := by
    have hnodup := h.nodup_owners.2
    rw [owners, List.map_append, List.map_map] at hnodup
    intro a ha b hb heq
    exact List.inj_on_of_nodup_map (List.nodup_append.mp hnodup).1 ha.asked hb.asked heq
  have htable : {frameId | (s.course events).channel.hasWaiter frameId = true}
      = ((s.course events).channel.waiters.map Prod.fst).toFinset := by
    ext frameId
    rw [Set.mem_ofPred_eq, Finset.mem_coe, List.mem_toFinset,
      (s.course events).channel.hasWaiter_eq_true]
    simp
  rw [← hinjective.ncard_image, ← hids, htable, Set.ncard_coe_finset,
    List.toFinset_card_of_nodup h.keys, List.length_map]
  rfl

end Tracked

/-- **Where only requests wait for messages, none waits longer than it has to.**
Whatever happens to a channel, each handle that was given out was made to wait by
a step of its request. The frame ids in the table while the channel is open are
those of the handles that exist, are not settled and have not been delivered to
since that step, and those of calls under way that have put theirs there. Between
calls to request the table has just the frame ids of such handles, as many as the
channel says are pending, and is empty once the channel was closed and swept. A
request that fails leaves the table as it was. -/
theorem table_of_handles (registry : Registry) (config : ChannelConfig)
    (writes : List WriteTurn) (flushes : List FlushTurn) (app : σ) (events : List (Event σ))
    (hevents : ∀ frameId run, .act (.listen frameId run) ∉ events) :
    let s := created registry config writes flushes app
    let now := s.course events
    (∀ a ∈ now.asked, ∃ n, s.Registers events n a.handle.frameId (.handle a.handle.ticket)) ∧
    (now.channel.isOpen = true → ∀ frameId, now.channel.hasWaiter frameId = true ↔
      (∃ a, s.Unanswered events a ∧ a.handle.frameId = frameId) ∨
        ∃ ticket, (ticket, frameId) ∈ now.errands.filterMap Stage.placed? ∧
          s.Pends events ticket frameId) ∧
    ((∀ e ∈ now.errands, e.1.awaitsReply = false) →
      (now.channel.isOpen = true →
        {frameId | now.channel.hasWaiter frameId = true}
            = (fun a => a.handle.frameId) '' {a | s.Unanswered events a} ∧
          now.channel.pendingReplies = {a | s.Unanswered events a}.ncard) ∧
      (now.channel.isOpen = false → s.Swept events → now.channel.waiters = [])) ∧
    ∀ (c : Channel σ) (r : RequestType) (payload : r.Payload) (e : ChannelError),
      (c.request r payload).1 = .error e → (c.request r payload).2.waiters = c.waiters := by
  intro s now
  have h : Tracked s events := tracked_course registry config writes flushes app hevents
  refine ⟨fun a ha => h.enrolled _ _ (Tracked.token_mem_owners ha),
    h.hasWaiter_iff_unanswered rfl rfl, fun hidle => ?_,
    fun c r payload e herror => c.waiters_request_of_error r payload herror⟩
  have hplaced : now.errands.filterMap Stage.placed? = [] := by
    refine List.filterMap_eq_nil_iff.mpr fun e he => ?_
    have hawaits := hidle e he
    have hsound := h.orderly.errands e he
    obtain ⟨order, stage⟩ := e
    cases stage with
    | confirm ticket frameId => cases hawaits.symm.trans hsound.1
    | enqueue ticket frameId =>
        rw [Stage.placed?, hawaits]
        rfl
    | _ => rfl
  constructor
  · intro hopen
    have hids : {frameId | now.channel.hasWaiter frameId = true}
        = (fun a => a.handle.frameId) '' {a | s.Unanswered events a} := by
      ext frameId
      rw [Set.mem_ofPred_eq, h.hasWaiter_iff_unanswered rfl rfl hopen, hplaced]
      simp
    exact ⟨hids, h.pendingReplies_eq hids⟩
  · intro hclosed hswept
    refine List.eq_nil_iff_forall_not_mem.mpr fun x hx => ?_
    obtain ⟨ticket, -, hconfirming⟩ := h.swept hclosed hswept x hx
    obtain ⟨e, he, heq⟩ := List.mem_filterMap.mp hconfirming
    have hnone : e ∈ now.errands → Stage.placed? e = none :=
      List.filterMap_eq_nil_iff.mp hplaced e
    cases (hnone he).symm.trans (Stage.placed?_of_confirming? heq)

/-- Of two requests, one is answered. -/
theorem one_handle_unanswered :
    let s : Side Unit := created .catalog {} [] [] ()
    let ask : List (Event Unit) :=
      .act (.call (.request .ping ())) :: List.replicate 6 (.act (.advance 0))
    let reply : Arrival := .data (Frame.mk 0 (MessageType.reply .ping).wireId []).bytes
    let events := .start true :: (ask ++ ask ++ [.act (.arrive reply), .act .read])
    (s.course events).channel.pendingReplies = 1 ∧
      (fun a => a.handle.frameId) '' {a | s.Unanswered events a} = {1} ∧
      {a | s.Unanswered events a}.ncard = 1 := by
  intro s ask reply events
  have hevents : ∀ frameId run, .act (.listen frameId run) ∉ events := by
    intro frameId run
    simp [events, ask]
  have hidle : ∀ e ∈ (s.course events).errands, e.1.awaitsReply = false := by decide +kernel
  have hopen : (s.course events).channel.isOpen = true := by decide +kernel
  have hpending : (s.course events).channel.pendingReplies = 1 := by decide +kernel
  have hids : (s.course events).channel.waiters.map Prod.fst = [1] := by decide +kernel
  obtain ⟨hids', hcount⟩ :=
    ((table_of_handles .catalog {} [] [] () events hevents).2.2.1 hidle).1 hopen
  refine ⟨hpending, ?_, hcount.symm.trans hpending⟩
  rw [← hids']
  ext frameId
  have hmem : frameId ∈ (s.course events).channel.waiters.map Prod.fst ↔ frameId = 1 := by
    rw [hids, List.mem_singleton]
  rw [Set.mem_ofPred_eq, Channel.hasWaiter_eq_true, Set.mem_singleton_iff, ← hmem, List.mem_map]
  constructor
  · rintro ⟨w, hw⟩
    exact ⟨_, hw, rfl⟩
  · rintro ⟨x, hx, rfl⟩
    exact ⟨x.2, hx⟩

end Tracking

end Side

end Parley
