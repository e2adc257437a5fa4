/-
What a broadcast to a fleet does.

Channels are made known to a fleet, join and leave it, are closed, and work on
their own in between (`Fleet.Reached`). However a fleet has come about, a
broadcast is queued once on every member that is open and knows its type, on
the frame id of broadcasts, and nothing else happens to any channel
(`Fleet.broadcast_fans_out`). Those members are the ones that stay. So an open
channel whose registry does not know the type is dropped with the closed ones.
-/
import Parley.Server.Fleet
import Parley.Proofs.Channel.Afloat

namespace Parley

variable {σ : Type}

/-! ### Broadcasts on one channel -/

namespace Channel

variable {c : Channel σ} {m : Message}

/-- The type of a message is registered. -/
def knows (c : Channel σ) (m : Message) : Bool := (c.registry.lookupFor m).isOk

/-- A channel that is open and knows the type of a message takes it. -/
def takes (c : Channel σ) (m : Message) : Bool := c.isOpen && c.knows m

/-- One more message waits to be written on the frame id of broadcasts. -/
def queued (c : Channel σ) (m : Message) : Channel σ :=
  { c with
    nextTicket := c.nextTicket + 1
    queue := c.queue ++ [⟨c.nextTicket, broadcastId, m⟩] }

theorem checkSend_eq_ok : c.checkSend m = .ok () ↔ c.takes m = true := by
  rw [checkSend, takes, knows, checkOpen]
  cases c.registry.lookupFor m with
  | error e => simp [Except.isOk, Except.toBool]
  | ok entry => cases c.isOpen <;> simp [Except.isOk, Except.toBool]

/-- A broadcast is queued on a channel that takes it and leaves any other alone. -/
theorem write_broadcast (hafloat : c.Afloat) (hkind : m.kind = .broadcast) :
    c.takes m = true ∧ (∃ w, c.write m = (.ok w, c.queued m)) ∨
      c.takes m = false ∧ ∃ e, c.write m = (.error e, c) := by
  cases hsend : c.checkSend m with
  | error e =>
      have hrefuses : c.takes m = false := by
        refine Bool.eq_false_iff.mpr fun htakes => ?_
        cases hsend.symm.trans (checkSend_eq_ok.mpr htakes)
      exact Or.inr ⟨hrefuses, e, by rw [write, hsend]⟩
  | ok u =>
      have htakes := checkSend_eq_ok.mp hsend
      have hopen : c.isOpen = true := (Bool.and_eq_true_iff.mp htakes).1
      have hwrites : c.takeTicket.2.takesWrites = true := (hafloat.takes hopen).1
      refine Or.inl ⟨htakes, ⟨c.nextTicket, broadcastId⟩, ?_⟩
      rw [write, hsend]
      dsimp only
      rw [if_pos hkind, enqueue, if_pos hwrites]
      rfl

theorem afloat_queued (h : c.Afloat) (m : Message) : (c.queued m).Afloat :=
  Holds.afloat (.of_rig rfl) h

end Channel

/-! ### Fleets over time -/

namespace Fleet

variable {f : Fleet σ} {m : Message} {number : Nat}

/-- The fleets that can come about. Between the operations on a fleet, its
channels do whatever channels do. -/
inductive Reached : Fleet σ → Prop
  | empty : Reached {}
  | add {f : Fleet σ} (h : Reached f) (registry : Registry) (config : ChannelConfig)
      (source : Source) (sink : Sink) : Reached (f.add (.create registry config source sink)).2
  | insert {f : Fleet σ} {number : Nat} (h : Reached f) (hknown : number < f.channels.length) :
      Reached (f.insert number)
  | remove {f : Fleet σ} (h : Reached f) (number : Nat) : Reached (f.remove number).2
  | prune {f : Fleet σ} (h : Reached f) : Reached f.prune.2
  | broadcast {f : Fleet σ} (h : Reached f) (m : Message) : Reached (f.broadcast m).2
  | close {f : Fleet σ} (h : Reached f) (number : Nat) : Reached (f.act number (·.shutdown)).2
  | closeAll {f : Fleet σ} (h : Reached f) : Reached f.closeAll
  | work {f : Fleet σ} {number : Nat} {s : Side σ} (h : Reached f)
      (hside : f.channels[number]? = some s.channel) (e : Side.Event σ) :
      Reached { f with channels := f.channels.set number (s.happen e).channel }

/-- Members are distinct, their channels are known, and every channel is afloat. -/
structure Sound (f : Fleet σ) : Prop where
  nodup : f.members.Nodup
  known : ∀ number ∈ f.members, number < f.channels.length
  afloat : ∀ c ∈ f.channels, c.Afloat

/-- The channel of a number takes a message. -/
def takes (f : Fleet σ) (m : Message) (number : Nat) : Bool :=
  f.channels[number]?.any (·.takes m)

/-- Doing something to a channel leaves all others alone. -/
theorem getElem?_act {α : Type} (f : Fleet σ) (number : Nat) (g : Channel σ → α × Channel σ)
    (other : Nat) :
    (f.act number g).2.channels[other]?
      = f.channels[other]?.map fun c => if other = number then (g c).2 else c := by
  unfold act
  cases hknown : f.channels[number]? with
  | none =>
      dsimp only
      by_cases heq : other = number
      · rw [heq, hknown]
        rfl
      · simp [heq]
  | some c =>
      dsimp only
      rw [List.getElem?_set]
      by_cases heq : number = other
      · subst heq
        obtain ⟨hlt, -⟩ := List.getElem?_eq_some_iff.mp hknown
        rw [if_pos rfl, if_pos hlt, hknown, Option.map_some, if_pos rfl]
      · simp [heq, Ne.symm heq]

namespace Sound

theorem afloat_of_getElem? (h : f.Sound) {c : Channel σ} (hc : f.channels[number]? = some c) :
    c.Afloat := h.afloat c (List.mem_of_getElem? hc)

/-- Fleets differ in the members that they keep. -/
theorem of_sublist (h : f.Sound) {members : List Nat} (hsub : members.Sublist f.members) :
    ({ f with members } : Fleet σ).Sound where
  nodup := h.nodup.sublist hsub
  known := fun number hnumber => h.known number (hsub.subset hnumber)
  afloat := h.afloat

theorem of_set (h : f.Sound) (number : Nat) {c : Channel σ} (hc : c.Afloat) :
    ({ f with channels := f.channels.set number c } : Fleet σ).Sound where
  nodup := h.nodup
  known := fun other hother => by
    rw [List.length_set]
    exact h.known other hother
  afloat := fun c' hc' => by
    rcases List.mem_or_eq_of_mem_set hc' with hold | rfl
    · exact h.afloat c' hold
    · exact hc

theorem act {α : Type} (h : f.Sound) (number : Nat) {g : Channel σ → α × Channel σ}
    (hg : ∀ c : Channel σ, c.Afloat → (g c).2.Afloat) : (f.act number g).2.Sound := by
  unfold Fleet.act
  split
  next c hc => exact h.of_set number (hg c (h.afloat_of_getElem? hc))
  · exact h

theorem add (h : f.Sound) {c : Channel σ} (hc : c.Afloat) : (f.add c).2.Sound where
  nodup := h.nodup
  known := fun number hnumber => by
    have hlt := h.known number hnumber
    simp only [Fleet.add, List.length_append]
    omega
  afloat := List.forall_mem_append.mpr ⟨h.afloat, by simpa using hc⟩

theorem insert (h : f.Sound) (hknown : number < f.channels.length) : (f.insert number).Sound := by
  unfold Fleet.insert
  split
  · exact h
  next hnew =>
    refine ⟨?_, ?_, h.afloat⟩
    · exact List.nodup_append.mpr ⟨h.nodup, List.nodup_singleton _,
        fun a ha b hb => by
          rw [List.mem_singleton.mp hb]
          rintro rfl
          exact hnew ha⟩
    · exact List.forall_mem_append.mpr ⟨h.known, by simpa using hknown⟩

end Sound

/-! ### The offer to one member after another -/

/-- An offer to one channel is taken, and queued, if the channel takes it. -/
theorem act_write (h : f.Sound) (hkind : m.kind = .broadcast) (number : Nat) :
    (f.takes m number = true ∧ (∃ w, (f.act number (·.write m)).1 = some (.ok w)) ∨
      f.takes m number = false ∧ ∀ w, (f.act number (·.write m)).1 ≠ some (.ok w)) ∧
    ∀ other, (f.act number (·.write m)).2.channels[other]?
      = f.channels[other]?.map fun c =>
          if other = number ∧ c.takes m = true then c.queued m else c := by
  constructor
  · rw [takes, act]
    cases hc : f.channels[number]? with
    | none => exact Or.inr ⟨rfl, fun w hw => nomatch hw⟩
    | some c =>
        rcases Channel.write_broadcast (h.afloat_of_getElem? hc) hkind with
          ⟨htakes, w, heq⟩ | ⟨hrefuses, e, heq⟩
        · exact Or.inl ⟨htakes, w, by dsimp only; rw [heq]⟩
        · refine Or.inr ⟨hrefuses, fun w hw => ?_⟩
          dsimp only at hw
          rw [heq] at hw
          cases hw
  · intro other
    rw [getElem?_act]
    refine Option.map_congr fun c hc => ?_
    rcases Channel.write_broadcast (h.afloat_of_getElem? hc) hkind with
      ⟨htakes, w, heq⟩ | ⟨hrefuses, e, heq⟩
    · simp [htakes, heq]
    · simp [hrefuses, heq]

theorem Sound.write (h : f.Sound) (hkind : m.kind = .broadcast) (number : Nat) :
    (f.act number (·.write m)).2.Sound := by
  refine h.act number fun c hc => ?_
  rcases Channel.write_broadcast hc hkind with ⟨-, w, heq⟩ | ⟨-, e, heq⟩
  · rw [heq]
    exact Channel.afloat_queued hc m
  · rwa [heq]

/-- **What is offered to some members is queued on those of them that take it.** -/
theorem offer_eq (hkind : m.kind = .broadcast) {numbers : List Nat} (hsound : f.Sound)
    (hnodup : numbers.Nodup) :
    (offer m numbers f).1 = numbers.filter (f.takes m) ∧
      (∀ number, (offer m numbers f).2.channels[number]?
        = f.channels[number]?.map fun c =>
            if number ∈ numbers ∧ c.takes m = true then c.queued m else c) := by
  induction numbers generalizing f with
  | nil => exact ⟨rfl, fun number => by simp [offer]⟩
  | cons number rest ih =>
      obtain ⟨hnew, hrest⟩ := List.nodup_cons.mp hnodup
      obtain ⟨htaken, hqueued⟩ := act_write hsound hkind number
      obtain ⟨htakers, hchannels⟩ := ih (hsound.write hkind number) hrest
      -- the offer to one channel changes nothing for the others
      have hothers : rest.filter ((f.act number (·.write m)).2.takes m)
          = rest.filter (f.takes m) := by
        refine List.filter_congr fun other hmem => ?_
        have hne : other ≠ number := fun heq => hnew (heq ▸ hmem)
        rw [takes, hqueued, takes]
        simp [hne]
      have hfleet : (offer m (number :: rest) f).2
          = (offer m rest (f.act number (·.write m)).2).2 := by
        rw [offer]
        dsimp only
        split <;> rfl
      have htaker : (offer m (number :: rest) f).1
          = if f.takes m number then number :: rest.filter (f.takes m)
            else rest.filter (f.takes m) := by
        rw [offer, ← hothers, ← htakers]
        dsimp only
        rcases htaken with ⟨htakes, w, hw⟩ | ⟨hrefuses, hnone⟩
        · rw [htakes, hw]
          rfl
        · rw [hrefuses]
          split
          next w hw => exact absurd hw (hnone w)
          next => rfl
      refine ⟨?_, ?_⟩
      · rw [htaker, List.filter_cons]
      · intro other
        rw [hfleet, hchannels, hqueued, Option.map_map]
        refine Option.map_congr fun c _ => ?_
        by_cases heq : other = number
        · subst heq
          simp [hnew]
        · simp [heq]

/-! ### Fleets that come about -/

theorem takes_iff {number : Nat} :
    f.takes m number = true ↔ ∃ c, f.channels[number]? = some c ∧ c.takes m = true := by
  rw [takes, Option.any_eq_true]

/-- What a broadcast leads to. -/
theorem broadcast_eq (hsound : f.Sound) (hkind : m.kind = .broadcast) :
    (f.broadcast m).1 = (f.members.filter (f.takes m)).length ∧
      (f.broadcast m).2.members = f.members.filter (f.takes m) ∧
      ∀ number, (f.broadcast m).2.channels[number]?
        = f.channels[number]?.map fun c =>
            if number ∈ f.members ∧ c.takes m = true then c.queued m else c := by
  obtain ⟨htakers, hchannels⟩ := offer_eq hkind hsound hsound.nodup
  rw [broadcast, if_pos hkind]
  dsimp only
  rw [htakers]
  exact ⟨rfl, rfl, hchannels⟩

namespace Sound

theorem broadcast (h : f.Sound) (m : Message) : (f.broadcast m).2.Sound := by
  by_cases hkind : m.kind = .broadcast
  case neg =>
    rw [Fleet.broadcast, if_neg hkind]
    exact h
  obtain ⟨-, hmembers, hchannels⟩ := broadcast_eq h hkind
  refine ⟨?_, ?_, ?_⟩
  · rw [hmembers]
    exact h.nodup.filter _
  · intro number hnumber
    rw [hmembers] at hnumber
    have hknown := h.known number (List.mem_of_mem_filter hnumber)
    have hsome : ((f.broadcast m).2.channels[number]?).isSome = true := by
      rw [hchannels, Option.isSome_map]
      exact isSome_getElem? _ _ |>.mpr hknown
    simpa using hsome
  · intro c' hc'
    obtain ⟨number, hnumber⟩ := List.mem_iff_getElem?.mp hc'
    rw [hchannels] at hnumber
    obtain ⟨c, hc, rfl⟩ := Option.map_eq_some_iff.mp hnumber
    have hafloat := h.afloat_of_getElem? hc
    split
    · exact Channel.afloat_queued hafloat m
    · exact hafloat

theorem close (h : f.Sound) (number : Nat) : (f.act number (·.shutdown)).2.Sound :=
  h.act number fun c _ hopen => by cases hopen.symm.trans c.isOpen_shutdown

theorem closeAll (h : f.Sound) : f.closeAll.Sound := by
  have hclosed (numbers : List Nat) :
      (numbers.foldl (fun f number => (f.act number (·.shutdown)).2) f).Sound := by
    induction numbers generalizing f with
    | nil => exact h
    | cons number rest ih => exact ih (h.close number)
  exact (hclosed f.members).of_sublist (List.nil_sublist _)

end Sound

theorem Reached.sound (h : f.Reached) : f.Sound := by
  induction h with
  | empty => exact ⟨List.nodup_nil, List.forall_mem_nil _, List.forall_mem_nil _⟩
  | add _ registry config source sink ih => exact ih.add fun _ => ⟨rfl, Or.inl ⟨rfl, rfl⟩⟩
  | insert _ hknown ih => exact ih.insert hknown
  | remove _ number ih => exact ih.of_sublist List.filter_sublist
  | prune _ ih => exact ih.of_sublist List.filter_sublist
  | broadcast _ m ih => exact ih.broadcast m
  | close _ number ih => exact ih.close number
  | closeAll _ ih => exact ih.closeAll
  | @work f number s _ hside e ih =>
      exact ih.of_set number (s.afloat_happen (ih.afloat_of_getElem? hside) e)

/-- **What a broadcast to a fleet does.** On every member that is open and
knows its type one frame is queued on the frame id of broadcasts, and that is
all that happens to any channel: no frame id of a request is used up. Those
members are counted, and they are the ones that stay. So the members that stay
are those that are still open exactly if every open member knows the type. -/
theorem broadcast_fans_out (h : f.Reached) (hkind : m.kind = .broadcast) :
    (∀ number : Nat, (f.broadcast m).2.channels[number]?
      = f.channels[number]?.map fun c =>
          if number ∈ f.members ∧ c.isOpen = true ∧ c.knows m = true then c.queued m else c) ∧
    (∀ number : Nat, (f.broadcast m).2.channels[number]?.map Channel.nextFrameId
      = f.channels[number]?.map Channel.nextFrameId) ∧
    (f.broadcast m).2.members.Nodup ∧
    (f.broadcast m).1 = (f.broadcast m).2.members.length ∧
    (∀ number : Nat, number ∈ (f.broadcast m).2.members ↔ number ∈ f.members ∧
      ∃ c, f.channels[number]? = some c ∧ c.isOpen = true ∧ c.knows m = true) ∧
    ((∀ number : Nat, number ∈ (f.broadcast m).2.members ↔
        number ∈ f.members ∧ (f.broadcast m).2.isOpen number = true) ↔
      ∀ number ∈ f.members, ∀ c, f.channels[number]? = some c → c.isOpen = true →
        c.knows m = true) := by
  obtain ⟨hcount, hmembers, hchannels⟩ := broadcast_eq h.sound hkind
  have hstay (number : Nat) : number ∈ (f.broadcast m).2.members ↔ number ∈ f.members ∧
      ∃ c, f.channels[number]? = some c ∧ c.isOpen = true ∧ c.knows m = true := by
    rw [hmembers, List.mem_filter, takes_iff]
    simp only [Channel.takes, Bool.and_eq_true]
  have hopen (number : Nat) : (f.broadcast m).2.isOpen number = f.isOpen number := by
    rw [isOpen, isOpen, hchannels, Option.any_map]
    refine congrArg (Option.any · f.channels[number]?) (funext fun c => ?_)
    split <;> rfl
  refine ⟨?_, ?_, (h.sound.broadcast m).nodup, ?_, hstay, ?_⟩
  · intro number
    rw [hchannels]
    simp only [Channel.takes, Bool.and_eq_true]
  · intro number
    rw [hchannels, Option.map_map]
    refine Option.map_congr fun c _ => ?_
    rw [Function.comp]
    split <;> rfl
  · rw [hcount, hmembers]
  · simp only [hstay, hopen]
    simp only [isOpen, Option.any_eq_true]
    constructor
    · intro hsame number hmember c hc hcopen
      obtain ⟨-, c', hc', -, hknows⟩ := (hsame number).mpr ⟨hmember, c, hc, hcopen⟩
      cases hc.symm.trans hc'
      exact hknows
    · intro hall number
      constructor
      · rintro ⟨hmember, c, hc, hcopen, -⟩
        exact ⟨hmember, c, hc, hcopen⟩
      · rintro ⟨hmember, c, hc, hcopen⟩
        exact ⟨hmember, c, hc, hcopen, hall number hmember c hc hcopen⟩

/-- A fleet of an open member, a closed one, and a channel that is no member. -/
def trio : Fleet Unit :=
  let known := (((add {} (.create .catalog {} {} {})).2.add (.create .catalog {} {} {})).2.add
    (.create .catalog {} {} {})).2
  (((known.insert 0).insert 1).act 1 (·.shutdown)).2

/-- Of three channels the one that is an open member gets the frame and stays. -/
theorem broadcast_reaches_one :
    let m : Message := ⟨.broadcast .loaderDiscovered, ⟨1, "a"⟩⟩
    (trio.broadcast m).1 = 1 ∧
      (trio.broadcast m).2.channels.map (·.queue.map (·.frameId)) = [[broadcastId], [], []] ∧
      ∀ number : Nat, number ∈ (trio.broadcast m).2.members ↔
        number ∈ trio.members ∧ (trio.broadcast m).2.isOpen number = true := by
  intro m
  have hreached : trio.Reached :=
    ((Reached.empty.add .catalog {} {} {} |>.add .catalog {} {} {} |>.add .catalog {} {} {}
      |>.insert (by decide)).insert (by decide)).close 1
  obtain ⟨-, -, -, -, -, hexact⟩ := broadcast_fans_out hreached (m := m) rfl
  refine ⟨rfl, rfl, hexact.mpr fun number hmember c hc _ => ?_⟩
  have hnumber : number = 0 ∨ number = 1 := by
    simpa using (show number ∈ [0, 1] from hmember)
  rcases hnumber with rfl | rfl
  · cases hc
    rfl
  · cases hc
    rfl

/-- A member whose registry knows failures alone. -/
def loner : Fleet Unit := (add {} (.create .base {} {} {})).2.insert 0

/-- It is open before and after a broadcast, and dropped by it. -/
theorem broadcast_drops_open_member :
    let m : Message := ⟨.broadcast .loaderDiscovered, ⟨1, "a"⟩⟩
    loner.Reached ∧ m.kind = .broadcast ∧ loner.members = [0] ∧ loner.isOpen 0 = true ∧
      (loner.broadcast m).1 = 0 ∧ (loner.broadcast m).2.isOpen 0 = true ∧
      (loner.broadcast m).2.members = [] := by
  intro m
  have hreached : loner.Reached := (Reached.empty.add .base {} {} {}).insert (by decide)
  exact ⟨hreached, rfl, rfl, rfl, rfl, rfl, rfl⟩

end Fleet

end Parley
