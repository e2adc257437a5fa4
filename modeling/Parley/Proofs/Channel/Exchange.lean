/-
Two sides that read each other.

Whatever the sides of a line keep on their own, each as long as it does what it
may, they keep when they are joined, and what each delivers is what the other
has said (`Line.Joined.step`). Which facts a side keeps is left open: a side
that asks keeps others than one that only answers.
-/
import Parley.Proofs.Channel.Flow

namespace Parley

variable {σ τ : Type}

/-- A side keeps a fact as long as it does what it may. Bytes may come and go at
any time, and its channel stays started under the same limits. -/
structure Side.Upholds (P : Side σ → Prop) (may : Side.Act σ → Bool) (limits : FrameLimits) :
    Prop where
  steady {s : Side σ} : P s → s.channel.Steady limits
  orderly {s : Side σ} : P s → s.Orderly
  step {s : Side σ} {act : Side.Act σ} : P s → may act = true → P (s.step act)
  arrive {s : Side σ} (a : Arrival) : P s → P (s.step (.arrive a))
  carried {s : Side σ} (taken : Bytes) : P s →
    P (s.onChannel fun c => { c with sink := { c.sink with taken } })

namespace Line

/-- Bytes that are carried over keep what neither leaving nor arriving breaks. -/
theorem move_keeps {P : Side σ → Prop} {Q : Side τ → Prop} {sender : Side σ} {receiver : Side τ}
    (hsend : ∀ taken, P (sender.onChannel fun c => { c with sink := { c.sink with taken } }))
    (hreceive : ∀ bs, Q (receiver.step (.arrive (.data bs)))) (hsender : P sender)
    (hreceiver : Q receiver) (count : Nat) :
    P (move count sender receiver).1 ∧ Q (move count sender receiver).2 := by
  unfold move
  dsimp only
  split
  · exact ⟨hsender, hreceiver⟩
  · exact ⟨hsend _, hreceive _⟩

theorem tell_keeps {Q : Side τ → Prop} {receiver : Side τ}
    (hreceive : Q (receiver.step (.arrive .ended))) (hreceiver : Q receiver) (sender : Side σ) :
    Q (tell sender receiver) := by
  unfold tell
  split
  · exact hreceive
  · exact hreceiver

/-- Each side does what it may, and of the bytes that arrive all were carried there. -/
def Act.isWithin (near : Side.Act σ → Bool) (far : Side.Act τ → Bool) : Act σ τ → Bool
  | .near (.arrive a) => a.bytes.isEmpty
  | .near act => near act
  | .far (.arrive a) => a.bytes.isEmpty
  | .far act => far act
  | _ => true

/-- Each side keeps what it keeps on its own, and reads what the other has said. -/
structure Joined (P : Side σ → Prop) (Q : Side τ → Prop) (limits limits' : FrameLimits)
    (l : Line σ τ) : Prop where
  near : P l.near
  far : Q l.far
  out : Flow limits.maxPayload l.near.outbox l.far.channel.unread l.far.delivered
  back : Flow limits'.maxPayload l.far.outbox l.near.channel.unread l.near.delivered

namespace Joined

variable {P : Side σ → Prop} {Q : Side τ → Prop} {limits limits' : FrameLimits}
  {may : Side.Act σ → Bool} {may' : Side.Act τ → Bool} {l : Line σ τ}

theorem nearStep (h : l.Joined P Q limits limits') (hP : Side.Upholds P may limits)
    (hQ : Side.Upholds Q may' limits') {act : Side.Act σ} (hkept : P (l.near.step act))
    (hdata : ∀ a, act = .arrive a → a.bytes = []) :
    (l.step (.near act)).Joined P Q limits limits' where
  near := hkept
  far := h.far
  out := h.out.steps (Side.outbox_step (hP.steady h.near) act)
  back := Side.flow_step h.back (hP.steady h.near) (hQ.orderly h.far).accepted hdata

theorem farStep (h : l.Joined P Q limits limits') (hP : Side.Upholds P may limits)
    (hQ : Side.Upholds Q may' limits') {act : Side.Act τ} (hkept : Q (l.far.step act))
    (hdata : ∀ a, act = .arrive a → a.bytes = []) :
    (l.step (.far act)).Joined P Q limits limits' where
  near := h.near
  far := hkept
  out := Side.flow_step h.out (hQ.steady h.far) (hP.orderly h.near).accepted hdata
  back := h.back.steps (Side.outbox_step (hQ.steady h.far) act)

theorem carry (h : l.Joined P Q limits limits') (hP : Side.Upholds P may limits)
    (hQ : Side.Upholds Q may' limits') (count : Nat) :
    (l.step (.carry count)).Joined P Q limits limits' := by
  obtain ⟨hnear, hfar⟩ := move_keeps (fun taken => hP.carried taken h.near)
    (fun bs => hQ.arrive (.data bs) h.far) h.near h.far count
  exact ⟨hnear, hfar, flow_move l.near count h.out, flow_move_back l.near count h.back⟩

theorem carryBack (h : l.Joined P Q limits limits') (hP : Side.Upholds P may limits)
    (hQ : Side.Upholds Q may' limits') (count : Nat) :
    (l.step (.carryBack count)).Joined P Q limits limits' := by
  obtain ⟨hfar, hnear⟩ := move_keeps (fun taken => hQ.carried taken h.far)
    (fun bs => hP.arrive (.data bs) h.near) h.far h.near count
  exact ⟨hnear, hfar, flow_move_back l.far count h.out, flow_move l.far count h.back⟩

theorem hangUp (h : l.Joined P Q limits limits') (hQ : Side.Upholds Q may' limits') :
    (l.step .hangUp).Joined P Q limits limits' where
  near := h.near
  far := tell_keeps (hQ.arrive .ended h.far) h.far l.near
  out := flow_tell l.near h.out
  back := tell_keeps (Q := fun s => Flow _ s.outbox _ _) h.back h.back l.near

theorem hangUpBack (h : l.Joined P Q limits limits') (hP : Side.Upholds P may limits) :
    (l.step .hangUpBack).Joined P Q limits limits' where
  near := tell_keeps (hP.arrive .ended h.near) h.near l.far
  far := h.far
  out := tell_keeps (Q := fun s => Flow _ s.outbox _ _) h.out h.out l.far
  back := flow_tell l.far h.back

/-- **Sides that are joined stay joined**, as long as each does what it may. -/
theorem step (h : l.Joined P Q limits limits') (hP : Side.Upholds P may limits)
    (hQ : Side.Upholds Q may' limits') {act : Act σ τ} (hact : act.isWithin may may' = true) :
    (l.step act).Joined P Q limits limits' := by
  cases act with
  | near act =>
      cases act with
      | arrive a =>
          refine h.nearStep hP hQ (hP.arrive a h.near) ?_
          rintro _ ⟨⟩
          exact List.isEmpty_iff.mp hact
      | _ => exact h.nearStep hP hQ (hP.step h.near hact) (fun _ ha => nomatch ha)
  | far act =>
      cases act with
      | arrive a =>
          refine h.farStep hP hQ (hQ.arrive a h.far) ?_
          rintro _ ⟨⟩
          exact List.isEmpty_iff.mp hact
      | _ => exact h.farStep hP hQ (hQ.step h.far hact) (fun _ ha => nomatch ha)
  | carry count => exact h.carry hP hQ count
  | carryBack count => exact h.carryBack hP hQ count
  | hangUp => exact h.hangUp hQ
  | hangUpBack => exact h.hangUpBack hP

end Joined

end Line

end Parley
