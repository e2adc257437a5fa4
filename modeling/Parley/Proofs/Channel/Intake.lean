/-
What a stream brings until it is cut.

A channel that reads a stream stops at the first thing that it does not
accept. `intake` says what that comes to, by the bytes of the stream and the
failure behind them alone: the messages of the frames in front of the cut, and
the cut. More bytes change neither what was brought (`Takes.append`) nor a cut
that was reached (`intake_append_of_cut`).
-/
import Parley.Channel.Worker
import Parley.Proofs.Frame.Split

namespace Parley

/-- Why nothing more is taken from a stream. -/
inductive Cut
  /-- A header declares a negative length, or one above the limit. -/
  | header (error : FrameError)
  /-- A frame has an unknown type id, or a payload that does not decode exactly. -/
  | payload (error : FrameError)
  /-- A broadcast is off the frame id of broadcasts, or another message is on it. -/
  | misplaced (frameId : Int32) (message : Message)
  /-- The stream has ended, or a read has failed. -/
  | stream (error : FrameError)
deriving DecidableEq

/-- What a stream brings: messages with their frame ids, and the cut behind them. -/
structure Intake where
  messages : List (Int32 × Message)
  cut? : Option Cut
deriving DecidableEq

/-- The message that a frame brings with its frame id, or why it is refused. -/
def Frame.accept (registry : Registry) (f : Frame) : Except Cut (Int32 × Message) :=
  match f.decode registry with
  | .error e => .error (.payload e)
  | .ok m =>
    if Channel.kindMatchesFrame f.frameId m.kind then .ok (f.frameId, m)
    else .error (.misplaced f.frameId m)

/-- Messages that came first. -/
def Intake.behind (messages : List (Int32 × Message)) (i : Intake) : Intake :=
  { i with messages := messages ++ i.messages }

/-- What a stream brings, by its bytes up to the first failure, and that failure. -/
def intake (registry : Registry) (maxPayload : Nat) (halt? : Option FrameError) (text : Bytes) :
    Intake :=
  match _hsplit : Frame.split? maxPayload text with
  | .error e => ⟨[], some (.header e)⟩
  | .ok none => ⟨[], halt?.map .stream⟩
  | .ok (some (f, rest)) =>
    match f.accept registry with
    | .error cut => ⟨[], some cut⟩
    | .ok x => (intake registry maxPayload halt? rest).behind [x]
termination_by text.length
decreasing_by
  obtain ⟨rfl, -, -⟩ := Frame.split?_eq_some.mp _hsplit
  have hpos := List.length_pos_iff.mpr f.bytes_ne_nil
  rw [List.length_append]
  omega

section

variable {registry : Registry} {maxPayload : Nat} {halt? : Option FrameError}
  {text rest : Bytes} {f : Frame} {messages : List (Int32 × Message)} {x : Int32 × Message}

/-! ### The front of a stream -/

theorem intake_of_header {e : FrameError} (h : Frame.split? maxPayload text = .error e) :
    intake registry maxPayload halt? text = ⟨[], some (.header e)⟩ := by
  rw [intake]
  split <;> simp_all

theorem intake_of_none (h : Frame.split? maxPayload text = .ok none) :
    intake registry maxPayload halt? text = ⟨[], halt?.map .stream⟩ := by
  rw [intake]
  split <;> simp_all

theorem intake_of_refused (h : Frame.split? maxPayload text = .ok (some (f, rest))) {cut : Cut}
    (hrefused : f.accept registry = .error cut) :
    intake registry maxPayload halt? text = ⟨[], some cut⟩ := by
  rw [intake]
  split <;> simp_all

theorem intake_of_accepted (h : Frame.split? maxPayload text = .ok (some (f, rest)))
    (haccepted : f.accept registry = .ok x) :
    intake registry maxPayload halt? text
      = (intake registry maxPayload halt? rest).behind [x] := by
  rw [intake]
  split <;> simp_all

/-- A frame is accepted if it decodes to a message that belongs on its frame id. -/
theorem Frame.accept_eq_ok :
    f.accept registry = .ok x ↔ f.decode registry = .ok x.2 ∧ x.1 = f.frameId ∧
      Channel.kindMatchesFrame x.1 x.2.kind = true := by
  unfold accept
  cases hdecode : f.decode registry with
  | error e => simp
  | ok m =>
      obtain ⟨frameId, m'⟩ := x
      dsimp only
      by_cases hkind : Channel.kindMatchesFrame f.frameId m.kind = true
      · rw [if_pos hkind]
        constructor
        · rintro ⟨⟩
          exact ⟨rfl, rfl, hkind⟩
        · rintro ⟨⟨⟩, rfl, -⟩
          rfl
      · rw [if_neg hkind]
        constructor
        · rintro ⟨⟩
        · rintro ⟨⟨⟩, rfl, hkind'⟩
          exact absurd hkind' hkind

/-- What is accepted belongs on its frame id: broadcasts on that of broadcasts, and
nothing else. -/
theorem Frame.kind_of_accept (h : f.accept registry = .ok x) :
    x.1 = broadcastId ↔ x.2.kind = .broadcast := by
  obtain ⟨-, -, hkind⟩ := accept_eq_ok.mp h
  have hsame : (x.1 == broadcastId) = (x.2.kind == .broadcast) := eq_of_beq hkind
  rw [← beq_iff_eq, hsame, beq_iff_eq]

/-- A cut that was reached stays, whatever comes behind it. -/
theorem intake_append_of_cut (h : (intake registry maxPayload none text).cut?.isSome)
    (halt? : Option FrameError) (more : Bytes) :
    intake registry maxPayload halt? (text ++ more) = intake registry maxPayload none text := by
  fun_induction intake registry maxPayload none text with
  | case1 text e hsplit => exact intake_of_header (Frame.split?_append_of_error hsplit more)
  | case2 text hsplit => cases h
  | case3 text f rest hsplit cut hrefused =>
      exact intake_of_refused (Frame.split?_append_of_some hsplit more) hrefused
  | case4 text f rest hsplit x haccepted ih =>
      rw [intake_of_accepted (Frame.split?_append_of_some hsplit more) haccepted, ih h]

/-! ### Part of a stream -/

/-- Frames that bring messages stand at the front of a text, before the rest of it. -/
inductive Takes (registry : Registry) (maxPayload : Nat) :
    Bytes → List (Int32 × Message) → Bytes → Prop
  | nil {text : Bytes} : Takes registry maxPayload text [] text
  | cons {text later rest : Bytes} {f : Frame} {x : Int32 × Message}
      {messages : List (Int32 × Message)} :
      Frame.split? maxPayload text = .ok (some (f, later)) → f.accept registry = .ok x →
        Takes registry maxPayload later messages rest →
        Takes registry maxPayload text (x :: messages) rest

namespace Takes

/-- What a text brings is what its front brings, and then what the rest brings. -/
theorem intake_eq (h : Takes registry maxPayload text messages rest)
    (halt? : Option FrameError) :
    intake registry maxPayload halt? text
      = (intake registry maxPayload halt? rest).behind messages := by
  induction h with
  | nil => rfl
  | cons hsplit haccepted _ ih =>
      rw [intake_of_accepted hsplit haccepted, ih]
      rfl

/-- One frame more. -/
theorem concat (h : Takes registry maxPayload text messages rest) {later : Bytes}
    (hsplit : Frame.split? maxPayload rest = .ok (some (f, later)))
    (haccepted : f.accept registry = .ok x) :
    Takes registry maxPayload text (messages ++ [x]) later := by
  induction h with
  | nil => exact .cons hsplit haccepted .nil
  | cons hfirst hmessage _ ih => exact .cons hfirst hmessage (ih hsplit)

/-- More bytes stand behind the rest. -/
theorem append (h : Takes registry maxPayload text messages rest) (more : Bytes) :
    Takes registry maxPayload (text ++ more) messages (rest ++ more) := by
  induction h with
  | nil => exact .nil
  | cons hsplit haccepted _ ih =>
      exact .cons (Frame.split?_append_of_some hsplit more) haccepted ih

end Takes

end

end Parley
