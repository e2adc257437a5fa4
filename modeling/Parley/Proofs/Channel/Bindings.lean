/-
Dispatchers of handlers that keep no state.

A binding gives a type of request a handler whose outcome depends on the payload
alone. A dispatcher that a sequence of bindings led to answers every message with
a reply: with what the handler that was bound last makes of a request, or with a
failure that says what went wrong (`Binding.Answers`,
`Dispatcher.answer_eq_of_answers`). So the answer to a request is a function of
the request (`Dispatcher.replyTo?`).
-/
import Parley.Channel.Dispatcher

namespace Parley

variable {σ : Type}

/-- A handler that keeps no state, for a type of request. -/
structure Binding where
  type : RequestType
  handle : type.Payload → Handled type.Reply

namespace Binding

variable {bs : List Binding} {requestId : Int16} {m answer : Message}

/-- No binding after it is for the same type of request. -/
def IsLast (bs : List Binding) (b : Binding) : Prop :=
  ∃ before after, bs = before ++ b :: after ∧ ∀ x ∈ after, x.type ≠ b.type

/-- Of the bindings for a type, one is the last. -/
theorem exists_isLast {t : RequestType} (h : ∃ b ∈ bs, b.type = t) :
    ∃ b, IsLast bs b ∧ b.type = t := by
  induction bs with
  | nil =>
      obtain ⟨b, hb, -⟩ := h
      cases hb
  | cons x later ih =>
      by_cases hlater : ∃ b ∈ later, b.type = t
      · obtain ⟨b, ⟨before, after, rfl, hafter⟩, ht⟩ := ih hlater
        exact ⟨b, ⟨x :: before, after, rfl, hafter⟩, ht⟩
      · obtain ⟨b, hb, rfl⟩ := h
        rcases List.mem_cons.mp hb with rfl | hb
        · exact ⟨b, ⟨[], later, rfl, fun y hy heq => hlater ⟨y, hy, heq⟩⟩, rfl⟩
        · exact absurd ⟨b, hb, rfl⟩ hlater

/-- What is to be answered to a message that arrived under a wire type id: the
reply of the handler that was bound last to its type, or a failure that names the
id and says what the handler said, that it panicked, or that there is none. -/
inductive Answers (bs : List Binding) (requestId : Int16) : Message → Message → Prop
  | reply {b : Binding} {payload : b.type.Payload} {value : b.type.Reply} :
      IsLast bs b → b.handle payload = .reply value →
      Answers bs requestId (.request b.type payload) (.reply b.type value)
  | failed {b : Binding} {payload : b.type.Payload} {text : String} :
      IsLast bs b → b.handle payload = .failed text →
      Answers bs requestId (.request b.type payload) (.failure requestId text)
  | panicked {b : Binding} {payload : b.type.Payload} {reason : Option String} :
      IsLast bs b → b.handle payload = .panicked reason →
      Answers bs requestId (.request b.type payload)
        (.failure requestId ("handler panicked: " ++ reason.getD "unknown panic"))
  | missing {m : Message} : (∀ b ∈ bs, m.type ≠ .request b.type) →
      Answers bs requestId m (.failure requestId ("no handler for " ++ m.typeName))

/-- Whatever a handler does, its answer is a reply. -/
theorem Answers.kind_reply (h : Answers bs requestId m answer) : answer.kind = .reply := by
  cases h with
  | reply | failed | panicked | missing => rfl

/-- There is an answer to every message. -/
theorem exists_answers (bs : List Binding) (requestId : Int16) (m : Message) :
    ∃ answer, Answers bs requestId m answer := by
  by_cases hbound : ∃ b ∈ bs, m.type = .request b.type
  case neg => exact ⟨_, .missing fun b hb heq => hbound ⟨b, hb, heq⟩⟩
  obtain ⟨b, hb, htype⟩ := hbound
  obtain ⟨last, hlast, hsame⟩ := exists_isLast ⟨b, hb, rfl⟩
  rw [← hsame] at htype
  obtain ⟨type, payload⟩ := m
  obtain rfl : type = .request last.type := htype
  cases houtcome : last.handle payload with
  | reply value => exact ⟨_, .reply hlast houtcome⟩
  | failed text => exact ⟨_, .failed hlast houtcome⟩
  | panicked reason => exact ⟨_, .panicked hlast houtcome⟩

end Binding

namespace Dispatcher

/-- Registers the handler of a binding. -/
def add (d : Dispatcher σ) (b : Binding) : Dispatcher σ :=
  d.register b.type fun app payload => (app, b.handle payload)

/-- The dispatcher that a sequence of bindings leads to. -/
def ofBindings (bs : List Binding) : Dispatcher σ := bs.foldl add empty

variable {d : Dispatcher σ} {bs : List Binding} {b : Binding} {t : RequestType}

theorem handlers_add_self :
    (d.add b).handlers b.type = some fun app payload => (app, b.handle payload) :=
  dif_pos rfl

/-- A binding does nothing to the other types of request. -/
theorem handlers_add_of_ne (h : b.type ≠ t) : (d.add b).handlers t = d.handlers t :=
  dif_neg h

theorem handlers_foldl_add (h : ∀ b ∈ bs, b.type ≠ t) :
    (bs.foldl add d).handlers t = d.handlers t := by
  induction bs generalizing d with
  | nil => rfl
  | cons b later ih =>
      obtain ⟨hb, hlater⟩ := List.forall_mem_cons.mp h
      rw [List.foldl_cons, ih hlater, handlers_add_of_ne hb]

/-- **A later binding replaces an earlier one.** -/
theorem handlers_ofBindings (h : Binding.IsLast bs b) :
    (ofBindings bs : Dispatcher σ).handlers b.type
      = some fun app payload => (app, b.handle payload) := by
  obtain ⟨before, after, rfl, hafter⟩ := h
  rw [ofBindings, List.foldl_append, List.foldl_cons, handlers_foldl_add hafter,
    handlers_add_self]

theorem answer_ofBindings (h : Binding.IsLast bs b) (app : σ) (requestId : Int16)
    (payload : b.type.Payload) :
    (ofBindings bs).answer app requestId (.request b.type payload)
      = (app, conclude b.type requestId (b.handle payload)) := by
  unfold answer Message.request
  dsimp only
  rw [handlers_ofBindings h]

/-- **A dispatcher answers as its bindings say**, and leaves the application alone. -/
theorem answer_eq_of_answers {requestId : Int16} {m answer : Message}
    (h : Binding.Answers bs requestId m answer) (app : σ) :
    (ofBindings bs).answer app requestId m = (app, answer) := by
  cases h with
  | reply hlast houtcome | failed hlast houtcome | panicked hlast houtcome =>
      rw [answer_ofBindings hlast, houtcome]
      rfl
  | missing hnone =>
      obtain ⟨type, payload⟩ := m
      cases type with
      | failure | reply | broadcast => rfl
      | request t =>
          have hother : (ofBindings bs : Dispatcher σ).handlers t = none :=
            handlers_foldl_add fun b hb heq => hnone b hb (congrArg MessageType.request heq.symm)
          unfold Dispatcher.answer
          dsimp only
          rw [hother]

/-- The answer to a message of a type that the registry knows, on its frame id. -/
def replyTo? (bs : List Binding) (registry : Registry) (p : Int32 × Message) :
    Option (Int32 × Message) :=
  (registry.lookupFor p.2).toOption.map fun entry =>
    (p.1, ((ofBindings bs : Dispatcher Unit).answer () entry.wireId p.2).2)

variable {registry : Registry} {app : σ} {frameId : Int32} {m answer : Message}

/-- What is said to a message is what is to be answered to it under the wire type
id of its type. -/
theorem answers_of_listener
    (h : ((ofBindings bs).listener registry app frameId m).2 = some answer) :
    ∃ entry, registry.lookupFor m = .ok entry ∧ Binding.Answers bs entry.wireId m answer := by
  rw [listener] at h
  split at h
  next entry hkind hentry =>
    obtain ⟨answer', hanswers⟩ := Binding.exists_answers bs entry.wireId m
    rw [answer_eq_of_answers hanswers] at h
    cases h
    exact ⟨entry, hentry, hanswers⟩
  next => cases h

theorem replyTo?_of_listener
    (h : ((ofBindings bs).listener registry app frameId m).2 = some answer) :
    replyTo? bs registry (frameId, m) = some (frameId, answer) := by
  obtain ⟨entry, hentry, hanswers⟩ := answers_of_listener h
  rw [replyTo?, hentry]
  dsimp only [Except.toOption, Option.map_some]
  rw [answer_eq_of_answers hanswers]

end Dispatcher

end Parley
