/-
Dispatchers: the answers to requests.

A dispatcher has at most one handler for each type of request. Whatever a
handler does, the request is answered: by the handler's reply, or by a failure
that names the request's wire type id when the handler fails or panics or when
there is none. Installed on a channel, a dispatcher answers every request that
arrives there.
-/
import Parley.Channel.Basic

namespace Parley

/-- What a handler makes of a request. -/
inductive Handled (α : Type)
  | reply (value : α)
  | failed (text : String)
  /-- The handler panicked, with a text unless the panic carried something else. -/
  | panicked (reason : Option String)
deriving DecidableEq, Repr

/-- Handles one type of request, acting on the state of the application. -/
abbrev Handler (σ : Type) (r : RequestType) := σ → r.Payload → σ × Handled r.Reply

/-- Handlers by the type of request. -/
structure Dispatcher (σ : Type) where
  handlers : (r : RequestType) → Option (Handler σ r)

namespace Dispatcher

variable {σ τ : Type}

/-- The dispatcher without handlers. -/
def empty : Dispatcher σ := ⟨fun _ => none⟩

/-- Gives a type of request a handler, in place of the one it had. -/
def register (d : Dispatcher σ) (r : RequestType) (h : Handler σ r) : Dispatcher σ where
  handlers r' := if e : r = r' then some (e ▸ h) else d.handlers r'

/-- Whether a type of request has a handler. -/
def handles (d : Dispatcher σ) (r : RequestType) : Bool := (d.handlers r).isSome

/-- The types of request that have a handler. -/
def requests (d : Dispatcher σ) : List RequestType := RequestType.all.filter d.handles

/-- How many types of request have a handler. -/
def size (d : Dispatcher σ) : Nat := d.requests.length

/-- The full names of the types of request that have a handler, in order. -/
def names (d : Dispatcher σ) : List String :=
  (d.requests.map fun r => (MessageType.request r).name).mergeSort
    fun a b => Bytes.ofText a ≤ Bytes.ofText b

/-- A dispatcher as listings show it. -/
def describe (d : Dispatcher σ) : String :=
  "Dispatcher \x7b handlers: [" ++ String.intercalate ", " (d.names.map Text.quoted) ++ "] \x7d"

/-- The message that answers a request of type `r` and the given wire type id. -/
def conclude (r : RequestType) (requestId : Int16) : Handled r.Reply → Message
  | .reply value => .reply r value
  | .failed text => .failure requestId text
  | .panicked reason =>
    .failure requestId ("handler panicked: " ++ reason.getD "unknown panic")

/-- Answers a message that arrived under a wire type id. -/
def answer (d : Dispatcher σ) (app : σ) (requestId : Int16) (m : Message) : σ × Message :=
  match m with
  | ⟨.request r, payload⟩ =>
    match d.handlers r with
    | some handler =>
      let (app, handled) := handler app payload
      (app, conclude r requestId handled)
    | none => (app, .failure requestId ("no handler for " ++ m.typeName))
  | m => (app, .failure requestId ("no handler for " ++ m.typeName))

/-- A dispatcher that acts on part of a larger state. -/
def within (d : Dispatcher σ) (part : τ → σ) (replace : τ → σ → τ) : Dispatcher τ where
  handlers r := (d.handlers r).map fun handler app payload =>
    let (state, handled) := handler (part app) payload
    (replace app state, handled)

/-- Answers requests of registered types and leaves all other messages alone. -/
def listener (d : Dispatcher σ) : TrafficListener σ := fun registry app _ m =>
  match m.kind, registry.lookupFor m with
  | .request, .ok entry =>
    let (app, reply) := d.answer app entry.wireId m
    (app, some reply)
  | _, _ => (app, none)

/-- Answers the requests that arrive on a channel, in place of its listener
for all traffic. -/
def install (d : Dispatcher σ) (c : Channel σ) : Channel σ :=
  { c with onTraffic := some d.listener }

end Dispatcher

end Parley
