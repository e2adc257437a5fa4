/-
Hubs: a server and the clients that are connected to it.

The handlers of the server act on one state, whatever connection a request
came over. Each client is a session of its own.
-/
import Parley.Channel.Session
import Parley.Server.Basic

namespace Parley

variable {σ τ : Type}

/-! ### Fleets at work -/

/-- Lets everything happen that can, on one channel after another. Yields what
each of them has written. -/
def Fleet.settleAll : List (Channel σ) → σ → List (Bytes × Channel σ) × σ
  | [], app => ([], app)
  | channel :: rest, app =>
    let (written, session) := ({ channel, app : Session σ }.settle).collect
    let (done, app) := settleAll rest session.app
    ((written, session.channel) :: done, app)

/-- Lets everything happen that can on every channel of a fleet. Yields what
each channel has written. -/
def Fleet.settle (f : Fleet σ) (app : σ) : List Bytes × σ × Fleet σ :=
  let (done, app) := settleAll f.channels app
  (done.map (·.1), app, { f with channels := done.map (·.2) })

/-! ### Clients -/

/-- The channel of a client that keeps the broadcasts it receives. -/
def Channel.receiving (config : ChannelConfig) : Channel (List Message) :=
  { Channel.create .catalog config {} {} with
    onBroadcast := some fun received m => received ++ [m] }

/-- A client, and how far the end of its connection is known. -/
structure Client (τ : Type) where
  session : Session τ
  /-- Whether the client and the server have been told that the connection has ended. -/
  clientEnded : Bool := false
  serverEnded : Bool := false

/-- A server with its clients. The client under a number is connected to the
channel of the server under that number. -/
structure Hub (σ τ : Type) where
  server : Server σ
  app : σ
  clients : List (Client τ) := []

namespace Hub

/-- Lets everything happen that can on one connection, while time may pass. -/
def settleOne (elapsed : Duration) (h : Hub σ τ) (number : Nat) : Hub σ τ :=
  match h.clients[number]?, h.server.fleet.channels[number]? with
  | some c, some channel =>
    let link : Link τ σ :=
      { near := c.session, far := { channel, app := h.app }, nearEnded := c.clientEnded,
        farEnded := c.serverEnded }
    let link := (link.advance elapsed).settle
    { h with
      server.fleet.channels := h.server.fleet.channels.set number link.far.channel
      app := link.far.app
      clients := h.clients.set number ⟨link.near, link.nearEnded, link.farEnded⟩ }
  | _, _ => h

/-- Lets everything happen that can. -/
def settle (h : Hub σ τ) : Hub σ τ :=
  (List.range h.clients.length).foldl (settleOne ⟨0⟩) h

/-- A client connects with a started channel. Yields its number. -/
def connect (h : Hub σ τ) (channel : Channel τ) (app : τ) : Nat × Hub σ τ :=
  let (number, server) := h.server.accept {} {}
  let session : Session τ := { channel := (channel.start true).2, app }
  (number, settle { h with server, clients := h.clients ++ [{ session }] })

/-- Does something to a client. -/
def onClient (h : Hub σ τ) (number : Nat) (f : Session τ → α × Session τ) :
    Option α × Hub σ τ :=
  match h.clients[number]? with
  | some c =>
    let (result, session) := f c.session
    (some result, settle { h with clients := h.clients.set number { c with session } })
  | none => (none, h)

/-- A client calls the server and waits for the reply, or until its time is up. -/
def call (h : Hub σ τ) (number : Nat) (r : RequestType) (payload : r.Payload) (limit : Duration) :
    Except ChannelError Message × Hub σ τ :=
  match h.onClient number fun s => (s.calls.length, s.call r payload limit) with
  | (none, h) => (.error .closed, h)
  | (some index, h) =>
    let outcome? (h : Hub σ τ) := (h.clients[number]?).bind (·.session.outcome? index)
    match outcome? h with
    | some outcome => (outcome, h)
    | none =>
      let h := settleOne limit h number
      ((outcome? h).getD (.error (.timeout limit)), h)

/-- The server sends a broadcast to every client and yields how many take it. -/
def push (h : Hub σ τ) (m : Message) : Nat × Hub σ τ :=
  let (count, server) := h.server.push m
  (count, settle { h with server })

/-- The server lets go of the connections that are closed. Yields how many. -/
def prune (h : Hub σ τ) : Nat × Hub σ τ :=
  let (count, fleet) := h.server.fleet.prune
  (count, { h with server.fleet := fleet })

/-- The server stops, and the connections that it accepted in the meantime close. -/
def endRun (h : Hub σ τ) : Hub σ τ := settle { h with server := h.server.stop.endRun }

/-- The next broadcast that a client has received. -/
def nextBroadcast (h : Hub σ (List Message)) (number : Nat) :
    Option Message × Hub σ (List Message) :=
  let (message, h) := h.onClient number fun s => (s.app.head?, { s with app := s.app.tail })
  (message.join, h)

end Hub

end Parley
