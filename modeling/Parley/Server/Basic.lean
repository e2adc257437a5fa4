/-
Servers: one dispatcher behind many connections.

A server gives every connection that it accepts a channel with its dispatcher,
starts it, and makes it a member of its fleet. Members that have closed leave
the fleet when the next connection is accepted.
-/
import Parley.Channel.Dispatcher
import Parley.Server.Fleet
import Parley.Transport.Endpoint

namespace Parley

/-- An endpoint as listings show it. -/
def Endpoint.describe : Endpoint → String
  | tcp address => "Tcp(" ++ Text.quoted address ++ ")"
  | unix path => "Unix(" ++ Text.quoted path ++ ")"

/-- A server whose handlers act on a state of type `σ`. -/
structure Server (σ : Type) where
  endpoint : Endpoint
  registry : Registry
  config : ChannelConfig := {}
  dispatcher : Dispatcher σ
  fleet : Fleet σ := {}
  stopped : Bool := false

namespace Server

variable {σ : Type}

/-- Accepts a connection and yields the number of its channel. -/
def accept (s : Server σ) (source : Source) (sink : Sink) : Nat × Server σ :=
  let channel := s.dispatcher.install (Channel.create s.registry s.config source sink)
  let (number, fleet) := s.fleet.prune.2.add (channel.start true).2
  (number, { s with fleet := fleet.insert number })

/-- Sends a broadcast to every connection and yields how many take it. -/
def push (s : Server σ) (m : Message) : Nat × Server σ :=
  let (count, fleet) := s.fleet.broadcast m
  (count, { s with fleet })

/-- Tells the server and everything that broadcasts through it to stop. -/
def stop (s : Server σ) : Server σ := { s with stopped := true }

/-- A server that accepts connections until it is stopped closes them all then. -/
def endRun (s : Server σ) : Server σ := { s with fleet := s.fleet.closeAll }

/-- A server as listings show it. -/
def describe (s : Server σ) : String :=
  "Server \x7b endpoint: " ++ s.endpoint.describe ++ ", channels: " ++ toString s.fleet.size
    ++ ", dispatcher: " ++ s.dispatcher.describe ++ " \x7d"

end Server

end Parley
