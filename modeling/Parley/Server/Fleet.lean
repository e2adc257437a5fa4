/-
Fleets: the channels of a server, and broadcasts to all of them.

A fleet has members, which are some of the channels that it knows by number. A
broadcast is queued on every member that takes it; a member that does not is a
member no longer. The channel itself stays known by its number.
-/
import Parley.Channel.Basic

namespace Parley

/-- Channels, of which some are members. -/
structure Fleet (σ : Type) where
  channels : List (Channel σ) := []
  /-- The numbers of the members. -/
  members : List Nat := []

namespace Fleet

variable {σ : Type}

/-- Adds a channel and yields its number. It is no member yet. -/
def add (f : Fleet σ) (c : Channel σ) : Nat × Fleet σ :=
  (f.channels.length, { f with channels := f.channels ++ [c] })

/-- Makes a channel a member. -/
def insert (f : Fleet σ) (number : Nat) : Fleet σ :=
  if number ∈ f.members then f else { f with members := f.members ++ [number] }

/-- Whether a channel is a member. -/
def contains (f : Fleet σ) (number : Nat) : Bool := decide (number ∈ f.members)

/-- A channel is a member no longer. Yields whether it was one. -/
def remove (f : Fleet σ) (number : Nat) : Bool × Fleet σ :=
  (f.contains number, { f with members := f.members.filter (· ≠ number) })

/-- How many members there are. -/
def size (f : Fleet σ) : Nat := f.members.length

/-- Does something to one of the channels. -/
def act (f : Fleet σ) (number : Nat) (g : Channel σ → α × Channel σ) : Option α × Fleet σ :=
  match f.channels[number]? with
  | some c =>
    let (result, c) := g c
    (some result, { f with channels := f.channels.set number c })
  | none => (none, f)

/-- A channel is open. -/
def isOpen (f : Fleet σ) (number : Nat) : Bool := f.channels[number]?.any (·.isOpen)

/-- Only open channels stay members. Yields how many do not. -/
def prune (f : Fleet σ) : Nat × Fleet σ :=
  let members := f.members.filter f.isOpen
  (f.size - members.length, { f with members })

/-- Queues a message on one member after another. Yields the members that took it. -/
def offer (m : Message) : List Nat → Fleet σ → List Nat × Fleet σ
  | [], f => ([], f)
  | number :: rest, f =>
    let (result, f) := f.act number (·.write m)
    let (takers, f) := offer m rest f
    match result with
    | some (.ok _) => (number :: takers, f)
    | _ => (takers, f)

/-- Queues a broadcast on every member and keeps the members that took it.
Yields how many they are. Other messages are not passed around. -/
def broadcast (f : Fleet σ) (m : Message) : Nat × Fleet σ :=
  if m.kind = .broadcast then
    let (takers, f) := offer m f.members f
    (takers.length, { f with members := takers })
  else (0, f)

/-- Closes every member, and none is left. -/
def closeAll (f : Fleet σ) : Fleet σ :=
  { f.members.foldl (fun f number => (f.act number (·.shutdown)).2) f with members := [] }

end Fleet

end Parley
