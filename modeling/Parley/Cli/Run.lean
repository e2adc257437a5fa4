/-
Running the commands.

A command runs in a world: a host, and perhaps a demonstration agent that
listens on it. What it prints is collected, and it ends with success, with the
exit of a lost connection, or with an error.
-/
import Parley.Channel.Demo
import Parley.Cli.Invocation
import Parley.Cli.Wait
import Parley.Server.Hub
import Parley.Transport.Host

namespace Parley.Cli

/-- What is known of the program itself. -/
structure Build where
  version : String := "0.3.0"
  target : String := "unknown"
  profile : String := "unknown"

/-- An agent that serves, with the broadcasts that each client has received. -/
structure Agent where
  socket : BoundSocket
  hub : Hub PropertyTable (List Message)
  /-- The number of the next loader to announce, if any are announced. -/
  announces : Option Int32

/-- Where commands run. -/
structure World where
  host : Host := {}
  agent : Option Agent := none
  identity : Demo.Identity
  build : Build := {}
  /-- The time in seconds as it is printed. -/
  timestamp : String

/-- How a command ends, what it has printed, and the world after it. -/
structure Ran where
  result : Except CliError Exit
  printed : String := ""
  world : World

namespace World

/-- Ends in the world as it is, with nothing printed. -/
def fail (w : World) (e : CliError) : Ran := { result := .error e, world := w }

/-! ### Serving -/

/-- Starts the demonstration agent. -/
def serve (w : World) (endpoint : Endpoint) (announce : Option String) (format : OutputFormat) :
    Ran :=
  match announce.mapM parseWait with
  | .error e => w.fail e
  | .ok interval =>
    match w.host.listen endpoint with
    | .error e => w.fail (.ofTransport "bind failed" e)
    | .ok (socket, host) =>
      let server : Server PropertyTable :=
        { endpoint, registry := .catalog, dispatcher := Demo.dispatcher w.identity }
      let agent : Agent :=
        { socket, hub := { server, app := Demo.initialProperties w.identity }
          announces := interval.map fun _ => systemLoader + 1 }
      { result := .ok .success
        printed := (Printed.listening endpoint.display).render format
        world := { w with host, agent := some agent } }

/-- The agent is interrupted: it closes its connections and lets go of its socket. -/
def interrupt (w : World) : World :=
  match w.agent with
  | some a => { w with host := w.host.release a.socket, agent := none }
  | none => w

/-- The agent announces the next loader, if it announces any. -/
def announce (a : Agent) : Agent :=
  match a.announces with
  | some id =>
    let loader : LoaderInfo := ⟨id, "demo-loader-" ++ toString id.toInt⟩
    { a with
      hub := (a.hub.push ⟨.broadcast .loaderDiscovered, loader⟩).2
      announces := some (id + 1) }
  | none => a

/-! ### Talking to an agent -/

/-- A connection of a command to the agent, with the limit for each reply. -/
structure Conversation where
  agent : Agent
  client : Nat
  limit : Duration

/-- Connects to an agent. -/
def connect (w : World) (args : ClientArguments) : Except CliError Conversation := do
  let limit ← parseWait args.timeout
  match w.host.connect args.endpoint with
  | .error e => .error (.ofTransport "connect failed" e)
  | .ok _ =>
    match w.agent with
    | none => .error (.ofChannel "connect failed" .closed)
    | some agent =>
      let (client, hub) := agent.hub.connect (.receiving { replyTimeout := limit }) []
      return { agent := { agent with hub }, client, limit }

namespace Conversation

/-- Calls the agent. -/
def call (c : Conversation) (r : RequestType) (payload : r.Payload) :
    Except ChannelError Message × Conversation :=
  let (outcome, hub) := c.agent.hub.call c.client r payload c.limit
  (outcome, { c with agent := { c.agent with hub } })

/-- Closes the connection. -/
def close (c : Conversation) : Agent :=
  { c.agent with hub := (c.agent.hub.onClient c.client fun s => s.act (·.shutdown)).2 }

/-- The next broadcast of the agent, if one comes. -/
def nextBroadcast (c : Conversation) : Option Message × Conversation :=
  let agent := announce c.agent
  let (message, hub) := agent.hub.nextBroadcast c.client
  (message, { c with agent := { agent with hub } })

/-- Pings the agent some number of times and prints each answer. -/
def ping (format : OutputFormat) : Nat → Nat → Conversation →
    Option CliError × String × Conversation
  | _, 0, c => (none, "", c)
  | seq, n + 1, c =>
    match c.call .ping () with
    | (.error e, c) => (some (.ofChannel "ping failed" e), "", c)
    | (.ok _, c) =>
      let (failure, printed, c) := ping format (seq + 1) n c
      (failure, (Printed.pong seq ⟨0⟩).render format ++ printed, c)

/-- Prints some number of broadcasts, or as many as come. -/
def watch (format : OutputFormat) (timestamp : String) : Nat → Conversation → String × Conversation
  | 0, c => ("", c)
  | n + 1, c =>
    match c.nextBroadcast with
    | (some m, c) =>
      let (printed, c) := watch format timestamp n c
      ((Printed.broadcast m timestamp).render format ++ printed, c)
    | (none, c) => ("", c)

end Conversation

/-- Runs something that talks to an agent, and closes the connection behind it. -/
def converse (w : World) (args : ClientArguments)
    (talk : Conversation → Option CliError × String × Conversation) : Ran :=
  match w.connect args with
  | .error e => w.fail e
  | .ok c =>
    let (failure, printed, c) := talk c
    { result := match failure with
        | some e => .error e
        | none => .ok .success
      printed
      world := { w with agent := some c.close } }

/-- Calls the agent once and prints the answer. -/
def ask (r : RequestType) (payload : r.Payload) (context : String) (display : Message → String)
    (c : Conversation) : Option CliError × String × Conversation :=
  match c.call r payload with
  | (.error e, c) => (some (.ofChannel context e), "", c)
  | (.ok m, c) => (none, display m, c)

/-! ### Commands -/

/-- What the program says of its version. -/
def versionText (b : Build) (extended : Bool) : String :=
  if extended then
    "name: agentwire\nversion: " ++ b.version ++ "\ntarget: " ++ b.target ++ "\nprofile: "
      ++ b.profile ++ "\ndefault_port: " ++ toString Endpoint.defaultPort ++ "\nmax_payload: "
      ++ toString ({} : FrameLimits).maxPayload ++ "\nunix_sockets: supported\n"
  else "agentwire " ++ b.version ++ "\n"

/-- Runs a command. A serving agent is interrupted as soon as it listens. -/
def run (w : World) (format : OutputFormat) : Command → Ran
  | .serve endpoint announce =>
    let ran := w.serve endpoint announce format
    { ran with world := ran.world.interrupt }
  | .ping args count =>
    if count = 0 then w.fail ⟨.usage, "--count must be greater than zero"⟩
    else w.converse args (Conversation.ping format 0 count)
  | .props args =>
    w.converse args (ask .getProperties () "get-properties failed" fun m =>
      match m with
      | ⟨.reply .getProperties, t⟩ => (Printed.properties t).render format
      | _ => "")
  | .setProp args key value =>
    if key.isEmpty then w.fail ⟨.usage, "property key must not be empty"⟩
    else
      w.converse args (ask .setProperty ⟨key, value⟩ "set-property failed" fun _ =>
        (Printed.setProperty key value).render format)
  | .watch args count =>
    w.converse args fun c =>
      let (printed, c) := Conversation.watch format w.timestamp (max (count.getD 1) 1) c
      (none, printed, c)
  | .version extended =>
    { result := .ok .success, printed := versionText w.build extended, world := w }

end World

/-! ### The program -/

/-- How the program ends: its exit code and what it has written to the
standard output and, line by line, to the standard error. -/
structure Ended where
  code : Nat
  output : String
  errors : List String

/-- Runs the command that the arguments name. The output is no terminal, so it
is JSON unless told otherwise. -/
def World.execute (w : World) (arguments : List String) : Except UsageFault Ran := do
  let i ← Invocation.parse arguments
  return w.run (i.format.getD .json) i.command

/-- Runs the program. -/
def World.runProgram (w : World) (arguments : List String) : Ended :=
  match w.execute arguments with
  | .error .displayVersion => ⟨0, World.versionText w.build false, []⟩
  | .error .displayHelp => ⟨0, "", []⟩
  | .error _ => ⟨2, "", []⟩
  | .ok ran =>
    match ran.result with
    | .ok exit => ⟨exit.code, ran.printed, []⟩
    | .error e => ⟨e.exit.code, ran.printed, ["error: " ++ e.message]⟩

end Parley.Cli
