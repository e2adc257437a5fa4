/-
The commands of the program and their arguments.
-/
import Parley.Cli.Arguments
import Parley.Cli.Output
import Parley.Transport.Endpoint

namespace Parley.Cli

/-- How log lines are written. -/
inductive LogFormat
  | text
  | json
deriving DecidableEq, Repr

/-- The levels of log lines, from the most to the least important. -/
inductive LogLevel
  | error
  | warn
  | info
  | debug
  | trace
deriving DecidableEq, Repr

/-- The agent that a command talks to, and how long it waits for each reply. -/
structure ClientArguments where
  endpoint : Endpoint
  timeout : String
deriving DecidableEq, Repr

/-- What the program can be told to do. -/
inductive Command
  /-- Run the demonstration agent. -/
  | serve (endpoint : Endpoint) (announce : Option String)
  | ping (client : ClientArguments) (count : Nat)
  | props (client : ClientArguments)
  | setProp (client : ClientArguments) (key value : String)
  /-- Print broadcasts as they come. -/
  | watch (client : ClientArguments) (count : Option Nat)
  | version (extended : Bool)
deriving DecidableEq, Repr

/-- A command with the settings of the program. -/
structure Invocation where
  format : Option OutputFormat
  logFormat : LogFormat
  logLevel : LogLevel
  command : Command
deriving DecidableEq, Repr

/-! ### Values -/

/-- The value that one of several words stands for. -/
def choose? (choices : List (String × α)) (word : String) : Option α := choices.lookup word

/-- Faults every text that is none of the words. -/
def checkChoice (choices : List (String × α)) (word : String) : Option UsageFault :=
  if (choose? choices word).isSome then none else some .invalidValue

def outputFormats : List (String × OutputFormat) :=
  [("json", .json), ("table", .table), ("pretty", .pretty)]

def logFormats : List (String × LogFormat) := [("text", .text), ("json", .json)]

def logLevels : List (String × LogLevel) :=
  [("error", .error), ("warn", .warn), ("info", .info), ("debug", .debug), ("trace", .trace)]

/-- The word that stands for a value. -/
def wordFor [BEq α] (choices : List (String × α)) (value : α) : String :=
  ((choices.find? (·.2 == value)).map (·.1)).getD ""

def endpoint? (text : String) : Option Endpoint := (Endpoint.parse text).toOption

def count? (text : String) : Option Nat := Text.number? Text.maxU64 text.toList

/-- Faults every text that denotes nothing. -/
def checkValue (read : String → Option α) (text : String) : Option UsageFault :=
  if (read text).isSome then none else some .valueValidation

def anyText (_ : String) : Option UsageFault := none

/-! ### Arguments -/

def helpOption : OptionSpec := { name := "help", short := some 'h', role := .request .displayHelp }

/-- The options that stand before the command or behind it. -/
def commonOptions : List OptionSpec :=
  [{ name := "format", role := .value (checkChoice outputFormats) },
    { name := "log-format", role := .value (checkChoice logFormats) },
    { name := "log-level", role := .value (checkChoice logLevels) },
    helpOption]

def timeoutOption : OptionSpec := { name := "timeout", role := .value anyText }

def countOption (short : Option Char) : OptionSpec :=
  { name := "count", short, role := .value (checkValue count?) }

def endpointArgument (required : Bool) : PositionalSpec :=
  { name := "endpoint", required, check := checkValue endpoint? }

/-- The arguments of a command. -/
def commandSpec (name : String) (options : List OptionSpec) (positionals : List PositionalSpec) :
    CommandSpec :=
  { name, options := options ++ commonOptions, positionals }

/-- The arguments of the program. -/
def program : ProgramSpec where
  top :=
    { name := "agentwire"
      options := commonOptions ++
        [{ name := "version", short := some 'V', role := .request .displayVersion }] }
  commands :=
    [commandSpec "serve" [{ name := "announce", role := .value anyText }] [endpointArgument false],
      commandSpec "ping" [timeoutOption, countOption (some 'n')] [endpointArgument false],
      commandSpec "props" [timeoutOption] [endpointArgument false],
      commandSpec "set-prop" [timeoutOption]
        [endpointArgument true, { name := "key", required := true, check := anyText },
          { name := "value", required := true, check := anyText }],
      commandSpec "watch" [timeoutOption, countOption none] [endpointArgument false],
      commandSpec "version" [{ name := "extended", role := .switch }] []]

/-- The agent that was named, or the one on this host. -/
def endpointOf (given : Given) : Endpoint :=
  ((given.lookup "endpoint").bind endpoint?).getD .standard

def clientOf (given : Given) : ClientArguments :=
  ⟨endpointOf given, (given.lookup "timeout").getD "5s"⟩

def countOf (given : Given) : Option Nat := (given.lookup "count").bind count?

/-- The command of a name with what was given for it. -/
def commandOf (name : String) (given : Given) : Command :=
  match name with
  | "serve" => .serve (endpointOf given) (given.lookup "announce")
  | "ping" => .ping (clientOf given) ((countOf given).getD 1)
  | "props" => .props (clientOf given)
  | "set-prop" =>
    .setProp (clientOf given) ((given.lookup "key").getD "") ((given.lookup "value").getD "")
  | "watch" => .watch (clientOf given) (countOf given)
  | _ => .version (given.lookup "extended").isSome

/-- Reads the arguments of the program. A common option counts where it stands
behind the command, if it stands before it as well. -/
def Invocation.parse (arguments : List String) : Except UsageFault Invocation := do
  let (above, name, below) ← program.parse arguments
  let setting {α : Type} (key : String) (choices : List (String × α)) : Option α :=
    ((below ++ above).lookup key).bind (choose? choices)
  return {
    format := setting "format" outputFormats
    logFormat := (setting "log-format" logFormats).getD .text
    logLevel := (setting "log-level" logLevels).getD .info
    command := commandOf name below }

end Parley.Cli
