/-
Command lines: options, positional arguments and the faults in them.

An option is given by a word with two dashes or a letter with one, and its
value stands in the same argument or in the next. The value of an option is
judged when the next option or positional argument has come, or at the end, so
it can be that a later fault is met first. Everything behind two dashes alone
is positional.
-/

namespace Parley.Cli

/-- Why arguments do not make up a command line. Asking for help or for the
version is among the reasons. -/
inductive UsageFault
  | displayHelp
  | displayVersion
  | displayHelpOnMissingArgumentOrSubcommand
  | missingSubcommand
  | invalidSubcommand
  | unknownArgument
  | invalidValue
  | valueValidation
  | argumentConflict
  | missingRequiredArgument
  | tooManyValues
deriving DecidableEq, Repr

/-- The name of each fault. -/
def UsageFault.name : UsageFault → String
  | displayHelp => "DisplayHelp"
  | displayVersion => "DisplayVersion"
  | displayHelpOnMissingArgumentOrSubcommand => "DisplayHelpOnMissingArgumentOrSubcommand"
  | missingSubcommand => "MissingSubcommand"
  | invalidSubcommand => "InvalidSubcommand"
  | unknownArgument => "UnknownArgument"
  | invalidValue => "InvalidValue"
  | valueValidation => "ValueValidation"
  | argumentConflict => "ArgumentConflict"
  | missingRequiredArgument => "MissingRequiredArgument"
  | tooManyValues => "TooManyValues"

/-- What an argument stands for. -/
inductive ArgumentRole
  /-- A value, and what is wrong with a text that is none. -/
  | value (check : String → Option UsageFault)
  /-- No value: being there is enough. -/
  | switch
  /-- A request that ends the reading of arguments. -/
  | request (fault : UsageFault)

/-- An option. -/
structure OptionSpec where
  name : String
  short : Option Char := none
  role : ArgumentRole

/-- A positional argument. -/
structure PositionalSpec where
  name : String
  required : Bool
  check : String → Option UsageFault

/-- What arguments a command takes. -/
structure CommandSpec where
  name : String
  options : List OptionSpec
  positionals : List PositionalSpec := []

/-- The arguments that were given, by name. A switch has an empty value. -/
abbrev Given := List (String × String)

/-- A place that waits for a value or has one that was not judged yet. -/
structure Awaited where
  name : String
  check : String → Option UsageFault
  value : Option String

/-- How far the reading of arguments has come. -/
structure ArgumentState where
  given : Given := []
  awaited : Option Awaited := none
  positionals : List PositionalSpec
  /-- Whether two dashes have been passed. -/
  trailing : Bool := false

namespace ArgumentState

/-- Enters an option that was given. It must not have been given before. -/
def enter (s : ArgumentState) (name value : String) : Except UsageFault ArgumentState :=
  if (s.given.lookup name).isSome then .error .argumentConflict
  else .ok { s with given := s.given ++ [(name, value)] }

/-- Judges a value and enters it. -/
def judge (s : ArgumentState) (name : String) (check : String → Option UsageFault)
    (value : String) : Except UsageFault ArgumentState := do
  let s ← s.enter name value
  match check value with
  | some fault => .error fault
  | none => .ok s

/-- Judges the value that was awaited, if one was. -/
def resolve (s : ArgumentState) : Except UsageFault ArgumentState :=
  match s.awaited with
  | none => .ok s
  | some a =>
    match a.value with
    | none => .error .invalidValue
    | some value => { s with awaited := none }.judge a.name a.check value

/-- Whether the next argument is the value of an option. -/
def wantsValue (s : ArgumentState) : Bool := s.awaited.any (·.value.isNone)

/-- Takes an option, with the value in the same argument if it has one there. -/
def takeOption (s : ArgumentState) (o : OptionSpec) (attached : Option String) :
    Except UsageFault ArgumentState :=
  match o.role, attached with
  | .value check, some value => do (← s.resolve).judge o.name check value
  | .value check, none => do
    let s ← s.resolve
    return { s with awaited := some ⟨o.name, check, none⟩ }
  | _, some _ => .error .tooManyValues
  | .switch, none => do (← s.resolve).enter o.name ""
  | .request fault, none => do
    let _ ← s.resolve
    .error fault

/-- Takes the value of the option that awaits one. -/
def takeValue (s : ArgumentState) (value : String) : ArgumentState :=
  { s with awaited := s.awaited.map fun a => { a with value := some value } }

/-- Takes a positional argument. One too many is met before the value before
it is judged. -/
def takePositional (s : ArgumentState) (value : String) : Except UsageFault ArgumentState :=
  match s.positionals with
  | [] => .error .unknownArgument
  | p :: positionals => do
    let s ← s.resolve
    return { s with positionals, awaited := some ⟨p.name, p.check, some value⟩ }

end ArgumentState

namespace CommandSpec

/-- The option of a word. -/
def long? (c : CommandSpec) (word : List Char) : Option OptionSpec :=
  c.options.find? (·.name.toList == word)

/-- The option of a letter. -/
def short? (c : CommandSpec) (letter : Char) : Option OptionSpec :=
  c.options.find? (·.short == some letter)

/-- Takes an argument that starts with two dashes. -/
def takeLong (c : CommandSpec) (s : ArgumentState) (word : List Char) :
    Except UsageFault ArgumentState :=
  let name := word.takeWhile (· ≠ '=')
  let attached := match word.dropWhile (· ≠ '=') with
    | [] => none
    | _ :: value => some (String.ofList value)
  match c.long? name with
  | some o => s.takeOption o attached
  | none => .error .unknownArgument

/-- Takes the letters of an argument that starts with one dash. The letters
behind one that takes a value are its value. -/
def takeShort (c : CommandSpec) (s : ArgumentState) : List Char → Except UsageFault ArgumentState
  | [] => .ok s
  | letter :: rest =>
    match c.short? letter with
    | none => .error .unknownArgument
    | some o =>
      match o.role with
      | .value _ =>
        let attached := match rest with
          | [] => none
          | '=' :: value => some (String.ofList value)
          | value => some (String.ofList value)
        s.takeOption o attached
      | _ => do c.takeShort (← s.takeOption o none) rest

/-- Takes one argument. -/
def take (c : CommandSpec) (s : ArgumentState) (argument : String) :
    Except UsageFault ArgumentState :=
  if s.trailing then s.takePositional argument
  else
    match argument.toList with
    | ['-', '-'] => .ok { s with trailing := true }
    | '-' :: '-' :: word => c.takeLong s word
    | ['-'] => takePlain s
    | '-' :: letters => c.takeShort s letters
    | _ => takePlain s
where
  takePlain (s : ArgumentState) : Except UsageFault ArgumentState :=
    if s.wantsValue then .ok (s.takeValue argument) else s.takePositional argument

/-- Takes all arguments, and judges what was given. -/
def parse (c : CommandSpec) (arguments : List String) : Except UsageFault Given := do
  let s ← arguments.foldlM c.take { positionals := c.positionals }
  let s ← s.resolve
  if s.positionals.any (·.required) then .error .missingRequiredArgument
  return s.given

end CommandSpec

/-- A program: options of its own and commands, of which one must be given.
The options before the command belong to the program. -/
structure ProgramSpec where
  top : CommandSpec
  commands : List CommandSpec

namespace ProgramSpec

/-- The command of a name. -/
def command? (p : ProgramSpec) (name : String) : Option CommandSpec :=
  p.commands.find? (·.name == name)

/-- What comes of asking for help on commands by their names. -/
def help (p : ProgramSpec) : List String → UsageFault
  | [] => .displayHelp
  | [name] =>
    if name = "help" ∨ (p.command? name).isSome then .displayHelp else .invalidSubcommand
  | _ => .invalidSubcommand

/-- Whether an argument starts with a dash that is not all of it. -/
def isOption (argument : String) : Bool :=
  match argument.toList with
  | '-' :: _ :: _ => true
  | _ => false

/-- Takes arguments up to the command. -/
def parseFrom (p : ProgramSpec) (s : ArgumentState) :
    List String → Except UsageFault (Given × String × Given)
  | [] => do
    let s ← s.resolve
    .error (if s.given.isEmpty then .displayHelpOnMissingArgumentOrSubcommand
      else .missingSubcommand)
  | argument :: rest =>
    if s.trailing then
      .error (if argument = "help" ∨ (p.command? argument).isSome then .unknownArgument
        else .invalidSubcommand)
    else if s.wantsValue ∧ !isOption argument then p.parseFrom (s.takeValue argument) rest
    else if argument = "help" then .error (p.help rest)
    else
      match p.command? argument with
      | some c => do
        let below ← c.parse rest
        let s ← s.resolve
        return (s.given, c.name, below)
      | none =>
        if isOption argument then do
          p.parseFrom (← p.top.take s argument) rest
        else .error .invalidSubcommand

/-- Reads arguments: the options of the program, the name of the command, and
what was given behind it. -/
def parse (p : ProgramSpec) (arguments : List String) :
    Except UsageFault (Given × String × Given) :=
  p.parseFrom { positionals := [] } arguments

end ProgramSpec

end Parley.Cli
