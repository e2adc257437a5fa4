/-
What the commands print.

Every result can be printed as a JSON document on a line of its own, as a
table, or as a plain line for people. `Printed` lists what there is to print,
and `Printed.render` writes it.
-/
import Parley.Datum.Basic
import Parley.Message.Basic
import Parley.Text.Duration
import Parley.Text.Table

namespace Parley.Cli

/-- How results are printed. -/
inductive OutputFormat
  | json
  | table
  | pretty
deriving DecidableEq, Repr

/-- A result of a command. -/
inductive Printed
  /-- An agent listens on an endpoint. -/
  | listening (endpoint : String)
  /-- An agent has answered a ping after some time. -/
  | pong (seq : Nat) (time : Duration)
  | properties (table : PropertyTable)
  | setProperty (key value : String)
  /-- A broadcast has come at a time in seconds, which is given as text. -/
  | broadcast (message : Message) (timestamp : String)

/-- The short name of a broadcast and its fields, by their names in order.
Other messages show no fields. -/
def describeBroadcast : Message → String × Datum
  | ⟨.broadcast .loaderDiscovered, l⟩ =>
    ("loader-discovered",
      .record [("loader", .record [("id", .int l.id.toInt), ("name", .text l.name)])])
  | ⟨.broadcast .classUpdated, d⟩ =>
    ("class-updated",
      .record [("data", .record [("code_size", .int d.code.length),
        ("loader_id", .int d.loader.toInt), ("name", .text d.name)])])
  | m => (m.typeName, .null)

namespace Printed

/-- A result as data. -/
def toDatum : Printed → Datum
  | listening endpoint => .record [("event", .text "listening"), ("endpoint", .text endpoint)]
  | pong seq time => .record [("seq", .int seq), ("rtt_us", .int time.micros)]
  | properties t =>
    .record [("count", .int t.size),
      ("properties", .record (t.entries.map fun (k, v) => (k, .text v)))]
  | setProperty key value =>
    .record [("ok", .bool true), ("action", .text "set-prop"), ("key", .text key),
      ("value", .text value)]
  | broadcast m timestamp =>
    let (kind, data) := describeBroadcast m
    .record [("kind", .text kind), ("data", data), ("timestamp", .text timestamp)]

/-- A result as lines for people. -/
def toLines : Printed → List String
  | listening endpoint => ["listening on " ++ endpoint]
  | pong seq time => ["pong seq=" ++ toString seq ++ " time=" ++ time.render]
  | properties t => t.entries.map fun (k, v) => k ++ "=" ++ v
  | setProperty key value => ["set " ++ key ++ "=" ++ value]
  | broadcast m _ =>
    let (kind, data) := describeBroadcast m
    [kind ++ " " ++ data.toJson]

/-- A result as a table. That an agent listens is no table. -/
def toTable : Printed → List String
  | pong seq time => [Text.drawTable ["SEQ", "RTT"] [[toString seq, time.render]]]
  | properties t => [Text.drawTable ["KEY", "VALUE"] (t.entries.map fun (k, v) => [k, v])]
  | setProperty key value => [Text.drawTable ["KEY", "VALUE", "STATUS"] [[key, value, "set"]]]
  | broadcast m _ =>
    let (kind, data) := describeBroadcast m
    [Text.drawTable ["KIND", "DATA"] [[kind, data.toJson]]]
  | p => p.toLines

/-- What is printed of a result, to the end of its last line. -/
def render (format : OutputFormat) (p : Printed) : String :=
  let lines := match format with
    | .json => [p.toDatum.toJson]
    | .table => p.toTable
    | .pretty => p.toLines
  String.join (lines.map (· ++ "\n"))

end Printed

end Parley.Cli
