/-
Data without their types: numbers, texts, bytes, lists and records.

A datum has a compact JSON text. Numbers are whole, the members of a record
stand in the order in which they are given, and members that hold bytes are
left out. Between quotes the quote, the backslash and the controls are
escaped, and every other character stands for itself.
-/
import Parley.Bytes

namespace Parley

/-- A value as data. -/
inductive Datum
  | null
  | bool (value : Bool)
  | int (value : Int)
  | text (value : String)
  | blob (value : Bytes)
  | list (items : List Datum)
  | record (members : List (String × Datum))

namespace Datum

/-- How one character is written between quotes. -/
def escape (c : Char) : List Char :=
  match c with
  | '"' => ['\\', '"']
  | '\\' => ['\\', '\\']
  | '\x08' => ['\\', 'b']
  | '\x0c' => ['\\', 'f']
  | '\n' => ['\\', 'n']
  | '\r' => ['\\', 'r']
  | '\t' => ['\\', 't']
  | c =>
    if c.toNat < 0x20 then
      ['\\', 'u', '0', '0', Nat.digitChar (c.toNat / 16), Nat.digitChar (c.toNat % 16)]
    else [c]

/-- A text in quotes. -/
def quote (s : String) : String := "\"" ++ String.ofList (s.toList.flatMap escape) ++ "\""

mutual

/-- The JSON text of a datum. Bytes have none of their own. -/
def toJson : Datum → String
  | null => "null"
  | bool b => if b then "true" else "false"
  | int n => toString n
  | text s => quote s
  | blob _ => "null"
  | list items => "[" ++ String.intercalate "," (itemsToJson items) ++ "]"
  | record members => "\x7b" ++ String.intercalate "," (membersToJson members) ++ "\x7d"

def itemsToJson : List Datum → List String
  | [] => []
  | d :: rest => d.toJson :: itemsToJson rest

def membersToJson : List (String × Datum) → List String
  | [] => []
  | (_, .blob _) :: rest => membersToJson rest
  | (key, d) :: rest => (quote key ++ ":" ++ d.toJson) :: membersToJson rest

end

end Datum

/-- What a datum is expected to be. -/
inductive Shape
  | nothing
  | int (low high : Int)
  | text
  | blob
  /-- Nothing, or something of a shape. -/
  | optional (shape : Shape)
  | list (element : Shape)
  /-- Texts under any keys. -/
  | table
  /-- Members under given keys. -/
  | record (fields : List (String × Shape))

/-- How the values of a type are written as data of a shape. -/
structure Form (α : Type) where
  shape : Shape
  write : α → Datum
  /-- The value of a datum of the shape. -/
  read : Datum → Option α

/-- How the values of a type are written as members of a record. -/
structure Members (α : Type) where
  fields : List (String × Shape)
  write : α → List (String × Datum)
  /-- The value of the first members, and the other members. -/
  read : List (String × Datum) → Option (α × List (String × Datum))

namespace Members

/-- One member. -/
def one (key : String) (form : Form α) : Members α where
  fields := [(key, form.shape)]
  write x := [(key, form.write x)]
  read
    | (_, d) :: rest => (form.read d).map (·, rest)
    | [] => none

/-- Some members and then others. -/
def and (f : Members α) (g : Members β) : Members (α × β) where
  fields := f.fields ++ g.fields
  write p := f.write p.1 ++ g.write p.2
  read members := do
    let (x, members) ← f.read members
    let (y, members) ← g.read members
    return ((x, y), members)

/-- A record of these members. -/
def record (f : Members α) (make : α → β) (parts : β → α) : Form β where
  shape := .record f.fields
  write y := .record (f.write (parts y))
  read
    | .record members => (f.read members).map fun (x, _) => make x
    | _ => none

end Members

namespace Form

def nothing : Form Unit := ⟨.nothing, fun _ => .null, fun _ => some ()⟩

def text : Form String := ⟨.text, .text, fun | .text s => some s | _ => none⟩

def blob : Form Bytes := ⟨.blob, .blob, fun | .blob bs => some bs | _ => none⟩

/-- The whole numbers of 16 bits. -/
def i16 : Form Int16 where
  shape := .int (-0x8000) 0x7fff
  write n := .int n.toInt
  read
    | .int n => some (Int16.ofInt n)
    | _ => none

/-- The whole numbers of 32 bits. -/
def i32 : Form Int32 where
  shape := .int (-0x80000000) 0x7fffffff
  write n := .int n.toInt
  read
    | .int n => some (Int32.ofInt n)
    | _ => none

/-- The whole numbers of 64 bits. -/
def i64 : Form Int64 where
  shape := .int (-0x8000000000000000) 0x7fffffffffffffff
  write n := .int n.toInt
  read
    | .int n => some (Int64.ofInt n)
    | _ => none

def list (f : Form α) : Form (List α) where
  shape := .list f.shape
  write xs := .list (xs.map f.write)
  read
    | .list ds => ds.mapM f.read
    | _ => none

def option (f : Form α) : Form (Option α) where
  shape := .optional f.shape
  write
    | some x => f.write x
    | none => .null
  read
    | .null => some none
    | d => (f.read d).map some

/-- A record with a single member. -/
def single (key : String) (f : Form α) : Form α := (Members.one key f).record id id

end Form

end Parley
