/-
Reading JSON text of an expected shape.

The text is read once from left to right, and the first thing that is wrong
decides the fault: the text ends too early, it is no JSON, or it is JSON of
another shape. Members of an object that are not expected are skipped; of them
only the grammar is checked. An object may also be written as the list of its
members' values.
-/
import Parley.Datum.Basic
import Parley.Text.Decimal

namespace Parley

/-- What is wrong with a JSON text. -/
inductive JsonFault
  | syntaxError
  /-- JSON, but not of the expected shape. -/
  | wrongShape
  /-- The text ends too early. -/
  | unfinished
deriving DecidableEq, Repr

/-- The category of each fault. -/
def JsonFault.category : JsonFault → String
  | syntaxError => "Syntax"
  | wrongShape => "Data"
  | unfinished => "Eof"

/-- Reads from the front of the remaining text. -/
abbrev JsonReader (α : Type) := EStateM JsonFault (List Char) α

namespace JsonReader

/-! ### Characters -/

/-- The characters that may stand between tokens. -/
def isSpace (c : Char) : Bool := c == ' ' || c == '\n' || c == '\t' || c == '\r'

/-- The next character, which stays. -/
def peek : JsonReader (Option Char) := do return (← get).head?

/-- The first character that is not space, which stays. -/
def peekToken : JsonReader (Option Char) := do
  modify (·.dropWhile isSpace)
  peek

/-- Passes over one character. -/
def skip : JsonReader Unit := modify List.tail

/-- The next character, which is passed over. -/
def next : JsonReader (Option Char) := do
  let c ← peek
  skip
  return c

/-- Passes over the rest of a word. -/
def word : List Char → JsonReader Unit
  | [] => return ()
  | c :: rest => do
    match ← next with
    | none => throw .unfinished
    | some c' => if c' = c then word rest else throw .syntaxError

def isDigit (c : Char) : Bool := (Text.digit? c).isSome

/-- The digits in front. -/
def digits : JsonReader (List Char) := do
  let ds := (← get).takeWhile isDigit
  modify (·.dropWhile isDigit)
  return ds

/-! ### Numbers -/

/-- A number: whole, or one that only a floating-point number can hold. -/
inductive Number
  | whole (value : Int)
  | inexact

/-- The numbers from here on are too large for a floating-point number. -/
def floatLimit : Nat := (1 <<< 1024) - (1 <<< 970)

/-- Whether `mantissa * 10 ^ exponent` is too large for a floating-point number. -/
def tooLarge (mantissa : Nat) (exponent : Int) : Bool :=
  match exponent with
  | .ofNat e => mantissa != 0 && (308 < e || floatLimit ≤ mantissa * Nat.pow 10 e)
  | .negSucc e => e < Nat.log2 mantissa && floatLimit * Nat.pow 10 (e + 1) ≤ mantissa

/-- A number that is not whole, if it is not too large. -/
def inexact (mantissa : Nat) (exponent : Int) : JsonReader Number :=
  if tooLarge mantissa exponent then throw .syntaxError else return .inexact

/-- The number that some digits denote. -/
def natOf (ds : List Char) : Nat := (Text.digitsAfter? 0 ds).getD 0

/-- Reads an exponent behind its letter. -/
def exponent : JsonReader Int := do
  let negative ← match ← peek with
    | some '+' => do skip; pure false
    | some '-' => do skip; pure true
    | _ => pure false
  match ← peek with
  | none => throw .unfinished
  | some c =>
    if !isDigit c then throw .syntaxError
    let n : Int := natOf (← digits)
    return if negative then -n else n

/-- The value of a number without point and exponent: whole if 64 bits hold
it. There is no negative zero among the whole numbers. -/
def wholeNumber (negative : Bool) (n : Nat) : JsonReader Number :=
  if negative then
    if n = 0 ∨ 0x8000000000000000 < n then inexact n 0 else return .whole (-n)
  else if n ≤ Text.maxU64 then return .whole n
  else inexact n 0

/-- Reads the decimals that may follow the digits of a number. -/
def decimals : JsonReader (Option (List Char)) := do
  if (← peek) = some '.' then
    skip
    let ds ← digits
    if ds.isEmpty then throw (if (← peek).isNone then .unfinished else .syntaxError)
    return some ds
  else return none

/-- Reads what follows the digits of a number in front of its point. -/
def fraction (negative : Bool) (whole : List Char) : JsonReader Number := do
  let ds ← decimals
  let places := ds.getD []
  let mantissa := natOf (whole ++ places)
  match ← peek with
  | some 'e' | some 'E' =>
    skip
    inexact mantissa ((← exponent) - places.length)
  | _ => if ds.isSome then inexact mantissa (-places.length) else wholeNumber negative mantissa

/-- Reads a number behind its sign. -/
def number (negative : Bool) : JsonReader Number := do
  match ← peek with
  | none => throw .unfinished
  | some c =>
    if !isDigit c then throw .syntaxError
    if c = '0' then
      skip
      if (← peek).any isDigit then throw .syntaxError
      fraction negative ['0']
    else fraction negative (← digits)

/-! ### Texts -/

def hexDigit? (c : Char) : Option Nat :=
  if '0' ≤ c ∧ c ≤ '9' then some (c.toNat - '0'.toNat)
  else if 'a' ≤ c ∧ c ≤ 'f' then some (c.toNat - 'a'.toNat + 10)
  else if 'A' ≤ c ∧ c ≤ 'F' then some (c.toNat - 'A'.toNat + 10)
  else none

/-- Reads the four digits of an escape. -/
def hexCode : JsonReader Nat := do
  let front := (← get).take 4
  modify (·.drop 4)
  match front.mapM hexDigit?, (String.ofList front).utf8ByteSize with
  | some [a, b, c, d], _ => return ((a * 16 + b) * 16 + c) * 16 + d
  | _, size => throw (if size < 4 then .unfinished else .syntaxError)

/-- Passes over a character that must come. -/
def expect (c : Char) : JsonReader Unit := do
  match ← next with
  | none => throw .unfinished
  | some c' => if c' = c then return () else throw .syntaxError

/-- Reads the character that an escape by its code denotes. Two escapes denote
a character beyond the first plane. -/
def codePoint : JsonReader Char := do
  let high ← hexCode
  if 0xDC00 ≤ high ∧ high ≤ 0xDFFF then throw .syntaxError
  if 0xD800 ≤ high ∧ high ≤ 0xDBFF then
    expect '\\'
    expect 'u'
    let low ← hexCode
    if low < 0xDC00 ∨ 0xDFFF < low then throw .syntaxError
    return Char.ofNat ((high - 0xD800) * 0x400 + (low - 0xDC00) + 0x10000)
  return Char.ofNat high

/-- Reads an escape behind its backslash. In skipped texts a code need not
denote a character. -/
def escaped (skipped : Bool) : JsonReader Char := do
  match ← next with
  | none => throw .unfinished
  | some '"' => return '"'
  | some '\\' => return '\\'
  | some '/' => return '/'
  | some 'b' => return '\x08'
  | some 'f' => return '\x0c'
  | some 'n' => return '\n'
  | some 'r' => return '\r'
  | some 't' => return '\t'
  | some 'u' => if skipped then return Char.ofNat (← hexCode) else codePoint
  | some _ => throw .syntaxError

/-- Reads a text behind its first quote. -/
def textBody (skipped : Bool) : Nat → List Char → JsonReader String
  | 0, _ => throw .unfinished
  | n + 1, acc => do
    match ← next with
    | none => throw .unfinished
    | some '"' => return String.ofList acc.reverse
    | some '\\' => textBody skipped n ((← escaped skipped) :: acc)
    | some c => if c.toNat < 0x20 then throw .syntaxError else textBody skipped n (c :: acc)

/-- Reads a text behind its first quote. -/
def quoted (skipped : Bool) : JsonReader String := do
  textBody skipped ((← get).length + 1) []

/-! ### Values of another shape -/

/-- Fails at a value of another shape, after as much of it as shows what kind
of value it is. -/
def mismatch : JsonReader α := do
  match ← peek with
  | some 'n' => do skip; word ['u', 'l', 'l']
  | some 't' => do skip; word ['r', 'u', 'e']
  | some 'f' => do skip; word ['a', 'l', 's', 'e']
  | some '-' => do skip; let _ ← number true
  | some '"' => do skip; let _ ← quoted false
  | some '[' | some '\x7b' => pure ()
  | some c => if isDigit c then let _ ← number false else throw .syntaxError
  | none => throw .unfinished
  throw .wrongShape

/-! ### Skipping -/

/-- Passes over a number behind its sign. Only its grammar is checked, and a
number that ends too early has none. -/
def skipNumber : JsonReader Unit := do
  match ← next with
  | some '0' => if (← peek).any isDigit then throw .syntaxError
  | some c => if isDigit c then let _ ← digits else throw .syntaxError
  | none => throw .syntaxError
  if (← peek) = some '.' then
    skip
    if (← digits).isEmpty then throw .syntaxError
  match ← peek with
  | some 'e' | some 'E' =>
    skip
    match ← peek with
    | some '+' | some '-' => skip
    | _ => pure ()
    if (← digits).isEmpty then throw .syntaxError
  | _ => pure ()

/-- Passes over the key of a member and the colon behind it. -/
def skipKey : JsonReader Unit := do
  match ← peekToken with
  | some '"' => do skip; let _ ← quoted true
  | some _ => throw .syntaxError
  | none => throw .unfinished
  match ← peekToken with
  | some ':' => skip
  | some _ => throw .syntaxError
  | none => throw .unfinished

mutual

/-- Passes over a value of any shape. -/
def skipValue : Nat → JsonReader Unit
  | 0 => throw .unfinished
  | n + 1 => do
    match ← peekToken with
    | none => throw .unfinished
    | some 'n' => do skip; word ['u', 'l', 'l']
    | some 't' => do skip; word ['r', 'u', 'e']
    | some 'f' => do skip; word ['a', 'l', 's', 'e']
    | some '-' => do skip; skipNumber
    | some '"' => do skip; let _ ← quoted true
    | some '[' => do skip; skipItems n false true
    | some '\x7b' => do skip; skipItems n true true
    | some c => if isDigit c then skipNumber else throw .syntaxError

/-- Passes over the items of a list or the members of an object, up to its end. -/
def skipItems : Nat → (keyed first : Bool) → JsonReader Unit
  | 0, _, _ => throw .unfinished
  | n + 1, keyed, first => do
    match ← peekToken with
    | none => throw .unfinished
    | some c =>
      if c = (if keyed then '\x7d' else ']') then skip
      else
        if !first then (if c = ',' then skip else throw .syntaxError)
        if keyed then skipKey
        skipValue n
        skipItems n keyed false

end

/-! ### Lists and objects -/

/-- Whether another item of a list follows. -/
def moreItems (first : Bool) : JsonReader Bool := do
  match ← peekToken with
  | none => throw .unfinished
  | some ']' => return false
  | some c =>
    if first then return true
    if c ≠ ',' then throw .syntaxError
    skip
    match ← peekToken with
    | none => throw .unfinished
    | some ']' => throw .syntaxError
    | some _ => return true

/-- Passes over the end of a list or an object. -/
def close (mark : Char) : JsonReader Unit := do
  match ← peekToken with
  | none => throw .unfinished
  | some c => if c = mark then skip else throw .syntaxError

/-- The key of the next member of an object, if another one follows. -/
def nextKey (first : Bool) : JsonReader (Option String) := do
  match ← peekToken with
  | none => throw .unfinished
  | some '\x7d' => return none
  | some c =>
    if !first then
      if c ≠ ',' then throw .syntaxError
      skip
    match ← peekToken with
    | none => throw .unfinished
    | some '"' =>
      skip
      return some (← quoted false)
    | some _ => throw .syntaxError

/-- Passes over the colon behind a key. -/
def colon : JsonReader Unit := close ':'

/-- Reads the items of a list behind its bracket. -/
def items (item : JsonReader Datum) : Nat → Bool → JsonReader (List Datum)
  | 0, _ => throw .unfinished
  | n + 1, first => do
    if ← moreItems first then
      let v ← item
      return v :: (← items item n false)
    else return []

/-- A member that a record has: its key, how its value is read, and its value
where it is absent. Bytes are not read. -/
structure Expected where
  key : String
  read : Option (JsonReader Datum)
  default : Option Datum

/-- Reads the members of an object behind its brace: those that are expected,
each at most once. -/
def members (expected : List Expected) :
    Nat → Bool → List (String × Datum) → JsonReader (List (String × Datum))
  | 0, _, _ => throw .unfinished
  | n + 1, first, found => do
    match ← nextKey first with
    | none => return found
    | some key =>
      match (expected.find? (·.key == key)).bind (·.read) with
      | some read =>
        if found.any (·.1 == key) then throw .wrongShape
        colon
        members expected n false (found ++ [(key, ← read)])
      | none =>
        colon
        skipValue ((← get).length + 1)
        members expected n false found

/-- Reads the values of an object that is written as a list. -/
def positional : List Expected → Bool → JsonReader (List (String × Datum))
  | [], _ => return []
  | ⟨_, none, _⟩ :: rest, first => positional rest first
  | ⟨key, some read, _⟩ :: rest, first => do
    if ← moreItems first then
      let d ← read
      return (key, d) :: (← positional rest false)
    else throw .wrongShape

/-- An expected member among those that were found. -/
def arrange (found : List (String × Datum)) (e : Expected) : JsonReader (String × Datum) :=
  match found.lookup e.key, e.default with
  | some d, _ | none, some d => return (e.key, d)
  | none, none => throw .wrongShape

/-- Reads an object with the expected members. -/
def record (expected : List Expected) : JsonReader Datum := do
  match ← peekToken with
  | none => throw .unfinished
  | some '\x7b' =>
    skip
    let found ← members expected ((← get).length + 1) true []
    let arranged ← expected.mapM (arrange found)
    close '\x7d'
    return .record arranged
  | some '[' =>
    skip
    let found ← positional expected true
    close ']'
    return .record (← expected.mapM (arrange found))
  | some _ => mismatch

/-- Reads the texts of an object behind its brace. -/
def texts : Nat → Bool → JsonReader (List (String × Datum))
  | 0, _ => throw .unfinished
  | n + 1, first => do
    match ← nextKey first with
    | none => return []
    | some key =>
      colon
      let v ← textValue
      return (key, v) :: (← texts n false)
where
  textValue : JsonReader Datum := do
    match ← peekToken with
    | none => throw .unfinished
    | some '"' =>
      skip
      return .text (← quoted false)
    | some _ => mismatch

end JsonReader

namespace Shape

open JsonReader

/-- What stands for a datum that is absent. -/
def default? : Shape → Option Datum
  | optional _ => some .null
  | blob => some (.blob [])
  | _ => none

mutual

/-- Reads a datum of a shape. -/
def read : Shape → JsonReader Datum
  | nothing => do
    match ← peekToken with
    | none => throw .unfinished
    | some 'n' => do
      skip
      word ['u', 'l', 'l']
      return .null
    | some _ => mismatch
  | int low high => do
    let n ← match ← peekToken with
      | none => throw .unfinished
      | some '-' => do
        skip
        number true
      | some c => if isDigit c then number false else mismatch
    match n with
    | .whole v => if low ≤ v ∧ v ≤ high then return .int v else throw .wrongShape
    | .inexact => throw .wrongShape
  | text => texts.textValue
  | blob => return .blob []
  | optional s => do
    if (← peekToken) = some 'n' then
      skip
      word ['u', 'l', 'l']
      return .null
    else read s
  | list s => do
    match ← peekToken with
    | none => throw .unfinished
    | some '[' =>
      skip
      let values ← items (read s) ((← get).length + 1) true
      close ']'
      return .list values
    | some _ => mismatch
  | table => do
    match ← peekToken with
    | none => throw .unfinished
    | some '\x7b' =>
      skip
      let pairs ← texts ((← get).length + 1) true
      close '\x7d'
      return .record pairs
    | some _ => mismatch
  | record fields => JsonReader.record (expect fields)

/-- How the members of a record are read. -/
def expect : List (String × Shape) → List Expected
  | [] => []
  | (key, .blob) :: rest => ⟨key, none, Shape.blob.default?⟩ :: expect rest
  | (key, s) :: rest => ⟨key, some (read s), s.default?⟩ :: expect rest

end

/-- Reads a text that holds one datum of a shape and nothing else. -/
def parse (s : Shape) (text : String) : Except JsonFault Datum :=
  let whole : JsonReader Datum := do
    let v ← s.read
    if (← peekToken).isSome then throw .syntaxError
    return v
  match whole text.toList with
  | .ok v _ => .ok v
  | .error e _ => .error e

end Shape

end Parley
