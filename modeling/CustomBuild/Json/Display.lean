import CustomBuild.Decimal.Shortest
import CustomBuild.Json.Basic
import CustomBuild.Text.Quoted
import CustomBuild.Text.StandIn

/-!
# Showing JSON values

A record may hold a number or another value where a text is usual.  This module says how such a
value is shown inside a text (`display`), by which name it goes where a name is expected
(`nameText`), and whether it counts as true (`isTruthy`).
-/

namespace CustomBuild.Json

/-! ### Kinds -/

/-- The kinds of values. -/
inductive Kind where
  /-- the absent value -/
  | absent
  /-- truth values -/
  | truth
  /-- integers -/
  | integer
  /-- other numbers -/
  | decimal
  /-- texts -/
  | text
  /-- sequences -/
  | sequence
  /-- objects -/
  | object
deriving DecidableEq, Repr

/-- The name of a kind, as messages have it. -/
def Kind.name : Kind → String
  | .absent => "NoneType"
  | .truth => "bool"
  | .integer => "int"
  | .decimal => "float"
  | .text => "str"
  | .sequence => "list"
  | .object => "dict"

/-- The kind of a value. -/
def kind : Json → Kind
  | .null => .absent
  | .bool _ => .truth
  | .integer _ => .integer
  | .decimal _ => .decimal
  | .string _ => .text
  | .broken _ => .text
  | .array _ => .sequence
  | .object _ => .object

/-- Whether a value is a text, be it broken or not. -/
def isText (json : Json) : Bool :=
  json.kind = .text

/-- Whether a value is a text with halves of surrogate pairs. -/
def isBroken : Json → Bool
  | .broken _ => true
  | _ => false

/-- Whether a value can be looked up in a table: sequences and objects cannot. -/
def isKey (json : Json) : Bool :=
  json.kind ≠ .sequence && json.kind ≠ .object

/-! ### Display -/

/-- How the name of a field is shown. -/
def quotedName (name : String) : String :=
  if Text.isBrokenName name then Text.quotedHalves (Text.unmarked name) else Text.quoted name

mutual

/-- How a value is shown inside a sequence or an object, where texts stand in quotes. -/
def displayInner : Json → String
  | .null => "None"
  | .bool value => if value then "True" else "False"
  | .integer value => toString value
  | .decimal literal => Decimal.display literal
  | .string text => Text.quoted text
  | .broken text => Text.quotedHalves text
  | .array items => "[" ++ ", ".intercalate (displayItems items) ++ "]"
  | .object fields => "\x7b" ++ ", ".intercalate (displayFields fields) ++ "\x7d"

/-- How the items of a sequence are shown. -/
def displayItems : List Json → List String
  | [] => []
  | item :: rest => displayInner item :: displayItems rest

/-- How the fields of an object are shown. -/
def displayFields : List (String × Json) → List String
  | [] => []
  | (name, value) :: rest => (quotedName name ++ ": " ++ displayInner value) :: displayFields rest

end

/-- **How a value is shown**: a text as it is, and any other value in its written form. -/
def display : Json → String
  | .string text => text
  | .broken text => text
  | json => displayInner json

/-! ### Names -/

/-- The rank of a number among numbers; a truth value is the number zero or one. -/
def rank? : Json → Option Decimal.Rank
  | .bool value => some (Decimal.Rank.ofInt (if value then 1 else 0))
  | .integer value => some (Decimal.Rank.ofInt value)
  | .decimal literal => Decimal.rank? literal
  | _ => none

/-- The key by which a value is compared with others that stand where a name is expected: a whole
number has the same key in all the ways in which it can be written. -/
def keyText (json : Json) : String :=
  match json.rank? with
  | some rank =>
    if rank.side = 0 && rank.units % Decimal.unitsInOne = 0 then
      toString (rank.units / Decimal.unitsInOne)
    else json.display
  | none => json.display

/-- **The name that a value goes by**: a text is its own name, and any other value has a marked
name, which no text is. -/
def nameText : Json → String
  | .string text => text
  | json => Text.marked json.keyText json.display

/-! ### Truth -/

/-- **Whether a value counts as true**: everything does but the absent value, a false truth value, a
zero, and a text, sequence or object with nothing in it. -/
def isTruthy : Json → Bool
  | .null => false
  | .bool value => value
  | .integer value => value ≠ 0
  | .decimal literal => !Decimal.isZero literal
  | .string text => !text.isEmpty
  | .broken text => !text.isEmpty
  | .array items => !items.isEmpty
  | .object fields => !fields.isEmpty

end CustomBuild.Json
