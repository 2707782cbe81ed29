import CustomBuild.Json.Spelling

/-!
# Using JSON values

Records are read from values that may be of any kind.  What a value is used as decides whether that
works: a text lists its characters as a sequence lists its items, but a number lists nothing.  A
`Misuse` says what did not work, and a record is read up to the first one.
-/

namespace CustomBuild

/-- Why a value cannot be used as it should be. -/
inductive Misuse where
  /-- a required field is absent -/
  | missingField (name : String)
  /-- a value of the kind has no fields -/
  | noFields (kind : Json.Kind)
  /-- a value of the kind lists nothing -/
  | noItems (kind : Json.Kind)
  /-- nothing can be searched for in a value of the kind -/
  | noSearch (kind : Json.Kind)
  /-- a value of the kind cannot be looked up in a table -/
  | noKey (kind : Json.Kind)
  /-- a value of the kind does not have an operation that is needed -/
  | noOperation (kind : Json.Kind) (operation : String)
  /-- a value of the kind stands among texts that are to be joined -/
  | noPiece (index : Nat) (kind : Json.Kind)
  /-- a value of the kind is no part of a path -/
  | noPath (kind : Json.Kind)
  /-- a value of the kind cannot occur in a text -/
  | noMarker (kind : Json.Kind)
  /-- an item of a list of pairs is no pair, because it lists nothing -/
  | noPair (index : Nat)
  /-- an item of a list of pairs lists another number of values than two -/
  | pairLength (index length : Nat)
  /-- values of the kinds have no order -/
  | noOrder (kind other : Json.Kind)
deriving DecidableEq, Repr

/-- The wording of a misuse. -/
def Misuse.message : Misuse → String
  | .missingField name => Text.quoted name
  | .noFields .text => "string indices must be integers, not 'str'"
  | .noFields .sequence => "list indices must be integers or slices, not str"
  | .noFields kind => "'" ++ kind.name ++ "' object is not subscriptable"
  | .noItems kind => "'" ++ kind.name ++ "' object is not iterable"
  | .noSearch kind => "argument of type '" ++ kind.name ++ "' is not iterable"
  | .noKey kind => "unhashable type: '" ++ kind.name ++ "'"
  | .noOperation kind operation =>
    "'" ++ kind.name ++ "' object has no attribute '" ++ operation ++ "'"
  | .noPiece index kind =>
    "sequence item " ++ toString index ++ ": expected str instance, " ++ kind.name ++ " found"
  | .noPath kind => "unsupported operand type(s) for /: 'PosixPath' and '" ++ kind.name ++ "'"
  | .noMarker kind => "'in <string>' requires string as left operand, not " ++ kind.name
  | .noPair index =>
    "cannot convert dictionary update sequence element #" ++ toString index ++ " to a sequence"
  | .pairLength index length =>
    "dictionary update sequence element #" ++ toString index ++ " has length " ++ toString length
      ++ "; 2 is required"
  | .noOrder kind other =>
    "'<' not supported between instances of '" ++ kind.name ++ "' and '" ++ other.name ++ "'"

namespace Json

/-! ### Fields -/

/-- A field that has to be there. -/
def required (json : Json) (name : String) : Except Misuse Json :=
  match json with
  | .object fields =>
    match fields.lookup name with
    | some value => .ok value
    | none => .error (.missingField name)
  | _ => .error (.noFields json.kind)

/-- A field that may be absent, in which case it has the value `fallback`. -/
def fieldOr (json : Json) (name : String) (fallback : Json) : Json :=
  (json.field? name).getD fallback

/-! ### Lists -/

/-- A text with possible stand-ins, as a value. -/
def ofChars (cs : List Char) : Json :=
  if cs.any Text.isStandIn then .broken (String.ofList cs) else .string (String.ofList cs)

/-- **What a value lists**: a sequence its items, an object its field names, and a text its
characters. -/
def listed : Json → Except Misuse (List Json)
  | .array items => .ok items
  | .object fields => .ok (fields.map fun field => .string field.1)
  | .string text => .ok (text.toList.map fun c => .string (String.singleton c))
  | .broken text => .ok (text.toList.map fun c => ofChars [c])
  | json => .error (.noItems json.kind)

/-- What a field lists; a field that is absent lists the given texts. -/
def listedOr (json : Json) (name : String) (fallback : List String) : Except Misuse (List Json) :=
  (json.fieldOr name (strings fallback)).listed

@[simp]
theorem listed_strings (texts : List String) :
    (strings texts).listed = .ok (texts.map .string) := rfl

/-- The names that listed values go by. -/
def nameTexts (values : List Json) : List String :=
  values.map nameText

/-- The first of some values that cannot be looked up in a table. -/
def keyMisuse? (values : List Json) : Option Misuse :=
  (values.find? fun value => !value.isKey).map fun value => .noKey value.kind

/-- Texts go by themselves. -/
@[simp]
theorem nameTexts_map_string (texts : List String) : nameTexts (texts.map .string) = texts := by
  induction texts with
  | nil => rfl
  | cons text rest ih =>
    rw [List.map_cons, nameTexts, List.map_cons, ← nameTexts, ih]
    rfl

/-- Every text can be looked up. -/
@[simp]
theorem keyMisuse?_map_string (texts : List String) : keyMisuse? (texts.map .string) = none := by
  have hnone : (texts.map Json.string).find? (fun value => !value.isKey) = none := by
    rw [List.find?_eq_none]
    intro value hvalue
    obtain ⟨text, _, rfl⟩ := List.mem_map.1 hvalue
    simp [isKey, kind]
  rw [keyMisuse?, hnone]
  rfl

/-! ### Joining and ordering -/

/-- What keeps values from being joined to one text: the first of them that is no text.  The first
value has the given number. -/
def joinMisuse? (first : Nat) (values : List Json) : Option Misuse :=
  ((values.zipIdx first).find? fun value => !value.1.isText).map fun value =>
    .noPiece value.2 value.1.kind

/-- Whether a value is a number or a truth value. -/
def isNumber (json : Json) : Bool :=
  json.kind = .truth || json.kind = .integer || json.kind = .decimal

/-- Whether a number stands before another or beside it.  What has no rank stands beside every
number. -/
def numberLe (a b : Json) : Bool :=
  match a.rank?, b.rank? with
  | some rank, some other => rank.le other
  | _, _ => true

/-- **Values in order**: texts by code points, numbers by size.  Values of different kinds have no
order. -/
def ordered (values : List Json) : Except Misuse (List Json) :=
  match values with
  | [] => .ok []
  | [value] => .ok [value]
  | first :: rest =>
    if values.all isText then .ok (values.mergeSort fun a b => decide (a.display ≤ b.display))
    else if values.all isNumber then .ok (values.mergeSort numberLe)
    else
      let other := rest.find? fun value => !(value.isText && first.isText
        || value.isNumber && first.isNumber)
      .error (.noOrder (other.getD first).kind first.kind)

/-- What keeps values from being joined to one text in order: they have no order, or one of them is
no text. -/
def listingMisuse? (values : List Json) : Option Misuse :=
  match ordered values with
  | .ok inOrder => joinMisuse? 0 inOrder
  | .error misuse => some misuse

/-! ### Tables -/

/-- The rows of a list of pairs, the first of which has the given number. -/
def pairs : Nat → List Json → Except Misuse (List (Json × Json))
  | _, [] => .ok []
  | index, item :: rest =>
    match item.listed with
    | .error _ => .error (.noPair index)
    | .ok [name, value] =>
      if name.isKey then (pairs (index + 1) rest).map ((name, value) :: ·)
      else .error (.noKey name.kind)
    | .ok values => .error (.pairLength index values.length)

/-- **The rows of a table**: the fields of an object, or the pairs that another value lists. -/
def tableRows : Json → Except Misuse (List (Json × Json))
  | .object fields => .ok (fields.map fun field => (.string field.1, field.2))
  | json =>
    match json.listed with
    | .ok items => pairs 0 items
    | .error misuse => .error misuse

end Json

end CustomBuild
