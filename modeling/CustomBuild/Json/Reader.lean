import CustomBuild.Decimal.Shortest
import CustomBuild.Json.Basic
import CustomBuild.Text.StandIn

/-!
# Reading JSON

`Json.read` reads a whole text as one JSON value.  It is strict: blanks are the space, the tab and
the two newline characters, a text may not hold control characters, and no comma is trailing.  Three
numbers without digits are admitted (`NaN`, `Infinity` and `-Infinity`).  A field that is written
twice keeps its first place and takes its last value.  There are limits to the depth of a value and
to the digits of an integer.
-/

namespace CustomBuild.Json

/-! ### Errors and limits -/

/-- Why a text writes no value. -/
inductive ReadError where
  /-- it is not written in JSON -/
  | malformed
  /-- its sequences and objects are nested too deeply; the last one is an object or not -/
  | tooDeep (isObject : Bool)
  /-- an integer has too many digits -/
  | tooManyDigits (count : Nat)
deriving DecidableEq, Repr

/-- How deeply sequences and objects may be nested. -/
def maxDepth : Nat := 988

/-- How many digits an integer may have. -/
def maxDigits : Nat := 4300

/-- The wording of a read error. -/
def ReadError.message : ReadError → String
  | .malformed => "The text is not written in JSON"
  | .tooDeep isObject =>
    "maximum recursion depth exceeded while decoding a JSON "
      ++ (if isObject then "object" else "array") ++ " from a unicode string"
  | .tooManyDigits count =>
    "Exceeds the limit (" ++ toString maxDigits
      ++ " digits) for integer string conversion: value has " ++ toString count
      ++ " digits; use sys.set_int_max_str_digits() to increase the limit"

/-- The blanks between the tokens of a JSON text. -/
def isSpace (c : Char) : Bool :=
  c == ' ' || c == '\t' || c == '\n' || c == '\r'

/-- A text without the blanks in front. -/
def skipSpace (cs : List Char) : List Char :=
  cs.dropWhile isSpace

/-! ### Texts -/

/-- The value of a hexadecimal digit. -/
def hexDigit? (c : Char) : Option Nat :=
  let n := c.toNat
  if 48 ≤ n && n ≤ 57 then some (n - 48)
  else if 97 ≤ n && n ≤ 102 then some (n - 87)
  else if 65 ≤ n && n ≤ 70 then some (n - 55)
  else none

/-- The value of four hexadecimal digits. -/
def hexUnit? (a b c d : Char) : Option Nat := do
  let a ← hexDigit? a
  let b ← hexDigit? b
  let c ← hexDigit? c
  let d ← hexDigit? d
  pure (((a * 16 + b) * 16 + c) * 16 + d)

/-- The characters read so far, in reverse, when nothing can complete the `pending` code unit. -/
def flushed (pending : Option Nat) (read : List Char) : List Char :=
  match pending with
  | none => read
  | some unit => Text.standIn unit :: read

/-- The character of a one-letter escape. -/
def escape? : Char → Option Char
  | '"' => some '"'
  | '\\' => some '\\'
  | '/' => some '/'
  | 'b' => some (Char.ofNat 8)
  | 'f' => some (Char.ofNat 12)
  | 'n' => some '\n'
  | 'r' => some '\r'
  | 't' => some '\t'
  | _ => none

/-- A text of JSON: its characters, and whether some of them are stand-ins for halves of pairs. -/
structure Written where
  /-- the characters -/
  text : String
  /-- whether there are halves of pairs -/
  isBroken : Bool
deriving DecidableEq, Repr

/-- The value that a text is. -/
def Written.value (w : Written) : Json :=
  if w.isBroken then .broken w.text else .string w.text

/-- The field name that a text is. -/
def Written.name (w : Written) : String :=
  if w.isBroken then Text.marked w.text w.text else w.text

/-- Reads the rest of a text after its opening quote: the characters read so far in reverse, whether
they have halves of pairs, a high half that waits for its partner, and what is left to read.  Two
halves that form a pair are one character. -/
def readText (read : List Char) (isBroken : Bool) (pending : Option Nat) :
    List Char → Option (Written × List Char)
  | [] => none
  | '"' :: rest =>
    some
      ({ text := String.ofList (flushed pending read).reverse,
         isBroken := isBroken || pending.isSome }, rest)
  | '\\' :: 'u' :: a :: b :: c :: d :: rest =>
    match hexUnit? a b c d with
    | none => none
    | some unit =>
      let nowBroken := isBroken || pending.isSome
      if 0xD800 ≤ unit && unit < 0xDC00 then
        readText (flushed pending read) nowBroken (some unit) rest
      else if 0xDC00 ≤ unit && unit < 0xE000 then
        match pending with
        | some high =>
          -- the pair is one character beyond the first plane
          let code := 0x10000 + (high - 0xD800) * 0x400 + (unit - 0xDC00)
          readText (Char.ofNat code :: read) isBroken none rest
        | none => readText (Text.standIn unit :: read) true none rest
      else readText (Char.ofNat unit :: flushed pending read) nowBroken none rest
  -- any other character ends the wait for the second half of a pair
  | '\\' :: letter :: rest =>
    match escape? letter with
    | none => none
    | some c => readText (c :: flushed pending read) (isBroken || pending.isSome) none rest
  | c :: rest =>
    if c.toNat < 32 || c == '\\' then none
    else readText (c :: flushed pending read) (isBroken || pending.isSome) none rest

/-! ### Numbers -/

/-- The fraction of a number, which may be absent, and the rest of the text. -/
def readFraction : List Char → List Char × List Char
  | '.' :: rest =>
    let digits := rest.takeWhile Decimal.isDigit
    if digits.isEmpty then ([], '.' :: rest) else ('.' :: digits, rest.dropWhile Decimal.isDigit)
  | rest => ([], rest)

/-- The exponent of a number, which may be absent, and the rest of the text. -/
def readExponent (cs : List Char) : List Char × List Char :=
  match cs with
  | mark :: rest =>
    if mark == 'e' || mark == 'E' then
      let sign := rest.takeWhile fun c => c == '+' || c == '-'
      let after := rest.drop sign.length
      let digits := after.takeWhile Decimal.isDigit
      if 1 < sign.length || digits.isEmpty then ([], cs)
      else (mark :: sign ++ digits, after.dropWhile Decimal.isDigit)
    else ([], cs)
  | [] => ([], [])

/-- Reads a number without its sign. -/
def readUnsigned (negative : Bool) (cs : List Char) : Except ReadError (Json × List Char) :=
  let digits := match cs with
    | '0' :: _ => ['0']
    | _ => cs.takeWhile Decimal.isDigit
  if digits.isEmpty then .error .malformed
  else
    let (fraction, rest) := readFraction (cs.drop digits.length)
    let (exponent, rest) := readExponent rest
    if fraction.isEmpty && exponent.isEmpty then
      if maxDigits < digits.length then .error (.tooManyDigits digits.length)
      else
        let value : Int := Decimal.digitsValue digits
        .ok (.integer (if negative then -value else value), rest)
    else
      let sign := if negative then ['-'] else []
      .ok (.decimal (String.ofList (sign ++ digits ++ fraction ++ exponent)), rest)

/-- Reads a number or one of the named constants. -/
def readWord (cs : List Char) : Except ReadError (Json × List Char) :=
  let words : List (String × Json) :=
    [("null", .null), ("true", .bool true), ("false", .bool false), ("NaN", .decimal "NaN"),
     ("Infinity", .decimal "Infinity"), ("-Infinity", .decimal "-Infinity")]
  match words.find? fun word => word.1.toList.isPrefixOf cs with
  | some (word, value) => .ok (value, cs.drop word.length)
  | none =>
    match cs with
    | '-' :: rest => readUnsigned true rest
    | _ => readUnsigned false cs

/-! ### Values -/

mutual

/-- Reads one value at a depth, and gives the text after it; `fuel` bounds the number of steps. -/
def readValue (depth : Nat) : Nat → List Char → Except ReadError (Json × List Char)
  | 0, _ => .error .malformed
  | fuel + 1, cs =>
    match cs with
    | '"' :: rest =>
      match readText [] false none rest with
      | some (written, rest) => .ok (written.value, rest)
      | none => .error .malformed
    | '[' :: rest =>
      if maxDepth ≤ depth then .error (.tooDeep false)
      else match skipSpace rest with
        | ']' :: rest => .ok (.array [], rest)
        | rest => (readItems (depth + 1) fuel rest).map fun (items, rest) => (.array items, rest)
    | '{' :: rest =>
      if maxDepth ≤ depth then .error (.tooDeep true)
      else match skipSpace rest with
        | '}' :: rest => .ok (.object [], rest)
        | rest =>
          (readFields (depth + 1) fuel rest).map fun (fields, rest) =>
            (.object (Table.ofRows fields).rows, rest)
    | _ => readWord cs

/-- Reads the items of a sequence up to its closing bracket. -/
def readItems (depth : Nat) : Nat → List Char → Except ReadError (List Json × List Char)
  | 0, _ => .error .malformed
  | fuel + 1, cs =>
    match readValue depth fuel cs with
    | .error error => .error error
    | .ok (item, rest) =>
      match skipSpace rest with
      | ']' :: rest => .ok ([item], rest)
      | ',' :: rest =>
        (readItems depth fuel (skipSpace rest)).map fun (items, rest) => (item :: items, rest)
      | _ => .error .malformed

/-- Reads the fields of an object up to its closing brace. -/
def readFields (depth : Nat) :
    Nat → List Char → Except ReadError (List (String × Json) × List Char)
  | 0, _ => .error .malformed
  | fuel + 1, cs =>
    match cs with
    | '"' :: rest =>
      match readText [] false none rest with
      | none => .error .malformed
      | some (written, rest) =>
        match skipSpace rest with
        | ':' :: rest =>
          match readValue depth fuel (skipSpace rest) with
          | .error error => .error error
          | .ok (value, rest) =>
            match skipSpace rest with
            | '}' :: rest => .ok ([(written.name, value)], rest)
            | ',' :: rest =>
              (readFields depth fuel (skipSpace rest)).map fun (fields, rest) =>
                ((written.name, value) :: fields, rest)
            | _ => .error .malformed
        | _ => .error .malformed
    | _ => .error .malformed

end

/-- **The value that a whole text writes**, or the first thing that is wrong with it.  A step of the
reader uses up at least one character, which bounds their number. -/
def read (text : String) : Except ReadError Json :=
  let cs := text.toList
  match readValue 0 (2 * cs.length + 2) (skipSpace cs) with
  | .ok (value, rest) => if (skipSpace rest).isEmpty then .ok value else .error .malformed
  | .error error => .error error

end CustomBuild.Json
