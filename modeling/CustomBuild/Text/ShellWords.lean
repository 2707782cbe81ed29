/-!
# Command words

A command given as one text is cut into words as a shell would cut it: words are separated by
spaces, tabs, carriage returns and line feeds; single quotes keep everything between them; double
quotes keep everything but a backslash before a double quote or a backslash; elsewhere a backslash
keeps the next character.  Quoted parts join their neighbours, and `''` is an empty word.
-/

namespace CustomBuild.ShellWords

/-- Why a text is not a command. -/
inductive Error where
  /-- a quote has no partner -/
  | openQuote
  /-- the text ends in a backslash -/
  | openEscape
deriving DecidableEq, Repr

/-- The wording of an error. -/
def Error.message : Error → String
  | .openQuote => "No closing quotation"
  | .openEscape => "No escaped character"

/-- Where the scanner stands. -/
inductive State where
  /-- outside quotes -/
  | plain
  /-- after a backslash outside quotes -/
  | escape
  /-- between single quotes -/
  | single
  /-- between double quotes -/
  | double
  /-- after a backslash between double quotes -/
  | doubleEscape
deriving DecidableEq, Repr

/-- The characters that separate words. -/
def isSeparator (c : Char) : Bool :=
  c == ' ' || c == '\t' || c == '\r' || c == '\n'

/-- The word that has been read, if one has begun; its characters are in reverse. -/
def finished : Option (List Char) → List String
  | none => []
  | some word => [String.ofList word.reverse]

/-- Appends a character to the word being read. -/
def extend (word : Option (List Char)) (c : Char) : Option (List Char) :=
  some (c :: word.getD [])

/-- Reads the rest of a text, given where the scanner stands and the word being read. -/
def scan : State → Option (List Char) → List Char → Except Error (List String)
  | .plain, word, [] => .ok (finished word)
  | .escape, _, [] => .error .openEscape
  | .doubleEscape, _, [] => .error .openEscape
  | .single, _, [] => .error .openQuote
  | .double, _, [] => .error .openQuote
  | .plain, word, c :: cs =>
    if isSeparator c then (scan .plain none cs).map (finished word ++ ·)
    else if c == '\\' then scan .escape word cs
    -- a quote begins a word, even if nothing stands between it and the closing one
    else if c == '\'' then scan .single (some (word.getD [])) cs
    else if c == '"' then scan .double (some (word.getD [])) cs
    else scan .plain (extend word c) cs
  | .escape, word, c :: cs => scan .plain (extend word c) cs
  | .single, word, c :: cs =>
    if c == '\'' then scan .plain word cs else scan .single (extend word c) cs
  | .double, word, c :: cs =>
    if c == '"' then scan .plain word cs
    else if c == '\\' then scan .doubleEscape word cs
    else scan .double (extend word c) cs
  | .doubleEscape, word, c :: cs =>
    if c == '"' || c == '\\' then scan .double (extend word c) cs
    else scan .double (extend (extend word '\\') c) cs

/-- **The words of a command**, or why the text is none. -/
def split (command : String) : Except Error (List String) :=
  scan .plain none command.toList

end CustomBuild.ShellWords
