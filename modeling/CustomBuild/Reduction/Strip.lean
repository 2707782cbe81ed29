import CustomBuild.Text.Blank

/-!
# Stripping

The built-in reduction works line by line: it takes off indentation and trailing blanks and drops
blank lines, line comments and block comments that stand at the start of a line.  A block comment
that begins with `/*!` is a banner and is kept, with every line up to the one with its end.  Text
after a block comment on one line is kept as it is, whatever it begins with.
-/

namespace CustomBuild.Strip

/-- Where the scanner stands at the start of a line. -/
inductive State where
  /-- outside comments -/
  | code
  /-- inside a block comment that is dropped -/
  | comment
  /-- inside a banner -/
  | banner
deriving DecidableEq, Repr

/-- The end of a block comment. -/
def commentEnd : List Char := ['*', '/']

/-- Scans a trimmed line outside comments: the state after it, and the part of it that is kept. -/
def scanCode (line : List Char) : State × Option (List Char) :=
  if line.isEmpty || ['/', '/'].isPrefixOf line then (.code, none)
  else if ['/', '*', '!'].isPrefixOf line then
    (if Text.occurs commentEnd (line.drop 3) then .code else .banner, some line)
  else if ['/', '*'].isPrefixOf line then
    match Text.cut? commentEnd (line.drop 2) with
    | none => (.comment, none)
    | some (_, after) =>
      let rest := Text.trimChars after
      (.code, if rest.isEmpty then none else some rest)
  else (.code, some line)

/-- Scans a line: the state after it, and the part of it that is kept. -/
def scanLine (state : State) (line : List Char) : State × Option (List Char) :=
  let trimmed := Text.trimChars line
  match state with
  | .code => scanCode trimmed
  | .comment =>
    match Text.cut? commentEnd trimmed with
    | none => (.comment, none)
    | some (_, after) => scanCode (Text.trimChars after)
  | .banner => (if Text.occurs commentEnd trimmed then .code else .banner, some trimmed)

/-- The kept lines of a text whose lines are given, and the state after it. -/
def scanLines : State → List (List Char) → List (List Char) × State
  | state, [] => ([], state)
  | state, line :: rest =>
    let (next, kept) := scanLine state line
    let (lines, last) := scanLines next rest
    (kept.toList ++ lines, last)

/-- The lines that stripping keeps. -/
def keptLines (source : String) : List (List Char) :=
  (scanLines .code (Text.splitWhere (· == '\n') source.toList)).1

/-- **Stripping a source.**  A final line feed stays. -/
def strip (source : String) : String :=
  Text.unlines ((keptLines source).map String.ofList)
    ++ (if Text.endsWith source "\n" then "\n" else "")

end CustomBuild.Strip
