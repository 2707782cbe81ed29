import CustomBuild.Command.Grammar
import CustomBuild.Json.Misuse

/-!
# Tokens of any kind

A command that is given as a list of JSON values is read as far as its tokens are texts
(`Command.ofValues`).  A token that is no text is of no use, whatever comes after it; but what is
wrong with the tokens before it is found first.
-/

namespace CustomBuild

/-- Why a list of values is no command. -/
inductive TokensError where
  /-- the tokens are malformed -/
  | command (error : CommandError)
  /-- a token is no text -/
  | misuse (misuse : Misuse)
deriving DecidableEq, Repr

namespace Command

/-- The texts that a list of values begins with. -/
def leadingTexts : List Json → List String
  | .string text :: rest => text :: leadingTexts rest
  | _ => []

/-- Whether tokens end with an output option that has no path yet. -/
def awaitsPath (tokens : List String) : Bool :=
  (Term.readAll (tokens ++ ["path"])).isOk

/-- What comes of a token that is no text, after the given tokens.  Where a path is expected, a
value that does not count as true is as good as none. -/
def readOdd (tokens : List String) (value : Json) : TokensError :=
  let misuse := TokensError.misuse (.noOperation value.kind "startswith")
  match Term.readAll tokens with
  | .ok _ => misuse
  | .error error => if value.isTruthy && awaitsPath tokens then misuse else .command error

/-- **Reading a command that is given as values.** -/
def ofValues (values : List Json) : Except TokensError Command :=
  let tokens := leadingTexts values
  match values.drop tokens.length with
  | [] => (ofTokens tokens).mapError .command
  | value :: _ => .error (readOdd tokens value)

/-- The texts that a list of texts begins with are all of it. -/
@[simp]
theorem leadingTexts_map_string (texts : List String) :
    leadingTexts (texts.map .string) = texts := by
  induction texts with
  | nil => rfl
  | cons text rest ih => rw [List.map_cons, leadingTexts, ih]

/-- **A command that is given as texts** is read as its tokens are. -/
@[simp]
theorem ofValues_map_string (tokens : List String) :
    ofValues (tokens.map .string) = (ofTokens tokens).mapError .command := by
  rw [ofValues, leadingTexts_map_string, List.drop_of_length_le (by simp)]

end Command

end CustomBuild
