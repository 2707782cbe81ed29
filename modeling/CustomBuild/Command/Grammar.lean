import CustomBuild.Command.Basic
import CustomBuild.Text.Blank

/-!
# The language of commands

A command is written as a list of tokens, which `Term.read` reads one term at a time:

* `-o path`, `--output path` and `--output=path` name the file to write, and `-c`, `-s`, `-m` and
  `--strict-names` with their long forms are flags;
* `key=value` is a directive: a list of names between commas, the export formats, or a wrapper
  template;
* a bare word is a bundle or a mode, or both.

A command is its terms (`Term.readAll`), and each of its fields is a function of them (`ofTerms`),
so that the order of terms matters only within a field.  Names are not checked here: that needs a
registry.
-/

namespace CustomBuild

/-- Why a list of tokens is no command; each error has the token that is at fault. -/
inductive CommandError where
  /-- an output option has no path -/
  | missingPath (token : String)
  /-- an option is none of the known ones -/
  | unknownOption (token : String)
  /-- a directive has an unknown key -/
  | unknownKey (key token : String)
  /-- a directive has no value -/
  | missingValue (token : String)
  /-- a bare word is neither a bundle nor a mode -/
  | unknownWord (token : String)
  /-- a template does not have exactly one output mark -/
  | markCount (count : Nat) (token : String)
deriving DecidableEq, Repr

namespace CommandError

/-- The token that is at fault. -/
def token : CommandError → String
  | .missingPath token => token
  | .unknownOption token => token
  | .unknownKey _ token => token
  | .missingValue token => token
  | .unknownWord token => token
  | .markCount _ token => token

/-- The wording of a command error. -/
def message : CommandError → String
  | .missingPath token => s!"'{token}' requires a file path"
  | .unknownOption token => s!"Unknown option '{token}'"
  | .unknownKey key token => s!"Unknown directive '{key}=' in '{token}'"
  | .missingValue token => s!"Directive '{token}' requires '=value'"
  | .unknownWord token => s!"Unrecognized token '{token}'"
  | .markCount count _ =>
    s!"iife template must contain exactly one '{outputMark}' marker (found {count})"

end CommandError

/-! ### Terms -/

/-- The lists of names that directives extend. -/
inductive NameList where
  /-- the names to start from -/
  | included
  /-- names to take away -/
  | excluded
  /-- names to add -/
  | plus
  /-- names to take away -/
  | minus
  /-- the categories to start from -/
  | category
deriving DecidableEq, Repr

/-- The key of the directive that extends a list of names. -/
def NameList.key : NameList → String
  | .included => "include"
  | .excluded => "exclude"
  | .plus => "plus"
  | .minus => "minus"
  | .category => "category"

/-- Every list of names. -/
def NameList.all : List NameList :=
  [.included, .excluded, .plus, .minus, .category]

/-- One term of a command. -/
inductive Term where
  /-- names the file to write -/
  | output (path : String)
  /-- asks for standard output -/
  | stdout
  /-- asks for silence -/
  | silent
  /-- asks for reduction -/
  | minify
  /-- makes unknown names an error -/
  | strictNames
  /-- extends a list of names -/
  | names (list : NameList) (value : String)
  /-- chooses export formats -/
  | exports (value : String)
  /-- gives a wrapper -/
  | wrapper (template : WrapperTemplate)
  /-- a bundle or a mode, or both -/
  | keyword (word : String)
deriving DecidableEq, Repr

namespace Term

/-- The keys of directives. -/
def keys : List String :=
  NameList.all.map NameList.key ++ ["exports", "iife"]

/-- The flag that a token is. -/
def flag? (token : String) : Option Term :=
  if token == "-c" || token == "--stdout" then some .stdout
  else if token == "-s" || token == "--silent" then some .silent
  else if token == "-m" || token == "--minify" then some .minify
  else if token == "--strict-names" then some .strictNames
  else none

/-- The term of a directive. -/
def directive (key value token : String) : Except CommandError Term :=
  match NameList.all.find? fun list => list.key == key with
  | some list => .ok (.names list value)
  | none =>
    -- the value of a wrapper is checked when it is read, that of every other key is not
    if key == "exports" then .ok (.exports value)
    else if key == "iife" then
      let count := Text.occurrences outputMark value
      if count = 1 then .ok (.wrapper ⟨value⟩) else .error (.markCount count token)
    else .error (.unknownKey key token)

/-- Whether a token can be the path of an output option. -/
def isPath (token : String) : Bool :=
  !token.isEmpty && !Text.beginsWith token "-"

/-- Reads a token that is a term of its own. -/
def readOne (token : String) : Except CommandError Term :=
  if Text.beginsWith token "--output=" then
    let path := (Text.cut '=' token).2.2
    if path.isEmpty then .error (.missingPath token) else .ok (.output path)
  else match flag? token with
    | some term => .ok term
    | none =>
      if Text.beginsWith token "-" then .error (.unknownOption token)
      else match Text.cut '=' token with
        | (key, true, value) => directive key value token
        | (_, false, _) =>
          -- a bare key is a directive that lacks its value, not a bundle or a mode
          if keys.contains token then .error (.missingValue token)
          else if bundleKeywords.contains token || modeTags.contains token then .ok (.keyword token)
          else .error (.unknownWord token)

/-- **The terms of a list of tokens**, or the error of the first one that is no term.  Only the
short and the long output option take the token after them. -/
def readAll : List String → Except CommandError (List Term)
  | [] => .ok []
  | token :: rest =>
    if token == "-o" || token == "--output" then
      match rest with
      | path :: rest =>
        if isPath path then (readAll rest).map (.output path :: ·) else .error (.missingPath token)
      | [] => .error (.missingPath token)
    else
      match readOne token with
      | .ok term => (readAll rest).map (term :: ·)
      | .error error => .error error

/-- The names that a term adds to a list. -/
def namesFor (list : NameList) : Term → List String
  | .names other value => if other = list then Text.commaParts value else []
  | _ => []

/-- The bundle or mode that a term is. -/
def keyword? : Term → Option String
  | .keyword word => some word
  | _ => none

/-- The path that a term gives. -/
def path? : Term → Option String
  | .output path => some path
  | _ => none

/-- The wrapper that a term gives. -/
def wrapper? : Term → Option WrapperTemplate
  | .wrapper template => some template
  | _ => none

/-- The export formats that a term chooses; anything else that it lists is ignored. -/
def formats? : Term → Option (List String)
  | .exports value =>
    some (((Text.commaParts value).map Text.lowered).filter fun f => exportFormats.contains f)
  | _ => none

/-- The words of a term that the banner shows. -/
def bannerWord? : Term → Option String
  | .names list value => some (list.key ++ "=\"" ++ value ++ "\"")
  | .exports value => some ("exports=\"" ++ value ++ "\"")
  | .wrapper template => some ("iife=\"" ++ template.text ++ "\"")
  | .keyword word => some word
  | _ => none

/-- Whether a term gives a list, even without values. -/
def isFor (list : NameList) : Term → Bool
  | .names other _ => other = list
  | _ => false

end Term

/-! ### Commands -/

namespace Command

/-- The name of a category in its usual spelling, and any other value as it is. -/
def normalizedCategory (value : String) : String :=
  match Category.ofAnyCase? value with
  | some category => category.name
  | none => value

/-- The export formats that terms choose, in the order of the exposure chain; without any choice
they are all chosen. -/
def exportsOf (terms : List Term) : List String :=
  let chosen := terms.filterMap Term.formats?
  if chosen.isEmpty then exportFormats
  else exportFormats.filter fun f => chosen.flatten.contains f

/-- **The command of a list of terms.**  Lists are joined in order, a later path or wrapper takes
the place of an earlier one, and a bundle counts at its first place. -/
def ofTerms (terms : List Term) : Command where
  included :=
    if terms.any (Term.isFor .included) then some (terms.flatMap (Term.namesFor .included))
    else none
  bundles := ((terms.filterMap Term.keyword?).filter fun w => bundleKeywords.contains w).eraseDups
  categories := (terms.flatMap (Term.namesFor .category)).map normalizedCategory
  plus := terms.flatMap (Term.namesFor .plus)
  minus := terms.flatMap (Term.namesFor .minus)
  excluded := terms.flatMap (Term.namesFor .excluded)
  modes := NameSet.ofList ((terms.filterMap Term.keyword?).filter fun w => modeTags.contains w)
  exports := exportsOf terms
  wrapper := (terms.filterMap Term.wrapper?).getLast?
  outputPath := (terms.filterMap Term.path?).getLast?
  stdout := terms.contains .stdout
  silent := terms.contains .silent
  minify := terms.contains .minify
  strictNames := terms.contains .strictNames
  tokens := terms.filterMap Term.bannerWord?

/-- **The command that a list of tokens writes.** -/
def ofTokens (tokens : List String) : Except CommandError Command :=
  (Term.readAll tokens).map ofTerms

end Command

end CustomBuild
