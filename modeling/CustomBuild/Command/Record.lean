import CustomBuild.Command.Basic
import CustomBuild.Json.Misuse

/-!
# Records of commands

A command is written down as a record, a JSON object.  `CommandRecord` has the fields as they are
written, whatever their kinds; `CommandRecord.command` is the command that they mean, in which a
value of another kind than a text goes by its name.  Not every use of a command can make do with
names: `selectionMisuse?` and `scriptMisuse?` say what stands in the way.  A command is what its own
record means (`command_record`).
-/

namespace CustomBuild

/-- A command as it is written down. -/
structure CommandRecord where
  /-- the names to start from, if a list of them was given -/
  included : Option (List Json)
  /-- the bundles to start from -/
  bundles : List Json
  /-- the categories to start from -/
  categories : List Json
  /-- names to add -/
  plus : List Json
  /-- names to take away -/
  minus : List Json
  /-- further names to take away -/
  excluded : List Json
  /-- the active modes, each once -/
  modes : List Json
  /-- the export formats -/
  exports : List Json
  /-- the wrapper in place of the usual one, if there is one -/
  wrapper : Option Json
  /-- the file to write -/
  outputPath : Json
  /-- whether to write to standard output in place of a file -/
  stdout : Json
  /-- whether to keep quiet -/
  silent : Json
  /-- whether to reduce the module -/
  minify : Json
  /-- whether unknown names are an error -/
  strictNames : Json
  /-- the words of the command that the banner shows -/
  tokens : List Json
deriving DecidableEq, Repr

namespace CommandRecord

/-! ### Reading -/

/-- The members of a set that is written as a list. -/
def membersOf (values : List Json) : Except Misuse (List Json) :=
  match Json.keyMisuse? values with
  | some misuse => .error misuse
  | none => .ok (Json.distinct values)

/-- A field that is the absent value, or is absent, has no value. -/
def optionalField (json : Json) (name : String) : Option Json :=
  (json.field? name).filter (· ≠ .null)

/-- **Reading a record.**  A field that is absent has its default value; unknown fields are
ignored. -/
def ofJson? (json : Json) : Except Misuse CommandRecord := do
  if json.kind ≠ .object then throw (.noOperation json.kind "get")
  let included ←
    match optionalField json "include" with
    | none => pure none
    | some names => names.listed.map some
  let bundles ← json.listedOr "bundles" []
  let categories ← json.listedOr "categories" []
  let plus ← json.listedOr "plus" []
  let minus ← json.listedOr "minus" []
  let excluded ← json.listedOr "exclude" []
  let modes ← (← json.listedOr "modes" []) |> membersOf
  let exports ← json.listedOr "exports" exportFormats
  let tokens ← json.listedOr "tokens" []
  pure
    { included, bundles, categories, plus, minus, excluded, modes, exports,
      wrapper := optionalField json "wrapper",
      outputPath := json.fieldOr "output_path" .null,
      stdout := json.fieldOr "stdout" (.bool false),
      silent := json.fieldOr "silent" (.bool false),
      minify := json.fieldOr "minify" (.bool false),
      strictNames := json.fieldOr "strict_names" (.bool false), tokens }

/-! ### Serialised form -/

/-- The object that a record is written as, with the modes in the given order. -/
def written (r : CommandRecord) (modes : List Json) : Json :=
  .object
    [("include", match r.included with | none => .null | some names => .array names),
     ("bundles", .array r.bundles),
     ("categories", .array r.categories),
     ("plus", .array r.plus),
     ("minus", .array r.minus),
     ("exclude", .array r.excluded),
     ("modes", .array modes),
     ("exports", .array r.exports),
     ("wrapper", r.wrapper.getD .null),
     ("output_path", r.outputPath),
     ("stdout", r.stdout),
     ("silent", r.silent),
     ("minify", r.minify),
     ("strict_names", r.strictNames),
     ("tokens", .array r.tokens)]

/-- **The serialised form** of a record.  Every field is written, and the modes are in order. -/
def toJson (r : CommandRecord) : Except Misuse Json :=
  (Json.ordered r.modes).map r.written

/-! ### The command of a record -/

/-- The path that a value is: one that does not count as true is an empty path. -/
def pathOf : Json → Option String
  | .null => none
  | json => some (if json.isTruthy then json.nameText else "")

/-- **The command that a record means.** -/
def command (r : CommandRecord) : Command where
  included := r.included.map Json.nameTexts
  bundles := Json.nameTexts r.bundles
  categories := Json.nameTexts r.categories
  plus := Json.nameTexts r.plus
  minus := Json.nameTexts r.minus
  excluded := Json.nameTexts r.excluded
  modes := NameSet.ofList (Json.nameTexts r.modes)
  exports := Json.nameTexts r.exports
  wrapper := r.wrapper.map fun wrapper => ⟨wrapper.nameText⟩
  outputPath := pathOf r.outputPath
  stdout := r.stdout.isTruthy
  silent := r.silent.isTruthy
  minify := r.minify.isTruthy
  strictNames := r.strictNames.isTruthy
  tokens := Json.nameTexts r.tokens

/-- Where the module goes, in the form in which it is written. -/
def destination (r : CommandRecord) : Json :=
  if r.stdout.isTruthy then .null
  else if r.outputPath.isTruthy then r.outputPath
  else .optional r.command.destination

/-! ### Misuses -/

/-- What keeps the values of a record from being looked up in a registry: of the values that are
looked up in order, the first one that has no letters to compare with a category, or that cannot be
looked up in a table. -/
def selectionMisuse? (r : CommandRecord) : Option Misuse :=
  (r.included.bind Json.keyMisuse?)
  <|> ((r.categories.find? fun value => !value.isText).map fun value =>
    .noOperation value.kind "lower")
  <|> Json.keyMisuse? r.plus
  <|> Json.keyMisuse? r.minus
  <|> Json.keyMisuse? r.excluded

/-- The values of a record that are looked up in a registry. -/
def values (r : CommandRecord) : List Json :=
  r.included.getD [] ++ r.categories ++ r.plus ++ r.minus ++ r.excluded

/-- A record whose values are spelled as in a list of known names. -/
def spelledAs (known : List Json) (r : CommandRecord) : CommandRecord :=
  let alike := List.map (Json.spelledAs known)
  { r with
    included := r.included.map alike, categories := alike r.categories, plus := alike r.plus,
    minus := alike r.minus, excluded := alike r.excluded }

/-- What keeps a script from being written for a record: words of the banner that are no texts,
which stand after the name of the library, or a wrapper that is no text. -/
def scriptMisuse? (r : CommandRecord) : Option Misuse :=
  (Json.joinMisuse? 1 r.tokens)
  <|> ((r.wrapper.filter fun wrapper => !wrapper.isText).map fun wrapper =>
    .noOperation wrapper.kind "partition")

end CommandRecord

namespace Command

/-- **Reading the serialised form** of a command. -/
def ofJson? (json : Json) : Except Misuse Command :=
  (CommandRecord.ofJson? json).map CommandRecord.command

/-- The record of a command. -/
def record (c : Command) : CommandRecord where
  included := c.included.map fun names => names.map .string
  bundles := c.bundles.map .string
  categories := c.categories.map .string
  plus := c.plus.map .string
  minus := c.minus.map .string
  excluded := c.excluded.map .string
  modes := c.modes.toList.map .string
  exports := c.exports.map .string
  wrapper := c.wrapper.map fun wrapper => .string wrapper.text
  outputPath := .optional c.outputPath
  stdout := .bool c.stdout
  silent := .bool c.silent
  minify := .bool c.minify
  strictNames := .bool c.strictNames
  tokens := c.tokens.map .string

/-- **A command is what its record means.** -/
@[simp]
theorem command_record (c : Command) : c.record.command = c := by
  have hmodes : NameSet.ofList c.modes.toList = c.modes :=
    NameSet.ext fun x => by rw [NameSet.mem_ofList, NameSet.mem_toList]
  have hpath : CommandRecord.pathOf (.optional c.outputPath) = c.outputPath := by
    cases c.outputPath with
    | none => rfl
    | some path =>
      by_cases h : path = ""
      · subst h
        rfl
      · simp [Json.optional, CommandRecord.pathOf, Json.isTruthy, Json.nameText, h]
  obtain ⟨included, bundles, categories, plus, minus, excluded, modes, exports, wrapper, outputPath,
    stdout, silent, minify, strictNames, tokens⟩ := c
  cases included <;> cases wrapper <;>
    simp_all [record, CommandRecord.command, Json.isTruthy, Json.nameText]

/-- **The serialised form** of a command.  The modes are in order of code points. -/
def toJson (c : Command) : Json :=
  c.record.written (c.modes.toList.map .string)

end Command

end CustomBuild
