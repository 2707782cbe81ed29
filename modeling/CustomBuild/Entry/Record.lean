import CustomBuild.Entry
import CustomBuild.Json.Misuse

/-!
# Records of entries

An entry is written down as a record, a JSON object.  `EntryRecord` has the fields as they are
written, whatever their kinds; `EntryRecord.entry` is the entry that they mean.  The serialised form
leaves out a field that has its default value.  An entry is what its own record means
(`entry_record`).
-/

namespace CustomBuild

/-- An entry as it is written down. -/
structure EntryRecord where
  /-- the canonical name -/
  name : Json
  /-- the name of the category -/
  category : Json
  /-- other names -/
  aliases : List Json
  /-- the names of what the fragments use -/
  dependencies : List Json
  /-- the fragments by tag -/
  variants : List (Json × Json)
  /-- the text after the assignments -/
  tail : Json
  /-- whether the function is assigned to the library object -/
  isStatic : Json
  /-- the tags to try first -/
  precedence : List Json
deriving DecidableEq, Repr

namespace EntryRecord

/-- **Reading a record.**  Only the name is required; unknown fields are ignored. -/
def ofJson? (json : Json) : Except Misuse EntryRecord := do
  let name ← json.required "name"
  let aliases ← json.listedOr "aliases" []
  let dependencies ← json.listedOr "dependencies" []
  let variants ← (json.fieldOr "variants" (.object [])).tableRows
  let precedence ← json.listedOr "precedence" []
  pure
    { name, category := json.fieldOr "category" (.string ""), aliases, dependencies, variants,
      tail := json.fieldOr "tail" (.string ""), isStatic := json.fieldOr "static" (.bool true),
      precedence }

/-- A tag, spelled as it is first spelled among the tags of the fragments. -/
def tagText (r : EntryRecord) (tag : Json) : String :=
  (tag.spelledAs (r.variants.map Prod.fst)).nameText

/-- The table of the fragments. -/
def variantTable (r : EntryRecord) : Table Json :=
  Table.ofRows (r.variants.map fun row => (r.tagText row.1, row.2))

/-- **The entry that a record means.** -/
def entry (r : EntryRecord) : Entry where
  name := r.name.nameText
  category := if r.category.isTruthy then r.category.nameText else ""
  aliases := Json.nameTexts r.aliases
  dependencies := Json.nameTexts r.dependencies
  variants := r.variantTable
  tail := Tail.ofJson r.tail
  isStatic := r.isStatic.isTruthy
  precedence := r.precedence.map r.tagText

/-- **The serialised form** of a record.  Name, dependencies and variants are always written, the
other fields only if they differ from their defaults. -/
def toJson (r : EntryRecord) : Json :=
  .object <|
    [("name", r.name), ("dependencies", .array r.dependencies),
     ("variants", .object r.variantTable.rows)]
    ++ (if r.category.isTruthy then [("category", r.category)] else [])
    ++ (if r.aliases.isEmpty then [] else [("aliases", .array r.aliases)])
    ++ (if r.tail.isTruthy then [("tail", r.tail)] else [])
    ++ (if r.isStatic.isTruthy then [] else [("static", .bool false)])
    ++ (if r.precedence.isEmpty then [] else [("precedence", .array r.precedence)])

/-- Whether a value is a truth value, or a number that equals one. -/
def isTruthValue (value : Json) : Bool :=
  value.sameName (.bool true) || value.sameName (.bool false)

/-- **Whether a record is read back** from its serialised form.  What is left out is read as the
default, so a value that does not count as true has to be the default, and whether the function is
assigned has to be told by a truth value. -/
def readsBack (r : EntryRecord) : Bool :=
  (r.category.isTruthy || r.category = .string "") && (r.tail.isTruthy || r.tail = .string "")
    && isTruthValue r.isStatic

end EntryRecord

namespace Entry

/-- **Reading the serialised form** of an entry. -/
def ofJson? (json : Json) : Except Misuse Entry :=
  (EntryRecord.ofJson? json).map EntryRecord.entry

/-- The record of an entry. -/
def record (e : Entry) : EntryRecord where
  name := .string e.name
  category := .string e.category
  aliases := e.aliases.map .string
  dependencies := e.dependencies.map .string
  variants := e.variants.rows.map fun row => (.string row.1, row.2)
  tail := e.tail.value
  isStatic := .bool e.isStatic
  precedence := e.precedence.map .string

/-- **An entry is what its record means.** -/
@[simp]
theorem entry_record (e : Entry) : e.record.entry = e := by
  obtain ⟨name, category, aliases, dependencies, variants, tail, isStatic, precedence⟩ := e
  simp [record, EntryRecord.entry, EntryRecord.variantTable, EntryRecord.tagText, Json.nameText,
    Json.isTruthy, List.map_map, Function.comp_def]

/-- **The serialised form** of an entry is that of its record. -/
def toJson (e : Entry) : Json :=
  e.record.toJson

end Entry

end CustomBuild
