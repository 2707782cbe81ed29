import CustomBuild.Entry.Record
import CustomBuild.Registry.Basic

/-!
# Registries of records

A registry can be made of entries that are written down as records, and of a JSON object that has
the titles and the bundles (`ofRecords`).  What cannot be used is found in the order in which a
registry is made: the version that is absent, then the values of the records that cannot be looked
up, then the bundles; only then are the entries checked.

A name can be spelled in several ways.  The registry has each name in the spelling of the entry or
of the alias; a `RegistryRecord` has the records as well, and answers look-ups with the spelling
that was asked for.
-/

namespace CustomBuild

/-- Why records make no registry. -/
inductive RecordError where
  /-- a value is of no use -/
  | misuse (misuse : Misuse)
  /-- the entries and bundles are at fault -/
  | registry (error : RegistryError)
deriving DecidableEq, Repr

/-- The wording of a record error. -/
def RecordError.message : RecordError → String
  | .misuse found => found.message
  | .registry found => found.message

/-! ### Misuses -/

namespace EntryRecord

/-- What keeps a record from being filed under its category and its aliases.  Those of a helper, and
the aliases under an unknown category, are not looked at. -/
def filingMisuse? (r : EntryRecord) : Option Misuse :=
  if !r.category.isTruthy then none
  else if (Category.ofName? r.category.nameText).isSome then Json.keyMisuse? r.aliases
  else Json.keyMisuse? [r.category]

/-- What keeps the tags and dependencies of a record from being looked up. -/
def checkMisuse? (r : EntryRecord) : Option Misuse :=
  Json.keyMisuse? (r.precedence ++ r.dependencies)

/-- **The first misuse among records**: that of a name, then that of filing one of them, and then
that of checking one.  Of the records with one name, the last one counts. -/
def misuse? (records : List EntryRecord) : Option Misuse :=
  let distinct :=
    (Table.ofRows (records.map fun r => (Text.nameKey r.name.nameText, r))).values
  Json.keyMisuse? (records.map EntryRecord.name)
  <|> distinct.findSome? filingMisuse?
  <|> distinct.findSome? checkMisuse?

/-- A record whose dependencies are spelled as in a list of known names. -/
def spelledAs (known : List Json) (r : EntryRecord) : EntryRecord :=
  { r with dependencies := r.dependencies.map (Json.spelledAs known) }

end EntryRecord

/-! ### Making a registry -/

/-- A registry, with the records that it is made of. -/
structure RegistryRecord where
  /-- the registry -/
  registry : Registry
  /-- the entries as they are written -/
  entries : List EntryRecord
  /-- the bundles as they are written -/
  bundles : Table (List Json)
deriving Inhabited

namespace RegistryRecord

/-- The row of one bundle. -/
def readBundle (field : String × Json) : Except Misuse (String × List Json) :=
  match field.2.listed with
  | .error misuse => .error misuse
  | .ok members =>
    match Json.keyMisuse? members with
    | some misuse => .error misuse
    | none => .ok (field.1, members)

/-- The table of the bundles.  A value that does not count as true has none. -/
def readBundles (json : Json) : Except Misuse (Table (List Json)) :=
  if !json.isTruthy then .ok ∅
  else match json with
    | .object fields => (fields.mapM readBundle).map Table.ofRows
    | other => .error (.noOperation other.kind "items")

/-- The bundles as lists of names, which are spelled as in a list of known names. -/
def bundleNames (known : List Json) (bundles : Table (List Json)) : Table (List String) :=
  Table.ofRows (bundles.rows.map fun row =>
    (row.1, Json.nameTexts (row.2.map (Json.spelledAs known))))

/-- The error of entries that have no order.  Names that depend on each other in a circle are listed
in order, which names that are no texts have no part in. -/
def orderError (records : List EntryRecord) (error : RegistryError) : RecordError :=
  match error with
  | .unordered (.cycle names) =>
    let listed := (records.map EntryRecord.name).filter fun name => names.contains name.nameText
    match Json.listingMisuse? listed with
    | some misuse => .misuse misuse
    | none => .registry error
  | other => .registry other

/-- **The registry of records** and of an object with the version, the bundles and the titles. -/
def ofRecords (records : List EntryRecord) (source : Json) :
    Except RecordError RegistryRecord := do
  let version ← (source.required "version").mapError .misuse
  if let some misuse := EntryRecord.misuse? records then throw (.misuse misuse)
  let bundles ← (readBundles (source.fieldOr "bundles" (.object []))).mapError .misuse
  let entries := records.map EntryRecord.entry
  let faults := Registry.faults Text.nameKey entries (bundleNames [] bundles)
  if !faults.isEmpty then throw (.registry (.faults faults))
  let names := records.map EntryRecord.name
  let header : RegistryHeader :=
    { version, bundles := bundleNames names bundles,
      library := source.fieldOr "library" (.string "Lo-Dash"),
      license := source.fieldOr "license" (.string "") }
  let alike := records.map fun r => (r.spelledAs names).entry
  let registry ← (Registry.ofSound alike header).mapError (orderError records)
  pure { registry, entries := records, bundles }

/-! ### Spellings -/

/-- The names of the registry as they are spelled in it: those of the entries, and the aliases of
the public ones. -/
def known (r : RegistryRecord) : List Json :=
  r.entries.map EntryRecord.name
    ++ (r.entries.filter fun e => e.category.isTruthy).flatMap EntryRecord.aliases

/-- The name by which the registry knows a value. -/
def key (r : RegistryRecord) (value : Json) : String :=
  (value.spelledAs r.known).nameText

/-- The names by which the registry knows values.  Values that it does not know go by the name of
the first of them. -/
def keys (r : RegistryRecord) (values : List Json) : List String :=
  Json.nameTexts (values.map (Json.spelledAs (r.known ++ values)))

/-- **Names in the spelling of values**; a name that none of the values is keeps the spelling that
it has in the registry. -/
def spelled (r : RegistryRecord) (values : List Json) (names : List String) : List Json :=
  let known := r.known ++ values
  names.map fun name =>
    ((known.find? fun value => value.nameText == name).getD (.string name)).spelledAs values

/-- The dependencies of the entry of a name, as they are written. -/
def dependencies (r : RegistryRecord) (name : String) : List Json :=
  match r.entries.find? fun e => e.name.nameText == name with
  | some e => e.dependencies
  | none => []

/-- The spellings that a walk comes across: those of the values that it starts from, and then those
of the dependencies of every name that it reaches by following `next`. -/
def spellings (r : RegistryRecord) (next : String → List String) (values : List Json) :
    List Json :=
  values ++ (Graph.reachable next r.registry.order (r.keys values)).flatMap r.dependencies

/-! ### Look-ups -/

/-- The record of the entry of a name. -/
def lookup (r : RegistryRecord) (value : Json) : Option EntryRecord :=
  r.entries.find? fun e => e.name.sameName value

/-- The canonical name of a public function.  One that is given by its name keeps its spelling. -/
def resolveAlias (r : RegistryRecord) (value : Json) : Option Json :=
  (r.registry.resolveAlias (r.key value)).bind fun name => (r.spelled [value] [name]).head?

/-- The functions listed in a bundle. -/
def bundle (r : RegistryRecord) (name : Json) : List Json :=
  (r.bundles.get? name.nameText).getD []

/-- **Arranging names** that all have to be names of entries; the error is a name that is not. -/
def ordered (r : RegistryRecord) (values : List Json) : Except Json (List Json) :=
  match values.find? fun value => !r.registry.contains (r.key value) with
  | some value => .error value
  | none => .ok (r.spelled values (r.registry.arrange (r.keys values)))

/-- **Closure over public dependencies.** -/
def close (r : RegistryRecord) (values : List Json) : List Json :=
  r.spelled (r.spellings r.registry.publicDependencies values)
    (r.registry.close (r.keys values)).toList

/-- **The helpers that names need**, dependencies first. -/
def helpersFor (r : RegistryRecord) (values : List Json) : List Json :=
  r.spelled (r.spellings r.registry.dependencies values) (r.registry.helpersFor (r.keys values))

end RegistryRecord

end CustomBuild
