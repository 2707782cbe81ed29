import CustomBuild.Entry
import CustomBuild.Graph.Reach
import CustomBuild.Registry.Fault

/-!
# Registries

A registry is a checked set of entries with its aliases and bundles, and an order of the entries in
which dependencies come first.  `Registry.ofEntries` makes one, or says what is wrong.  The look-ups
that commands and builds need are functions of these tables.
-/

namespace CustomBuild

/-- What a registry is made of besides its entries.  The titles are usually texts; a value of
another kind is shown as it is written. -/
structure RegistryHeader where
  /-- the version of the library -/
  version : Json
  /-- the named lists of public functions -/
  bundles : Table (List String) := ∅
  /-- the name of the library -/
  library : Json := .string "Lo-Dash"
  /-- the licence line; there is none if the value does not count as true -/
  license : Json := .string ""
deriving DecidableEq, Repr

/-- A checked set of entries. -/
structure Registry where
  /-- version, bundles and titles -/
  header : RegistryHeader
  /-- the entries in order of declaration -/
  entries : List Entry
  /-- the owner of each alias -/
  aliases : Table String
  /-- the names of the entries, dependencies first -/
  order : List String
deriving DecidableEq, Repr

namespace Registry

/-! ### Checking

Names are compared by their keys.  The key of a name is usually the name itself (`id`); names that
can be spelled in several ways have one key for all of their spellings.
-/

/-- A fault for each entry whose name an earlier one has. -/
def duplicateFaults (key : String → String) : List String → List Entry → List RegistryFault
  | _, [] => []
  | seen, e :: rest =>
    if seen.contains (key e.name) then
      .duplicateEntry e.name :: duplicateFaults key seen rest
    else duplicateFaults key (key e.name :: seen) rest

/-- The entries by the keys of their names. -/
def entryTable (key : String → String) (entries : List Entry) : Table Entry :=
  Table.ofRows (entries.map fun e => (key e.name, e))

/-- Aliases that have been filed, and the faults found while filing them. -/
structure Filing where
  /-- the owner of each alias, by the key of the alias -/
  aliases : Table String := ∅
  /-- the faults so far -/
  faults : List RegistryFault := []

/-- Files an alias under its owner, unless it names an entry or has an owner. -/
def Filing.addAlias (key : String → String) (table : Table Entry) (owner : String)
    (filing : Filing) (otherName : String) : Filing :=
  if table.contains (key otherName) then
    { filing with faults := filing.faults ++ [.aliasOfEntry otherName owner] }
  else match filing.aliases.get? (key otherName) with
    | some first => { filing with faults := filing.faults ++ [.sharedAlias otherName first owner] }
    | none => { filing with aliases := filing.aliases.put (key otherName) owner }

/-- Files the aliases of a public entry; helpers have none. -/
def Filing.addEntry (key : String → String) (table : Table Entry) (filing : Filing) (e : Entry) :
    Filing :=
  if e.isHelper then filing
  else match Category.ofName? e.category with
    | none => { filing with faults := filing.faults ++ [.unknownCategory e.name e.category] }
    | some _ => e.aliases.foldl (Filing.addAlias key table e.name) filing

/-- The aliases of the entries of a table, filed one after the other. -/
def Filing.ofTable (key : String → String) (table : Table Entry) : Filing :=
  table.values.foldl (Filing.addEntry key table) {}

/-- The faults of one dependency of an entry. -/
def dependencyFaults (key : String → String) (table : Table Entry) (e : Entry)
    (dependency : String) : List RegistryFault :=
  match table.get? (key dependency) with
  | none => [.unknownDependency e.name dependency]
  | some target =>
    if e.isHelper && !target.isHelper then [.helperNeedsPublic e.name dependency] else []

/-- The faults of the tags and dependencies of an entry. -/
def entryFaults (key : String → String) (table : Table Entry) (e : Entry) : List RegistryFault :=
  ((e.variants.names.filter fun tag => tag != defaultTag && !modeTags.contains tag).map
      fun tag => .unknownVariant e.name tag)
    ++ ((e.precedence.filter fun tag => !modeTags.contains tag).map
      fun tag => .unknownPrecedence e.name tag)
    ++ e.dependencies.flatMap (dependencyFaults key table e)

/-- Whether a name is that of a public entry. -/
def isPublicIn (key : String → String) (table : Table Entry) (name : String) : Bool :=
  match table.get? (key name) with
  | some e => !e.isHelper
  | none => false

/-- The faults of the members of a bundle. -/
def bundleFaults (key : String → String) (table : Table Entry)
    (bundle : String × List String) : List RegistryFault :=
  (bundle.2.filter fun name => !isPublicIn key table name).map
    fun name => .unknownMember bundle.1 name

/-- **The faults of entries and bundles**: first duplicate entries, then unknown categories and
alias clashes, then the tags and dependencies of each entry, then the bundles. -/
def faults (key : String → String) (entries : List Entry) (bundles : Table (List String)) :
    List RegistryFault :=
  -- of entries with one name the table has the last one, so the others are not checked further
  let table := entryTable key entries
  duplicateFaults key [] entries ++ (Filing.ofTable key table).faults
    ++ table.values.flatMap (entryFaults key table)
    ++ bundles.rows.flatMap (bundleFaults key table)

/-! ### Making a registry -/

/-- The registry of entries without faults.  They may still have no order with dependencies
first. -/
def ofSound (entries : List Entry) (header : RegistryHeader) : Except RegistryError Registry :=
  let table := entryTable id entries
  let graph : Graph.Dependencies :=
    { declared := table.names, rows := table.values.map fun e => (e.name, e.dependencies) }
  match graph.dependencyOrder with
  | .ok order =>
    .ok { header, entries := table.values, aliases := (Filing.ofTable id table).aliases, order }
  | .error error => .error (.unordered error)

/-- **Making a registry.**  Every fault is reported at once; entries without any are put in
order. -/
def ofEntries (entries : List Entry) (header : RegistryHeader) : Except RegistryError Registry :=
  let found := faults id entries header.bundles
  if found.isEmpty then ofSound entries header else .error (.faults found)

/-- The registry without entries. -/
def empty : Registry where
  header := { version := .string "" }
  entries := []
  aliases := ∅
  order := []

instance : Inhabited Registry := ⟨empty⟩

/-- Whether any text of the registry has halves of surrogate pairs. -/
def hasHalves (r : Registry) : Bool :=
  [r.header.version, r.header.library, r.header.license].any Json.isBroken
    || r.entries.any Entry.hasHalves

/-! ### Look-ups -/

/-- The entry of a canonical name. -/
def lookup (r : Registry) (name : String) : Option Entry :=
  r.entries.find? fun e => e.name == name

/-- Whether an entry has the name. -/
def contains (r : Registry) (name : String) : Bool :=
  (r.lookup name).isSome

/-- Whether the name is the canonical name of a public function. -/
def isPublic (r : Registry) (name : String) : Bool :=
  match r.lookup name with
  | some e => !e.isHelper
  | none => false

/-- Whether the name is that of a helper. -/
def isHelper (r : Registry) (name : String) : Bool :=
  match r.lookup name with
  | some e => e.isHelper
  | none => false

/-- The canonical names of the public functions. -/
def publicNames (r : Registry) : NameSet :=
  NameSet.ofList (r.order.filter r.isPublic)

/-- **The canonical name** of a public function that is given by its name or by an alias. -/
def resolveAlias (r : Registry) (name : String) : Option String :=
  if r.isPublic name then some name else r.aliases.get? name

/-- The functions of a category, dependencies first. -/
def byCategory (r : Registry) (category : Category) : List String :=
  r.order.filter fun name =>
    match r.lookup name with
    | some e => e.category == category.name
    | none => false

/-- The functions listed in a bundle; an unknown bundle lists none. -/
def bundle (r : Registry) (name : String) : List String :=
  (r.header.bundles.get? name).getD []

/-! ### Order and closure -/

/-- The names of entries among `names`, each once and dependencies first. -/
def arrange (r : Registry) (names : List String) : List String :=
  r.order.filter fun name => names.contains name

/-- **Arranging names** that all have to be names of entries; the error is a name that is not. -/
def ordered (r : Registry) (names : List String) : Except String (List String) :=
  match names.find? fun name => !r.contains name with
  | some name => .error name
  | none => .ok (r.arrange names)

/-- The dependencies of an entry; an unknown name has none. -/
def dependencies (r : Registry) (name : String) : List String :=
  match r.lookup name with
  | some e => e.dependencies
  | none => []

/-- The public functions among the dependencies of an entry. -/
def publicDependencies (r : Registry) (name : String) : List String :=
  (r.dependencies name).filter r.isPublic

/-- **Closure over public dependencies**: the given names, known or not, and the public functions
that they need. -/
def close (r : Registry) (names : List String) : NameSet :=
  -- an unknown name stays in the closure, so the pool has the given names as well
  NameSet.ofList (Graph.reachable r.publicDependencies (names ++ r.order) names)

/-- **The helpers that names need**, through public functions and helpers alike, dependencies
first. -/
def helpersFor (r : Registry) (names : List String) : List String :=
  r.arrange ((Graph.reachable r.dependencies r.order names).filter r.isHelper)

end Registry

end CustomBuild
