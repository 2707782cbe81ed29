import CustomBuild.Command.Record
import CustomBuild.Registry.Record
import CustomBuild.Selection

/-!
# Selecting by a record

A command that is written down as a record selects as the command that the record means, unless some
of its values are of no use.  What is selected is spelled as the record spells it.

An entry may even go by the name `null`.  No value denotes it, whether by its name or by an alias,
because `null` is also the answer of a look-up that finds nothing; its category and the functions
that need it still select it.  So commands are asked of a registry in which the entry has a name
that no value has (`asked`).
-/

namespace CustomBuild

/-- A selection as it is written down. -/
structure SelectionRecord where
  /-- the functions to emit, dependencies first -/
  names : List Json
  /-- the functions asked for, before the closure -/
  requested : List Json
  /-- the values that the registry does not know -/
  dropped : List Json
deriving DecidableEq, Repr

/-- Why a record selects nothing. -/
inductive SelectionError where
  /-- a value of the record is of no use -/
  | misuse (misuse : Misuse)
  /-- there are unknown names under strict names -/
  | unknown (names : UnknownNames)
deriving DecidableEq, Repr

/-- The wording of a selection error. -/
def SelectionError.message : SelectionError → String
  | .misuse found => found.message
  | .unknown found => found.message

/-! ### Entries that no value denotes -/

/-- The name that no value goes by, which stands for the name `null`. -/
def hiddenName : String := Text.marked "unnamed" Json.null.display

/-- A name, or the hidden one if it is that of `null`. -/
def hideNull (name : String) : String :=
  if name == Json.null.nameText then hiddenName else name

/-- A name, or that of `null` if it is hidden. -/
def revealNull (name : String) : String :=
  if name == hiddenName then Json.null.nameText else name

/-- A registry in which no value denotes an entry with the name `null`. -/
def Registry.hidingNull (r : Registry) : Registry where
  header := r.header
  entries := r.entries.map fun e =>
    { e with name := hideNull e.name, dependencies := e.dependencies.map hideNull }
  aliases := Table.ofRows (r.aliases.rows.filter fun row => row.2 != Json.null.nameText)
  order := r.order.map hideNull

/-- A selection from a registry that hides `null`, in the names of the registry itself. -/
def Selection.revealingNull (s : Selection) : Selection where
  names := s.names.map revealNull
  requested := s.requested.map revealNull
  dropped := s.dropped

/-! ### What values denote -/

namespace RegistryRecord

/-- The registry of which a command is asked.  It differs from the registry itself only if an entry
has the name `null`. -/
def hidingNull (r : RegistryRecord) : Registry :=
  if r.registry.contains Json.null.nameText then r.registry.hidingNull else r.registry

/-- The functions that a value denotes. -/
def denoted (r : RegistryRecord) (rule : Registry.CategoryMatch) (value : Json) : List Json :=
  r.spelled [value] (((r.hidingNull.denotation? rule (r.key value)).getD []).map revealNull)

/-- The functions that values denote. -/
def expand (r : RegistryRecord) (rule : Registry.CategoryMatch) (values : List Json) : List Json :=
  r.spelled (values.flatMap (r.denoted rule))
    ((r.hidingNull.expand rule (r.keys values)).toList.map revealNull)

/-- The values that denote nothing, in order and with their repetitions. -/
def unknown (r : RegistryRecord) (rule : Registry.CategoryMatch) (values : List Json) : List Json :=
  values.filter fun value => (r.hidingNull.denotation? rule (r.key value)).isNone

end RegistryRecord

/-! ### Selections -/

namespace CommandRecord

/-- The values of the base of a record other than its categories. -/
def baseValues (record : CommandRecord) (r : RegistryRecord) : List Json :=
  match record.included with
  | some names => names
  | none =>
    match bundleKeywords.find? fun keyword => record.bundles.contains (.string keyword) with
    | some keyword => r.bundle (.string keyword)
    | none => []

/-- The functions that a record asks for in the spellings in which they are found, before any is
taken away. -/
def asked (record : CommandRecord) (r : RegistryRecord) : List Json :=
  if record.command.hasSource then
    (record.baseValues r).flatMap (r.denoted .exact)
      ++ record.categories.flatMap (r.denoted .anyCase)
      ++ record.plus.flatMap (r.denoted .exact)
  else []

/-- The selection of a record, spelled out.  If everything is asked for, the spellings are those of
the registry. -/
def spellSelection (record : CommandRecord) (r : RegistryRecord) (s : Selection) :
    SelectionRecord :=
  let isEverything := s.requested.length = r.registry.publicNames.toList.length
  let requested := r.spelled (if isEverything then [] else record.asked r) s.requested
  { names := r.spelled (r.spellings r.registry.publicDependencies requested) s.names, requested,
    dropped := r.spelled record.values s.dropped }

/-- **The selection of a record.** -/
def select (record : CommandRecord) (r : RegistryRecord) :
    Except SelectionError SelectionRecord :=
  match record.selectionMisuse? with
  | some misuse => .error (.misuse misuse)
  | none =>
    match r.hidingNull.select (record.spelledAs (r.known ++ record.values)).command with
    | .ok selection => .ok (record.spellSelection r selection.revealingNull)
    | .error unknown =>
      match Json.joinMisuse? 0 (r.spelled record.values unknown.names) with
      | some misuse => .error (.misuse misuse)
      | none => .error (.unknown unknown)

end CommandRecord

end CustomBuild
