import CustomBuild.Command.Basic
import CustomBuild.Registry.Basic

/-!
# Selections

A selection is the set of functions that a command asks for, in steps of fixed order: a base (the
listed names, else one bundle, together with whole categories; or everything, if the command has no
base), the names to add, the names to take away, and then the closure over public dependencies.
Values that mean nothing to the registry are dropped, or are an error under strict names.
-/

namespace CustomBuild

/-- The functions that a command asks for. -/
structure Selection where
  /-- the functions to emit, dependencies first -/
  names : List String := []
  /-- the functions asked for, before the closure -/
  requested : List String := []
  /-- the values that the registry does not know -/
  dropped : List String := []
deriving DecidableEq, Repr

/-- The error of a command that asks for unknown names under strict names. -/
structure UnknownNames where
  /-- the unknown names, each once -/
  names : List String
deriving DecidableEq, Repr

/-- The wording of the error. -/
def UnknownNames.message (error : UnknownNames) : String :=
  "Unknown function or category name(s): " ++ ", ".intercalate error.names

/-- The value that is at fault: the first unknown one. -/
def UnknownNames.token (error : UnknownNames) : Option String :=
  error.names.head?

namespace Registry

/-- How a value may name a category. -/
inductive CategoryMatch where
  /-- spelled exactly -/
  | exact
  /-- in any letter case -/
  | anyCase
deriving DecidableEq, Repr

/-- The category that a value names. -/
def CategoryMatch.category? : CategoryMatch → String → Option Category
  | .exact => Category.ofName?
  | .anyCase => Category.ofAnyCase?

/-- **What a value denotes**: the functions of the category that it names, else the one function
whose name or alias it is, else nothing. -/
def denotation? (r : Registry) (rule : CategoryMatch) (value : String) : Option (List String) :=
  match rule.category? value with
  | some category => some (r.byCategory category)
  | none => (r.resolveAlias value).map fun name => [name]

/-- The functions that values denote. -/
def expand (r : Registry) (rule : CategoryMatch) (values : List String) : NameSet :=
  NameSet.ofList (values.flatMap fun value => (r.denotation? rule value).getD [])

/-- The values that denote nothing, in order and with their repetitions. -/
def unknown (r : Registry) (rule : CategoryMatch) (values : List String) : List String :=
  values.filter fun value => (r.denotation? rule value).isNone

/-- The values of the base of a command other than its categories.  A list of names replaces any
bundle, and of the bundles the first keyword wins. -/
def baseValues (r : Registry) (c : Command) : List String :=
  match c.included with
  | some names => names
  | none =>
    match bundleKeywords.find? fun keyword => c.bundles.contains keyword with
    | some keyword => r.bundle keyword
    | none => []

/-- The values of a command that the registry does not know, each once and in the order in which
they are looked up. -/
def droppedValues (r : Registry) (c : Command) : List String :=
  (r.unknown .exact (r.baseValues c) ++ r.unknown .anyCase c.categories
    ++ r.unknown .exact c.plus ++ r.unknown .exact c.minus
    ++ r.unknown .exact c.excluded).eraseDups

/-- The functions that a command asks for before the closure, dependencies first. -/
def requested (r : Registry) (c : Command) : List String :=
  let base := r.expand .exact (r.baseValues c)
  let categories := r.expand .anyCase c.categories
  let plus := r.expand .exact c.plus
  let minus := r.expand .exact c.minus
  let excluded := r.expand .exact c.excluded
  -- names to add or to take away are no base: without one, a command starts from everything
  r.order.filter fun name =>
    r.isPublic name
      && (!c.hasSource || decide (name ∈ base) || decide (name ∈ categories)
        || decide (name ∈ plus))
      && !decide (name ∈ minus) && !decide (name ∈ excluded)

/-- **The selection of a command.** -/
def select (r : Registry) (c : Command) : Except UnknownNames Selection :=
  let dropped := r.droppedValues c
  if c.strictNames && !dropped.isEmpty then .error ⟨dropped⟩
  else
    let requested := r.requested c
    .ok { names := r.arrange (r.close requested).toList, requested, dropped }

end Registry

end CustomBuild
