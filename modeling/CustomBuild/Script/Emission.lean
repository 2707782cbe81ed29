import CustomBuild.Json.Misuse
import CustomBuild.Selection

/-!
# What a script emits

A script needs the selected functions, the helpers they use and the core helper.  Each of them
contributes its fragment for the active modes.  An entry without one is left out, and so is every
entry that depends on it; each of these is a fault.  `Registry.plan` settles what is emitted.
-/

namespace CustomBuild

/-! ### Faults -/

/-- Why a part of a script is missing. -/
inductive Fault where
  /-- an entry has no fragment for the active modes -/
  | noFragment (name : String)
  /-- an entry depends on one without a fragment -/
  | dependsOnMissing (name root : String)
  /-- the registry has no core helper -/
  | noCore
  /-- the core helper is left out -/
  | coreLeftOut
deriving DecidableEq, Repr

/-- The wording of a fault. -/
def Fault.message : Fault → String
  | .noFragment name => s!"'{name}' has no fragment for the active modes; omitted"
  | .dependsOnMissing name root => s!"'{name}' omitted: dependency omitted: {root}"
  | .noCore => s!"Registry has no core helper '{coreName}'"
  | .coreLeftOut => s!"Core helper '{coreName}' has no usable fragment"

/-! ### Omission -/

/-- An entry without a fragment, with the entries that are left out because of it. -/
structure Omission where
  /-- the entry without a fragment -/
  root : String
  /-- the entries that depend on it, directly or through others -/
  dependents : List String
deriving DecidableEq, Repr

namespace Omission

/-- The names that are left out. -/
def names (o : Omission) : List String :=
  o.root :: o.dependents

/-- The faults of an omission: the root, and then its dependents in the order of their messages. -/
def faults (o : Omission) : List Fault :=
  .noFragment o.root ::
    ((o.dependents.map fun name => Fault.dependsOnMissing name o.root).mergeSort
      fun a b => decide (a.message ≤ b.message))

/-- **The omissions** that entries without a fragment cause, in their order.  `pool` has the entries
that are not left out yet; what was left out for an earlier root is not left out again. -/
def ofMissing (dependents : String → List String) : List String → List String → List Omission
  | _, [] => []
  | pool, root :: rest =>
    -- a root that an earlier one has taken along is not reported again
    if pool.contains root then
      let reached := Graph.reachable dependents (Graph.without root pool) (dependents root)
      let remaining := (Graph.without root pool).filter fun name => !reached.contains name
      { root, dependents := reached } :: ofMissing dependents remaining rest
    else ofMissing dependents pool rest

end Omission

/-! ### The plan of a script -/

/-- An entry with the fragment that it contributes. -/
structure Emitted where
  /-- the entry -/
  entry : Entry
  /-- its fragment, which is usually a text -/
  fragment : Json
deriving DecidableEq, Repr

/-- The source that an entry contributes. -/
def Emitted.source (emitted : Emitted) : String :=
  emitted.fragment.display

/-- What a script emits. -/
structure Plan where
  /-- the helpers, dependencies first -/
  helpers : List Emitted
  /-- the selected functions, in the order of the selection -/
  functions : List Emitted
  /-- what is left out -/
  omissions : List Omission
deriving DecidableEq, Repr

/-- The names of the rows that list a name. -/
def dependentsIn (rows : List (String × List String)) (name : String) : List String :=
  (rows.filter fun row => row.2.contains name).map Prod.fst

namespace Registry

/-- The names with their dependencies. -/
def dependencyRows (r : Registry) (names : List String) : List (String × List String) :=
  names.map fun name => (name, r.dependencies name)

/-- The fragment that the entry of a name contributes. -/
def fragment? (r : Registry) (modes : NameSet) (name : String) : Option Json :=
  (r.lookup name).bind fun e => e.fragment? modes

/-- The entries and fragments of names. -/
def emittedOf (r : Registry) (modes : NameSet) (names : List String) : List Emitted :=
  names.filterMap fun name =>
    (r.lookup name).bind fun entry =>
      (entry.fragment? modes).map fun fragment => { entry, fragment }

/-- The helpers of a script: the core helper and those that the selected functions need. -/
def scriptHelpers (r : Registry) (names : List String) : List String :=
  r.arrange (coreName :: r.helpersFor names)

/-- **The plan of a script** that has the given functions.  The error is a name that no entry
has. -/
def plan (r : Registry) (modes : NameSet) (names : List String) : Except String Plan := do
  let helpers := r.scriptHelpers names
  let emitted ← r.ordered (helpers ++ names)
  let missing := emitted.filter fun name => (r.fragment? modes name).isNone
  let omissions := Omission.ofMissing (dependentsIn (r.dependencyRows emitted)) emitted missing
  let omitted := omissions.flatMap Omission.names
  let isKept (name : String) : Bool := !omitted.contains name
  pure
    { helpers := r.emittedOf modes (helpers.filter isKept),
      functions := r.emittedOf modes (names.filter isKept),
      omissions }

end Registry

/-- The names that a plan leaves out. -/
def Plan.omitted (p : Plan) : List String :=
  p.omissions.flatMap Omission.names

/-- The values that a plan puts into a script as they are: the fragments, and then the tails that
there are. -/
def Plan.values (p : Plan) : List Json :=
  (p.helpers ++ p.functions).map Emitted.fragment
    ++ (p.functions.map fun emitted => emitted.entry.tail.value).filter Json.isTruthy

/-- What keeps the values of a plan from being cut into lines: the first one that is no text. -/
def Plan.misuse? (p : Plan) : Option Misuse :=
  (p.values.find? fun value => !value.isText).map fun value => .noOperation value.kind "split"

/-- The faults of a plan, omission by omission. -/
def Plan.faults (p : Plan) : List Fault :=
  p.omissions.flatMap Omission.faults

end CustomBuild
