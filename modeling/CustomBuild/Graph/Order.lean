import CustomBuild.Text.Quoted

/-!
# Dependencies first

`dependencyOrder` arranges declared names so that every name stands after the names it depends on.
Of the names that could come next, the one that is declared first does.  There is no such order
when names depend on each other in a circle; the error names every name that could not be placed.

A name may be declared more than once.  Then it counts as declared at its last place; without
dependencies it is placed as often as it is declared, and each placing counts towards the names that
depend on it.  A row of dependencies for a name that is not declared is an error, unless none of
them is declared either.
-/

namespace CustomBuild.Graph

/-- Why names have no order with dependencies first. -/
inductive OrderError where
  /-- a row of dependencies is for a name that is not declared -/
  | undeclared (name : String)
  /-- these names depend on each other in a circle, or on names that do -/
  | cycle (names : List String)
deriving DecidableEq, Repr

/-- The wording of an order error. -/
def OrderError.message : OrderError → String
  | .undeclared name => Text.quoted name
  | .cycle names => "Dependency cycle among: " ++ ", ".intercalate names

/-- A dependency graph: the declared names, and a row of dependencies for some of them. -/
structure Dependencies where
  /-- the declared names -/
  declared : List String
  /-- the names that a name depends on -/
  rows : List (String × List String)

/-- A name that waits for its place. -/
structure Waiting where
  /-- the name -/
  name : String
  /-- how often the name is still to be placed -/
  copies : Nat
  /-- how many placings of dependencies the name still waits for -/
  needs : Nat
  /-- the declared names that the name depends on, each once -/
  dependencies : List String
deriving DecidableEq, Repr

namespace Waiting

/-- **Whether a name can come next.** -/
def isReady (w : Waiting) : Bool :=
  w.needs = 0

/-- What waits after a name has been placed: that name waits no longer, unless it has more copies,
and a name that depends on it has one need less. -/
def after (placed : String) (w : Waiting) : Option Waiting :=
  let left : Waiting :=
    { w with needs := if w.dependencies.contains placed then w.needs - 1 else w.needs }
  if w.name ≠ placed then some left
  else if w.copies ≤ 1 then none
  else some { left with copies := w.copies - 1 }

/-- Places up to `count` names, each time the first one that is ready, and gives them with the names
that still wait. -/
def place : Nat → List Waiting → List String × List Waiting
  | 0, waiting => ([], waiting)
  | count + 1, waiting =>
    match waiting.find? isReady with
    | some next =>
      let (names, left) := place count (waiting.filterMap (after next.name))
      (next.name :: names, left)
    | none => ([], waiting)

end Waiting

namespace Dependencies

/-- The declared names that `name` depends on, each once. -/
def of (g : Dependencies) (name : String) : List String :=
  (((g.rows.lookup name).getD []).filter fun dependency => g.declared.contains dependency).eraseDups

/-- The declared names, each at its last place. -/
def positions (g : Dependencies) : List String :=
  g.declared.reverse.eraseDups.reverse

/-- The declared names as they wait for the first place. -/
def waiting (g : Dependencies) : List Waiting :=
  g.positions.map fun name =>
    let dependencies := g.of name
    { name, copies := if dependencies.isEmpty then g.declared.count name else 1,
      needs := dependencies.length, dependencies }

/-- **The order of the declared names with dependencies first.** -/
def dependencyOrder (g : Dependencies) : Except OrderError (List String) :=
  match g.rows.find? fun row =>
      !g.declared.contains row.1 && row.2.any fun name => g.declared.contains name with
  | some row => .error (.undeclared row.1)
  | none =>
    let (placed, left) := Waiting.place g.declared.length g.waiting
    if placed.length = g.declared.length then .ok placed
    else
      let stuck := (left.filter fun w => !w.isReady).map Waiting.name
      .error
        (.cycle ((g.declared.filter fun name => stuck.contains name).mergeSort
          fun a b => decide (a ≤ b)))

end Dependencies

end CustomBuild.Graph
