import CustomBuild.FileTree.Path
import CustomBuild.Table
import CustomBuild.Text.Quoted

/-!
# File trees

A file tree says what is at each location: nothing, a directory, or a file with its text.  There are
no links, so a location is the list of names from the root down, and two dots in a path lead to the
location above.  Operations report the errors that an operating system reports, in its words.
-/

namespace CustomBuild

/-! ### Errors -/

/-- What can go wrong with a path. -/
inductive FileErrorKind where
  /-- a directory on the way does not exist -/
  | missing
  /-- there is something already -/
  | alreadyThere
  /-- something on the way is a file -/
  | notDirectory
  /-- there is a directory where a file is needed -/
  | isDirectory
  /-- a name or the whole path is too long -/
  | nameTooLong
deriving DecidableEq, Repr

namespace FileErrorKind

/-- The number of an error. -/
def code : FileErrorKind → Nat
  | .missing => 2
  | .alreadyThere => 17
  | .notDirectory => 20
  | .isDirectory => 21
  | .nameTooLong => 36

/-- The wording of an error. -/
def wording : FileErrorKind → String
  | .missing => "No such file or directory"
  | .alreadyThere => "File exists"
  | .notDirectory => "Not a directory"
  | .isDirectory => "Is a directory"
  | .nameTooLong => "File name too long"

end FileErrorKind

/-- An error and the path that it is about. -/
structure FileError where
  /-- what went wrong -/
  kind : FileErrorKind
  /-- the path as it was used -/
  path : String
deriving DecidableEq, Repr

/-- The wording of a file error. -/
def FileError.message (e : FileError) : String :=
  "[Errno " ++ toString e.kind.code ++ "] " ++ e.kind.wording ++ ": " ++ Text.quoted e.path

/-! ### Trees -/

/-- The names that lead from the root to a place in the tree. -/
abbrev Location := List String

/-- What is at a location. -/
inductive Node where
  /-- a directory -/
  | directory
  /-- a file with its text -/
  | file (text : String)
deriving DecidableEq, Repr

/-- A file tree, as the list of what is where; the root is a directory. -/
structure FileTree where
  /-- what is at the locations below the root -/
  nodes : List (Location × Node) := []
deriving DecidableEq, Repr, Inhabited

namespace FileTree

/-- What is at a location. -/
def node? (t : FileTree) (place : Location) : Option Node :=
  if place.isEmpty then some .directory else t.nodes.lookup place

/-- Whether there is a directory at a location. -/
def isDirectory (t : FileTree) (place : Location) : Bool :=
  t.node? place == some .directory

/-- The tree with something else at one location. -/
def put (t : FileTree) (place : Location) (node : Node) : FileTree where
  nodes :=
    if (t.nodes.lookup place).isSome then Table.replaced place node t.nodes
    else t.nodes ++ [(place, node)]

/-- What `put` does to the entries below the root. -/
theorem lookup_nodes_put {t : FileTree} {place other : Location} {node : Node} :
    (t.put place node).nodes.lookup other =
      if other = place then some node else t.nodes.lookup other := by
  rw [put]
  cases hplace : t.nodes.lookup place with
  | some old =>
    rw [Option.isSome_some, if_pos rfl, Table.lookup_replaced]
    by_cases h : other = place
    · rw [if_pos h, h, hplace]
      simp
    · simp [h]
  | none =>
    rw [Option.isSome_none, if_neg Bool.false_ne_true, List.lookup_append]
    by_cases h : other = place
    · simp [h, hplace]
    · rw [List.lookup_cons, beq_false_of_ne h, if_neg h]
      exact Option.or_none

/-- **A put changes one location**, unless it is the root, which is always a directory. -/
theorem node?_put {t : FileTree} {place other : Location} {node : Node} (h : place ≠ []) :
    (t.put place node).node? other = if other = place then some node else t.node? other := by
  rw [node?, lookup_nodes_put, node?]
  by_cases hother : other = place
  · simp [hother, h]
  · simp [hother]

/-- The tree with nothing at a location and below it. -/
def remove (t : FileTree) (place : Location) : FileTree where
  nodes := t.nodes.filter fun entry => !place.isPrefixOf entry.1

/-- The locations that lead to a location, from the top down and without the root. -/
def ancestors : Location → List Location
  | [] => []
  | [_] => []
  | name :: rest => [name] :: (ancestors rest).map (name :: ·)

/-- The tree with something at a location, and directories on the way there where there was
nothing. -/
def putDeep (t : FileTree) (place : Location) (node : Node) : FileTree :=
  let filled := (ancestors place).foldl
    (fun tree ancestor =>
      if (tree.node? ancestor).isSome then tree else tree.put ancestor .directory)
    t
  filled.put place node

/-! ### Following paths -/

/-- The greatest number of bytes in a name. -/
def maxNameBytes : Nat := 255

/-- The number of bytes that the text of a path stays below. -/
def pathBytesLimit : Nat := 4096

/-- One step of a path, from a place that has to be a directory.  Two dots lead up; the place above
the root is the root. -/
def step (t : FileTree) (place : Location) (part : String) : Except FileErrorKind Location :=
  match t.node? place with
  | none => .error .missing
  | some (.file _) => .error .notDirectory
  | some .directory =>
    if part == ".." then .ok place.dropLast
    else if maxNameBytes < part.utf8ByteSize then .error .nameTooLong
    else .ok (place ++ [part])

/-- **The location that a path leads to** from the working directory.  All of the way has to be
there, but there need not be anything at the location. -/
def locate (t : FileTree) (workingDirectory : Location) (p : Path) :
    Except FileErrorKind Location :=
  if pathBytesLimit ≤ p.text.utf8ByteSize then .error .nameTooLong
  else p.parts.foldlM t.step (if p.isAbsolute then [] else workingDirectory)

/-! ### Operations -/

/-- Writes a file, in place of the text that it had. -/
def writeFile (t : FileTree) (workingDirectory : Location) (p : Path) (text : String) :
    Except FileErrorKind FileTree :=
  match t.locate workingDirectory p with
  | .error kind => .error kind
  | .ok place =>
    match t.node? place with
    | some .directory => .error .isDirectory
    | _ => .ok (t.put place (.file text))

/-- Reads a file. -/
def readFile (t : FileTree) (workingDirectory : Location) (p : Path) :
    Except FileErrorKind String :=
  match t.locate workingDirectory p with
  | .error kind => .error kind
  | .ok place =>
    match t.node? place with
    | none => .error .missing
    | some .directory => .error .isDirectory
    | some (.file text) => .ok text

/-- An error about a path. -/
def errorAt (kind : FileErrorKind) (p : Path) : FileError :=
  { kind, path := p.text }

/-- Sees to it that there is a directory at the location that a path leads to. -/
def ensureDirectory (t : FileTree) (p : Path) (place : Location) :
    FileTree × Except FileError Location :=
  match t.node? place with
  | none => (t.put place .directory, .ok place)
  | some .directory => (t, .ok place)
  | some (.file _) => (t, .error (errorAt .alreadyThere p))

/-- Makes the directory whose parts are given last first, and those that lead to it, and gives its
location.  The directory itself is tried first; only if something on the way is missing, the one
above is made. -/
def makeDirectoriesFrom (workingDirectory : Location) (start : PathStart) :
    List String → FileTree → FileTree × Except FileError Location
  | lastFirst, t =>
    let p : Path := { start, parts := lastFirst.reverse }
    match t.locate workingDirectory p with
    | .ok place => t.ensureDirectory p place
    | .error .missing =>
      -- a path without parts leads where it starts, so the first case does not come up
      match lastFirst with
      | [] => (t, .error (errorAt .missing p))
      | last :: above =>
        match makeDirectoriesFrom workingDirectory start above t with
        | (reached, .error error) => (reached, .error error)
        | (reached, .ok place) =>
          -- only the last step is taken again: the length of the whole path was checked above
          match reached.step place last with
          | .ok place => reached.ensureDirectory p place
          | .error kind => (reached, .error (errorAt kind p))
    | .error kind => (t, .error (errorAt kind p))

/-- How many of the last parts, which are given last first, `makeDirectoriesFrom` has to go up
before it finds a directory that can be made, or an error. -/
def missingLevels (t : FileTree) (workingDirectory : Location) (start : PathStart) :
    List String → Nat
  | [] => 0
  | last :: above =>
    match t.locate workingDirectory { start, parts := (last :: above).reverse } with
    | .error .missing => 1 + missingLevels t workingDirectory start above
    | _ => 0

/-- **Making a directory and those that lead to it.**  What is there already may stay if it is a
directory.  Directories that were made before an error stay as well. -/
def makeDirectories (t : FileTree) (workingDirectory : Location) (p : Path) :
    FileTree × Option FileError :=
  match makeDirectoriesFrom workingDirectory p.start p.parts.reverse t with
  | (made, .ok _) => (made, none)
  | (made, .error error) => (made, some error)

end FileTree

end CustomBuild
