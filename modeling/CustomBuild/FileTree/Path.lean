import CustomBuild.Text.Basic

/-!
# Paths

A path is a list of parts.  Reading the text of a path leaves out empty parts and parts that are a
single dot; a part of two dots stays, because what it means depends on the file tree.  So `a//b/.`
and `a/b` are one path, and `a/../b` is another than `b`.  A path that starts with exactly two
slashes keeps both of them, though it leads to the same place as with one.
-/

namespace CustomBuild

/-- Where a path starts. -/
inductive PathStart where
  /-- at the working directory -/
  | here
  /-- at the root -/
  | root
  /-- at the root, written with two slashes -/
  | doubleRoot
deriving DecidableEq, Repr, Inhabited

/-- What the text of a path with the given start begins with. -/
def PathStart.text : PathStart → String
  | .here => ""
  | .root => "/"
  | .doubleRoot => "//"

/-- A path to a file or directory. -/
structure Path where
  /-- where the path starts -/
  start : PathStart
  /-- the parts between the slashes -/
  parts : List String
deriving DecidableEq, Repr, Inhabited

namespace Path

/-- The start of the path with the given text. -/
def startOf (cs : List Char) : PathStart :=
  match (cs.takeWhile (· == '/')).length with
  | 0 => .here
  | 2 => .doubleRoot
  | _ => .root

/-- **Reading a path**: the parts of its text, without the empty ones and the single dots. -/
def ofText (text : String) : Path where
  start := startOf text.toList
  parts := ((Text.splitWhere (· == '/') text.toList).map String.ofList).filter fun part =>
    part != "" && part != "."

/-- Whether a path starts at the root. -/
def isAbsolute (p : Path) : Bool :=
  p.start ≠ .here

/-- The text of a path; the path without parts is a dot. -/
def text (p : Path) : String :=
  if p.start = .here && p.parts.isEmpty then "." else p.start.text ++ "/".intercalate p.parts

/-- The path without its last part. -/
def parent (p : Path) : Path :=
  { p with parts := p.parts.dropLast }

/-- The last part. -/
def name (p : Path) : String :=
  p.parts.getLastD ""

/-- The working directory itself. -/
def here : Path where
  start := .here
  parts := []

/-- **Following a path** from a directory: an absolute path starts anew. -/
def join (p q : Path) : Path :=
  if q.isAbsolute then q else { p with parts := p.parts ++ q.parts }

/-- Whether a path has the null character, which no file name can have. -/
def hasNull (p : Path) : Bool :=
  p.parts.any fun part => part.toList.contains (Char.ofNat 0)

end Path

end CustomBuild
