import CustomBuild.FileTree.Basic

/-!
# Delivery

A finished source goes to a file or to standard output.  For a file, the directories that lead to it
are made first; an error leaves the directories that were made before it, and no file is touched.
There is a limit to how many directories can be made for one file.
-/

namespace CustomBuild

/-- Why a file was not written. -/
inductive DeliveryError where
  /-- the file system refused -/
  | file (error : FileError)
  /-- the path has the null character -/
  | nullCharacter
  /-- too many directories would have to be made -/
  | tooDeep
deriving DecidableEq, Repr

namespace FileTree

/-- Makes the directories that lead to a file, unless it goes to the working directory itself. -/
def makeParent (t : FileTree) (workingDirectory : Location) (p : Path) :
    FileTree × Option FileError :=
  if p.parent = Path.here then (t, none) else t.makeDirectories workingDirectory p.parent

/-- How many directories can be missing above the one that a file goes to. -/
def maxMissingLevels : Nat := 985

/-- Whether too many directories are missing. -/
def isTooDeep (t : FileTree) (workingDirectory : Location) (p : Path) : Bool :=
  maxMissingLevels < t.missingLevels workingDirectory p.parent.start p.parent.parts.reverse

/-- **Delivering a text to a file.** -/
def deliver (t : FileTree) (workingDirectory : Location) (path text : String) :
    FileTree × Option DeliveryError :=
  let p := Path.ofText path
  if p.parent.hasNull then (t, some .nullCharacter)
  else if t.isTooDeep workingDirectory p then (t, some .tooDeep)
  else
    match t.makeParent workingDirectory p with
    | (reached, some error) => (reached, some (.file error))
    | (reached, none) =>
      if p.hasNull then (reached, some .nullCharacter)
      else
        match reached.writeFile workingDirectory p text with
        | .ok written => (written, none)
        | .error kind => (reached, some (.file (errorAt kind p)))

end FileTree

end CustomBuild
