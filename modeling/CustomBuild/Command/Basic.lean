import CustomBuild.NameSet
import CustomBuild.Vocabulary

/-!
# Commands

A command says what to build: which functions, for which modes, exposed and wrapped how, and where
the result goes.  This module has the type and what follows from a command alone: whether it
names a base to select from, and its destination.
-/

namespace CustomBuild

/-- A wrapper for the module.  A template that a command gives has exactly one output mark; a
template that is read from a serialised command may have any number. -/
structure WrapperTemplate where
  /-- the text with its output mark -/
  text : String
deriving DecidableEq, Repr

/-- **Rendering**: the module takes the place of the first output mark, on lines of its own.
Without a mark it goes to the end. -/
def WrapperTemplate.render (template : WrapperTemplate) (body : String) : String :=
  match Text.cut? outputMark.toList template.text.toList with
  | some (before, after) => String.ofList before ++ "\n" ++ body ++ "\n" ++ String.ofList after
  | none => template.text ++ "\n" ++ body ++ "\n"

/-- What to build.  A list that was never given and a list that was given without values are
different where that matters: only the former leaves `included` without a value. -/
structure Command where
  /-- the names to start from, if a list of them was given -/
  included : Option (List String) := none
  /-- the bundles to start from -/
  bundles : List String := []
  /-- the categories to start from -/
  categories : List String := []
  /-- names to add -/
  plus : List String := []
  /-- names to take away -/
  minus : List String := []
  /-- further names to take away -/
  excluded : List String := []
  /-- the active modes -/
  modes : NameSet := ∅
  /-- the export formats; none of them means no exposure at all -/
  exports : List String := exportFormats
  /-- the wrapper in place of the usual one -/
  wrapper : Option WrapperTemplate := none
  /-- the file to write -/
  outputPath : Option String := none
  /-- whether to write to standard output in place of a file -/
  stdout : Bool := false
  /-- whether to keep quiet -/
  silent : Bool := false
  /-- whether to reduce the module -/
  minify : Bool := false
  /-- whether unknown names are an error -/
  strictNames : Bool := false
  /-- the words of the command that the banner shows -/
  tokens : List String := []
deriving DecidableEq, Repr

namespace Command

/-- The file that is written unless the command names one. -/
def defaultOutput : String := "lodash.custom.js"

/-- The file that a reduced module is written to unless the command names one. -/
def defaultReducedOutput : String := "lodash.custom.min.js"

/-- Whether the command names a base to select from: a list of names, a bundle or a category. -/
def hasSource (c : Command) : Bool :=
  c.included.isSome || !c.bundles.isEmpty || !c.categories.isEmpty

/-- **Where the module goes**: a file, or standard output if there is none. -/
def destination (c : Command) : Option String :=
  if c.stdout then none
  else match c.outputPath with
    | some path =>
      if path.isEmpty then some (if c.minify then defaultReducedOutput else defaultOutput)
      else some path
    | none => some (if c.minify then defaultReducedOutput else defaultOutput)

end Command

end CustomBuild
