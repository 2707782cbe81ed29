import CustomBuild.Script.Banner
import CustomBuild.Script.Emission
import CustomBuild.Script.Exposure

/-!
# Scripts

A script is the text of a build: the banner, and then one function that is called at once, with the
fragments of helpers and functions, the assignments to the library object, the tails, the version
and the chain of exposure.  A wrapper template takes the place of the surrounding function and of
everything that has to do with exposure.  `Script.generate` gives the text with the faults that were
found on the way.
-/

namespace CustomBuild.Script

/-! ### Blocks -/

/-- The assignments of one function: to its own name and to each alias. -/
def assignmentLines (e : Entry) : List String :=
  if e.isStatic then
    (coreName ++ "." ++ e.name ++ " = " ++ e.name ++ ";")
      :: e.aliases.map fun otherName => coreName ++ "." ++ otherName ++ " = " ++ e.name ++ ";"
  else []

/-- The block of all assignments; without any there is no block. -/
def assignmentBlocks (functions : List Emitted) : List String :=
  let lines := functions.flatMap fun emitted => assignmentLines emitted.entry
  if lines.isEmpty then [] else ["// add functions to `lodash`\n" ++ Text.unlines lines]

/-- The tails of functions that have one. -/
def tailBlocks (functions : List Emitted) : List String :=
  ((functions.map fun emitted => emitted.entry.tail).filter Tail.isPresent).map
    fun tail => tail.value.display

/-- The block that states the version. -/
def versionBlock (version : String) : String :=
  Text.unlines
    ["/**",
     " * The semantic version number.",
     " *",
     " * @static",
     " * @memberOf _",
     " * @type String",
     " */",
     coreName ++ ".VERSION = '" ++ version ++ "';"]

/-- A block that is left out when it is empty. -/
def optionalBlock (block : String) : List String :=
  if block.isEmpty then [] else [block]

/-- **The blocks of a script**, in order. -/
def blocks (header : RegistryHeader) (c : Command) (p : Plan) : List String :=
  (if "strict" ∈ c.modes then ["'use strict';"] else [])
  ++ (if c.wrapper.isNone then optionalBlock (detection c.exports) else [])
  ++ p.helpers.map Emitted.source
  ++ p.functions.map Emitted.source
  ++ assignmentBlocks p.functions
  ++ tailBlocks p.functions
  ++ [versionBlock header.version.display]
  ++ (if c.wrapper.isNone then optionalBlock (exposure c.exports) else [])

/-- The body of a script: its blocks, indented and with an empty line between them. -/
def body (header : RegistryHeader) (c : Command) (p : Plan) : String :=
  "\n\n".intercalate ((blocks header c p).map indent)

/-- **The text of a script.** -/
def text (header : RegistryHeader) (c : Command) (p : Plan) : String :=
  let inner := body header c p
  let wrapped := match c.wrapper with
    | some template => template.render inner
    | none => ";(function(window, undefined) \x7b\n" ++ inner ++ "\n\x7d(this));"
  banner header c.tokens ++ "\n" ++ wrapped ++ "\n"

/-! ### Generation -/

/-- Why there is no script. -/
inductive Error where
  /-- a name is that of no entry -/
  | unknownName (name : String)
  /-- the core helper cannot be emitted -/
  | core (fault : Fault)
  /-- a value that is to be emitted is of no use -/
  | misuse (misuse : Misuse)
deriving DecidableEq, Repr

/-- What generating a script gives: the faults found, and the text or why there is none. -/
structure Generated where
  /-- the entries that are left out -/
  faults : List Fault
  /-- the text, or why there is none -/
  outcome : Except Error String

/-- The plan of a script for the given modes and names.  Nothing can be emitted without the core
helper. -/
def planFor (r : Registry) (modes : NameSet) (names : List String) : Except Error Plan :=
  if r.contains coreName then (r.plan modes names).mapError .unknownName
  else .error (.core .noCore)

/-- The script of a plan. -/
def ofPlan (header : RegistryHeader) (c : Command) (p : Plan) : Generated where
  faults := p.faults
  outcome :=
    if p.omitted.contains coreName then .error (.core .coreLeftOut)
    else match p.misuse? with
      | some misuse => .error (.misuse misuse)
      | none => .ok (text header c p)

/-- **Generating the script** for a command and the names of the functions to emit.  Without names
the script is empty. -/
def generate (r : Registry) (c : Command) (names : List String) : Generated :=
  if names.isEmpty then { faults := [], outcome := .ok "" }
  else match planFor r c.modes names with
    | .error error => { faults := [], outcome := .error error }
    | .ok p => ofPlan r.header c p

end CustomBuild.Script
