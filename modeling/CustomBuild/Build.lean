import CustomBuild.Command.Grammar
import CustomBuild.Delivery
import CustomBuild.Reduction.Contract
import CustomBuild.Reduction.Reducer
import CustomBuild.Report
import CustomBuild.Script.Basic

/-!
# Builds

A build reads a command, selects, generates, reduces if asked to, and delivers.  Whatever goes wrong
on the way becomes a diagnostic of its report, and unless the command asks for silence a line on
standard error.  At the end a listener is told the source, and the path if there is one, exactly
once.

`Site.build` is a function: what surrounds a build (`Site`) goes in, and the report comes out
together with everything that the build did (`Outcome`).  It is the composition of `draft`, which
has no effect on files and streams, and of the delivery.
-/

namespace CustomBuild

/-! ### Surroundings -/

/-- Where standard output goes. -/
inductive Stream where
  /-- to the terminal, with the other lines of the build -/
  | terminal
  /-- to a stream of its own -/
  | own
  /-- to a stream that cannot be written to, for the given reason -/
  | broken (reason : String)
deriving DecidableEq, Repr

/-- What surrounds a build. -/
structure Site where
  /-- the library to build from -/
  registry : Registry
  /-- the file tree before the build -/
  tree : FileTree := {}
  /-- the directory that relative paths start from -/
  workingDirectory : Location := []
  /-- where standard output goes -/
  stream : Stream := .terminal
  /-- the reducer to use in place of the one that the environment gives -/
  reducer : Option Reducer := none
  /-- the environment -/
  environment : Environment := {}
  /-- what comes of running a command -/
  run : Launch → LaunchOutcome := fun _ => .timedOut
  /-- whether there is a listener -/
  hasListener : Bool := true

/-! ### Results -/

/-- What a listener is told: the source, and the path if the source was to go to a file. -/
structure Notice where
  /-- the finished source -/
  source : String
  /-- the path -/
  path : Option String := none
deriving DecidableEq, Repr

/-- What ends a build without a report. -/
inductive Abort where
  /-- the path of the command has the null character -/
  | nullInPath
  /-- the path of the command needs too many directories that are missing -/
  | tooDeep
  /-- a selected name is that of no entry -/
  | unknownName (name : String)
  /-- a value of the registry is of no use -/
  | misuse (misuse : Misuse)
  /-- the source has halves of surrogate pairs, which no file can hold -/
  | halves (run : Text.Halves)
deriving DecidableEq, Repr

/-- The wording of what ends a build without a report. -/
def Abort.message : Abort → String
  | .nullInPath => "embedded null byte"
  | .tooDeep => "maximum recursion depth exceeded while calling a Python object"
  | .unknownName name => Text.quoted name
  | .misuse found => found.message
  | .halves run => run.message

/-- Everything that a build did. -/
structure Outcome where
  /-- the report, or what ended the build without one -/
  result : Except Abort Report
  /-- what the listener was told, in order -/
  notices : List Notice := []
  /-- the file tree after the build -/
  tree : FileTree
  /-- what was written to the terminal's standard output -/
  stdout : String := ""
  /-- what was written to standard error -/
  stderr : String := ""
  /-- what was written to a stream of its own -/
  stream : String := ""
  /-- the options that the given reducer was called with, call by call -/
  reducerCalls : List ReducerOptions := []
  /-- the commands that were run -/
  launched : List Launch := []

/-! ### Kinds of diagnostics -/

/-- The kind of a command that is malformed. -/
def commandKind : String := "ConfigurationError"

/-- The kind of unknown names under strict names. -/
def unknownNamesKind : String := "UnknownNameError"

/-- The kind of a fault of generation or reduction. -/
def generationKind : String := "GenerationFault"

/-- The kind of a failed delivery. -/
def deliveryKind : String := "DeliveryError"

/-- The kind of a value that is of no use. -/
def valueKind : String := "ValueError"

/-- The kind of a file that is missing. -/
def missingFileKind : String := "FileNotFoundError"

/-- The diagnostic of a fault of generation. -/
def Fault.diagnostic (fault : Fault) : Diagnostic :=
  { kind := generationKind, message := fault.message }

/-! ### Reduction -/

/-- A source after reduction, with what was done for it. -/
structure Reduced where
  /-- the source, reduced unless that failed -/
  source : String
  /-- the problem, if the reduction was rejected -/
  diagnostics : List Diagnostic := []
  /-- the options that the given reducer was called with, call by call -/
  reducerCalls : List ReducerOptions := []
  /-- the commands that were run -/
  launched : List Launch := []

/-- The diagnostic of a rejected reduction. -/
def rejection (name : String) (problems : List String) : Diagnostic where
  kind := generationKind
  message := name ++ " reducer output rejected: " ++ "; ".intercalate problems

/-- The problems of a reduction: its failure, a wrong number of outputs, or violations of the
contract.  A version that is no text cannot be looked for in a source. -/
def Reduction.problems (reduction : Reduction) (source : String) (version : Json) :
    Except Misuse (List String) :=
  match reduction.failure with
  | some failure => .ok [failure.message]
  | none =>
    match reduction.outputs with
    | [reduced] =>
      if version.isText then
        .ok ((contractViolations source reduced version.display).map Violation.message)
      else .error (.noMarker version.kind)
    | outputs => .ok ["reducer completed " ++ toString outputs.length ++ " times"]

namespace Site

/-- What the reducers are told for a command. -/
def reducerOptions (c : Command) : ReducerOptions where
  silent := c.silent
  workingName := c.destination.getD "stdout"

/-- Uses a reducer, and keeps the source as it is if the reduction has problems. -/
def reduceWith (site : Site) (reducer : Reducer) (c : Command) (source : String) :
    Except Misuse Reduced :=
  let options := reducerOptions c
  let reduction := reducer.reduce source options
  -- the reducers that settings make are not watched
  let reducerCalls := if site.reducer.isSome then [options] else []
  (reduction.problems source site.registry.header.version).map fun problems =>
    if problems.isEmpty then
      { source := reduction.outputs.headD source, reducerCalls, launched := reduction.launched }
    else
      { source, diagnostics := [rejection reducer.name problems], reducerCalls,
        launched := reduction.launched }

/-- The reducer of a build: the given one, or that of the environment. -/
def chosenReducer (site : Site) : Except ExternalError Reducer :=
  match site.reducer with
  | some reducer => .ok reducer
  | none => (Settings.ofEnvironment site.environment).reducer site.run

/-- **Reducing a source**, if the command asks for it and there is any source. -/
def reduce (site : Site) (c : Command) (source : String) : Except Misuse Reduced :=
  if c.minify && !source.isEmpty then
    match site.chosenReducer with
    | .ok reducer => site.reduceWith reducer c source
    | .error error =>
      .ok { source, diagnostics := [rejection "configured" [valueKind ++ ": " ++ error.message]] }
  else .ok { source }

/-! ### Drafts -/

/-- A source that is ready for delivery. -/
structure Draft where
  /-- the command -/
  command : Command
  /-- what the command selects -/
  selection : Selection
  /-- the finished source -/
  source : String
  /-- the problems so far -/
  diagnostics : List Diagnostic
  /-- the options that the given reducer was called with, call by call -/
  reducerCalls : List ReducerOptions
  /-- the commands that were run -/
  launched : List Launch

/-- Why there is no draft. -/
inductive Refusal where
  /-- the command is refused -/
  | refused (diagnostic : Diagnostic)
  /-- the build ends without a report -/
  | aborted (abort : Abort)
deriving DecidableEq, Repr

/-- Reads a command and settles its selection. -/
def readCommand (site : Site) (tokens : List String) : Except Diagnostic (Command × Selection) :=
  match Command.ofTokens tokens with
  | .error error => .error { kind := commandKind, message := error.message }
  | .ok command =>
    match site.registry.select command with
    | .error error => .error { kind := unknownNamesKind, message := error.message }
    | .ok selection => .ok (command, selection)

/-- **The draft of a command**: everything up to the delivery. -/
def draft (site : Site) (tokens : List String) : Except Refusal Draft :=
  match site.readCommand tokens with
  | .error diagnostic => .error (.refused diagnostic)
  | .ok (command, selection) =>
    let generated := Script.generate site.registry command selection.names
    match generated.outcome with
    | .error (.unknownName name) => .error (.aborted (.unknownName name))
    | .error (.misuse misuse) => .error (.aborted (.misuse misuse))
    | .error (.core fault) =>
      -- a build without the core goes on with the empty source, which is not reduced
      .ok
        { command, selection, source := "",
          diagnostics := (generated.faults ++ [fault]).map Fault.diagnostic,
          reducerCalls := [], launched := [] }
    | .ok source =>
      match site.reduce command source with
      | .error misuse => .error (.aborted (.misuse misuse))
      | .ok reduced =>
        .ok
          { command, selection, source := reduced.source,
            diagnostics := generated.faults.map Fault.diagnostic ++ reduced.diagnostics,
            reducerCalls := reduced.reducerCalls, launched := reduced.launched }

/-! ### Delivery -/

/-- Whether the tokens of a command ask for silence, even if they make no command. -/
def asksForSilence (tokens : List String) : Bool :=
  tokens.contains "-s" || tokens.contains "--silent"

/-- The lines on standard error that show problems. -/
def errorText (silent : Bool) (diagnostics : List Diagnostic) : String :=
  if silent then "" else String.join (diagnostics.map fun d => d.text ++ "\n")

/-- What the listener is told, if there is one. -/
def tell (site : Site) (notice : Notice) : List Notice :=
  if site.hasListener then [notice] else []

/-- The line that tells of a file that was written. -/
def savedLine (silent : Bool) (path : String) (count : Nat) : String :=
  if silent then "" else "Saved " ++ path ++ " (" ++ toString count ++ " functions)\n"

/-- The end of a build whose command is refused. -/
def refuse (site : Site) (tokens : List String) (diagnostic : Diagnostic) : Outcome where
  result := .ok { diagnostics := [diagnostic] }
  notices := site.tell { source := "" }
  tree := site.tree
  stderr := errorText (asksForSilence tokens) [diagnostic]

/-- The end of a build that goes to standard output. -/
def finishOnStream (site : Site) (d : Draft) : Outcome :=
  let failed : List Diagnostic := match site.stream with
    | .broken reason => [{ kind := deliveryKind, message := "Cannot write to stdout: " ++ reason }]
    | _ => []
  let diagnostics := d.diagnostics ++ failed
  { result := .ok { source := d.source, stdout := true, diagnostics },
    notices := site.tell { source := d.source },
    tree := site.tree,
    stdout := if site.stream = .terminal then d.source else "",
    stderr := errorText d.command.silent diagnostics,
    stream := if site.stream = .own then d.source else "",
    reducerCalls := d.reducerCalls, launched := d.launched }

/-- The end of a build that goes to a file, given the tree after the delivery and the wording of the
error that the delivery had. -/
def finishOnFile (site : Site) (d : Draft) (path : String) (tree : FileTree)
    (error : Option String) : Outcome :=
  let failed : List Diagnostic := match error with
    | some wording =>
      [{ kind := deliveryKind, message := "Cannot write " ++ path ++ ": " ++ wording }]
    | none => []
  let diagnostics := d.diagnostics ++ failed
  { result := .ok { source := d.source, destination := some path, diagnostics },
    notices := site.tell { source := d.source, path := some path },
    tree,
    stdout := if error.isSome then ""
      else savedLine d.command.silent path d.selection.names.length,
    stderr := errorText d.command.silent diagnostics,
    reducerCalls := d.reducerCalls, launched := d.launched }

/-- The end of a build whose delivery breaks off: nobody is told. -/
def abandon (d : Draft) (abort : Abort) (tree : FileTree) : Outcome where
  result := .error abort
  tree
  stderr := errorText d.command.silent d.diagnostics
  reducerCalls := d.reducerCalls
  launched := d.launched

/-- The halves of surrogate pairs in a source, which come from the registry. -/
def halves? (site : Site) (source : String) : Option Text.Halves :=
  if site.registry.hasHalves then Text.firstHalves? (Text.unmarked source).toList else none

/-- Delivers a draft.  A source that no file can hold leaves an empty file. -/
def deliver (site : Site) (d : Draft) : Outcome :=
  match d.command.destination with
  | none => site.finishOnStream d
  | some path =>
    let halves := site.halves? d.source
    let text := if halves.isSome then "" else d.source
    -- the file is opened before the text is encoded, so errors of the path come first
    match site.tree.deliver site.workingDirectory path text, halves with
    | (tree, some .nullCharacter), _ => abandon d .nullInPath tree
    | (tree, some .tooDeep), _ => abandon d .tooDeep tree
    | (tree, some (.file error)), _ => site.finishOnFile d path tree (some error.message)
    | (tree, none), some run => abandon d (.halves run) tree
    | (tree, none), none => site.finishOnFile d path tree none

/-- **Building** what a list of tokens asks for. -/
def build (site : Site) (tokens : List String) : Outcome :=
  match site.draft tokens with
  | .error (.refused diagnostic) => site.refuse tokens diagnostic
  | .error (.aborted abort) => { result := .error abort, tree := site.tree }
  | .ok d => site.deliver d

/-- **Building one command after the other**, each in the tree that the one before left. -/
def buildAll (site : Site) : List (List String) → List Outcome
  | [] => []
  | tokens :: rest =>
    let outcome := site.build tokens
    outcome :: ({ site with tree := outcome.tree } : Site).buildAll rest

end Site

end CustomBuild
