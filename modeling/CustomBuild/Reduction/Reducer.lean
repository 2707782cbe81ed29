import CustomBuild.Json.Display
import CustomBuild.Reduction.Strip
import CustomBuild.Text.LineBreak
import CustomBuild.Text.ShellWords
import CustomBuild.Text.UpperCase

/-!
# Reducers

A reducer takes a source and hands smaller ones to whoever asked for it; it should do so exactly
once.  The built-in reducer strips the source.  An external one is a command that reads the source
and writes the reduced one; what the command does is given by a function from launches to outcomes,
so that a reduction is a value.  The settings of the environment say which reducer a build uses when
it is given none.
-/

namespace CustomBuild

/-! ### Reductions -/

/-- What a reducer is told besides the source. -/
structure ReducerOptions where
  /-- whether to keep quiet -/
  silent : Bool
  /-- the name of the destination -/
  workingName : String
deriving DecidableEq, Repr

/-- How a reducer fails. -/
inductive ReducerFailure where
  /-- it could not produce a reduced source -/
  | noOutput (message : String)
  /-- an error of another kind -/
  | other (kind message : String)
deriving DecidableEq, Repr

/-- The wording of a failure; an error of another kind is named. -/
def ReducerFailure.message : ReducerFailure → String
  | .noOutput message => message
  | .other kind message => kind ++ ": " ++ message

/-- A command that is run: its words, the seconds that it may take, and what it reads. -/
structure Launch where
  /-- the words of the command -/
  command : List String
  /-- the seconds that the command may take, or what stands in their place -/
  timeout : Json
  /-- what the command reads -/
  input : String
deriving DecidableEq, Repr

/-- What came of running a command. -/
inductive LaunchOutcome where
  /-- it ended with an exit code, having written two texts -/
  | exited (code : Int) (stdout stderr : String)
  /-- it took too long -/
  | timedOut
  /-- it could not be started -/
  | notStarted (message : String)
  /-- what it wrote is no text -/
  | notText (message : String)
  /-- an error of another kind -/
  | failed (kind message : String)
deriving DecidableEq, Repr

/-- What a reducer did: the reduced sources that it handed on, the commands that it ran, and how it
failed, if it did. -/
structure Reduction where
  /-- the reduced sources in order -/
  outputs : List String := []
  /-- the commands that were run -/
  launched : List Launch := []
  /-- the failure, if there was one -/
  failure : Option ReducerFailure := none
deriving DecidableEq, Repr

/-- A reducer. -/
structure Reducer where
  /-- the name that messages use -/
  name : String
  /-- reduces a source -/
  reduce : String → ReducerOptions → Reduction

/-! ### The built-in reducer -/

/-- The reducer that strips the source. -/
def stripReducer : Reducer where
  name := "strip"
  reduce source _ := { outputs := [Strip.strip source] }

/-! ### External commands -/

/-- The seconds that an external command may take. -/
def defaultTimeout : Json := .integer 120

/-- Why a text is no external command. -/
inductive ExternalError where
  /-- the text cannot be cut into words -/
  | unreadable (command : String) (error : ShellWords.Error)
  /-- the text has no words -/
  | empty
deriving DecidableEq, Repr

/-- The wording of an error. -/
def ExternalError.message : ExternalError → String
  | .unreadable command error =>
    "Cannot parse minifier command " ++ Text.quoted command ++ ": " ++ error.message
  | .empty => "External minifier command is empty"

/-- An external command that reduces sources. -/
structure ExternalCommand where
  /-- the words of the command -/
  words : List String
  /-- the seconds that the command may take, or what stands in their place -/
  timeout : Json := defaultTimeout
deriving DecidableEq, Repr

namespace ExternalCommand

/-- **The external command that a text writes.** -/
def ofText (command : String) (timeout : Json) : Except ExternalError ExternalCommand :=
  match ShellWords.split command with
  | .error error => .error (.unreadable command error)
  | .ok [] => .error .empty
  | .ok (word :: rest) => .ok { words := word :: rest, timeout }

/-- The last line of what a command wrote about its failure. -/
def detail? (stderr : String) : Option String :=
  (Text.breakLines (Text.trim stderr)).getLast?

/-- The wording of an exit code other than zero. -/
def exitMessage (code : Int) (stderr : String) : String :=
  "Minifier exited with code " ++ toString code
    ++ match detail? stderr with
      | some line => ": " ++ line
      | none => ""

/-- **Reducing a source with an external command.**  The output counts if the command ends with the
exit code zero. -/
def reduce (c : ExternalCommand) (run : Launch → LaunchOutcome) (source : String) : Reduction :=
  let launch : Launch := { command := c.words, timeout := c.timeout, input := source }
  let failed (failure : ReducerFailure) : Reduction :=
    { launched := [launch], failure := some failure }
  match run launch with
  | .exited code stdout stderr =>
    if code = 0 then { outputs := [stdout], launched := [launch] }
    else failed (.noOutput (exitMessage code stderr))
  | .timedOut => failed (.noOutput ("Minifier timed out after " ++ c.timeout.display ++ "s"))
  | .notStarted message => failed (.noOutput ("Minifier could not be started: " ++ message))
  | .notText message => failed (.noOutput ("Minifier output is not valid UTF-8: " ++ message))
  | .failed kind message => failed (.other kind message)

/-- The reducer that runs an external command. -/
def reducer (c : ExternalCommand) (run : Launch → LaunchOutcome) : Reducer where
  name := "external"
  reduce source _ := c.reduce run source

end ExternalCommand

/-! ### Settings -/

/-- The variables of the environment that builds look at; a variable may be unset. -/
structure Environment where
  /-- the external command for reductions -/
  minifier : Option String := none
  /-- the level of log records -/
  logLevel : Option String := none
deriving DecidableEq, Repr

/-- The name of the variable that has the external command for reductions. -/
def minifierVariable : String := "LODASH_BUILDER_MINIFIER"

/-- The name of the variable that has the level of log records. -/
def logLevelVariable : String := "LODASH_BUILDER_LOG_LEVEL"

/-- The settings that the environment gives. -/
structure Settings where
  /-- the external command for reductions, if there is one -/
  minifierCommand : Option String
  /-- the level of log records -/
  logLevel : String
deriving DecidableEq, Repr

namespace Settings

/-- The level of log records unless the environment gives one. -/
def defaultLogLevel : String := "WARNING"

/-- **The settings of an environment.**  Values are trimmed, and a blank one counts as unset; the
log level is in upper case. -/
def ofEnvironment (e : Environment) : Settings :=
  let minifier := Text.trim (e.minifier.getD "")
  let level := Text.upper (Text.trim (e.logLevel.getD ""))
  { minifierCommand := if minifier.isEmpty then none else some minifier,
    logLevel := if level.isEmpty then defaultLogLevel else level }

/-- The external command of the settings; without one, sources are stripped. -/
def externalCommand (s : Settings) : Except ExternalError (Option ExternalCommand) :=
  match s.minifierCommand with
  | none => .ok none
  | some command => (ExternalCommand.ofText command defaultTimeout).map some

/-- **The reducer of the settings.** -/
def reducer (s : Settings) (run : Launch → LaunchOutcome) : Except ExternalError Reducer :=
  s.externalCommand.map fun
    | none => stripReducer
    | some command => command.reducer run

end Settings

end CustomBuild
