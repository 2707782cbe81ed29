import CustomBuild.CommandLine.Program
import CustomBuild.Packaged

/-!
# The command line program

The outermost layer: it reads the arguments and the environment, has the library make the draft of a
build, writes the source and prints what the library says.  External commands are not run, so a
build that is set up for one keeps its source as it is.
-/

namespace CustomBuild

/-- What stands in for running an external command. -/
def withoutProcesses (_ : Launch) : LaunchOutcome :=
  .notStarted "external commands are not available"

/-- Writes a source to a file, and gives the wording of the error if that fails. -/
def writeSource (path source : String) : IO (Option String) := do
  let target := Path.ofText path
  try
    if target.parent != Path.here then IO.FS.createDirAll target.parent.text
    IO.FS.writeFile target.text source
    pure none
  catch error => pure (some (toString error))

/-- Prints what a build has said, and gives the exit status. -/
def printEnding (ending : CommandLine.Ending) : IO UInt32 := do
  let stdout ← IO.getStdout
  let stderr ← IO.getStderr
  stdout.putStr ending.stdout
  stdout.flush
  stderr.putStr ending.stderr
  if let some abort := ending.breakdown then stderr.putStr (abort.message ++ "\n")
  if let some reason := ending.unprinted then stderr.putStr (reason ++ "\n")
  if let some fault := ending.unlogged then stderr.putStr (fault ++ "\n")
  pure ending.status.toUInt32

/-- Runs the program on the given arguments. -/
def program (texts : List String) : IO UInt32 := do
  let environment : Environment :=
    { minifier := ← IO.getEnv minifierVariable, logLevel := ← IO.getEnv logLevelVariable }
  let site : Site := { registry := Packaged.registry, environment, run := withoutProcesses }
  if (CommandLine.logFault? environment).isSome then printEnding (CommandLine.start site texts)
  else match CommandLine.read texts with
    | .error stop => printEnding (stop.ending {})
    | .ok settled =>
      match site.draft settled.tokens with
      | .ok d =>
        match d.command.destination with
        | some path =>
          let wording ← writeSource path d.source
          printEnding (CommandLine.endingOf site.stream (site.finishOnFile d path {} wording))
        | none => printEnding (CommandLine.endingOf site.stream (site.finishOnStream d))
      | .error _ => printEnding (CommandLine.endingOf site.stream (site.build settled.tokens))

end CustomBuild

/-- The entry point. -/
def main (arguments : List String) : IO UInt32 :=
  CustomBuild.program arguments
