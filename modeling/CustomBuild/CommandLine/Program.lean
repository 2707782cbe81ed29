import CustomBuild.Build
import CustomBuild.CommandLine.Options
import CustomBuild.CommandLine.Usage

/-!
# The program

The command line program writes its options back as command tokens, runs one build and tells by its
exit status how that went: 0 when the source was delivered, 1 when the command was refused, 2 when
the delivery failed.  A command line that cannot be read has the exit status 2 as well.

Before all that, the program sets up its log records (`start`).  The level that the environment
gives them is a word, and there are two words that name something else, which breaks the program
off.

The stream of a site is the standard output of the program, which takes the line that tells of a
written file as well as a source.  A source that cannot be written there is a failed delivery, but a
line breaks the program off.
-/

namespace CustomBuild.CommandLine

/-- What the program printed, how it ended, and the file tree after it. -/
structure Ending where
  /-- the exit status -/
  status : Nat
  /-- what was written to standard output -/
  stdout : String := ""
  /-- what was written to standard error -/
  stderr : String := ""
  /-- the file tree -/
  tree : FileTree
  /-- what broke the program off, if something did -/
  breakdown : Option Abort := none
  /-- why standard output did not take a line, which breaks the program off as well -/
  unprinted : Option String := none
  /-- why log records cannot be kept, which breaks the program off at its start -/
  unlogged : Option String := none
deriving DecidableEq, Repr

/-- **The command tokens** of what the arguments have settled: the directives, and then the options
in a fixed order. -/
def Settled.tokens (s : Settled) : List String :=
  s.directives
  ++ (match s.output with
    | some path => if path.isEmpty then [] else ["-o", path]
    | none => [])
  ++ (if s.stdout then ["-c"] else [])
  ++ (if s.silent then ["-s"] else [])
  ++ (if s.minify then ["-m"] else [])
  ++ (if s.strictNames then ["--strict-names"] else [])

/-- How the program ends without a build. -/
def Stop.ending (stop : Stop) (tree : FileTree) : Ending :=
  match stop with
  | .help => { status := 0, stdout := helpText, tree }
  | .version => { status := 0, stdout := versionLine, tree }
  | .usage error =>
    { status := 2, tree,
      stderr := usageText ++ programName ++ ": error: " ++ error.message ++ "\n" }

/-- The kinds of diagnostics that a refused command has. -/
def refusalKinds : List String :=
  [commandKind, unknownNamesKind, valueKind, missingFileKind]

/-- The exit status of a build. -/
def exitStatus (report : Report) : Nat :=
  if report.diagnostics.any fun d => refusalKinds.contains d.kind then 1
  else if report.has deliveryKind then 2
  else 0

/-- How the program ends after a build.  What the build has printed apart from the source is a line
that a broken stream does not take. -/
def endingOf (stream : Stream) (outcome : Outcome) : Ending :=
  let ending : Ending :=
    { status := 1, stdout := outcome.stdout, stderr := outcome.stderr, tree := outcome.tree }
  match outcome.result with
  | .error abort => { ending with breakdown := some abort }
  | .ok report =>
    match stream with
    | .broken reason =>
      if outcome.stdout.isEmpty then { ending with status := exitStatus report }
      else { ending with stdout := "", unprinted := some reason }
    | _ => { ending with status := exitStatus report }

/-- **Running the program** on the texts of its arguments. -/
def run (site : Site) (texts : List String) : Ending :=
  match read texts with
  | .error stop => stop.ending site.tree
  | .ok settled => endingOf site.stream (site.build settled.tokens)

/-! ### Log records -/

/-- The words that name something other than a level of log records, and what is wrong with that as
a level.  Any other word that names no level leaves the usual one. -/
def misnamedLevels : List (String × String) :=
  [("BASIC_FORMAT", "Unknown level: '%(levelname)s:%(name)s:%(message)s'"),
   ("_STYLES",
    "Level not an integer or a valid string: \x7b'%': (<class 'logging.PercentStyle'>, "
      ++ "'%(levelname)s:%(name)s:%(message)s'), '\x7b': (<class 'logging.StrFormatStyle'>, "
      ++ "'\x7blevelname\x7d:\x7bname\x7d:\x7bmessage\x7d'), "
      ++ "'$': (<class 'logging.StringTemplateStyle'>, "
      ++ "'$\x7blevelname\x7d:$\x7bname\x7d:$\x7bmessage\x7d')\x7d")]

/-- Why log records cannot be kept at the level that the environment gives. -/
def logFault? (environment : Environment) : Option String :=
  misnamedLevels.lookup (Settings.ofEnvironment environment).logLevel

/-- **Starting the program**: log records are set up before the arguments are read. -/
def start (site : Site) (texts : List String) : Ending :=
  match logFault? site.environment with
  | some fault => { status := 1, tree := site.tree, unlogged := some fault }
  | none => run site texts

end CustomBuild.CommandLine
