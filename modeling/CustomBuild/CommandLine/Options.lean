import CustomBuild.Text.Basic
import CustomBuild.Text.Digit
import CustomBuild.Text.Quoted

/-!
# Reading the command line

An argument that begins with a dash is an option: a flag, or the output option, which takes a path.
A long option may be shortened as long as it stays unambiguous, and takes its value after an equals
sign or as the next argument; short flags may be joined, and a value may follow its short option at
once.  Other arguments are directives, wherever they stand.  After a bare `--` no argument is an
option.

The command line is read twice (`read`).  The first pass acts on the options and leaves everything
else; the second one reads what is left, and takes the first run of other arguments as the
directives.  What the second pass cannot place is unrecognised.
-/

namespace CustomBuild.CommandLine

/-! ### Options -/

/-- The options of the program. -/
inductive Flag where
  /-- shows the help text -/
  | help
  /-- names the file to write -/
  | output
  /-- asks for standard output -/
  | stdout
  /-- asks for silence -/
  | silent
  /-- asks for reduction -/
  | minify
  /-- makes unknown names an error -/
  | strictNames
  /-- shows the version -/
  | version
deriving DecidableEq, Repr

namespace Flag

/-- The spellings of the options, in order of declaration. -/
def spellings : List (String × Flag) :=
  [("-h", .help), ("--help", .help), ("-o", .output), ("--output", .output), ("-c", .stdout),
   ("--stdout", .stdout), ("-s", .silent), ("--silent", .silent), ("-m", .minify),
   ("--minify", .minify), ("--strict-names", .strictNames), ("-V", .version),
   ("--version", .version)]

/-- The option of a spelling. -/
def ofSpelling? (spelling : String) : Option Flag :=
  spellings.lookup spelling

/-- The spellings of an option as messages show them. -/
def title (flag : Flag) : String :=
  "/".intercalate ((spellings.filter fun spelling => spelling.2 = flag).map Prod.fst)

/-- Whether an option takes a value. -/
def takesValue (flag : Flag) : Bool :=
  flag = .output

/-- The options that an option may not be given together with. -/
def conflicts : Flag → List Flag
  | .output => [.stdout]
  | .stdout => [.output]
  | _ => []

end Flag

/-- Why a command line cannot be read. -/
inductive UsageError where
  /-- a shortened option may stand for several -/
  | ambiguous (argument : String) (candidates : List String)
  /-- an option takes no value but is given one -/
  | needlessValue (flag : Flag) (value : String)
  /-- an option has no value -/
  | missingValue (flag : Flag)
  /-- two options exclude each other -/
  | conflict (flag other : Flag)
  /-- arguments are left over -/
  | unrecognised (arguments : List String)
deriving DecidableEq, Repr

/-- The wording of a usage error. -/
def UsageError.message : UsageError → String
  | .ambiguous argument candidates =>
    "ambiguous option: " ++ argument ++ " could match " ++ ", ".intercalate candidates
  | .needlessValue flag value =>
    "argument " ++ flag.title ++ ": ignored explicit argument " ++ Text.quoted value
  | .missingValue flag => "argument " ++ flag.title ++ ": expected one argument"
  | .conflict flag other =>
    "argument " ++ flag.title ++ ": not allowed with argument " ++ other.title
  | .unrecognised arguments => "unrecognized arguments: " ++ " ".intercalate arguments

/-- What ends the program before a build. -/
inductive Stop where
  /-- the help text is asked for -/
  | help
  /-- the version is asked for -/
  | version
  /-- the command line cannot be read -/
  | usage (error : UsageError)
deriving DecidableEq, Repr

/-! ### Arguments -/

/-- What an argument is. -/
inductive Argument where
  /-- no option -/
  | plain
  /-- the mark after which there are no options -/
  | endMark
  /-- an option in some spelling, and the value in the same argument -/
  | option (spelling : String) (flag : Flag) (value : Option String)
  /-- an option that the program does not have -/
  | unknown
deriving DecidableEq, Repr

/-- Whether a text is a negative number, which is no option. -/
def isNegativeNumber (text : String) : Bool :=
  let isDigits (cs : List Char) : Bool := !cs.isEmpty && cs.all Text.isDecimalDigit
  let body (cs : List Char) : List Char := if cs.getLast? = some '\n' then cs.dropLast else cs
  match text.toList with
  | '-' :: cs =>
    let number := body cs
    isDigits number
      || match Text.cut? ['.'] number with
        | some (whole, fraction) => whole.all Text.isDecimalDigit && isDigits fraction
        | none => false
  | _ => false

/-- The options that an argument with two dashes may be short for, with its value. -/
def longCandidates (text : String) : List (String × Flag × Option String) :=
  let (name, hasValue, value) := Text.cut '=' text
  (Flag.spellings.filter fun spelling => Text.beginsWith spelling.1 name).map fun spelling =>
    (spelling.1, spelling.2, if hasValue then some value else none)

/-- The option whose short spelling an argument with one dash begins with; the rest is its value. -/
def shortCandidates (text : String) : List (String × Flag × Option String) :=
  let short := String.ofList (text.toList.take 2)
  let value := String.ofList (text.toList.drop 2)
  (Flag.spellings.filter fun spelling => spelling.1 == short).map fun spelling =>
    (spelling.1, spelling.2, some value)

/-- **Classifying an argument** that stands before any end mark. -/
def classify (text : String) : Except UsageError Argument :=
  if text == "--" then .ok .endMark
  else if !Text.beginsWith text "-" then .ok .plain
  else match Flag.ofSpelling? text with
    | some flag => .ok (.option text flag none)
    | none =>
      -- a single dash is no option, and what is known under no spelling may be a shortened one
      if text == "-" then .ok .plain
      else
        let (name, hasValue, value) := Text.cut '=' text
        match if hasValue then Flag.ofSpelling? name else none with
        | some flag => .ok (.option name flag (some value))
        | none =>
          let candidates :=
            if Text.beginsWith text "--" then longCandidates text else shortCandidates text
          match candidates with
          | [(spelling, flag, value)] => .ok (.option spelling flag value)
          | [] =>
            if isNegativeNumber text || text.toList.contains ' ' then .ok .plain
            else .ok .unknown
          | _ => .error (.ambiguous text (candidates.map Prod.fst))

/-- Arguments with what they are; nothing is an option after the end mark. -/
def classifyAll : List String → Except UsageError (List (String × Argument))
  | [] => .ok []
  | text :: rest => do
    let argument ← classify text
    if argument = .endMark then
      pure ((text, argument) :: rest.map fun text => (text, .plain))
    else
      let others ← classifyAll rest
      pure ((text, argument) :: others)

/-! ### Passes -/

/-- What the arguments have settled. -/
structure Settled where
  /-- the directives -/
  directives : List String := []
  /-- the value of the output option -/
  output : Option String := none
  /-- whether standard output is asked for -/
  stdout : Bool := false
  /-- whether silence is asked for -/
  silent : Bool := false
  /-- whether reduction is asked for -/
  minify : Bool := false
  /-- whether unknown names are an error -/
  strictNames : Bool := false
deriving DecidableEq, Repr

/-- The state of a pass. -/
structure Pass where
  /-- what has been settled -/
  settled : Settled
  /-- the options seen in this pass -/
  seen : List Flag := []
  /-- the arguments that the pass leaves -/
  left : List String := []
  /-- whether the pass may still take directives -/
  isOpen : Bool := true
deriving DecidableEq, Repr

/-- One option with its value, as it is acted on. -/
structure Use where
  /-- the option -/
  flag : Flag
  /-- its value -/
  value : String := ""
deriving DecidableEq, Repr

/-- The path that the value of an output option is.  An end mark is taken out of it, so that no path
is left. -/
def pathOf (value : String) : Option String :=
  if value == "--" then none else some value

/-- Acts on an option. -/
def Pass.act (p : Pass) (use : Use) : Except Stop Pass :=
  match use.flag.conflicts.find? fun other => p.seen.contains other with
  | some other => .error (.usage (.conflict use.flag other))
  | none =>
    let p := { p with seen := use.flag :: p.seen }
    match use.flag with
    | .help => .error .help
    | .version => .error .version
    | .output => .ok { p with settled := { p.settled with output := pathOf use.value } }
    | .stdout => .ok { p with settled := { p.settled with stdout := true } }
    | .silent => .ok { p with settled := { p.settled with silent := true } }
    | .minify => .ok { p with settled := { p.settled with minify := true } }
    | .strictNames => .ok { p with settled := { p.settled with strictNames := true } }

/-- The options that one argument holds. -/
structure Uses where
  /-- the options in order, the last of which may still need a value -/
  uses : List Use
  /-- whether the last option takes the next argument as its value -/
  needsValue : Bool := false
deriving DecidableEq, Repr

/-- Puts an option before those that follow it in one argument. -/
def Uses.after (flag : Flag) (uses : Uses) : Uses :=
  { uses with uses := { flag } :: uses.uses }

/-- Reads joined short options, from a flag and the characters after it.  Where they do not go on
with a short option, the flag is given a value that it does not take. -/
def joined (flag : Flag) : List Char → Except UsageError Uses
  | [] => .ok { uses := [{ flag }], needsValue := flag.takesValue }
  | c :: cs =>
    if flag.takesValue then .ok { uses := [{ flag, value := String.ofList (c :: cs) }] }
    else match Flag.ofSpelling? (String.ofList ['-', c]) with
      | none => .error (.needlessValue flag (String.ofList (c :: cs)))
      | some next => (joined next cs).map (Uses.after flag)

/-- The options that an argument holds. -/
def usesOf (spelling : String) (flag : Flag) : Option String → Except UsageError Uses
  | none => .ok { uses := [{ flag }], needsValue := flag.takesValue }
  | some value =>
    if flag.takesValue then .ok { uses := [{ flag, value }] }
    else if value.isEmpty || Text.beginsWith spelling "--" then .error (.needlessValue flag value)
    else joined flag value.toList

/-- Gives the last of some options its value. -/
def withValue (value : String) : List Use → List Use
  | [] => []
  | [use] => [{ use with value }]
  | use :: rest => use :: withValue value rest

/-- The directives of a run of arguments: the first end mark in it is none of them. -/
def directivesOf (run : List (String × Argument)) : List String :=
  (run.map Prod.fst).erase "--"

/-- Whether an argument is an option, known or not. -/
def Argument.isOption : Argument → Bool
  | .option .. => true
  | .unknown => true
  | _ => false

/-- Takes the run of arguments at the front as directives, if the pass may still take any; the first
pass takes only an end mark, and that for nothing.  Gives the state and what follows. -/
def Pass.takeRun (p : Pass) (takesDirectives : Bool) (arguments : List (String × Argument)) :
    Pass × List (String × Argument) :=
  if !p.isOpen then (p, arguments)
  else if takesDirectives then
    let run := arguments.takeWhile fun a => !a.2.isOption
    ({ p with isOpen := false,
              settled := { p.settled with directives := directivesOf run } },
      arguments.drop run.length)
  else
    match arguments with
    | (_, .endMark) :: rest => ({ p with isOpen := false }, rest)
    | _ => ({ p with isOpen := false }, arguments)

/-- Leaves the run of arguments at the front that are no options. -/
def Pass.leaveRun (p : Pass) (arguments : List (String × Argument)) :
    Pass × List (String × Argument) :=
  let run := arguments.takeWhile fun a => !a.2.isOption
  ({ p with left := p.left ++ run.map Prod.fst }, arguments.drop run.length)

/-- Acts on the option at the front, if there is one, and gives what follows it. -/
def Pass.takeOption (p : Pass) :
    List (String × Argument) → Except Stop (Pass × List (String × Argument))
  | (text, .unknown) :: rest => .ok ({ p with left := p.left ++ [text] }, rest)
  | (_, .option spelling flag value) :: rest =>
    match usesOf spelling flag value with
    | .error error => .error (.usage error)
    | .ok found =>
      if found.needsValue then
        match rest with
        | (value, .plain) :: rest =>
          ((withValue value found.uses).foldlM Pass.act p).map fun p => (p, rest)
        | _ => .error (.usage (.missingValue ((found.uses.getLast?.map Use.flag).getD flag)))
      else (found.uses.foldlM Pass.act p).map fun p => (p, rest)
  | arguments => .ok (p, arguments)

/-- Runs a pass over arguments; each step uses up at least one of them, which `steps` counts. -/
def Pass.run (takesDirectives : Bool) : Nat → Pass → List (String × Argument) → Except Stop Pass
  | 0, p, arguments => .ok { p with left := p.left ++ arguments.map Prod.fst }
  | steps + 1, p, arguments =>
    if arguments.any fun a => a.2.isOption then
      let startsWithOption := match arguments with
        | first :: _ => first.2.isOption
        | [] => false
      if startsWithOption then
        match p.takeOption arguments with
        | .error stop => .error stop
        | .ok (p, rest) => Pass.run takesDirectives steps p rest
      else
        -- a run is taken at most once in a pass, and what is left of it waits for the next pass
        let (p, rest) := p.takeRun takesDirectives arguments
        let (p, rest) := p.leaveRun rest
        Pass.run takesDirectives steps p rest
    else
      let (p, rest) := p.takeRun takesDirectives arguments
      .ok { p with left := p.left ++ rest.map Prod.fst }

/-- Runs a pass over the texts of arguments. -/
def pass (takesDirectives : Bool) (settled : Settled) (texts : List String) : Except Stop Pass :=
  match classifyAll texts with
  | .error error => .error (.usage error)
  | .ok arguments => Pass.run takesDirectives (arguments.length + 1) { settled } arguments

/-- **Reading a command line.** -/
def read (texts : List String) : Except Stop Settled := do
  let first ← pass false {} texts
  let second ← pass true first.settled first.left
  if second.left.isEmpty then pure second.settled
  else throw (.usage (.unrecognised second.left))

end CustomBuild.CommandLine
