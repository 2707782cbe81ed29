import CustomBuild.Json.Basic

/-!
# Reports

A build ends in a report: the source, where it was to go, and what went wrong on the way.
-/

namespace CustomBuild

/-- One problem of a build. -/
structure Diagnostic where
  /-- the kind of the problem -/
  kind : String
  /-- its wording -/
  message : String
deriving DecidableEq, Repr, Inhabited

namespace Diagnostic

/-- The line that shows a problem. -/
def text (d : Diagnostic) : String :=
  d.kind ++ ": " ++ d.message

/-- The serialised form. -/
def toJson (d : Diagnostic) : Json :=
  .object [("kind", .string d.kind), ("message", .string d.message)]

end Diagnostic

/-- The outcome of a build. -/
structure Report where
  /-- the finished source -/
  source : String := ""
  /-- the file that the source was to go to; none for standard output and for a command that was
  refused -/
  destination : Option String := none
  /-- whether the source was to go to standard output -/
  stdout : Bool := false
  /-- the problems in order -/
  diagnostics : List Diagnostic := []
deriving DecidableEq, Repr, Inhabited

namespace Report

/-- Whether there were no problems. -/
def ok (r : Report) : Bool :=
  r.diagnostics.isEmpty

/-- Whether there was a problem of a kind. -/
def has (r : Report) (kind : String) : Bool :=
  r.diagnostics.any fun d => d.kind == kind

/-- The report with one more problem. -/
def add (r : Report) (d : Diagnostic) : Report :=
  { r with diagnostics := r.diagnostics ++ [d] }

/-- The serialised form, which has the length of the source in its place. -/
def toJson (r : Report) : Json :=
  .object
    [("destination", .optional r.destination),
     ("stdout", .bool r.stdout),
     ("length", .integer r.source.length),
     ("diagnostics", .array (r.diagnostics.map Diagnostic.toJson))]

end Report

end CustomBuild
