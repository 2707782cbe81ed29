import CustomBuild.Text.Basic

/-!
# The contract of a reduction

A reduced source still has the version of the library, if the source had it, and has no more lines
than the source.
-/

namespace CustomBuild

/-- How a reduced source breaks the contract. -/
inductive Violation where
  /-- the version is gone -/
  | markerLost (marker : String)
  /-- there are more lines than before -/
  | linesGrew (before after : Nat)
deriving DecidableEq, Repr

/-- The wording of a violation. -/
def Violation.message : Violation → String
  | .markerLost marker => s!"version marker '{marker}' was not preserved"
  | .linesGrew before after => s!"line count grew from {before} to {after}"

/-- **The violations** of a reduction of `source` to `reduced`, where `marker` is the version. -/
def contractViolations (source reduced marker : String) : List Violation :=
  (if Text.contains source marker && !Text.contains reduced marker then [.markerLost marker]
    else [])
  ++ (if Text.lineFeeds source < Text.lineFeeds reduced then
      [.linesGrew (Text.lineFeeds source) (Text.lineFeeds reduced)]
    else [])

end CustomBuild
