import CustomBuild.Build
import CustomBuild.Command.Tokens

/-!
# Builds of tokens of any kind

A build whose tokens are given as JSON values is the build of its texts (`buildValues_map_string`),
and a token that is no text ends it without a report.
-/

namespace CustomBuild.Site

/-- **Building** what a list of values asks for. -/
def buildValues (site : Site) (values : List Json) : Outcome :=
  let texts := values.filterMap Json.string?
  match Command.ofValues values with
  | .ok _ => site.build texts
  | .error (.command error) =>
    site.refuse texts { kind := commandKind, message := error.message }
  | .error (.misuse misuse) => { result := .error (.misuse misuse), tree := site.tree }

/-- **Tokens that are texts** are built as they are. -/
theorem buildValues_map_string (site : Site) (tokens : List String) :
    site.buildValues (tokens.map .string) = site.build tokens := by
  have htexts : (tokens.map Json.string).filterMap Json.string? = tokens := by
    rw [List.filterMap_map]
    exact List.filterMap_some
  rw [buildValues, htexts, Command.ofValues_map_string]
  cases h : Command.ofTokens tokens with
  | ok command => rfl
  | error error =>
    have hread : site.readCommand tokens =
        .error { kind := commandKind, message := error.message } := by
      rw [readCommand, h]
    rw [build, draft, hread]
    rfl

end CustomBuild.Site
