import CustomBuild.Registry.Basic
import CustomBuild.Text.Basic

/-!
# The banner

A script begins with a comment that names the library, its version, the command it was built by and
the licence.  The words of the command are free text, so a comment end among them is broken up by a
backslash.
-/

namespace CustomBuild.Script

/-- A text with a backslash inside every comment end. -/
def escapeCommentEnd : List Char → List Char
  | '*' :: '/' :: cs => '*' :: '\\' :: '/' :: escapeCommentEnd cs
  | c :: cs => c :: escapeCommentEnd cs
  | [] => []

/-- The command as the banner shows it. -/
def bannerCommand (tokens : List String) : String :=
  String.ofList (escapeCommentEnd (" ".intercalate (coreName :: tokens)).toList)

/-- **The banner** of a script that was built by a command with the given words. -/
def banner (header : RegistryHeader) (tokens : List String) : String :=
  Text.unlines <|
    ["/*!",
     " * " ++ header.library.display ++ " " ++ header.version.display ++ " (Custom Build)",
     " * Build: `" ++ bannerCommand tokens ++ "`"]
    ++ (if header.license.isTruthy then [" * " ++ header.license.display] else [])
    ++ [" */"]

end CustomBuild.Script
