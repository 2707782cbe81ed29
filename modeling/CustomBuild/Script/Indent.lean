import CustomBuild.Text.Blank

/-!
# Indentation

The body of a script is indented by two spaces.  Lines that are blank become empty, so that no line
has trailing blanks because of it.
-/

namespace CustomBuild.Script

/-- A line moved two places to the right; a blank line becomes empty. -/
def indentLine (line : String) : String :=
  if Text.isAllBlank line then "" else "  " ++ line

/-- **A block moved two places to the right**, line by line. -/
def indent (block : String) : String :=
  Text.unlines ((Text.lines block).map indentLine)

end CustomBuild.Script
