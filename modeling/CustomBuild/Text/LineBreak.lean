import CustomBuild.Text.Basic

/-!
# Line breaks

Text read from a file has its line ends made uniform (`uniformNewlines`).  A fragment file is then
cut into lines at every line boundary character, not only at line feeds (`breakLines`); unlike
`lines`, that gives no empty line after a final boundary.
-/

namespace CustomBuild.Text

/-- **Uniform newlines**: a carriage return, with the line feed after it if there is one, becomes
one line feed. -/
def uniformNewlines : List Char → List Char
  | '\r' :: '\n' :: cs => '\n' :: uniformNewlines cs
  | '\r' :: cs => '\n' :: uniformNewlines cs
  | c :: cs => c :: uniformNewlines cs
  | [] => []

/-- A carriage return that a line feed follows is no boundary of its own: the pair counts once. -/
def joinReturns : List Char → List Char
  | '\r' :: '\n' :: cs => '\n' :: joinReturns cs
  | c :: cs => c :: joinReturns cs
  | [] => []

/-- **Line boundaries**: line feed, vertical tab, form feed, carriage return, the file, group and
record separators, next line, and the line and paragraph separators. -/
def isLineBreak (c : Char) : Bool :=
  let n := c.toNat
  (10 ≤ n && n ≤ 13) || (28 ≤ n && n ≤ 30) || n == 0x85 || n == 0x2028 || n == 0x2029

/-- **Lines at every boundary**: the pieces of a text between line boundaries, where an empty
piece after the last boundary is no line. -/
def breakLines (text : String) : List String :=
  let pieces := splitWhere isLineBreak (joinReturns text.toList)
  let kept := if pieces.getLast? = some [] then pieces.dropLast else pieces
  kept.map String.ofList

end CustomBuild.Text
