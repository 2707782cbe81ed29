import CustomBuild.Text.Printable

/-!
# Quoted texts

Messages show a path, a key or a command in quotes.  The quote is `'`, or `"` when the text has
`'` and no `"`.  A backslash stands before the quote and before a backslash; tab, line feed and
carriage return have their letters; any other character that is not printable is written by its
code point in hexadecimal.
-/

namespace CustomBuild.Text

/-- The lower case hexadecimal digits of `n`, at least `width` of them. -/
def hex (width n : Nat) : List Char :=
  let digits := Nat.toDigits 16 n
  List.replicate (width - digits.length) '0' ++ digits

/-- How one character is written between quotes. -/
def quoteChar (quote c : Char) : List Char :=
  if c == quote || c == '\\' then ['\\', c]
  else if c == '\t' then ['\\', 't']
  else if c == '\n' then ['\\', 'n']
  else if c == '\r' then ['\\', 'r']
  else if isPrintable c then [c]
  else if c.toNat ≤ 0xFF then '\\' :: 'x' :: hex 2 c.toNat
  else if c.toNat ≤ 0xFFFF then '\\' :: 'u' :: hex 4 c.toNat
  else '\\' :: 'U' :: hex 8 c.toNat

/-- The quote that a text is written with. -/
def quoteMark (cs : List Char) : Char :=
  if cs.contains '\'' && !cs.contains '"' then '"' else '\''

/-- **A text in quotes**, on one line and with every unprintable character spelled out. -/
def quoted (text : String) : String :=
  let cs := text.toList
  let quote := quoteMark cs
  String.ofList (quote :: cs.flatMap (quoteChar quote) ++ [quote])

end CustomBuild.Text
