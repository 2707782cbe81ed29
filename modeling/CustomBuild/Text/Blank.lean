import CustomBuild.Text.Basic

/-!
# Blank characters and trimming

A blank is a character that text trimming removes: the Unicode white space characters together
with the four separator controls U+001C to U+001F.  The zero width space, the byte order mark and
the Mongolian vowel separator are not blanks.  `trim` takes blanks off both ends of a text.
-/

namespace CustomBuild.Text

/-- **Blanks**: the 29 characters that separate words. -/
def isBlank (c : Char) : Bool :=
  let n := c.toNat
  (9 ≤ n && n ≤ 13) || (28 ≤ n && n ≤ 32) || n == 0x85 || n == 0xA0 || n == 0x1680
    || (0x2000 ≤ n && n ≤ 0x200A) || n == 0x2028 || n == 0x2029 || n == 0x202F || n == 0x205F
    || n == 0x3000

/-- Takes the characters that satisfy `p` off the end of a text. -/
def dropEndWhile (p : Char → Bool) (cs : List Char) : List Char :=
  (cs.reverse.dropWhile p).reverse

/-- A text without its leading and trailing blanks. -/
def trimChars (cs : List Char) : List Char :=
  dropEndWhile isBlank (cs.dropWhile isBlank)

/-- **Trimming**: a text without its leading and trailing blanks. -/
def trim (text : String) : String :=
  String.ofList (trimChars text.toList)

/-- Whether a text has no character other than blanks. -/
def isAllBlank (text : String) : Bool :=
  text.toList.all isBlank

/-- **Comma list**: the trimmed parts of a text between commas, those that are blank left out. -/
def commaParts (text : String) : List String :=
  ((splitWhere (· == ',') text.toList).map trimChars).filterMap fun part =>
    if part.isEmpty then none else some (String.ofList part)

end CustomBuild.Text
