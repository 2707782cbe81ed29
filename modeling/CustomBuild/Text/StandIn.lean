import CustomBuild.Text.Quoted

/-!
# Stand-ins

Not all that stands where a text is expected is a text.  A JSON text can spell out half of a
surrogate pair, which is no character; such a half goes by its *stand-in*, the private character
sixteen planes above it.  And a value of another kind that stands where a name is expected goes by
a name that begins with a *mark*, a code point that Unicode keeps free of characters, so that the
number `5` and the text `5` are two names.  Such a name has a key besides its display, because one
value can be written in several ways: `1` and `1.0` are one number.
-/

namespace CustomBuild.Text

/-! ### Halves of surrogate pairs -/

/-- How far a stand-in is from the half that it stands for. -/
def standInOffset : Nat := 0x100000

/-- Whether a code unit is half of a surrogate pair. -/
def isHalf (unit : Nat) : Bool :=
  0xD800 ≤ unit && unit < 0xE000

/-- The stand-in of half a surrogate pair. -/
def standIn (unit : Nat) : Char :=
  Char.ofNat (standInOffset + unit)

/-- Whether a character is a stand-in. -/
def isStandIn (c : Char) : Bool :=
  standInOffset ≤ c.toNat && isHalf (c.toNat - standInOffset)

/-- How one character is written between quotes, a stand-in as the half that it stands for. -/
def quoteCharOrHalf (quote c : Char) : List Char :=
  if isStandIn c then '\\' :: 'u' :: hex 4 (c.toNat - standInOffset) else quoteChar quote c

/-- A text with stand-ins in quotes. -/
def quotedHalves (text : String) : String :=
  let cs := text.toList
  let quote := quoteMark cs
  String.ofList (quote :: cs.flatMap (quoteCharOrHalf quote) ++ [quote])

/-- A run of halves in a text, which no file can hold. -/
structure Halves where
  /-- how many characters stand before the run -/
  start : Nat
  /-- the first half -/
  first : Nat
  /-- how many halves there are -/
  count : Nat
deriving DecidableEq, Repr

/-- **The first run of halves** in a text, the characters that stand for halves being the
stand-ins. -/
def firstHalves? (cs : List Char) : Option Halves :=
  let before := cs.takeWhile fun c => !isStandIn c
  match cs.drop before.length with
  | [] => none
  | c :: rest =>
    some
      { start := before.length, first := c.toNat - standInOffset,
        count := 1 + (rest.takeWhile isStandIn).length }

/-- The wording of the refusal to write a run of halves to a file. -/
def Halves.message (run : Halves) : String :=
  let what :=
    if run.count = 1 then
      "character '\\u" ++ String.ofList (hex 4 run.first) ++ "' in position " ++ toString run.start
    else
      "characters in position " ++ toString run.start ++ "-"
        ++ toString (run.start + run.count - 1)
  "'utf-8' codec can't encode " ++ what ++ ": surrogates not allowed"

/-! ### Marked names -/

/-- The mark of a name that stands for a value of another kind. -/
def mark : Char := Char.ofNat 0xFDD0

/-- The name that stands for a value with the given key and the given display.  Two such names are
the same if they have the same key. -/
def marked (key display : String) : String :=
  String.ofList (mark :: key.toList ++ mark :: display.toList)

/-- Whether a name stands for a value of another kind. -/
def isMarked (name : String) : Bool :=
  name.toList.head? = some mark

/-- Whether a name stands for a text with halves of surrogate pairs. -/
def isBrokenName (name : String) : Bool :=
  isMarked name && name.toList.any isStandIn

/-- **The key of a name**, by which it is compared with others: every other name is its own key.
The key of a marked name keeps the mark, so that it is the key of no text. -/
def nameKey (name : String) : String :=
  if isMarked name then
    String.ofList (mark :: (name.toList.drop 1).takeWhile (· ≠ mark))
  else name

/-- Characters without marks, and without the keys between two marks; `inKey` tells whether the
first of them belongs to a key. -/
def withoutKeys (inKey : Bool) : List Char → List Char
  | [] => []
  | c :: cs =>
    if c = mark then withoutKeys (!inKey) cs
    else if inKey then withoutKeys inKey cs
    else c :: withoutKeys inKey cs

/-- A text as it is shown, in which every marked name has become its display. -/
def unmarked (text : String) : String :=
  String.ofList (withoutKeys false text.toList)

end CustomBuild.Text
