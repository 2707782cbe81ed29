/-!
# Texts as lists of characters

The scanners of this library work on `List Char`; `String` appears only at their edges.  This
module holds the operations that every scanner shares: the pieces of a text between separators
(`splitWhere`), the first occurrence of a mark (`cut?`), whether a mark occurs at all
(`occurs`), how often it occurs without overlap (`occurrences`), and the lines of a text.
-/

namespace CustomBuild.Text

/-! ### Pieces -/

/-- **Pieces between separators**: the maximal runs of characters that fail `isSeparator`, in
order.  A text with `n` separators has exactly `n + 1` pieces, some of which may be empty. -/
def splitWhere (isSeparator : Char → Bool) (cs : List Char) : List (List Char) :=
  cs.foldr
    (fun c pieces =>
      if isSeparator c then [] :: pieces
      else match pieces with
        | [] => [[c]]
        | piece :: rest => (c :: piece) :: rest)
    [[]]

/-- There is always a piece, perhaps an empty one. -/
theorem splitWhere_ne_nil (isSeparator : Char → Bool) (cs : List Char) :
    splitWhere isSeparator cs ≠ [] := by
  cases cs with
  | nil => simp [splitWhere]
  | cons c cs =>
    rw [splitWhere, List.foldr_cons]
    split
    · simp
    · split <;> simp

/-- **Joining the pieces with the separator** gives the text back. -/
theorem intercalate_splitWhere (separator : Char) (cs : List Char) :
    List.intercalate [separator] (splitWhere (· == separator) cs) = cs := by
  induction cs with
  | nil => simp [splitWhere]
  | cons c cs ih =>
    have hcons : splitWhere (· == separator) (c :: cs) =
        if c == separator then [] :: splitWhere (· == separator) cs
        else match splitWhere (· == separator) cs with
          | [] => [[c]]
          | piece :: rest => (c :: piece) :: rest := rfl
    rw [hcons]
    cases hpieces : splitWhere (· == separator) cs with
    | nil => exact absurd hpieces (splitWhere_ne_nil _ cs)
    | cons piece rest =>
      rw [hpieces] at ih
      split
      · next h => simp [List.intercalate_cons_cons, ih, (beq_iff_eq.1 h)]
      · cases rest with
        | nil => simpa [List.intercalate] using ih
        | cons next rest =>
          rw [List.intercalate_cons_cons] at ih ⊢
          simp [← ih]

/-- **Lines of a text**: its pieces between line feeds.  A final line feed leaves an empty last
line, so joining the lines with line feeds gives the text back. -/
def lines (text : String) : List String :=
  (splitWhere (· == '\n') text.toList).map String.ofList

/-- The text whose lines are the given ones. -/
def unlines (lines : List String) : String :=
  "\n".intercalate lines

/-- Cutting a text into lines loses nothing. -/
theorem unlines_lines (text : String) : unlines (lines text) = text := by
  apply String.toList_inj.1
  rw [unlines, lines, String.toList_intercalate, List.map_map]
  have hid : String.toList ∘ String.ofList = id := by
    funext cs
    exact String.toList_ofList
  rw [hid, List.map_id]
  exact intercalate_splitWhere '\n' text.toList

/-! ### Occurrences of a mark -/

/-- **First occurrence**: the text before and the text after the leftmost occurrence of `mark`,
or `none` if it does not occur. -/
def cut? (mark : List Char) : List Char → Option (List Char × List Char)
  | [] => if mark.isEmpty then some ([], []) else none
  | c :: cs =>
    if mark.isPrefixOf (c :: cs) then some ([], (c :: cs).drop mark.length)
    else (cut? mark cs).map fun (before, after) => (c :: before, after)

/-- Whether `mark` occurs in a text as consecutive characters. -/
def occurs (mark : List Char) : List Char → Bool
  | [] => mark.isEmpty
  | c :: cs => mark.isPrefixOf (c :: cs) || occurs mark cs

/-- How often `mark` occurs in a text of which the first `skip` characters are already used up
by an earlier occurrence. -/
def occurrencesAfter (mark : List Char) : Nat → List Char → Nat
  | _, [] => 0
  | skip + 1, _ :: cs => occurrencesAfter mark skip cs
  | 0, c :: cs =>
    if mark.isPrefixOf (c :: cs) then 1 + occurrencesAfter mark (mark.length - 1) cs
    else occurrencesAfter mark 0 cs

/-- **Occurrences without overlap**, counted from the left, of a mark that is not empty. -/
def occurrences (mark text : String) : Nat :=
  occurrencesAfter mark.toList 0 text.toList

/-- Whether `text` has `mark` as a substring. -/
def contains (text mark : String) : Bool :=
  occurs mark.toList text.toList

/-- The number of line feeds of a text. -/
def lineFeeds (text : String) : Nat :=
  text.toList.count '\n'

/-- Whether `text` begins with `start`. -/
def beginsWith (text start : String) : Bool :=
  start.toList.isPrefixOf text.toList

/-- Whether `text` ends with `finish`. -/
def endsWith (text finish : String) : Bool :=
  finish.toList.isSuffixOf text.toList

/-- The text before the first `mark`, whether it occurs, and the text after it; without an
occurrence the whole text stands before it. -/
def cut (mark : Char) (text : String) : String × Bool × String :=
  match cut? [mark] text.toList with
  | some (before, after) => (String.ofList before, true, String.ofList after)
  | none => (text, false, "")

/-- A text with the letters `A` to `Z` in lower case. -/
def lowered (text : String) : String :=
  String.ofList (text.toList.map Char.toLower)

end CustomBuild.Text
