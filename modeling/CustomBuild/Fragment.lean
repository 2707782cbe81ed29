import CustomBuild.NameSet
import CustomBuild.Table
import CustomBuild.Text.Blank
import CustomBuild.Text.LineBreak
import CustomBuild.Text.WordChar
import CustomBuild.Vocabulary

/-!
# Fragment files

A fragment file is cut into sections by marker lines.  A marker is `//@` and a name for the default
variant of an entry, `//@` with a name and a mode tag for another variant, and `//@tail` and a name
for the tail of an entry.  A section runs up to the next marker (`layout`); its body is stored
without leading newlines and trailing blanks.  The sections of all files go into one table, in which
no section may come twice, and before the first marker of a file there may only be blanks.
-/

namespace CustomBuild.Fragment

/-! ### Markers -/

/-- What a section is the source of. -/
inductive Key where
  /-- a variant of an entry -/
  | variant (name tag : String)
  /-- the tail of an entry -/
  | tail (name : String)
deriving DecidableEq, Repr

/-- The words of a text: its pieces between blanks, the empty ones left out. -/
def words (cs : List Char) : List (List Char) :=
  (Text.splitWhere Text.isBlank cs).filter fun piece => !piece.isEmpty

/-- Reads what stands after the mark: blanks, a name, and perhaps a mode tag.  A tail has no
variants, so its tag means nothing. -/
def keyAfter? (isTail : Bool) (cs : List Char) : Option Key :=
  match cs with
  | [] => none
  | c :: _ =>
    if !Text.isBlank c || !(words cs).all fun word => word.all Text.isWordChar then none
    else match words cs with
      | [name] =>
        some (if isTail then .tail (String.ofList name)
          else .variant (String.ofList name) defaultTag)
      | [name, tag] =>
        some (if isTail then .tail (String.ofList name)
          else .variant (String.ofList name) (String.ofList tag))
      | _ => none

/-- **The key of a marker line**; any other line has none. -/
def marker? (line : String) : Option Key :=
  match line.toList with
  | '/' :: '/' :: '@' :: 't' :: 'a' :: 'i' :: 'l' :: rest => keyAfter? true rest
  | '/' :: '/' :: '@' :: rest => keyAfter? false rest
  | _ => none

/-! ### Sections -/

/-- The sections of a list of lines. -/
structure Layout where
  /-- the lines before the first marker -/
  preamble : List String
  /-- the key of each marker, with the lines up to the next one -/
  sections : List (Key × List String)
deriving DecidableEq, Repr

/-- **Cutting lines into sections.**  Every line that is no marker belongs to the last marker before
it, if there is one. -/
def layout (lines : List String) : Layout :=
  lines.foldr
    (fun line l =>
      match marker? line with
      | some key => { preamble := [], sections := (key, l.preamble) :: l.sections }
      | none => { l with preamble := line :: l.preamble })
    { preamble := [], sections := [] }

/-- The source that the lines of a section hold. -/
def body (lines : List String) : String :=
  String.ofList
    (Text.dropEndWhile Text.isBlank ((Text.unlines lines).toList.dropWhile (· == '\n')))

/-! ### The table of sections -/

/-- Why a file is no fragment file, or does not go with those before it. -/
inductive Error where
  /-- there is text before the first marker -/
  | textBeforeMarker (file : String)
  /-- the tail of an entry comes twice -/
  | duplicateTail (file name : String)
  /-- a variant of an entry comes twice -/
  | duplicateVariant (file tag name : String)
deriving DecidableEq, Repr

/-- The wording of an error. -/
def Error.message : Error → String
  | .textBeforeMarker file => s!"{file}: text before the first section marker"
  | .duplicateTail file name => s!"{file}: duplicate tail for '{name}'"
  | .duplicateVariant file tag name => s!"{file}: duplicate '{tag}' fragment for '{name}'"

/-- The sections of fragment files, by entry. -/
structure Sections where
  /-- the variants of each entry -/
  variants : Table (Table String) := ∅
  /-- the tail of each entry -/
  tails : Table String := ∅
deriving DecidableEq, Repr

namespace Sections

/-- The source of a section. -/
def get? (s : Sections) : Key → Option String
  | .variant name tag => (s.variants.get? name).bind fun variants => variants.get? tag
  | .tail name => s.tails.get? name

/-- Stores a section that is not there yet. -/
def add (s : Sections) (file : String) (key : Key) (source : String) : Except Error Sections :=
  match key with
  | .tail name =>
    if s.tails.contains name then .error (.duplicateTail file name)
    else .ok { s with tails := s.tails.put name source }
  | .variant name tag =>
    let variants := (s.variants.get? name).getD ∅
    if variants.contains tag then .error (.duplicateVariant file tag name)
    else .ok { s with variants := s.variants.put name (variants.put tag source) }

/-- Stores sections in order, up to the first one that is there already. -/
def addAll (s : Sections) (file : String) : List (Key × List String) → Sections × Option Error
  | [] => (s, none)
  | (key, lines) :: rest =>
    match s.add file key (body lines) with
    | .ok extended => extended.addAll file rest
    | .error error => (s, some error)

/-- **Storing the sections of a file.**  What was stored before an error stays. -/
def addFile (s : Sections) (file text : String) : Sections × Option Error :=
  let l := layout (Text.breakLines text)
  if l.preamble.all Text.isAllBlank then s.addAll file l.sections
  else (s, some (.textBeforeMarker file))

/-- The names of the entries that have a section. -/
def names (s : Sections) : NameSet :=
  NameSet.ofList (s.variants.names ++ s.tails.names)

end Sections

end CustomBuild.Fragment
