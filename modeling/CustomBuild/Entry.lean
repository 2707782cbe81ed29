import CustomBuild.Json.Display
import CustomBuild.NameSet
import CustomBuild.Vocabulary

/-!
# Entries

An entry is one function of the library or one private helper, with the source fragments that a
build may emit for it.  `Entry.fragment?` picks the fragment for the active modes.
-/

namespace CustomBuild

/-! ### Tails -/

/-- The text that an entry adds after the assignments.  A record may give another value in its
place, as long as it counts as true. -/
structure Tail where
  /-- the text, or what stands in its place -/
  value : Json
  /-- a value that does not count as true is the empty text -/
  isProper : value.isTruthy = true ∨ value = .string ""
deriving DecidableEq, Repr

namespace Tail

/-- The tail of a value: one that does not count as true is no tail. -/
def ofJson (value : Json) : Tail :=
  if h : value.isTruthy = true then ⟨value, Or.inl h⟩ else ⟨.string "", Or.inr rfl⟩

/-- The tail that adds nothing. -/
def none : Tail where
  value := .string ""
  isProper := Or.inr rfl

instance : Inhabited Tail := ⟨Tail.none⟩

/-- Whether there is anything to add. -/
def isPresent (t : Tail) : Bool :=
  t.value.isTruthy

/-- A tail is read back from its value. -/
@[simp]
theorem ofJson_value (t : Tail) : ofJson t.value = t := by
  obtain ⟨value, h⟩ := t
  rw [ofJson]
  rcases h with h | h
  · rw [dif_pos h]
  · subst h
    rfl

end Tail

/-! ### Entries -/

/-- A function of the library, or a private helper. -/
structure Entry where
  /-- the canonical name -/
  name : String
  /-- the name of the category; empty for helpers -/
  category : String := ""
  /-- other names of a public function -/
  aliases : List String := []
  /-- the functions and helpers that the fragments use -/
  dependencies : List String := []
  /-- the fragment of each mode tag, and of the default tag: a text, or nothing for a tag that is
  declared without one -/
  variants : Table Json := ∅
  /-- text that is emitted after the assignments -/
  tail : Tail := Tail.none
  /-- whether the function is assigned to the library object -/
  isStatic : Bool := true
  /-- the mode tags to try, in place of the usual order -/
  precedence : List String := []
deriving DecidableEq, Repr, Inhabited

namespace Entry

/-- Whether the entry is a private helper, which no command can select. -/
def isHelper (e : Entry) : Bool :=
  e.category.isEmpty

/-- Whether the entry has a variant that serves every combination of modes. -/
def hasDefault (e : Entry) : Bool :=
  e.variants.contains defaultTag

/-- The mode tags in the order in which the entry tries them. -/
def tagOrder (e : Entry) : List String :=
  if e.precedence.isEmpty then modeTags else e.precedence

/-- The tag of the variant for the active modes: the first one in the entry's order whose mode is
active, else the default one. -/
def tagFor (e : Entry) (modes : NameSet) : String :=
  (e.tagOrder.find? fun tag => decide (tag ∈ modes) && e.variants.contains tag).getD defaultTag

/-- **The fragment for the active modes**, if there is one. -/
def fragment? (e : Entry) (modes : NameSet) : Option Json :=
  (e.variants.get? (e.tagFor modes)).filter (· ≠ .null)

/-- Whether anything of an entry has halves of surrogate pairs. -/
def hasHalves (e : Entry) : Bool :=
  (e.name :: e.aliases).any Text.isBrokenName
    || (e.tail.value :: e.variants.values).any Json.isBroken

end Entry

end CustomBuild
