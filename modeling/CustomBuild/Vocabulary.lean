import CustomBuild.Text.Basic

/-!
# The vocabulary of builds

The closed lists of words that commands and registries are checked against: the categories, the
mode tags with the order in which they take precedence, the bundle keywords and the formats in
which a build can expose the library.
-/

namespace CustomBuild

/-! ### Categories -/

/-- The categories that public functions are filed under. -/
inductive Category where
  /-- functions on arrays -/
  | arrays
  /-- functions for chained calls -/
  | chaining
  /-- functions on collections -/
  | collections
  /-- functions on functions -/
  | functions
  /-- functions on objects -/
  | objects
  /-- other functions -/
  | utilities
deriving DecidableEq, Repr

namespace Category

/-- Every category, in the order of the documentation. -/
def all : List Category :=
  [.arrays, .chaining, .collections, .functions, .objects, .utilities]

/-- The name of a category. -/
def name : Category → String
  | .arrays => "Arrays"
  | .chaining => "Chaining"
  | .collections => "Collections"
  | .functions => "Functions"
  | .objects => "Objects"
  | .utilities => "Utilities"

/-- The category of the given name, spelled exactly. -/
def ofName? (value : String) : Option Category :=
  all.find? fun category => category.name == value

/-- **The category of a name in any letter case.**  The names are plain letters, none of which is
the lower case of a letter beyond ASCII, so only the letters `A` to `Z` need lowering. -/
def ofAnyCase? (value : String) : Option Category :=
  all.find? fun category => Text.lowered category.name == Text.lowered value

end Category

/-! ### Modes and variants -/

/-- The mode tags, highest precedence first. -/
def modeTags : List String :=
  ["csp", "legacy", "mobile", "underscore", "strict"]

/-- The tag of the variant that is emitted when no other applies. -/
def defaultTag : String := "default"

/-- The private helper that every build that is not empty starts from. -/
def coreName : String := "lodash"

/-! ### Bundles -/

/-- The keywords that select a named bundle, in the order in which they win. -/
def bundleKeywords : List String :=
  ["backbone", "underscore"]

/-! ### Exposure -/

/-- The export formats, in the order of the exposure chain. -/
def exportFormats : List String :=
  ["amd", "commonjs", "node", "global"]

/-- The mark in a wrapper template that the module takes the place of. -/
def outputMark : String := "%output%"

end CustomBuild
