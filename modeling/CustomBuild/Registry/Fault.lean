import CustomBuild.Graph.Order

/-!
# Faults of a registry

What can be wrong with the entries and bundles that a registry is to be made of.  Faults are
collected, and one error lists them all.
-/

namespace CustomBuild

/-- One fault of the entries and bundles that a registry is to be made of. -/
inductive RegistryFault where
  /-- two entries have one name -/
  | duplicateEntry (name : String)
  /-- the category of an entry is none of the six -/
  | unknownCategory (name category : String)
  /-- an alias is the name of an entry -/
  | aliasOfEntry (otherName owner : String)
  /-- an alias has two owners, or is listed twice -/
  | sharedAlias (otherName first second : String)
  /-- a variant is for something other than a mode -/
  | unknownVariant (name tag : String)
  /-- the precedence of an entry has something other than a mode -/
  | unknownPrecedence (name tag : String)
  /-- an entry depends on a name that no entry has -/
  | unknownDependency (name dependency : String)
  /-- a helper depends on a public function -/
  | helperNeedsPublic (helper dependency : String)
  /-- a bundle lists something other than a public function -/
  | unknownMember (bundle name : String)
  /-- a function is declared without a category -/
  | missingCategory (name : String)
  /-- a declared entry has no default fragment -/
  | missingDefault (name : String)
  /-- a fragment is for a name that is not declared -/
  | undeclaredFragment (name : String)
deriving DecidableEq, Repr

/-- The wording of a fault. -/
def RegistryFault.message : RegistryFault → String
  | .duplicateEntry name => s!"Duplicate entry '{name}'"
  | .unknownCategory name category => s!"'{name}' has unknown category '{category}'"
  | .aliasOfEntry otherName owner => s!"Alias '{otherName}' of '{owner}' shadows an entry"
  | .sharedAlias otherName first second =>
    s!"Alias '{otherName}' maps to both '{first}' and '{second}'"
  | .unknownVariant name tag => s!"'{name}' has unknown variant '{tag}'"
  | .unknownPrecedence name tag => s!"'{name}' lists unknown mode '{tag}' in precedence"
  | .unknownDependency name dependency => s!"'{name}' depends on unknown '{dependency}'"
  | .helperNeedsPublic helper dependency =>
    s!"Helper '{helper}' depends on public function '{dependency}'"
  | .unknownMember bundle name => s!"Bundle '{bundle}' lists unknown function '{name}'"
  | .missingCategory name => s!"Function '{name}' has no category"
  | .missingDefault name => s!"'{name}' has no default fragment"
  | .undeclaredFragment name => s!"Fragment '{name}' is not declared in the manifest"

/-- Why entries and bundles make no registry. -/
inductive RegistryError where
  /-- there are faults -/
  | faults (faults : List RegistryFault)
  /-- the entries have no order with dependencies first -/
  | unordered (error : Graph.OrderError)
deriving DecidableEq, Repr

/-- The wording of a registry error. -/
def RegistryError.message : RegistryError → String
  | .faults found =>
    "Registry validation failed:\n"
      ++ "\n".intercalate (found.map fun fault => "  - " ++ fault.message)
  | .unordered error => error.message

end CustomBuild
