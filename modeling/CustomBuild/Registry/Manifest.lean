import CustomBuild.FileTree.Basic
import CustomBuild.Fragment
import CustomBuild.Json.Reader
import CustomBuild.Registry.Record

/-!
# Loading a registry

A directory of fragments has a manifest, which declares the helpers and the functions of a library
and lists its fragment files.  `Registry.load` reads the manifest, stores the sections of the listed
files, joins the declarations with their fragments and makes a registry.  Every declared entry needs
a default fragment, and every section has to be for a declared entry.
-/

namespace CustomBuild

/-- Why a directory has no registry. -/
inductive LoadError where
  /-- there is no manifest -/
  | manifestMissing (path : String)
  /-- a listed file does not exist -/
  | fragmentMissing (path : String)
  /-- a file cannot be read -/
  | unreadable (error : FileError)
  /-- the manifest cannot be read as JSON -/
  | notJson (error : Json.ReadError)
  /-- the manifest lacks something, or has something of no use -/
  | misuse (misuse : Misuse)
  /-- a fragment file is at fault -/
  | fragment (error : Fragment.Error)
  /-- declarations, fragments and bundles do not fit together -/
  | registry (error : RegistryError)
deriving DecidableEq, Repr

/-- The wording of a load error. -/
def LoadError.message : LoadError → String
  | .manifestMissing path => "Manifest not found: " ++ path
  | .fragmentMissing path => "Fragment file not found: " ++ path
  | .unreadable error => error.message
  | .notJson error => error.message
  | .misuse found => found.message
  | .fragment error => error.message
  | .registry error => error.message

/-- The load error of a record error. -/
def LoadError.ofRecordError : RecordError → LoadError
  | .misuse found => .misuse found
  | .registry found => .registry found

namespace Registry

/-- The name of the manifest in its directory. -/
def manifestName : String := "manifest.json"

/-- Reads a file with uniform newlines, or reports that it is missing by the given error. -/
def readText (t : FileTree) (workingDirectory : Location) (p : Path) (missing : LoadError) :
    Except LoadError String :=
  match t.readFile workingDirectory p with
  | .ok text => .ok (String.ofList (Text.uniformNewlines text.toList))
  | .error .missing => .error missing
  | .error .notDirectory => .error missing
  | .error kind => .error (.unreadable (FileTree.errorAt kind p))

/-- Stores the sections of the listed files of a directory, in order. -/
def readSections (t : FileTree) (workingDirectory : Location) (directory : Path) :
    List Json → Fragment.Sections → Except LoadError Fragment.Sections
  | [], sections => .ok sections
  | file :: rest, sections =>
    if !file.isText then .error (.misuse (.noPath file.kind))
    else do
      let p := directory.join (Path.ofText file.display)
      let text ← readText t workingDirectory p (.fragmentMissing p.text)
      match sections.addFile p.name text with
      | (extended, none) => readSections t workingDirectory directory rest extended
      | (_, some error) => .error (.fragment error)

/-- The sections of a name.  Only texts have sections. -/
def sectionsOf (sections : Fragment.Sections) (name : Json) : Table String × String :=
  match name with
  | .string text =>
    ((sections.variants.get? text).getD ∅, (sections.tails.get? text).getD "")
  | _ => (∅, "")

/-- A declaration joined with its fragments. -/
def declaredRecord (sections : Fragment.Sections) (json : Json) : Except Misuse EntryRecord := do
  let name ← json.required "name"
  let aliases ← json.listedOr "aliases" []
  let dependencies ← json.listedOr "dependencies" []
  if !name.isKey then throw (.noKey name.kind)
  let precedence ← json.listedOr "precedence" []
  let (variants, tail) := sectionsOf sections name
  pure
    { name, category := json.fieldOr "category" (.string ""), aliases, dependencies,
      variants := variants.rows.map fun row => (.string row.1, .string row.2),
      tail := .string tail, isStatic := json.fieldOr "static" (.bool true), precedence }

/-- A declaration of a function joined with its fragments.  It is searched for its category first,
which only works in an object or in something that lists values. -/
def declaredFunction (sections : Fragment.Sections) (json : Json) : Except Misuse EntryRecord :=
  match json.listed with
  | .error _ => .error (.noSearch json.kind)
  | .ok _ => declaredRecord sections json

/-- The functions that are declared without a category. -/
def uncategorised (functions : List (Json × EntryRecord)) : List RegistryFault :=
  (functions.filter fun function => (function.1.field? "category").isNone).map
    fun function => .missingCategory function.2.name.nameText

/-- The faults of declarations that are joined with their fragments: entries without a default
fragment, and fragments without a declaration. -/
def joinFaults (sections : Fragment.Sections) (entries : List Entry) : List RegistryFault :=
  ((entries.filter fun e => !e.hasDefault).map fun e => .missingDefault e.name)
    ++ ((sections.names.toList.filter fun name => !(entries.map Entry.name).contains name).map
      fun name => .undeclaredFragment name)

/-- The records of the declarations of a manifest, and the functions among these with their
declarations. -/
def declarations (sections : Fragment.Sections) (manifest : Json) :
    Except Misuse (List EntryRecord × List (Json × EntryRecord)) := do
  let helpers ← manifest.listedOr "helpers" []
  let helperRecords ← helpers.mapM (declaredRecord sections)
  let functions ← manifest.listedOr "functions" []
  let functionRecords ← functions.mapM (declaredFunction sections)
  pure (helperRecords ++ functionRecords, functions.zip functionRecords)

/-- The registry of a manifest, with the fragment files that it lists. -/
def ofManifest (t : FileTree) (workingDirectory : Location) (directory : Path)
    (manifest : Json) : Except LoadError RegistryRecord := do
  let field ← (manifest.required "fragment_files").mapError .misuse
  let files ← field.listed.mapError .misuse
  let sections ← readSections t workingDirectory directory files {}
  let (records, functions) ← (declarations sections manifest).mapError .misuse
  let faults := uncategorised functions ++ joinFaults sections (records.map EntryRecord.entry)
  if faults.isEmpty then (RegistryRecord.ofRecords records manifest).mapError .ofRecordError
  else .error (.registry (.faults faults))

/-- Loading a registry with the records that it is made of. -/
def loadRecord (t : FileTree) (workingDirectory : Location) (directory : Path) :
    Except LoadError RegistryRecord := do
  let manifestPath := directory.join (Path.ofText manifestName)
  let text ← readText t workingDirectory manifestPath (.manifestMissing manifestPath.text)
  match Json.read text with
  | .ok manifest => ofManifest t workingDirectory directory manifest
  | .error error => .error (.notJson error)

/-- **Loading a registry** from a directory of a file tree. -/
def load (t : FileTree) (workingDirectory : Location) (directory : Path) :
    Except LoadError Registry :=
  (loadRecord t workingDirectory directory).map RegistryRecord.registry

end Registry

end CustomBuild
