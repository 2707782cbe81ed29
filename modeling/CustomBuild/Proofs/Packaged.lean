import CustomBuild.Packaged
import CustomBuild.Proofs.Registry.Loading

/-!
# What the packaged registry has

A script of the packaged registry is made of texts that a file can hold (`Packaged.writable`).  The
fragments are texts like those of every loaded registry.  What is left are the titles and the names
that the manifest declares, and `Registry.isPlain` is a check of these that can be computed
(`Registry.writable_of_loadRecord`).
-/

namespace CustomBuild

namespace Registry

variable {manifest json : Json} {sections : Fragment.Sections} {records : List EntryRecord}
  {record : EntryRecord} {r : Registry}

/-! ### Registries of plain texts -/

/-- **A registry whose scripts can be written to a file.** -/
structure Writable (r : Registry) : Prop where
  /-- the fragments are there, and they and the tails are texts -/
  stocked : r.Stocked
  /-- the version is a text -/
  version : r.header.version.isText = true
  /-- no text has halves of surrogate pairs -/
  whole : r.hasHalves = false

theorem writable_empty : empty.Writable where
  stocked := ⟨nofun, nofun⟩
  version := rfl
  whole := rfl

/-! ### Manifests of plain texts -/

/-- The values that a declaration has for names. -/
def namesOf (json : Json) : List Json :=
  (json.required "name").toOption.toList ++ (json.listedOr "aliases" []).toOption.getD []

/-- The helpers and functions that a manifest declares. -/
def declared (manifest : Json) : List Json :=
  (manifest.listedOr "helpers" []).toOption.getD []
    ++ (manifest.listedOr "functions" []).toOption.getD []

/-- **Whether the version of a manifest is a text**, and neither a title nor a declared name has
halves of surrogate pairs. -/
def isPlain (manifest : Json) : Bool :=
  (manifest.required "version").toOption.all (fun version => version.isText && !version.isBroken)
    && !(manifest.fieldOr "library" (.string "Lo-Dash")).isBroken
    && !(manifest.fieldOr "license" (.string "")).isBroken
    && ((declared manifest).flatMap namesOf).all fun value => !Text.isBrokenName value.nameText

/-- **Every record of a manifest** has the names of something that is declared. -/
theorem names_of_declarations {functions : List (Json × EntryRecord)}
    (h : declarations sections manifest = .ok (records, functions)) :
    ∀ record ∈ records, ∃ json ∈ declared manifest,
      record.name :: record.aliases = namesOf json := by
  obtain ⟨helpers, items, hhelpers, hitems, hrecords⟩ := declarations_eq_ok h
  have hdeclared : declared manifest = helpers ++ items := by
    rw [declared, hhelpers, hitems]
    rfl
  rw [hdeclared]
  intro record hrecord
  obtain ⟨json, hjson, hmade⟩ := hrecords record hrecord
  obtain ⟨hname, haliases, -⟩ := declaredRecord_eq_ok hmade
  refine ⟨json, hjson, ?_⟩
  rw [namesOf, hname, haliases]
  rfl

/-- An entry with its texts has halves of surrogate pairs in a name, or nowhere. -/
theorem hasHalves_of_stocked {e : Entry} (h : e.Stocked)
    (hnames : ∀ name ∈ e.name :: e.aliases, Text.isBrokenName name = false) :
    e.hasHalves = false := by
  rw [Entry.hasHalves, Bool.or_eq_false_iff, List.any_eq_false, List.any_eq_false]
  refine ⟨fun name hname => by rw [hnames name hname]; exact Bool.false_ne_true,
    fun value hvalue => ?_⟩
  obtain ⟨text, rfl⟩ : ∃ text, value = .string text := by
    rcases List.mem_cons.1 hvalue with rfl | hvalue
    · exact h.tail
    · obtain ⟨row, hrow, rfl⟩ := List.mem_map.1 hvalue
      exact h.variants row hrow
  exact Bool.false_ne_true

/-- What is read from a file is its text with uniform newlines. -/
theorem eq_of_readText {t : FileTree} {workingDirectory : Location} {p : Path} {text read : String}
    {missing : LoadError} (hfile : t.readFile workingDirectory p = .ok text)
    (h : readText t workingDirectory p missing = .ok read) :
    read = String.ofList (Text.uniformNewlines text.toList) := by
  rw [readText, hfile] at h
  exact (Except.ok.inj h).symm

/-- **The registry of a manifest of plain texts** has scripts that can be written to a file. -/
theorem writable_of_loadRecord {t : FileTree} {workingDirectory : Location} {directory : Path}
    {made : RegistryRecord} (h : loadRecord t workingDirectory directory = .ok made)
    (hplain : ∀ text manifest,
      readText t workingDirectory (directory.join (Path.ofText manifestName))
        (.manifestMissing (directory.join (Path.ofText manifestName)).text) = .ok text →
      Json.read text = .ok manifest → isPlain manifest = true) : made.registry.Writable := by
  have hload : load t workingDirectory directory = .ok made.registry := by
    rw [load, h]
    rfl
  have hstocked := stocked_of_load hload
  obtain ⟨text, manifest, sections, records, functions, htext, hmanifest, hdeclarations, -,
    hmade⟩ := loadRecord_eq_ok h
  obtain ⟨hversion, hlibrary, hlicense, hentries, -⟩ := ofRecords_eq_ok hmade
  have hcheck := hplain text manifest htext hmanifest
  rw [isPlain, hversion, ← hlibrary, ← hlicense] at hcheck
  simp only [Bool.and_eq_true, Bool.not_eq_true', List.all_eq_true, Except.toOption,
    Option.all_some] at hcheck
  obtain ⟨⟨⟨⟨htextual, hbroken⟩, hbrokenLibrary⟩, hbrokenLicense⟩, hnames⟩ := hcheck
  refine ⟨hstocked, htextual, ?_⟩
  rw [hasHalves, Bool.or_eq_false_iff]
  refine ⟨by simp [hbroken, hbrokenLibrary, hbrokenLicense], List.any_eq_false.2 fun e he => ?_⟩
  rw [Bool.not_eq_true]
  refine hasHalves_of_stocked (hstocked.entries e he) fun name hname => ?_
  obtain ⟨record, hrecord, known, rfl⟩ := hentries e he
  obtain ⟨json, hjson, heq⟩ := names_of_declarations hdeclarations record hrecord
  -- the names of an entry are those of its record, whatever its dependencies are spelled like
  have hmem : name ∈ (record.name :: record.aliases).map Json.nameText := hname
  rw [heq] at hmem
  obtain ⟨value, hvalue, rfl⟩ := List.mem_map.1 hmem
  exact hnames value (List.mem_flatMap.2 ⟨json, hjson, hvalue⟩)

end Registry

/-! ### The packaged registry -/

namespace Packaged

/-- The path of the packaged manifest. -/
def manifestPath : Path :=
  (Path.ofText directoryName).join (Path.ofText Registry.manifestName)

theorem readFile_manifestPath : tree.readFile [] manifestPath = .ok manifestText := by
  have hlocate : tree.locate [] manifestPath = .ok ["fragments", "manifest.json"] := by
    decide +kernel
  have hnode : tree.node? ["fragments", "manifest.json"] = some (.file manifestText) := rfl
  rw [FileTree.readFile, hlocate]
  simp only [hnode]

theorem toList_of_eq_ofList {text : String} {cs : List Char} (h : text = String.ofList cs) :
    text.toList = cs := by
  rw [h, String.toList_ofList]

/-- Whether characters write a manifest of plain texts, or none. -/
def writesPlain (cs : List Char) : Bool :=
  match Json.readValue 0 (2 * cs.length + 2) (Json.skipSpace cs) with
  | .ok (manifest, _) => Registry.isPlain manifest
  | .error _ => true

theorem isPlain_of_writesPlain {cs : List Char} {manifest : Json} (hplain : writesPlain cs = true)
    (h : Json.read (String.ofList cs) = .ok manifest) : Registry.isPlain manifest = true := by
  rw [Json.read, String.toList_ofList] at h
  rw [writesPlain] at hplain
  cases hread : Json.readValue 0 (2 * cs.length + 2) (Json.skipSpace cs) with
  | error error =>
    rw [hread] at h
    cases h
  | ok found =>
    obtain ⟨value, rest⟩ := found
    rw [hread] at h hplain
    simp only at h hplain
    split_ifs at h
    obtain rfl := Except.ok.inj h
    exact hplain

set_option maxRecDepth 100000 in
/-- **The packaged manifest is one of plain texts.** -/
theorem writesPlain_manifest :
    writesPlain (Text.uniformNewlines manifestText.toList) = true := by
  unfold manifestText
  rw [toList_of_eq_ofList rfl]
  decide +kernel

/-- **Scripts of the packaged registry can be written to a file.** -/
theorem writable : registry.Writable := by
  rw [registry]
  cases hloaded : loaded with
  | error error => exact Registry.writable_empty
  | ok made =>
    refine Registry.writable_of_loadRecord hloaded fun text manifest htext hmanifest => ?_
    rw [Registry.eq_of_readText readFile_manifestPath htext] at hmanifest
    exact isPlain_of_writesPlain writesPlain_manifest hmanifest

end Packaged

end CustomBuild
