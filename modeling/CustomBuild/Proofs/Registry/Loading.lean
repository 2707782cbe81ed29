import CustomBuild.Proofs.Graph.Order
import CustomBuild.Proofs.Registry.Accepted
import CustomBuild.Proofs.Steps
import CustomBuild.Registry.Manifest
import Mathlib.Data.List.Basic

/-!
# What a loaded registry has

A registry that is loaded from a directory has everything that a script could want of it
(`Registry.stocked_of_load`): every name of its order is that of an entry, every entry has a text
for each combination of modes, and every tail is a text.

The fragments come from files, so they are texts, and loading compares the declared entries with the
stored sections before it makes a registry, so each entry has a default variant.  The first part of
this module takes the loading apart, step by step; what it leaves are records of declarations, and
the entries of a registry are those of its records.
-/

namespace CustomBuild

/-! ### The rows of a table -/

namespace Table

variable {β : Type} {t : Table β}

/-- A look-up finds the value of a row. -/
theorem mem_rows_of_get? {name : String} {value : β} (h : t.get? name = some value) :
    (name, value) ∈ t.rows := by
  unfold get? at h
  obtain ⟨before, after, hrows, -⟩ := List.lookup_eq_some_iff.1 h
  rw [hrows]
  exact List.mem_append_right _ List.mem_cons_self

end Table

/-! ### Entries with everything -/

namespace Entry

/-- **An entry with everything that a script could want of it.** -/
structure Stocked (e : Entry) : Prop where
  /-- there is a variant for every combination of modes -/
  hasDefault : e.hasDefault = true
  /-- every variant is a text -/
  variants : ∀ row ∈ e.variants.rows, ∃ text, row.2 = .string text
  /-- the tail is a text -/
  tail : ∃ text, e.tail.value = .string text

variable {e : Entry}

/-- The tag for the active modes is that of a variant, if there is a default one. -/
theorem contains_tagFor (h : e.hasDefault = true) (modes : NameSet) :
    e.variants.contains (e.tagFor modes) = true := by
  unfold tagFor
  cases hfind : e.tagOrder.find? fun tag => decide (tag ∈ modes) && e.variants.contains tag with
  | none => exact h
  | some tag =>
    have htag := List.find?_some hfind
    rw [Bool.and_eq_true] at htag
    exact htag.2

/-- **There is a text for every combination of modes.** -/
theorem Stocked.fragment (h : e.Stocked) (modes : NameSet) :
    ∃ text, e.fragment? modes = some (.string text) := by
  have hmem : e.tagFor modes ∈ e.variants.names :=
    of_decide_eq_true (contains_tagFor h.hasDefault modes)
  obtain ⟨value, hvalue⟩ := Option.isSome_iff_exists.1 (Table.mem_names_iff_isSome.1 hmem)
  obtain ⟨text, htext⟩ := h.variants _ (Table.mem_rows_of_get? hvalue)
  have hstring : value = .string text := htext
  refine ⟨text, ?_⟩
  rw [fragment?, hvalue, hstring]
  simp

end Entry

/-! ### Declarations with their fragments -/

namespace EntryRecord

variable {record : EntryRecord}

/-- A record whose variants and tail are texts, as those of a fragment file are. -/
structure HasTexts (record : EntryRecord) : Prop where
  /-- every variant is a text -/
  variants : ∀ row ∈ record.variants, ∃ text, row.2 = .string text
  /-- the tail is a text -/
  tail : ∃ text, record.tail = .string text

/-- The entry of a record with texts has everything if it has a default variant, however its
dependencies are spelled. -/
theorem HasTexts.stocked (h : record.HasTexts) (hdefault : record.entry.hasDefault = true)
    (known : List Json) : (record.spelledAs known).entry.Stocked where
  hasDefault := hdefault
  variants := by
    intro row hrow
    obtain ⟨written, hwritten, rfl⟩ := List.mem_map.1 (Table.mem_of_mem_rows_ofRows hrow)
    exact h.variants written hwritten
  tail := by
    obtain ⟨text, htext⟩ := h.tail
    have hvalue : (record.spelledAs known).entry.tail = Tail.ofJson (.string text) := by
      rw [← htext]
      rfl
    rw [hvalue]
    unfold Tail.ofJson
    split_ifs
    · exact ⟨text, rfl⟩
    · exact ⟨"", rfl⟩

end EntryRecord

namespace Registry

variable {sections : Fragment.Sections} {manifest : Json} {records : List EntryRecord}
  {record : EntryRecord} {r : Registry}

/-- **A declaration joined with its fragments** has the names of the declaration, and the variants
and the tail of the sections. -/
theorem declaredRecord_eq_ok {json : Json} (h : declaredRecord sections json = .ok record) :
    json.required "name" = .ok record.name ∧ json.listedOr "aliases" [] = .ok record.aliases ∧
      record.variants = ((sectionsOf sections record.name).1.rows.map fun row =>
        (.string row.1, .string row.2)) ∧
      record.tail = .string (sectionsOf sections record.name).2 := by
  unfold declaredRecord at h
  obtain ⟨name, hname, h⟩ := exists_of_bind_eq_ok h
  obtain ⟨aliases, haliases, h⟩ := exists_of_bind_eq_ok h
  obtain ⟨dependencies, -, h⟩ := exists_of_bind_eq_ok h
  split_ifs at h
  · cases h
  obtain ⟨-, -, h⟩ := exists_of_bind_eq_ok h
  obtain ⟨precedence, -, h⟩ := exists_of_bind_eq_ok h
  cases h
  exact ⟨hname, haliases, rfl, rfl⟩

theorem declaredRecord_of_declaredFunction {json : Json}
    (h : declaredFunction sections json = .ok record) :
    declaredRecord sections json = .ok record := by
  unfold declaredFunction at h
  split at h
  · cases h
  · exact h

/-- **The records of a manifest** are those of its helpers and of its functions. -/
theorem declarations_eq_ok {functions : List (Json × EntryRecord)}
    (h : declarations sections manifest = .ok (records, functions)) :
    ∃ helpers items, manifest.listedOr "helpers" [] = .ok helpers ∧
      manifest.listedOr "functions" [] = .ok items ∧
      ∀ record ∈ records, ∃ json ∈ helpers ++ items,
        declaredRecord sections json = .ok record := by
  unfold declarations at h
  obtain ⟨helpers, hhelpers, h⟩ := exists_of_bind_eq_ok h
  obtain ⟨helperRecords, hhelperRecords, h⟩ := exists_of_bind_eq_ok h
  obtain ⟨items, hitems, h⟩ := exists_of_bind_eq_ok h
  obtain ⟨functionRecords, hfunctionRecords, h⟩ := exists_of_bind_eq_ok h
  cases h
  refine ⟨helpers, items, hhelpers, hitems, fun record hrecord => ?_⟩
  rcases List.mem_append.1 hrecord with hrecord | hrecord
  · obtain ⟨json, hjson, heq⟩ := exists_of_mem_mapM hhelperRecords record hrecord
    exact ⟨json, List.mem_append_left _ hjson, heq⟩
  · obtain ⟨json, hjson, heq⟩ := exists_of_mem_mapM hfunctionRecords record hrecord
    exact ⟨json, List.mem_append_right _ hjson, declaredRecord_of_declaredFunction heq⟩

/-- **The records of a manifest** have the texts of the fragment files. -/
theorem hasTexts_of_declarations {functions : List (Json × EntryRecord)}
    (h : declarations sections manifest = .ok (records, functions)) :
    ∀ record ∈ records, record.HasTexts := by
  obtain ⟨helpers, items, -, -, hrecords⟩ := declarations_eq_ok h
  intro record hrecord
  obtain ⟨json, -, hjson⟩ := hrecords record hrecord
  obtain ⟨-, -, hvariants, htail⟩ := declaredRecord_eq_ok hjson
  constructor
  · rw [hvariants]
    intro row hrow
    obtain ⟨stored, -, rfl⟩ := List.mem_map.1 hrow
    exact ⟨stored.2, rfl⟩
  · exact ⟨_, htail⟩

/-- Declarations that go with their fragments have default variants. -/
theorem hasDefault_of_joinFaults {entries : List Entry} (h : joinFaults sections entries = []) :
    ∀ e ∈ entries, e.hasDefault = true := by
  unfold joinFaults at h
  have hmissing := List.map_eq_nil_iff.1 (List.append_eq_nil_iff.1 h).1
  intro e he
  have hnot := List.filter_eq_nil_iff.1 hmissing e he
  rwa [Bool.not_eq_true, Bool.not_eq_false'] at hnot

/-! ### The entries of a registry -/

/-- **What a registry is made of**: entries of the list, and an order of their names. -/
theorem entries_of_ofSound {entries : List Entry} {header : RegistryHeader}
    (h : ofSound entries header = .ok r) :
    (∀ e ∈ r.entries, e ∈ entries) ∧ ∀ name ∈ r.order, ∃ e, r.lookup name = some e := by
  obtain ⟨-, hentries, -, hnodup, horder⟩ := ofSound_eq_ok h
  refine ⟨?_, ?_⟩
  · intro e he
    rw [hentries] at he
    obtain ⟨row, hrow, rfl⟩ := List.mem_map.1 he
    exact (mem_of_mem_rows_entryTable hrow).1
  · intro name hname
    obtain ⟨hperm, -⟩ := Graph.Dependencies.dependencyOrder_spec hnodup horder
    obtain ⟨e, he, rfl⟩ := List.mem_map.1 (hperm.mem_iff.1 hname)
    rw [← Option.isSome_iff_exists, lookup, List.find?_isSome]
    exact ⟨e, he, beq_iff_eq.2 rfl⟩

/-- **A registry with everything that a script could want of it.** -/
structure Stocked (r : Registry) : Prop where
  /-- every name of the order is that of an entry -/
  lookup : ∀ name ∈ r.order, ∃ e, r.lookup name = some e
  /-- every entry has its texts -/
  entries : ∀ e ∈ r.entries, e.Stocked

/-- **The registry of records** has the titles of their source and the entries they mean. -/
theorem ofRecords_eq_ok {made : RegistryRecord}
    (h : RegistryRecord.ofRecords records manifest = .ok made) :
    manifest.required "version" = .ok made.registry.header.version ∧
      made.registry.header.library = manifest.fieldOr "library" (.string "Lo-Dash") ∧
      made.registry.header.license = manifest.fieldOr "license" (.string "") ∧
      (∀ e ∈ made.registry.entries, ∃ record ∈ records, ∃ known,
        e = (record.spelledAs known).entry) ∧
      ∀ name ∈ made.registry.order, ∃ e, made.registry.lookup name = some e := by
  unfold RegistryRecord.ofRecords at h
  obtain ⟨version, hversion, h⟩ := exists_of_bind_eq_ok h
  dsimp only at h
  split at h
  · obtain ⟨_, hthrow, -⟩ := exists_of_bind_eq_ok h
    cases hthrow
  obtain ⟨bundles, -, h⟩ := exists_of_bind_eq_ok h
  split_ifs at h
  · obtain ⟨_, hthrow, -⟩ := exists_of_bind_eq_ok h
    cases hthrow
  obtain ⟨registry, hsound, h⟩ := exists_of_bind_eq_ok h
  cases h
  have hsound := eq_ok_of_mapError_eq_ok hsound
  obtain ⟨hheader, -⟩ := ofSound_eq_ok hsound
  obtain ⟨hentries, horder⟩ := entries_of_ofSound hsound
  rw [hheader]
  refine ⟨eq_ok_of_mapError_eq_ok hversion, rfl, rfl, fun e he => ?_, horder⟩
  obtain ⟨record, hrecord, rfl⟩ := List.mem_map.1 (hentries e he)
  exact ⟨record, hrecord, _, rfl⟩

/-- The registry of records with texts and default variants has everything. -/
theorem stocked_of_ofRecords {made : RegistryRecord}
    (h : RegistryRecord.ofRecords records manifest = .ok made)
    (htexts : ∀ record ∈ records, record.HasTexts)
    (hdefault : ∀ record ∈ records, record.entry.hasDefault = true) : made.registry.Stocked := by
  obtain ⟨-, -, -, hentries, horder⟩ := ofRecords_eq_ok h
  refine ⟨horder, fun e he => ?_⟩
  obtain ⟨record, hrecord, known, rfl⟩ := hentries e he
  exact (htexts record hrecord).stocked (hdefault record hrecord) known

variable {t : FileTree} {workingDirectory : Location} {directory : Path}

/-- **What is loaded** is the registry of the declarations of a manifest, which go with their
fragments. -/
theorem loadRecord_eq_ok {made : RegistryRecord}
    (h : loadRecord t workingDirectory directory = .ok made) :
    ∃ text manifest sections records functions,
      readText t workingDirectory (directory.join (Path.ofText manifestName))
        (.manifestMissing (directory.join (Path.ofText manifestName)).text) = .ok text ∧
      Json.read text = .ok manifest ∧
      declarations sections manifest = .ok (records, functions) ∧
      joinFaults sections (records.map EntryRecord.entry) = [] ∧
      RegistryRecord.ofRecords records manifest = .ok made := by
  unfold loadRecord at h
  obtain ⟨text, htext, h⟩ := exists_of_bind_eq_ok h
  split at h
  · next manifest hmanifest =>
    unfold ofManifest at h
    obtain ⟨field, -, h⟩ := exists_of_bind_eq_ok h
    obtain ⟨files, -, h⟩ := exists_of_bind_eq_ok h
    obtain ⟨sections, -, h⟩ := exists_of_bind_eq_ok h
    obtain ⟨⟨records, functions⟩, hdeclarations, h⟩ := exists_of_bind_eq_ok h
    simp only at h
    split_ifs at h with hfaults
    · exact ⟨text, manifest, sections, records, functions, htext, hmanifest,
        eq_ok_of_mapError_eq_ok hdeclarations,
        (List.append_eq_nil_iff.1 (List.isEmpty_iff.1 hfaults)).2, eq_ok_of_mapError_eq_ok h⟩
  · cases h

/-- **A loaded registry** has everything that a script could want of it: whatever the sections are,
the declarations take their texts from them, and have been compared with them before there are
entries. -/
theorem stocked_of_load (h : load t workingDirectory directory = .ok r) : r.Stocked := by
  unfold load at h
  cases hrecord : loadRecord t workingDirectory directory with
  | error error =>
    rw [hrecord] at h
    cases h
  | ok made =>
    rw [hrecord] at h
    cases h
    obtain ⟨_, _, _, records, _, -, -, hdeclarations, hjoin, hmade⟩ := loadRecord_eq_ok hrecord
    refine stocked_of_ofRecords hmade (hasTexts_of_declarations hdeclarations) fun record hmem => ?_
    exact hasDefault_of_joinFaults hjoin record.entry (List.mem_map_of_mem hmem)

end Registry

end CustomBuild
