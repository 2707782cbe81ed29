import CustomBuild.Proofs.Fragment.Arrangement
import CustomBuild.Proofs.Registry.Alike

/-!
# Declarations joined with alike sections

The declarations of a manifest take their variants and their tails from the sections of the fragment
files.  Alike tables of sections give a name the same variants, perhaps in another order, and the
same tail (`sectionsOf_alike`), so the records of the declarations are alike
(`declarations_alike`), and what is at fault about them is the same (`joinFaults_eq_of_alike`).  So
a manifest makes a registry with both tables or with neither, and the registries are alike
(`joined_alike`).
-/

namespace CustomBuild

open Fragment (Sections)

namespace Registry

variable {s u : Sections} {manifest second : Json} {entries others : List Entry}

/-! ### Declarations -/

/-- What alike tables of sections have for a name: the same variants, perhaps in another order, and
the same tail. -/
theorem sectionsOf_alike (h : s.Alike u) (name : Json) :
    (sectionsOf s name).1.rows.Perm (sectionsOf u name).1.rows ∧
      (sectionsOf s name).2 = (sectionsOf u name).2 := by
  cases name with
  | string text =>
    constructor
    · refine Table.perm_rows_of_get?_eq fun tag => ?_
      have hget := h.get? (.variant text tag)
      rwa [Sections.get?_variant, Sections.get?_variant] at hget
    · have hget := h.get? (.tail text)
      rw [Sections.get?_tail, Sections.get?_tail] at hget
      exact congrArg (·.getD "") hget
  | _ => exact ⟨.refl _, rfl⟩

/-- A declaration is joined with alike sections to alike records. -/
theorem declaredRecord_alike (h : s.Alike u) (json : Json) :
    BothOrNeither EntryRecord.Alike (declaredRecord s json) (declaredRecord u json) := by
  unfold declaredRecord
  refine .bind_same _ fun name => ?_
  refine .bind_same _ fun aliases => ?_
  refine .bind_same _ fun dependencies => ?_
  split_ifs
  · exact .neither
  refine .bind_same _ fun precedence => ?_
  -- only the texts come from the sections: the tail is the same, the variants may stand otherwise
  obtain ⟨hvariants, htail⟩ := sectionsOf_alike h name
  dsimp only
  rw [htail]
  refine .both ⟨⟨?_, ?_⟩, _, rfl, hvariants.map _⟩
  · intro row hrow
    obtain ⟨stored, -, rfl⟩ := List.mem_map.1 hrow
    exact ⟨stored.1, rfl⟩
  · have hkeys := (sectionsOf s name).1.distinct
    have htags : ((sectionsOf s name).1.rows.map fun row =>
        (Json.string row.1, Json.string row.2)).map Prod.fst =
          ((sectionsOf s name).1.rows.map Prod.fst).map Json.string := by
      rw [List.map_map, List.map_map]
      rfl
    show List.Nodup _
    dsimp only
    rw [htags]
    exact hkeys.map fun _ _ => Json.string.inj

theorem declaredFunction_alike (h : s.Alike u) (json : Json) :
    BothOrNeither EntryRecord.Alike (declaredFunction s json) (declaredFunction u json) := by
  unfold declaredFunction
  split
  · exact .neither
  · exact declaredRecord_alike h json

/-- Functions with their declarations, which are the same ones. -/
def FunctionAlike (function other : Json × EntryRecord) : Prop :=
  function.1 = other.1 ∧ function.2.Alike other.2

theorem forall₂_zip {records otherRecords : List EntryRecord}
    (h : List.Forall₂ EntryRecord.Alike records otherRecords) (functions : List Json) :
    List.Forall₂ FunctionAlike (functions.zip records) (functions.zip otherRecords) := by
  induction h generalizing functions with
  | nil =>
    rw [List.zip_nil_right]
    exact .nil
  | cons hrecord _ ih =>
    cases functions with
    | nil => exact .nil
    | cons function rest => exact .cons ⟨rfl, hrecord⟩ (ih rest)

/-- **Declarations joined with alike sections** are alike. -/
theorem declarations_alike (h : s.Alike u)
    (hhelpers : manifest.field? "helpers" = second.field? "helpers")
    (hfunctions : manifest.field? "functions" = second.field? "functions") :
    BothOrNeither (fun d d' => List.Forall₂ EntryRecord.Alike d.1 d'.1 ∧
        List.Forall₂ FunctionAlike d.2 d'.2)
      (declarations s manifest) (declarations u second) := by
  unfold declarations Json.listedOr Json.fieldOr
  rw [hhelpers, hfunctions]
  refine .bind_same _ fun helpers => ?_
  refine BothOrNeither.bind (.mapM fun json _ => declaredRecord_alike h json) ?_
  intro helperRecords helperOthers hhelpers
  refine .bind_same _ fun functions => ?_
  refine BothOrNeither.bind (.mapM fun json _ => declaredFunction_alike h json) ?_
  intro functionRecords functionOthers hfunctions
  exact .both ⟨List.rel_append hhelpers hfunctions, forall₂_zip hfunctions functions⟩

theorem uncategorised_eq_of_alike {functions otherFunctions : List (Json × EntryRecord)}
    (h : List.Forall₂ FunctionAlike functions otherFunctions) :
    uncategorised functions = uncategorised otherFunctions := by
  unfold uncategorised
  refine map_eq_of_forall₂ (R := FunctionAlike) ?_ (List.rel_filter ?_ h)
  · rintro ⟨json, record⟩ ⟨_, other⟩ ⟨-, -, variants, rfl, -⟩
    rfl
  · rintro ⟨json, record⟩ ⟨_, other⟩ ⟨rfl, -⟩
    rfl

theorem hasDefault_eq_of_alike {e other : Entry} (h : e.Alike other) :
    e.hasDefault = other.hasDefault := by
  obtain ⟨variants, rfl, hperm⟩ := h
  unfold Entry.hasDefault Table.contains
  have hnames : e.variants.names.Perm variants.names := hperm.map Prod.fst
  simp only [hnames.mem_iff]

theorem joinFaults_eq_of_alike (h : s.Alike u)
    (hentries : List.Forall₂ Entry.Alike entries others) :
    joinFaults s entries = joinFaults u others := by
  have hnames : entries.map Entry.name = others.map Entry.name := by
    refine map_eq_of_forall₂ ?_ hentries
    rintro e other ⟨variants, rfl, -⟩
    rfl
  have hmissing : (entries.filter fun e => !e.hasDefault).map
        (fun e => RegistryFault.missingDefault e.name) =
      (others.filter fun e => !e.hasDefault).map fun e => .missingDefault e.name := by
    refine map_eq_of_forall₂ (R := Entry.Alike) ?_ (List.rel_filter ?_ hentries)
    · rintro e other ⟨variants, rfl, -⟩
      rfl
    · intro e other he
      simp only [hasDefault_eq_of_alike he]
  unfold joinFaults
  rw [hmissing, hnames, h.names]

/-- The last part of loading: a manifest is joined with sections and made a registry. -/
def joined (sections : Sections) (manifest : Json) : Except LoadError RegistryRecord := do
  let (records, functions) ← (declarations sections manifest).mapError .misuse
  let faults := uncategorised functions ++ joinFaults sections (records.map EntryRecord.entry)
  if faults.isEmpty then (RegistryRecord.ofRecords records manifest).mapError .ofRecordError
  else .error (.registry (.faults faults))

/-- **Alike sections** are joined with a manifest to alike registries. -/
theorem joined_alike (h : s.Alike u)
    (hfields : ∀ name, name ≠ "fragment_files" → manifest.field? name = second.field? name) :
    BothOrNeither RegistryRecord.Alike (joined s manifest) (joined u second) := by
  have hdeclarations := declarations_alike h (hfields "helpers" (by decide))
    (hfields "functions" (by decide))
  unfold joined
  refine (hdeclarations.mapError _ _).bind ?_
  rintro ⟨records, functions⟩ ⟨otherRecords, otherFunctions⟩ ⟨hrecords, hfunctions⟩
  have hentries : List.Forall₂ Entry.Alike (records.map EntryRecord.entry)
      (otherRecords.map EntryRecord.entry) :=
    List.rel_map (fun _ _ hrecord => hrecord.entry) hrecords
  dsimp only
  rw [uncategorised_eq_of_alike hfunctions, joinFaults_eq_of_alike h hentries]
  split_ifs
  · refine (RegistryRecord.ofRecords_alike hrecords fun name hname => ?_).mapError _ _
    refine hfields name ?_
    rintro rfl
    exact absurd hname (by decide)
  · exact .neither

end Registry

end CustomBuild
