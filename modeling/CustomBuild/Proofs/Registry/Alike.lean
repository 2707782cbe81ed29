import CustomBuild.Proofs.Registry.Loading
import CustomBuild.Proofs.Related

/-!
# Registries that are alike

The variants of an entry are a table, and the order of its rows is of no importance.  Entries that
differ in this order alone are alike (`Entry.Alike`), and so are lists, tables and registries of
such entries.  A registry is made of entries in one way whatever the order of their variants is: the
checks find the same faults, perhaps in another order (`Registry.faults_perm`), and what is made of
entries without faults is alike, with the same order and the same aliases (`Registry.ofSound_alike`,
`RegistryRecord.ofRecords_alike`).

Two runs are compared by their outcomes: both succeed and what they give is related, or both fail
(`BothOrNeither`).
-/

namespace CustomBuild

/-! ### Two runs -/

section Runs

variable {ε δ ε' δ' α β γ φ : Type} {R : α → β → Prop} {S : γ → φ → Prop}

/-- **Two runs that succeed or fail together**; if they succeed, what they give is related. -/
inductive BothOrNeither (R : α → β → Prop) : Except ε α → Except δ β → Prop
  /-- both succeed -/
  | both {a : α} {b : β} (h : R a b) : BothOrNeither R (.ok a) (.ok b)
  /-- both fail -/
  | neither {error : ε} {other : δ} : BothOrNeither R (.error error) (.error other)

namespace BothOrNeither

variable {x : Except ε α} {y : Except δ β} {a : α} {b : β}

theorem bind {f : α → Except ε γ} {g : β → Except δ φ} (h : BothOrNeither R x y)
    (hnext : ∀ a b, R a b → BothOrNeither S (f a) (g b)) :
    BothOrNeither S (x >>= f) (y >>= g) := by
  cases h with
  | both h => exact hnext _ _ h
  | neither => exact .neither

/-- A step that both runs take. -/
theorem bind_same {f : α → Except ε γ} {g : α → Except ε φ} (x : Except ε α)
    (hnext : ∀ a, BothOrNeither S (f a) (g a)) : BothOrNeither S (x >>= f) (x >>= g) := by
  cases x with
  | ok a => exact hnext a
  | error error => exact .neither

/-- What is related is what the runs give. -/
theorem with_eq (h : BothOrNeither R x y) :
    BothOrNeither (fun a b => R a b ∧ x = .ok a ∧ y = .ok b) x y := by
  cases h with
  | both h => exact .both ⟨h, rfl, rfl⟩
  | neither => exact .neither

theorem mapError (h : BothOrNeither R x y) (f : ε → ε') (g : δ → δ') :
    BothOrNeither R (x.mapError f) (y.mapError g) := by
  cases h with
  | both h => exact .both h
  | neither => exact .neither

/-- Related steps taken for each element of a list. -/
theorem mapM {f : γ → Except ε α} {g : γ → Except δ β} {cs : List γ}
    (h : ∀ c ∈ cs, BothOrNeither R (f c) (g c)) :
    BothOrNeither (List.Forall₂ R) (cs.mapM f) (cs.mapM g) := by
  induction cs with
  | nil => exact .both .nil
  | cons c rest ih =>
    obtain ⟨hc, hrest⟩ := List.forall_mem_cons.1 h
    rw [List.mapM_cons, List.mapM_cons]
    refine hc.bind fun a b hab => (ih hrest).bind fun as bs hall => ?_
    exact .both (.cons hab hall)

theorem succeeds_iff (h : BothOrNeither R x y) : (∃ a, x = .ok a) ↔ ∃ b, y = .ok b := by
  cases h with
  | both h => exact iff_of_true ⟨_, rfl⟩ ⟨_, rfl⟩
  | neither => exact iff_of_false (fun ⟨_, h⟩ => nomatch h) fun ⟨_, h⟩ => nomatch h

theorem related (h : BothOrNeither R x y) (hx : x = .ok a) (hy : y = .ok b) : R a b := by
  cases h with
  | both h =>
    cases hx
    cases hy
    exact h
  | neither => cases hx

theorem of_succeeds_iff (hiff : (∃ a, x = .ok a) ↔ ∃ b, y = .ok b)
    (hrelated : ∀ a b, x = .ok a → y = .ok b → R a b) : BothOrNeither R x y := by
  cases x with
  | ok a =>
    obtain ⟨b, rfl⟩ := hiff.1 ⟨a, rfl⟩
    exact .both (hrelated a b rfl rfl)
  | error error =>
    cases y with
    | ok b =>
      obtain ⟨a, ha⟩ := hiff.2 ⟨b, rfl⟩
      cases ha
    | error other => exact .neither

end BothOrNeither

end Runs

/-! ### Tables -/

namespace Table

variable {β γ : Type} {R : β → γ → Prop} {t : Table β} {u : Table γ}

/-- **Related tables**: they have the same names in the same order, with related values. -/
def Rel (R : β → γ → Prop) (t : Table β) (u : Table γ) : Prop :=
  List.Forall₂ (fun row other => row.1 = other.1 ∧ R row.2 other.2) t.rows u.rows

namespace Rel

theorem names_eq (h : t.Rel R u) : t.names = u.names :=
  map_eq_of_forall₂ (fun _ _ hrow => hrow.1) h

theorem values (h : t.Rel R u) : List.Forall₂ R t.values u.values :=
  List.rel_map (fun _ _ hrow => hrow.2) h

theorem contains_eq (h : t.Rel R u) (name : String) : t.contains name = u.contains name := by
  unfold contains
  rw [h.names_eq]

theorem get? (h : t.Rel R u) (name : String) : Option.Rel R (t.get? name) (u.get? name) := by
  unfold Rel at h
  unfold Table.get?
  generalize t.rows = rows at h
  generalize u.rows = others at h
  induction h with
  | nil => exact .none
  | @cons row other _ _ hrow _ ih =>
    rw [List.lookup_cons, List.lookup_cons, hrow.1]
    cases name == other.1 with
    | false => exact ih
    | true => exact .some hrow.2

theorem put {value : β} {other : γ} (h : t.Rel R u) (hvalue : R value other) (name : String) :
    (t.put name value).Rel R (u.put name other) := by
  have hnames : t.rows.map Prod.fst = u.rows.map Prod.fst := h.names_eq
  unfold Table.put
  by_cases hname : name ∈ u.rows.map Prod.fst
  · rw [dif_pos (hnames ▸ hname), dif_pos hname]
    refine List.rel_map (fun row second hrow => ?_) h
    dsimp only
    rw [hrow.1]
    refine ⟨rfl, ?_⟩
    split_ifs
    · exact hvalue
    · exact hrow.2
  · rw [dif_neg (hnames ▸ hname), dif_neg hname]
    exact List.rel_append h (.cons ⟨rfl, hvalue⟩ .nil)

/-- **Tables of related rows** are related. -/
theorem ofRows {rows : List (String × β)} {others : List (String × γ)}
    (h : List.Forall₂ (fun row other => row.1 = other.1 ∧ R row.2 other.2) rows others) :
    (Table.ofRows rows).Rel R (Table.ofRows others) := by
  have hfold : ∀ (t : Table β) (u : Table γ), t.Rel R u →
      (rows.foldl (fun t row => t.put row.1 row.2) t).Rel R
        (others.foldl (fun u row => u.put row.1 row.2) u) := by
    induction h with
    | nil => exact fun t u htu => htu
    | @cons row other _ _ hrow _ ih =>
      intro t u htu
      rw [List.foldl_cons, List.foldl_cons, hrow.1]
      exact ih _ _ (htu.put hrow.2 other.1)
  exact hfold _ _ .nil

end Rel

/-- Rows with distinct names are a table. -/
theorem rows_ofRows {rows : List (String × β)} (h : (rows.map Prod.fst).Nodup) :
    (ofRows rows).rows = rows :=
  rows_foldl_put (t := empty) h

/-- **Tables with the same look-ups** have the same rows, perhaps in another order. -/
theorem perm_rows_of_get?_eq {u : Table β} (h : ∀ name, t.get? name = u.get? name) :
    t.rows.Perm u.rows := by
  rw [List.perm_ext_iff_of_nodup t.distinct.of_map u.distinct.of_map]
  rintro ⟨name, value⟩
  rw [← lookup_eq_some_iff_of_nodup t.distinct, ← lookup_eq_some_iff_of_nodup u.distinct]
  exact Eq.congr_left (h name)

end Table

/-! ### Entries -/

namespace Entry

/-- **Entries that are alike**: all but the order of the variants is the same. -/
def Alike (e other : Entry) : Prop :=
  ∃ variants, other = { e with variants } ∧ e.variants.rows.Perm variants.rows

end Entry

namespace Registry

variable {key : String → String} {entries others : List Entry} {e other : Entry}
  {table second : Table Entry}

theorem duplicateFaults_eq_of_alike (h : List.Forall₂ Entry.Alike entries others)
    (seen : List String) : duplicateFaults key seen entries = duplicateFaults key seen others := by
  induction h generalizing seen with
  | nil => rfl
  | cons he _ ih =>
    obtain ⟨variants, rfl, -⟩ := he
    simp only [duplicateFaults, ih]

theorem entryTable_alike (key : String → String) (h : List.Forall₂ Entry.Alike entries others) :
    (entryTable key entries).Rel Entry.Alike (entryTable key others) := by
  refine Table.Rel.ofRows (List.rel_map (fun e other he => ⟨?_, he⟩) h)
  obtain ⟨variants, rfl, -⟩ := he
  rfl

theorem addEntry_eq_of_alike (htable : table.Rel Entry.Alike second) (he : e.Alike other)
    (filing : Filing) :
    Filing.addEntry key table filing e = Filing.addEntry key second filing other := by
  have halias : Filing.addAlias key table = Filing.addAlias key second := by
    funext owner filing otherName
    unfold Filing.addAlias
    rw [htable.contains_eq]
  obtain ⟨variants, rfl, -⟩ := he
  unfold Filing.addEntry
  rw [halias]
  rfl

theorem ofTable_eq_of_alike (h : table.Rel Entry.Alike second) :
    Filing.ofTable key table = Filing.ofTable key second := by
  unfold Filing.ofTable
  refine List.rel_foldl (P := Eq) (fun filing other heq e e' he => ?_) rfl h.values
  rw [heq]
  exact addEntry_eq_of_alike h he other

theorem dependencyFaults_eq_of_alike (key : String → String)
    (htable : table.Rel Entry.Alike second) (he : e.Alike other) :
    dependencyFaults key table e = dependencyFaults key second other := by
  obtain ⟨variants, rfl, -⟩ := he
  funext dependency
  have hget := htable.get? (key dependency)
  unfold dependencyFaults
  generalize table.get? (key dependency) = found at hget
  generalize second.get? (key dependency) = foundOther at hget
  cases hget with
  | none => rfl
  | some htarget =>
    obtain ⟨variants, rfl, -⟩ := htarget
    rfl

/-- The faults of an entry do not depend on the order of its variants, but for their own order. -/
theorem entryFaults_perm (htable : table.Rel Entry.Alike second) (he : e.Alike other) :
    (entryFaults key table e).Perm (entryFaults key second other) := by
  have hdependencies := dependencyFaults_eq_of_alike key htable he
  obtain ⟨variants, rfl, hperm⟩ := he
  have hnames : e.variants.names.Perm variants.names := hperm.map Prod.fst
  unfold entryFaults
  rw [hdependencies]
  exact (((hnames.filter _).map _).append_right _).append_right _

theorem bundleFaults_eq_of_alike (h : table.Rel Entry.Alike second) :
    bundleFaults key table = bundleFaults key second := by
  have hpublic : isPublicIn key table = isPublicIn key second := by
    funext name
    have hget := h.get? (key name)
    unfold isPublicIn
    generalize table.get? (key name) = found at hget
    generalize second.get? (key name) = foundOther at hget
    cases hget with
    | none => rfl
    | some htarget =>
      obtain ⟨variants, rfl, -⟩ := htarget
      rfl
  funext bundle
  unfold bundleFaults
  rw [hpublic]

/-- **The checks find the same faults**, perhaps in another order. -/
theorem faults_perm (key : String → String) (bundles : Table (List String))
    (h : List.Forall₂ Entry.Alike entries others) :
    (faults key entries bundles).Perm (faults key others bundles) := by
  have htable := entryTable_alike key h
  unfold faults
  dsimp only
  rw [duplicateFaults_eq_of_alike h, ofTable_eq_of_alike htable, bundleFaults_eq_of_alike htable]
  refine List.Perm.append_right _ (List.Perm.append_left _ ?_)
  exact perm_flatMap_of_forall₂ (fun e other he => entryFaults_perm htable he) htable.values

/-! ### Registries -/

/-- **Registries that are alike**: all but the order of the variants is the same. -/
structure Alike (r other : Registry) : Prop where
  /-- version, titles and bundles are the same -/
  header : r.header = other.header
  /-- the entries are in the same order -/
  order : r.order = other.order
  /-- the aliases have the same owners -/
  aliases : r.aliases = other.aliases
  /-- the entries are alike, one by one -/
  entries : List.Forall₂ Entry.Alike r.entries other.entries

namespace Alike

variable {r r' : Registry}

theorem lookup (h : r.Alike r') (name : String) :
    Option.Rel Entry.Alike (r.lookup name) (r'.lookup name) := by
  have hentries := h.entries
  unfold Registry.lookup
  generalize r.entries = entries at hentries
  generalize r'.entries = others at hentries
  induction hentries with
  | nil => exact .none
  | @cons e other _ _ he _ ih =>
    have hname : (other.name == name) = (e.name == name) := by
      obtain ⟨variants, rfl, -⟩ := he
      rfl
    rw [List.find?_cons, List.find?_cons, hname]
    cases e.name == name with
    | true => exact .some he
    | false => exact ih

/-- **Alike registries have the same categories.** -/
theorem byCategory_eq (h : r.Alike r') (category : Category) :
    r.byCategory category = r'.byCategory category := by
  unfold byCategory
  rw [h.order]
  refine List.filter_congr fun name _ => ?_
  have hlookup := h.lookup name
  generalize r.lookup name = found at hlookup
  generalize r'.lookup name = foundOther at hlookup
  cases hlookup with
  | none => rfl
  | some he =>
    obtain ⟨variants, rfl, -⟩ := he
    rfl

end Alike

/-- **Alike entries make alike registries.** -/
theorem ofSound_alike (h : List.Forall₂ Entry.Alike entries others) (header : RegistryHeader) :
    BothOrNeither Alike (ofSound entries header) (ofSound others header) := by
  have htable := entryTable_alike id h
  have hrows : (entryTable id entries).values.map (fun e => (e.name, e.dependencies)) =
      (entryTable id others).values.map fun e => (e.name, e.dependencies) := by
    refine map_eq_of_forall₂ (fun e other he => ?_) htable.values
    obtain ⟨variants, rfl, -⟩ := he
    rfl
  unfold ofSound
  dsimp only
  rw [htable.names_eq, hrows, ofTable_eq_of_alike htable]
  split
  · exact .both ⟨rfl, rfl, rfl, htable.values⟩
  · exact .neither

end Registry

/-! ### Records -/

namespace EntryRecord

variable {r other : EntryRecord} {records others : List EntryRecord}

/-- The tags of the variants are distinct texts. -/
structure HasTags (r : EntryRecord) : Prop where
  /-- every tag is a text -/
  texts : ∀ row ∈ r.variants, ∃ tag, row.1 = .string tag
  /-- no tag has two variants -/
  nodup : (r.variants.map Prod.fst).Nodup

/-- **Records that are alike**: all but the order of the variants is the same. -/
def Alike (r other : EntryRecord) : Prop :=
  r.HasTags ∧ ∃ variants, other = { r with variants } ∧ r.variants.Perm variants

theorem HasTags.of_perm {variants : List (Json × Json)} (h : r.HasTags)
    (hperm : r.variants.Perm variants) : HasTags { r with variants } where
  texts := fun row hrow => h.texts row (hperm.mem_iff.2 hrow)
  nodup := (hperm.map Prod.fst).nodup_iff.1 h.nodup

/-- Where the tags are texts, a tag has the spelling that it is written in. -/
theorem HasTags.tagText_eq (h : r.HasTags) : r.tagText = Json.nameText := by
  funext tag
  unfold tagText Json.spelledAs
  cases hfind : (r.variants.map Prod.fst).find? (Json.sameName tag) with
  | none => rfl
  | some found =>
    obtain ⟨row, hrow, rfl⟩ := List.mem_map.1 (List.mem_of_find?_eq_some hfind)
    obtain ⟨text, htext⟩ := h.texts row hrow
    have hsame := List.find?_some hfind
    rw [htext] at hsame ⊢
    cases tag with
    | string other => rw [Json.sameName_string.1 hsame, Option.getD_some]
    | _ => simp [Json.sameName] at hsame

/-- The variants of the entry are the rows of the record. -/
theorem HasTags.rows_variantTable (h : r.HasTags) :
    r.variantTable.rows = r.variants.map fun row => (row.1.nameText, row.2) := by
  unfold variantTable
  rw [h.tagText_eq]
  refine Table.rows_ofRows ?_
  have hkeys : (r.variants.map fun row => (row.1.nameText, row.2)).map Prod.fst =
      (r.variants.map Prod.fst).map Json.nameText := by
    rw [List.map_map, List.map_map]
    rfl
  rw [hkeys]
  refine h.nodup.map_on fun first hfirst second hsecond heq => ?_
  obtain ⟨row, hrow, rfl⟩ := List.mem_map.1 hfirst
  obtain ⟨row', hrow', rfl⟩ := List.mem_map.1 hsecond
  obtain ⟨text, htext⟩ := h.texts row hrow
  obtain ⟨text', htext'⟩ := h.texts row' hrow'
  rw [htext, htext'] at heq ⊢
  exact congrArg Json.string heq

namespace Alike

/-- **Alike records mean alike entries.** -/
theorem entry (h : r.Alike other) : r.entry.Alike other.entry := by
  obtain ⟨htags, variants, rfl, hperm⟩ := h
  have hother := htags.of_perm hperm
  refine ⟨variantTable { r with variants }, ?_, ?_⟩
  · unfold EntryRecord.entry
    rw [htags.tagText_eq, hother.tagText_eq]
  · have hrows : r.entry.variants.rows = r.variantTable.rows := rfl
    rw [hrows, htags.rows_variantTable, hother.rows_variantTable]
    exact hperm.map _

theorem spelledAs (h : r.Alike other) (known : List Json) :
    (r.spelledAs known).Alike (other.spelledAs known) := by
  obtain ⟨htags, variants, rfl, hperm⟩ := h
  exact ⟨⟨htags.texts, htags.nodup⟩, variants, rfl, hperm⟩

end Alike

theorem map_name_eq_of_alike (h : List.Forall₂ Alike records others) :
    records.map EntryRecord.name = others.map EntryRecord.name := by
  refine map_eq_of_forall₂ (fun r other hr => ?_) h
  obtain ⟨-, variants, rfl, -⟩ := hr
  rfl

/-- What cannot be looked up in records does not depend on the variants. -/
theorem misuse?_eq_of_alike (h : List.Forall₂ Alike records others) :
    misuse? records = misuse? others := by
  have hrows : List.Forall₂ (fun row other => row.1 = other.1 ∧ Alike row.2 other.2)
      (records.map fun r => (Text.nameKey r.name.nameText, r))
      (others.map fun r => (Text.nameKey r.name.nameText, r)) := by
    refine List.rel_map (fun r other hr => ⟨?_, hr⟩) h
    obtain ⟨-, variants, rfl, -⟩ := hr
    rfl
  -- a record is not checked if a later one of its name replaces it, which is so on both sides
  have hdistinct := (Table.Rel.ofRows hrows).values
  have hfiling : ∀ r other : EntryRecord, r.Alike other →
      r.filingMisuse? = other.filingMisuse? := by
    rintro r other ⟨-, variants, rfl, -⟩
    rfl
  have hcheck : ∀ r other : EntryRecord, r.Alike other → r.checkMisuse? = other.checkMisuse? := by
    rintro r other ⟨-, variants, rfl, -⟩
    rfl
  unfold misuse?
  dsimp only
  rw [map_name_eq_of_alike h, findSome?_eq_of_forall₂ hfiling hdistinct,
    findSome?_eq_of_forall₂ hcheck hdistinct]

end EntryRecord

namespace RegistryRecord

variable {records others : List EntryRecord} {source second : Json}

/-- **Registries of records that are alike.** -/
structure Alike (made other : RegistryRecord) : Prop where
  /-- the registries are alike -/
  registry : made.registry.Alike other.registry
  /-- the records are alike, one by one -/
  entries : List.Forall₂ EntryRecord.Alike made.entries other.entries
  /-- the bundles are the same as they are written -/
  bundles : made.bundles = other.bundles

theorem required_eq_ok_iff {name : String} {value : Json} :
    source.required name = .ok value ↔ source.field? name = some value := by
  unfold Json.required Json.field?
  cases source with
  | object fields =>
    simp only
    cases fields.lookup name <;> simp
  | _ => simp

/-- A required field is the same in both of two objects, or absent from both. -/
theorem required_of_field?_eq {name : String} (h : source.field? name = second.field? name) :
    BothOrNeither Eq (source.required name) (second.required name) := by
  refine .of_succeeds_iff ?_ fun a b ha hb => ?_
  · simp only [required_eq_ok_iff, h]
  · rw [required_eq_ok_iff] at ha hb
    rw [h, hb] at ha
    exact (Option.some.inj ha).symm

/-- **Alike records make alike registries.** -/
theorem ofRecords_alike (h : List.Forall₂ EntryRecord.Alike records others)
    (hfields : ∀ name ∈ ["version", "bundles", "library", "license"],
      source.field? name = second.field? name) :
    BothOrNeither Alike (ofRecords records source) (ofRecords others second) := by
  simp only [List.forall_mem_cons] at hfields
  obtain ⟨hversion, hbundles, hlibrary, hlicense, -⟩ := hfields
  have hentries : List.Forall₂ Entry.Alike (records.map EntryRecord.entry)
      (others.map EntryRecord.entry) := List.rel_map (fun r other hr => hr.entry) h
  have hspelled : ∀ known, List.Forall₂ Entry.Alike
      (records.map fun r => (r.spelledAs known).entry)
      (others.map fun r => (r.spelledAs known).entry) := fun known =>
    List.rel_map (fun r other hr => (hr.spelledAs known).entry) h
  -- the checks come one after the other, and none of them looks at the variants
  unfold ofRecords Json.fieldOr
  rw [EntryRecord.misuse?_eq_of_alike h, hbundles, hlibrary, hlicense,
    EntryRecord.map_name_eq_of_alike h]
  refine ((required_of_field?_eq hversion).mapError _ _).bind fun version _ heq => ?_
  subst heq
  dsimp only
  cases EntryRecord.misuse? others with
  | some misuse => exact .neither
  | none =>
    refine .bind_same _ fun bundles => ?_
    rw [(Registry.faults_perm Text.nameKey (bundleNames [] bundles) hentries).isEmpty_eq]
    split_ifs
    · exact .neither
    · have hsound := Registry.ofSound_alike (hspelled (others.map EntryRecord.name))
      exact ((hsound _).mapError _ _).bind fun registry other hregistry =>
        .both ⟨hregistry, h, rfl⟩

end RegistryRecord

end CustomBuild
