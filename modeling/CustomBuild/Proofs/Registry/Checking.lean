import CustomBuild.Registry.Basic
import Mathlib.Data.List.Nodup

/-!
# What the checks of a registry find

Entries and bundles have no faults exactly if they are sound (`faults_eq_nil_iff`): names and
aliases are unambiguous, categories and tags are known, and every dependency and every member of a
bundle is declared, where helpers need helpers and bundles list public functions.

For sound entries the table of the entries is the list of the entries, and the filing of the aliases
ends with the owner of each alias (`Filing.get?_ofTable_eq_some_iff`).  The filing goes through the
entries and their aliases one by one, so its lemmas are about an arbitrary filing to start from.
-/

namespace CustomBuild

/-! ### Categories -/

namespace Category

/-- The category of a name spelled exactly. -/
theorem ofName?_eq_some_iff {value : String} {category : Category} :
    ofName? value = some category ↔ value = category.name := by
  constructor
  · intro h
    have hname := List.find?_some h
    exact (beq_iff_eq.1 hname).symm
  · rintro rfl
    cases category <;> decide

/-- The category of a name in any letter case. -/
theorem ofAnyCase?_eq_some_iff {value : String} {category : Category} :
    ofAnyCase? value = some category ↔ Text.lowered value = Text.lowered category.name := by
  constructor
  · intro h
    have hname := List.find?_some h
    exact (beq_iff_eq.1 hname).symm
  · intro h
    unfold ofAnyCase?
    rw [h]
    cases category <;> decide

theorem isSome_ofName?_iff {value : String} :
    (ofName? value).isSome = true ↔ ∃ category : Category, value = category.name := by
  rw [Option.isSome_iff_exists]
  exact exists_congr fun _ => ofName?_eq_some_iff

end Category

/-! ### The rows of a table -/

namespace Table

variable {β : Type} {t : Table β} {rows : List (String × β)} {row : String × β}

/-- A row that is there after a value is entered was there, or is the entered one. -/
theorem mem_rows_of_put {name : String} {value : β} (h : row ∈ (t.put name value).rows) :
    row ∈ t.rows ∨ row = (name, value) := by
  unfold put at h
  split at h
  · obtain ⟨old, hold, rfl⟩ := List.mem_map.1 h
    by_cases hname : old.1 = name
    · right
      rw [if_pos hname, hname]
    · left
      rw [if_neg hname]
      exact hold
  · rcases List.mem_append.1 h with h | h
    · exact Or.inl h
    · exact Or.inr (List.mem_singleton.1 h)

/-- **The rows of a table** are among those that were entered. -/
theorem mem_of_mem_rows_ofRows (h : row ∈ (ofRows rows).rows) : row ∈ rows := by
  have hfold : ∀ t : Table β, row ∈ (rows.foldl (fun t row => t.put row.1 row.2) t).rows →
      row ∈ t.rows ∨ row ∈ rows := by
    clear h
    induction rows with
    | nil => exact fun t h => Or.inl h
    | cons first rest ih =>
      intro t h
      rcases ih _ h with h | h
      · rcases mem_rows_of_put h with h | rfl
        · exact Or.inl h
        · exact Or.inr List.mem_cons_self
      · exact Or.inr (List.mem_cons_of_mem _ h)
  exact (hfold empty h).resolve_left List.not_mem_nil

end Table

namespace Registry

/-- **Soundness of entries and bundles**: what a registry can be made of. -/
structure Sound (entries : List Entry) (bundles : Table (List String)) : Prop where
  /-- no two entries have one name -/
  names_nodup : (entries.map Entry.name).Nodup
  /-- public functions are filed under one of the categories -/
  category_known : ∀ e ∈ entries, e.isHelper = false →
    ∃ category : Category, e.category = category.name
  /-- no alias of a public function is listed twice, and no two functions share one -/
  aliases_nodup : ((entries.filter fun e => !e.isHelper).flatMap Entry.aliases).Nodup
  /-- no alias of a public function is the name of an entry -/
  alias_ne_name : ∀ e ∈ entries, e.isHelper = false → ∀ a ∈ e.aliases,
    a ∉ entries.map Entry.name
  /-- variants are for modes, apart from the default one -/
  variant_known : ∀ e ∈ entries, ∀ tag ∈ e.variants.names, tag = defaultTag ∨ tag ∈ modeTags
  /-- only modes take precedence -/
  precedence_known : ∀ e ∈ entries, ∀ tag ∈ e.precedence, tag ∈ modeTags
  /-- every dependency is declared, and those of a helper are helpers -/
  dependency_declared : ∀ e ∈ entries, ∀ d ∈ e.dependencies,
    ∃ target ∈ entries, target.name = d ∧ (e.isHelper = true → target.isHelper = true)
  /-- every member of a bundle is a public function -/
  member_public : ∀ row ∈ bundles.rows, ∀ name ∈ row.2,
    ∃ e ∈ entries, e.name = name ∧ e.isHelper = false

/-! ### Duplicate entries -/

theorem duplicateFaults_eq_nil_iff {seen : List String} {entries : List Entry} :
    duplicateFaults id seen entries = [] ↔
      (entries.map Entry.name).Nodup ∧ ∀ e ∈ entries, e.name ∉ seen := by
  induction entries generalizing seen with
  | nil => simp [duplicateFaults]
  | cons e rest ih =>
    rw [duplicateFaults, List.map_cons, List.nodup_cons, List.forall_mem_cons]
    by_cases hseen : e.name ∈ seen
    · simp [hseen]
    · rw [if_neg (by simpa using hseen), ih]
      constructor
      · rintro ⟨hrest, hfresh⟩
        refine ⟨⟨fun hmem => ?_, hrest⟩, hseen, fun other hother => ?_⟩
        · obtain ⟨other, hother, hname⟩ := List.mem_map.1 hmem
          exact hfresh other hother (by simp [hname])
        · exact fun h => hfresh other hother (List.mem_cons_of_mem _ h)
      · rintro ⟨⟨hname, hrest⟩, -, hfresh⟩
        refine ⟨hrest, fun other hother => ?_⟩
        rw [List.mem_cons, not_or]
        refine ⟨fun heq => hname ?_, hfresh other hother⟩
        exact List.mem_map.2 ⟨other, hother, heq⟩

/-! ### The table of the entries -/

section Table

variable {entries : List Entry} {name : String} {e : Entry}

theorem rows_entryTable (h : (entries.map Entry.name).Nodup) :
    (entryTable id entries).rows = entries.map fun e => (e.name, e) := by
  have hnodup : (((Table.empty : Table Entry).rows ++ entries.map fun e => (id e.name, e)).map
      Prod.fst).Nodup := by
    simpa [Table.empty, List.map_map, Function.comp_def] using h
  exact Table.rows_foldl_put hnodup

/-- Entries with distinct names are the values of their table. -/
theorem values_entryTable (h : (entries.map Entry.name).Nodup) :
    (entryTable id entries).values = entries := by
  rw [Table.values, rows_entryTable h, List.map_map]
  exact List.map_id entries

theorem names_entryTable (h : (entries.map Entry.name).Nodup) :
    (entryTable id entries).names = entries.map Entry.name := by
  rw [Table.names, rows_entryTable h, List.map_map]
  rfl

/-- The rows of a table of entries are the entries under their names. -/
theorem mem_of_mem_rows_entryTable {row : String × Entry}
    (h : row ∈ (entryTable id entries).rows) : row.2 ∈ entries ∧ row.1 = row.2.name := by
  obtain ⟨e, he, rfl⟩ := List.mem_map.1 (Table.mem_of_mem_rows_ofRows h)
  exact ⟨he, rfl⟩

theorem get?_entryTable_eq_some_iff (h : (entries.map Entry.name).Nodup) :
    (entryTable id entries).get? name = some e ↔ e ∈ entries ∧ e.name = name := by
  rw [Table.get?, lookup_eq_some_iff_of_nodup (entryTable id entries).distinct,
    rows_entryTable h, List.mem_map]
  constructor
  · rintro ⟨other, hother, heq⟩
    obtain ⟨rfl, rfl⟩ := Prod.mk.inj heq
    exact ⟨hother, rfl⟩
  · rintro ⟨he, rfl⟩
    exact ⟨e, he, rfl⟩

theorem get?_entryTable_eq_none_iff (h : (entries.map Entry.name).Nodup) :
    (entryTable id entries).get? name = none ↔ ∀ e ∈ entries, e.name ≠ name := by
  rw [Option.eq_none_iff_forall_ne_some]
  exact ⟨fun hnone e he hname => hnone e ((get?_entryTable_eq_some_iff h).2 ⟨he, hname⟩),
    fun hnone e he => hnone e ((get?_entryTable_eq_some_iff h).1 he).1
      ((get?_entryTable_eq_some_iff h).1 he).2⟩

end Table

/-! ### Filing aliases -/

/-- The aliases of a public function, each with its owner; those of a helper do not count. -/
def aliasRows (e : Entry) : List (String × String) :=
  if e.isHelper then [] else e.aliases.map fun a => (a, e.name)

theorem mem_aliasRows {e : Entry} {a owner : String} :
    (a, owner) ∈ aliasRows e ↔ e.isHelper = false ∧ a ∈ e.aliases ∧ e.name = owner := by
  unfold aliasRows
  by_cases hhelper : e.isHelper = true
  · simp [hhelper]
  · simp [hhelper]

theorem map_fst_aliasRows (entries : List Entry) :
    (entries.flatMap aliasRows).map Prod.fst =
      (entries.filter fun e => !e.isHelper).flatMap Entry.aliases := by
  induction entries with
  | nil => rfl
  | cons e rest ih =>
    rw [List.flatMap_cons, List.map_append, ih, aliasRows]
    by_cases hhelper : e.isHelper = true
    · simp [hhelper]
    · simp [hhelper, List.map_map, Function.comp_def]

namespace Filing

variable {table : Table Entry} {filing : Filing} {owner otherName x : String} {e : Entry}
  {rows : List (String × String)} {entries : List Entry}

/-- Filing an alias goes well if it names no entry and has no owner yet. -/
theorem faults_addAlias_eq_nil_iff :
    (filing.addAlias id table owner otherName).faults = [] ↔
      filing.faults = [] ∧ otherName ∉ table.names ∧ filing.aliases.get? otherName = none := by
  unfold addAlias
  by_cases hentry : otherName ∈ table.names
  · simp [Table.contains, hentry]
  · cases hfirst : filing.aliases.get? otherName with
    | none => simp [Table.contains, hentry, hfirst]
    | some first => simp [Table.contains, hentry, hfirst]

/-- An alias that is filed well has its owner from then on. -/
theorem get?_addAlias (h : (filing.addAlias id table owner otherName).faults = []) :
    (filing.addAlias id table owner otherName).aliases.get? x =
      if x = otherName then some owner else filing.aliases.get? x := by
  obtain ⟨-, hentry, hfirst⟩ := faults_addAlias_eq_nil_iff.1 h
  have hadd : filing.addAlias id table owner otherName =
      { filing with aliases := filing.aliases.put otherName owner } := by
    unfold addAlias
    simp [Table.contains, hentry, hfirst]
  rw [hadd]
  exact Table.get?_put

/-- Files aliases with their owners, one after the other. -/
def addRows (table : Table Entry) (filing : Filing) (rows : List (String × String)) : Filing :=
  rows.foldl (fun filing row => filing.addAlias id table row.2 row.1) filing

/-- **Filing aliases goes well** if they are distinct, name no entry and have no owner yet. -/
theorem faults_addRows_eq_nil_iff :
    (filing.addRows table rows).faults = [] ↔
      filing.faults = [] ∧ (rows.map Prod.fst).Nodup ∧
        ∀ row ∈ rows, row.1 ∉ table.names ∧ filing.aliases.get? row.1 = none := by
  induction rows generalizing filing with
  | nil => simp [addRows]
  | cons row rest ih =>
    rw [addRows, List.foldl_cons, ← addRows, ih, List.map_cons, List.nodup_cons,
      List.forall_mem_cons]
    constructor
    · rintro ⟨hfaults, hnodup, hrest⟩
      obtain ⟨hbefore, hentry, hfirst⟩ := faults_addAlias_eq_nil_iff.1 hfaults
      -- the first alias has an owner from then on, so no later row can be for it
      have hget : ∀ other ∈ rest, other.1 ≠ row.1 ∧ filing.aliases.get? other.1 = none := by
        intro other hother
        have hnone := (hrest other hother).2
        rw [get?_addAlias hfaults] at hnone
        split_ifs at hnone with heq
        exact ⟨heq, hnone⟩
      refine ⟨hbefore, ⟨fun hmem => ?_, hnodup⟩, ⟨hentry, hfirst⟩,
        fun other hother => ⟨(hrest other hother).1, (hget other hother).2⟩⟩
      obtain ⟨other, hother, heq⟩ := List.mem_map.1 hmem
      exact (hget other hother).1 heq
    · rintro ⟨hbefore, ⟨hrow, hnodup⟩, ⟨hentry, hfirst⟩, hrest⟩
      have hfaults : (filing.addAlias id table row.2 row.1).faults = [] :=
        faults_addAlias_eq_nil_iff.2 ⟨hbefore, hentry, hfirst⟩
      refine ⟨hfaults, hnodup, fun other hother => ⟨(hrest other hother).1, ?_⟩⟩
      have hne : other.1 ≠ row.1 := fun heq => hrow (List.mem_map.2 ⟨other, hother, heq⟩)
      rw [get?_addAlias hfaults, if_neg hne]
      exact (hrest other hother).2

/-- Aliases that are filed well have their owners from then on. -/
theorem get?_addRows_eq_some_iff (h : (filing.addRows table rows).faults = []) :
    (filing.addRows table rows).aliases.get? x = some owner ↔
      (x, owner) ∈ rows ∨ filing.aliases.get? x = some owner := by
  induction rows generalizing filing with
  | nil => simp [addRows]
  | cons row rest ih =>
    rw [addRows, List.foldl_cons, ← addRows] at h ⊢
    have hfaults := (faults_addRows_eq_nil_iff.1 h).1
    have hfirst := (faults_addAlias_eq_nil_iff.1 hfaults).2.2
    rw [ih h, get?_addAlias hfaults, List.mem_cons]
    by_cases hx : x = row.1
    · subst hx
      rw [if_pos rfl, hfirst, Option.some.injEq]
      have hrow : (row.1, owner) = row ↔ row.2 = owner :=
        ⟨fun heq => by rw [← heq], fun heq => by rw [← heq]⟩
      simp only [hrow, reduceCtorEq, or_false]
      exact or_comm
    · have hrow : (x, owner) ≠ row := fun heq => hx (by rw [← heq])
      rw [if_neg hx]
      simp only [hrow, false_or]

/-! ### Filing the aliases of entries -/

/-- What filing the aliases of an entry does if its category is known. -/
theorem addEntry_eq (h : e.isHelper = false → ∃ category : Category, e.category = category.name) :
    addEntry id table filing e = filing.addRows table (aliasRows e) := by
  unfold addEntry aliasRows addRows
  by_cases hhelper : e.isHelper = true
  · simp [hhelper]
  · simp only [Bool.not_eq_true] at hhelper
    obtain ⟨category, hcategory⟩ :=
      Option.isSome_iff_exists.1 (Category.isSome_ofName?_iff.2 (h hhelper))
    simp only [hhelper, Bool.false_eq_true, if_false, hcategory, List.foldl_map]

/-- The first fault stays. -/
theorem faults_eq_nil_of_addEntry (h : (addEntry id table filing e).faults = []) :
    filing.faults = [] ∧
      (e.isHelper = false → ∃ category : Category, e.category = category.name) := by
  by_cases hcategory : e.isHelper = false → ∃ category : Category, e.category = category.name
  · rw [addEntry_eq hcategory] at h
    exact ⟨(faults_addRows_eq_nil_iff.1 h).1, hcategory⟩
  · rw [Classical.not_imp, ← Category.isSome_ofName?_iff,
      Option.not_isSome_iff_eq_none] at hcategory
    simp [addEntry, hcategory.1, hcategory.2] at h

theorem faults_eq_nil_of_foldl_addEntry
    (h : (entries.foldl (addEntry id table) filing).faults = []) :
    filing.faults = [] ∧ ∀ e ∈ entries, e.isHelper = false →
      ∃ category : Category, e.category = category.name := by
  induction entries generalizing filing with
  | nil => exact ⟨h, by simp⟩
  | cons e rest ih =>
    rw [List.foldl_cons] at h
    obtain ⟨hfirst, hrest⟩ := ih h
    obtain ⟨hbefore, hcategory⟩ := faults_eq_nil_of_addEntry hfirst
    exact ⟨hbefore, List.forall_mem_cons.2 ⟨hcategory, hrest⟩⟩

/-- What filing the aliases of entries does if their categories are known. -/
theorem foldl_addEntry_eq
    (h : ∀ e ∈ entries, e.isHelper = false → ∃ category : Category, e.category = category.name) :
    entries.foldl (addEntry id table) filing =
      filing.addRows table (entries.flatMap aliasRows) := by
  induction entries generalizing filing with
  | nil => rfl
  | cons e rest ih =>
    obtain ⟨hcategory, hrest⟩ := List.forall_mem_cons.1 h
    rw [List.foldl_cons, addEntry_eq hcategory, ih hrest, List.flatMap_cons]
    unfold addRows
    rw [List.foldl_append]

/-- **The aliases of entries are filed well** if the categories are known and the aliases are
distinct and name no entry. -/
theorem faults_ofTable_eq_nil_iff :
    (ofTable id table).faults = [] ↔
      (∀ e ∈ table.values, e.isHelper = false →
        ∃ category : Category, e.category = category.name) ∧
      ((table.values.filter fun e => !e.isHelper).flatMap Entry.aliases).Nodup ∧
      ∀ e ∈ table.values, e.isHelper = false → ∀ a ∈ e.aliases, a ∉ table.names := by
  have hrows : (∀ row ∈ table.values.flatMap aliasRows,
        row.1 ∉ table.names ∧ ({} : Filing).aliases.get? row.1 = none) ↔
      ∀ e ∈ table.values, e.isHelper = false → ∀ a ∈ e.aliases, a ∉ table.names := by
    constructor
    · intro h e he hhelper a ha
      exact (h (a, e.name) (List.mem_flatMap.2 ⟨e, he, mem_aliasRows.2 ⟨hhelper, ha, rfl⟩⟩)).1
    · rintro h ⟨a, owner⟩ hrow
      obtain ⟨e, he, hae⟩ := List.mem_flatMap.1 hrow
      obtain ⟨hhelper, ha, -⟩ := mem_aliasRows.1 hae
      exact ⟨h e he hhelper a ha, rfl⟩
  unfold ofTable
  constructor
  · -- without the categories the aliases of an entry would not be filed at all
    intro h
    have hcategory := (faults_eq_nil_of_foldl_addEntry h).2
    rw [foldl_addEntry_eq hcategory, faults_addRows_eq_nil_iff, map_fst_aliasRows, hrows] at h
    exact ⟨hcategory, h.2⟩
  · rintro ⟨hcategory, hnodup, hnames⟩
    rw [foldl_addEntry_eq hcategory, faults_addRows_eq_nil_iff, map_fst_aliasRows, hrows]
    exact ⟨rfl, hnodup, hnames⟩

/-- **The owner of an alias** is the public function that lists it. -/
theorem get?_ofTable_eq_some_iff (h : (ofTable id table).faults = []) :
    (ofTable id table).aliases.get? x = some owner ↔
      ∃ e ∈ table.values, e.isHelper = false ∧ x ∈ e.aliases ∧ e.name = owner := by
  have hrows : ofTable id table = addRows table {} (table.values.flatMap aliasRows) :=
    foldl_addEntry_eq (faults_eq_nil_of_foldl_addEntry h).2
  rw [hrows] at h ⊢
  rw [get?_addRows_eq_some_iff h, List.mem_flatMap]
  constructor
  · rintro (⟨e, he, hrow⟩ | hnone)
    · exact ⟨e, he, mem_aliasRows.1 hrow⟩
    · cases hnone
  · rintro ⟨e, he, hrow⟩
    exact Or.inl ⟨e, he, mem_aliasRows.2 hrow⟩

end Filing

/-! ### Tags, dependencies and bundles -/

section Faults

variable {entries : List Entry} {bundles : Table (List String)} {e : Entry} {name : String}

/-- Entries of a name that is not in the table are not there. -/
theorem not_exists_of_get?_eq_none (h : (entries.map Entry.name).Nodup)
    (hnone : (entryTable id entries).get? (id name) = none) (p : Entry → Prop) :
    ¬ ∃ target ∈ entries, target.name = name ∧ p target := by
  rintro ⟨target, hmem, hname, -⟩
  exact (get?_entryTable_eq_none_iff h).1 hnone target hmem hname

/-- The entry of a name in the table is the only one of this name. -/
theorem exists_iff_of_get?_eq_some (h : (entries.map Entry.name).Nodup) {target : Entry}
    (htarget : (entryTable id entries).get? (id name) = some target) (p : Entry → Prop) :
    (∃ other ∈ entries, other.name = name ∧ p other) ↔ p target := by
  obtain ⟨hmem, hname⟩ := (get?_entryTable_eq_some_iff h).1 htarget
  constructor
  · rintro ⟨other, hother, hothername, hp⟩
    have heq : other = target :=
      List.inj_on_of_nodup_map h hother hmem (hothername.trans hname.symm)
    exact heq ▸ hp
  · exact fun hp => ⟨target, hmem, hname, hp⟩

theorem dependencyFaults_eq_nil_iff (h : (entries.map Entry.name).Nodup) :
    dependencyFaults id (entryTable id entries) e name = [] ↔
      ∃ target ∈ entries, target.name = name ∧ (e.isHelper = true → target.isHelper = true) := by
  unfold dependencyFaults
  cases htarget : (entryTable id entries).get? (id name) with
  | none => exact iff_of_false (List.cons_ne_nil _ _) (not_exists_of_get?_eq_none h htarget _)
  | some target =>
    rw [exists_iff_of_get?_eq_some h htarget fun target =>
      e.isHelper = true → target.isHelper = true]
    simp only
    cases e.isHelper <;> cases target.isHelper <;> simp

theorem entryFaults_eq_nil_iff (h : (entries.map Entry.name).Nodup) :
    entryFaults id (entryTable id entries) e = [] ↔
      (∀ tag ∈ e.variants.names, tag = defaultTag ∨ tag ∈ modeTags) ∧
      (∀ tag ∈ e.precedence, tag ∈ modeTags) ∧
      ∀ d ∈ e.dependencies, ∃ target ∈ entries,
        target.name = d ∧ (e.isHelper = true → target.isHelper = true) := by
  unfold entryFaults
  rw [List.append_eq_nil_iff, List.append_eq_nil_iff, List.map_eq_nil_iff, List.map_eq_nil_iff,
    List.filter_eq_nil_iff, List.filter_eq_nil_iff, List.flatMap_eq_nil_iff, and_assoc]
  refine and_congr (forall₂_congr fun tag _ => ?_) (and_congr (forall₂_congr fun tag _ => ?_)
    (forall₂_congr fun d _ => dependencyFaults_eq_nil_iff h))
  · by_cases htag : tag = defaultTag <;> simp [htag]
  · simp

theorem isPublicIn_iff (h : (entries.map Entry.name).Nodup) :
    isPublicIn id (entryTable id entries) name = true ↔
      ∃ e ∈ entries, e.name = name ∧ e.isHelper = false := by
  unfold isPublicIn
  cases htarget : (entryTable id entries).get? (id name) with
  | none => exact iff_of_false Bool.false_ne_true (not_exists_of_get?_eq_none h htarget _)
  | some target =>
    rw [exists_iff_of_get?_eq_some h htarget fun target => target.isHelper = false]
    simp only [Bool.not_eq_true']

theorem bundleFaults_eq_nil_iff (h : (entries.map Entry.name).Nodup)
    {bundle : String × List String} :
    bundleFaults id (entryTable id entries) bundle = [] ↔
      ∀ name ∈ bundle.2, ∃ e ∈ entries, e.name = name ∧ e.isHelper = false := by
  unfold bundleFaults
  rw [List.map_eq_nil_iff, List.filter_eq_nil_iff]
  refine forall₂_congr fun name _ => ?_
  rw [Bool.not_eq_true, Bool.not_eq_false', isPublicIn_iff h]

/-- **Entries and bundles have no faults** exactly if they are sound. -/
theorem faults_eq_nil_iff : faults id entries bundles = [] ↔ Sound entries bundles := by
  have hduplicate : duplicateFaults id [] entries = [] ↔ (entries.map Entry.name).Nodup := by
    rw [duplicateFaults_eq_nil_iff]
    simp
  unfold faults
  rw [List.append_eq_nil_iff, List.append_eq_nil_iff, List.append_eq_nil_iff, hduplicate,
    List.flatMap_eq_nil_iff, List.flatMap_eq_nil_iff, Filing.faults_ofTable_eq_nil_iff]
  constructor
  · -- the other checks read the table, which has all entries only if their names are distinct
    rintro ⟨⟨⟨hnames, hfiling⟩, hentries⟩, hbundles⟩
    rw [values_entryTable hnames] at hfiling hentries
    rw [names_entryTable hnames] at hfiling
    obtain ⟨hcategory, haliases, halias⟩ := hfiling
    have hentry := fun e he => (entryFaults_eq_nil_iff hnames).1 (hentries e he)
    exact
      { names_nodup := hnames
        category_known := hcategory
        aliases_nodup := haliases
        alias_ne_name := halias
        variant_known := fun e he => (hentry e he).1
        precedence_known := fun e he => (hentry e he).2.1
        dependency_declared := fun e he => (hentry e he).2.2
        member_public := fun row hrow => (bundleFaults_eq_nil_iff hnames).1 (hbundles row hrow) }
  · intro h
    rw [values_entryTable h.names_nodup, names_entryTable h.names_nodup]
    refine ⟨⟨⟨h.names_nodup, h.category_known, h.aliases_nodup, h.alias_ne_name⟩, ?_⟩, ?_⟩
    · exact fun e he => (entryFaults_eq_nil_iff h.names_nodup).2
        ⟨h.variant_known e he, h.precedence_known e he, h.dependency_declared e he⟩
    · exact fun row hrow => (bundleFaults_eq_nil_iff h.names_nodup).2 (h.member_public row hrow)

end Faults

end Registry

end CustomBuild
