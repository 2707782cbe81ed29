import CustomBuild.Proofs.Graph.Order
import CustomBuild.Proofs.Graph.Reach
import CustomBuild.Proofs.Registry.Checking

/-!
# Accepted registries

`Accepted` collects what holds of every registry that `ofEntries` makes (`accepted_of_ofEntries`):
its entries and bundles are sound, its order has every entry once and after its dependencies, and
its aliases have their owners.

The relations of this module describe a registry by its entries alone: `IsPublicName` and
`IsHelperName` are about names, `Needs` is one dependency, and `NeedsPublic` one dependency between
public functions.  For an accepted registry every look-up is one of them, which is all that later
proofs use.
-/

namespace CustomBuild.Registry

variable {r : Registry} {a b name value : String} {e : Entry}

/-! ### A registry by its entries -/

/-- The name is that of a public function. -/
def IsPublicName (r : Registry) (name : String) : Prop :=
  ∃ e ∈ r.entries, e.name = name ∧ e.isHelper = false

/-- The name is that of a helper. -/
def IsHelperName (r : Registry) (name : String) : Prop :=
  ∃ e ∈ r.entries, e.name = name ∧ e.isHelper = true

/-- **One dependency**: the entry `a` lists `b`. -/
def Needs (r : Registry) (a b : String) : Prop :=
  ∃ e ∈ r.entries, e.name = a ∧ b ∈ e.dependencies

/-- **One dependency between public functions.** -/
def NeedsPublic (r : Registry) (a b : String) : Prop :=
  r.IsPublicName a ∧ r.Needs a b ∧ r.IsPublicName b

/-- `a` stands before `b` in the order of the registry. -/
def Precedes (r : Registry) (a b : String) : Prop :=
  r.order.idxOf a < r.order.idxOf b

/-- **What holds of an accepted registry.** -/
structure Accepted (r : Registry) : Prop where
  /-- entries and bundles are sound -/
  sound : Sound r.entries r.header.bundles
  /-- the order has every entry once -/
  order_perm : r.order.Perm (r.entries.map Entry.name)
  /-- in the order every entry stands after its dependencies -/
  order_dependencies : Graph.DependenciesFirst r.dependencies r.order
  /-- an alias belongs to the public function that lists it -/
  get?_aliases : ∀ a owner, r.aliases.get? a = some owner ↔
    ∃ e ∈ r.entries, e.isHelper = false ∧ a ∈ e.aliases ∧ e.name = owner

/-! ### Look-ups -/

theorem mem_entries_of_lookup (h : r.lookup name = some e) : e ∈ r.entries ∧ e.name = name := by
  have hname := List.find?_some h
  exact ⟨List.mem_of_find?_eq_some h, beq_iff_eq.1 hname⟩

theorem mem_arrange_iff {names : List String} :
    name ∈ r.arrange names ↔ name ∈ names ∧ name ∈ r.order := by
  unfold arrange
  rw [List.mem_filter, List.contains_iff_mem, and_comm]

namespace Accepted

theorem lookup_eq_some_iff (h : r.Accepted) :
    r.lookup name = some e ↔ e ∈ r.entries ∧ e.name = name := by
  refine ⟨mem_entries_of_lookup, ?_⟩
  rintro ⟨he, rfl⟩
  cases hfind : r.lookup e.name with
  | none =>
    have hnone := List.find?_eq_none.1 hfind e he
    simp at hnone
  | some other =>
    obtain ⟨hother, hname⟩ := mem_entries_of_lookup hfind
    exact congrArg some (List.inj_on_of_nodup_map h.sound.names_nodup hother he hname)

/-- Entries with one name are one entry. -/
theorem entry_eq (h : r.Accepted) {other : Entry} (he : e ∈ r.entries) (hother : other ∈ r.entries)
    (hname : e.name = other.name) : e = other :=
  List.inj_on_of_nodup_map h.sound.names_nodup he hother hname

/-- What some entry with a name has is what the entry found under the name has. -/
theorem exists_entry_iff (h : r.Accepted) {p : Entry → Prop} :
    (∃ e ∈ r.entries, e.name = name ∧ p e) ↔ ∃ e, r.lookup name = some e ∧ p e := by
  constructor
  · rintro ⟨e, he, hname, hp⟩
    exact ⟨e, h.lookup_eq_some_iff.2 ⟨he, hname⟩, hp⟩
  · rintro ⟨e, hlookup, hp⟩
    obtain ⟨he, hname⟩ := mem_entries_of_lookup hlookup
    exact ⟨e, he, hname, hp⟩

theorem isPublic_iff (h : r.Accepted) : r.isPublic name = true ↔ r.IsPublicName name := by
  unfold isPublic IsPublicName
  rw [h.exists_entry_iff]
  cases r.lookup name <;> simp

theorem isHelper_iff (h : r.Accepted) : r.isHelper name = true ↔ r.IsHelperName name := by
  unfold isHelper IsHelperName
  rw [h.exists_entry_iff]
  cases r.lookup name <;> simp

theorem mem_dependencies_iff (h : r.Accepted) : b ∈ r.dependencies a ↔ r.Needs a b := by
  unfold dependencies Needs
  rw [h.exists_entry_iff]
  cases r.lookup a <;> simp

theorem needs_eq (h : r.Accepted) : (fun u v => v ∈ r.dependencies u) = r.Needs :=
  funext₂ fun _ _ => propext h.mem_dependencies_iff

/-- **Chains of dependencies** that look-ups follow are those between entries. -/
theorem reaches_dependencies_iff (h : r.Accepted) :
    Graph.Reaches r.dependencies a b ↔ Relation.ReflTransGen r.Needs a b := by
  rw [Graph.reaches_iff_reflTransGen, h.needs_eq]

theorem dependencies_name (h : r.Accepted) (he : e ∈ r.entries) :
    r.dependencies e.name = e.dependencies := by
  rw [dependencies, h.lookup_eq_some_iff.2 ⟨he, rfl⟩]

theorem mem_publicDependencies_iff (h : r.Accepted) :
    b ∈ r.publicDependencies a ↔ r.Needs a b ∧ r.IsPublicName b := by
  rw [publicDependencies, List.mem_filter, h.mem_dependencies_iff, h.isPublic_iff]

/-- **The canonical name** belongs to the public function with the name or the alias. -/
theorem resolveAlias_eq_some_iff (h : r.Accepted) :
    r.resolveAlias value = some name ↔
      ∃ e ∈ r.entries, e.name = name ∧ e.isHelper = false ∧
        (value = name ∨ value ∈ e.aliases) := by
  unfold resolveAlias
  -- names are tried before aliases
  by_cases hpublic : r.isPublic value = true
  · rw [if_pos hpublic, Option.some.injEq]
    obtain ⟨e, he, hname, hhelper⟩ := h.isPublic_iff.1 hpublic
    constructor
    · rintro rfl
      exact ⟨e, he, hname, hhelper, Or.inl rfl⟩
    · rintro ⟨other, hother, -, hotherhelper, heq | halias⟩
      · exact heq
      · -- an alias is no name of an entry
        have hnot := h.sound.alias_ne_name other hother hotherhelper value halias
        exact absurd (List.mem_map.2 ⟨e, he, hname⟩) hnot
  · rw [if_neg hpublic, h.get?_aliases]
    constructor
    · rintro ⟨e, he, hhelper, halias, hname⟩
      exact ⟨e, he, hname, hhelper, Or.inr halias⟩
    · rintro ⟨e, he, hname, hhelper, rfl | halias⟩
      · exact absurd (h.isPublic_iff.2 ⟨e, he, hname, hhelper⟩) hpublic
      · exact ⟨e, he, hhelper, halias, hname⟩

/-! ### The order -/

theorem mem_order_iff (h : r.Accepted) : name ∈ r.order ↔ ∃ e ∈ r.entries, e.name = name := by
  rw [h.order_perm.mem_iff, List.mem_map]

theorem nodup_order (h : r.Accepted) : r.order.Nodup :=
  h.order_perm.nodup_iff.2 h.sound.names_nodup

theorem contains_of_mem_order (h : r.Accepted) (hname : name ∈ r.order) :
    r.contains name = true := by
  obtain ⟨e, he, heq⟩ := h.mem_order_iff.1 hname
  rw [contains, h.lookup_eq_some_iff.2 ⟨he, heq⟩]
  rfl

/-- What an entry needs is an entry. -/
theorem mem_order_of_needs (h : r.Accepted) (hab : r.Needs a b) : b ∈ r.order := by
  obtain ⟨e, he, -, hb⟩ := hab
  obtain ⟨target, htarget, hname, -⟩ := h.sound.dependency_declared e he b hb
  exact h.mem_order_iff.2 ⟨target, htarget, hname⟩

theorem mem_order_of_reflTransGen (h : r.Accepted) (ha : a ∈ r.order)
    (hab : Relation.ReflTransGen r.Needs a b) : b ∈ r.order := by
  induction hab with
  | refl => exact ha
  | tail _ hstep _ => exact h.mem_order_of_needs hstep

theorem mem_order_of_isPublicName (h : r.Accepted) (hname : r.IsPublicName name) :
    name ∈ r.order := by
  obtain ⟨e, he, heq, -⟩ := hname
  exact h.mem_order_iff.2 ⟨e, he, heq⟩

theorem mem_order_of_isHelperName (h : r.Accepted) (hname : r.IsHelperName name) :
    name ∈ r.order := by
  obtain ⟨e, he, heq, -⟩ := hname
  exact h.mem_order_iff.2 ⟨e, he, heq⟩

/-- A name is not both that of a public function and that of a helper. -/
theorem not_isHelperName (h : r.Accepted) (hname : r.IsPublicName name) :
    ¬ r.IsHelperName name := by
  rintro ⟨e, he, heq, hhelper⟩
  obtain ⟨other, hother, hothereq, hpublic⟩ := hname
  rw [h.entry_eq he hother (heq.trans hothereq.symm), hpublic] at hhelper
  cases hhelper

theorem isPublicName_or_isHelperName (h : r.Accepted) (hname : name ∈ r.order) :
    r.IsPublicName name ∨ r.IsHelperName name := by
  obtain ⟨e, he, heq⟩ := h.mem_order_iff.1 hname
  cases hhelper : e.isHelper with
  | false => exact Or.inl ⟨e, he, heq, hhelper⟩
  | true => exact Or.inr ⟨e, he, heq, hhelper⟩

/-- What a helper needs is a helper. -/
theorem isHelperName_of_needs (h : r.Accepted) (ha : r.IsHelperName a) (hab : r.Needs a b) :
    r.IsHelperName b := by
  obtain ⟨e, he, heq, hhelper⟩ := ha
  obtain ⟨other, hother, hothereq, hb⟩ := hab
  obtain ⟨target, htarget, hname, himp⟩ := h.sound.dependency_declared other hother b hb
  have hsame : other = e := h.entry_eq hother he (hothereq.trans heq.symm)
  exact ⟨target, htarget, hname, himp (hsame ▸ hhelper)⟩

/-- **What is picked from the order** is in increasing order. -/
theorem pairwise_precedes_filter (h : r.Accepted) (p : String → Bool) :
    (r.order.filter p).Pairwise r.Precedes := by
  have horder : r.order.Pairwise r.Precedes := by
    rw [List.pairwise_iff_getElem]
    intro i j hi hj hij
    unfold Precedes
    rw [h.nodup_order.idxOf_getElem i hi, h.nodup_order.idxOf_getElem j hj]
    exact hij
  exact horder.filter p

/-- The functions of a category are those filed under it. -/
theorem mem_byCategory_iff (h : r.Accepted) {category : Category} :
    name ∈ r.byCategory category ↔
      ∃ e ∈ r.entries, e.name = name ∧ e.category = category.name := by
  have horder : name ∈ r.order ↔ ∃ e, r.lookup name = some e := by
    simp only [h.mem_order_iff, h.lookup_eq_some_iff]
  unfold byCategory
  rw [List.mem_filter, horder, h.exists_entry_iff]
  cases r.lookup name <;> simp

end Accepted

/-! ### The graph of a registry -/

/-- The graph of the entries of a registry. -/
def graph (r : Registry) : Graph.Dependencies where
  declared := r.entries.map Entry.name
  rows := r.entries.map fun e => (e.name, e.dependencies)

/-- The rows of the graph are those of the entries that look-ups find. -/
theorem lookup_rows_graph :
    r.graph.rows.lookup name = (r.lookup name).map Entry.dependencies := by
  have hrows : ∀ entries : List Entry,
      (entries.map fun e => (e.name, e.dependencies)).lookup name =
        (entries.find? fun e => e.name == name).map Entry.dependencies := by
    intro entries
    induction entries with
    | nil => rfl
    | cons e rest ih =>
      rw [List.map_cons, List.lookup_cons, List.find?_cons, ih]
      by_cases hname : e.name = name
      · simp [hname]
      · rw [beq_false_of_ne hname, beq_false_of_ne (Ne.symm hname)]
  exact hrows r.entries

/-- **The dependencies of the graph** are those of the entries: every one of them is declared. -/
theorem mem_graph_of_iff {bundles : Table (List String)} (hsound : Sound r.entries bundles) :
    b ∈ r.graph.of a ↔ b ∈ r.dependencies a := by
  rw [Graph.Dependencies.of, lookup_rows_graph, List.mem_eraseDups, List.mem_filter,
    List.contains_iff_mem, dependencies]
  cases he : r.lookup a with
  | none => simp
  | some e =>
    rw [Option.map_some, Option.getD_some]
    refine and_iff_left_of_imp fun hb => ?_
    obtain ⟨target, htarget, hname, -⟩ :=
      hsound.dependency_declared e (mem_entries_of_lookup he).1 b hb
    exact List.mem_map.2 ⟨target, htarget, hname⟩

/-! ### Acceptance -/

/-- **What a registry is made of**: the table of the entries, the owners of the aliases, and an
order of the graph. -/
theorem ofSound_eq_ok {entries : List Entry} {header : RegistryHeader}
    (h : ofSound entries header = .ok r) :
    r.header = header ∧ r.entries = (entryTable id entries).values ∧
      r.aliases = (Filing.ofTable id (entryTable id entries)).aliases ∧
      r.graph.declared.Nodup ∧ r.graph.dependencyOrder = .ok r.order := by
  have hnames : (entryTable id entries).names = (entryTable id entries).values.map Entry.name := by
    rw [Table.names, Table.values, List.map_map]
    exact List.map_congr_left fun row hrow => (mem_of_mem_rows_entryTable hrow).2
  have hnodup := (entryTable id entries).distinct
  rw [← Table.names, hnames] at hnodup
  simp only [ofSound] at h
  rw [hnames] at h
  split at h
  · next order horder =>
    cases h
    exact ⟨rfl, rfl, rfl, hnodup, horder⟩
  · cases h

/-- The registry of sound entries is accepted if they can be put in order. -/
theorem accepted_of_ofSound {entries : List Entry} {header : RegistryHeader}
    (hsound : Sound entries header.bundles) (h : ofSound entries header = .ok r) :
    r.Accepted ∧ r.entries = entries ∧ r.header = header := by
  have hnames := hsound.names_nodup
  have hfiling : (Filing.ofTable id (entryTable id entries)).faults = [] := by
    rw [Filing.faults_ofTable_eq_nil_iff, values_entryTable hnames, names_entryTable hnames]
    exact ⟨hsound.category_known, hsound.aliases_nodup, hsound.alias_ne_name⟩
  obtain ⟨hheader, hentries, haliases, hnodup, horder⟩ := ofSound_eq_ok h
  rw [values_entryTable hnames] at hentries
  obtain ⟨hperm, hfirst⟩ := Graph.Dependencies.dependencyOrder_spec hnodup horder
  have hsound : Sound r.entries r.header.bundles := by
    rw [hentries, hheader]
    exact hsound
  refine ⟨⟨hsound, hperm, ?_, fun a owner => ?_⟩, hentries, hheader⟩
  · intro before name after hsplit d hd
    exact hfirst before name after hsplit d ((mem_graph_of_iff hsound).2 hd)
  · rw [haliases, Filing.get?_ofTable_eq_some_iff hfiling, values_entryTable hnames, hentries]

/-- Entries that a registry is made of are sound. -/
theorem ofSound_of_ofEntries {entries : List Entry} {header : RegistryHeader}
    (h : ofEntries entries header = .ok r) :
    Sound entries header.bundles ∧ ofSound entries header = .ok r := by
  simp only [ofEntries] at h
  split_ifs at h with hfaults
  exact ⟨faults_eq_nil_iff.1 (List.isEmpty_iff.1 hfaults), h⟩

/-- **A registry that is made of entries is accepted**, and has these entries and titles. -/
theorem accepted_of_ofEntries {entries : List Entry} {header : RegistryHeader}
    (h : ofEntries entries header = .ok r) :
    r.Accepted ∧ r.entries = entries ∧ r.header = header := by
  obtain ⟨hsound, h⟩ := ofSound_of_ofEntries h
  exact accepted_of_ofSound hsound h

/-! ### A small registry -/

/-- The core, three functions in a row with a helper, and a function whose helper has a fragment
for one mode only. -/
def sampleEntries : List Entry :=
  [{ name := "lodash", variants := Table.ofRows [("default", .string "var lodash = \x7b\x7d;")] },
    { name := "isArray", category := "Objects",
      variants := Table.ofRows [("default", .string "var isArray = Array.isArray;")] },
    { name := "map", category := "Collections", dependencies := ["each"],
      variants := Table.ofRows [("default", .string "function map() \x7b\n  each();\n\x7d")] },
    { name := "each", category := "Collections", aliases := ["forEach"],
      dependencies := ["isArray", "iterator"],
      variants := Table.ofRows [("default", .string "function each() \x7b\x7d")] },
    { name := "iterator", dependencies := ["lodash"],
      variants := Table.ofRows [("default", .string "function iterator() \x7b\x7d")] },
    { name := "keys", category := "Objects", dependencies := ["shimKeys"],
      variants := Table.ofRows [("default", .string "var keys = shimKeys;")] },
    { name := "shimKeys",
      variants := Table.ofRows [("legacy", .string "function shimKeys() \x7b\x7d")] }]

/-- The titles of the small registry. -/
def sampleHeader : RegistryHeader where
  version := .string "2.4.1"
  bundles := Table.ofRows [("backbone", ["each", "keys"])]

/-- The small registry. -/
def sample : Registry where
  header := sampleHeader
  entries := sampleEntries
  aliases := Table.ofRows [("forEach", "each")]
  order := ["lodash", "isArray", "iterator", "each", "map", "shimKeys", "keys"]

theorem ofEntries_sampleEntries : ofEntries sampleEntries sampleHeader = .ok sample := by
  decide +kernel

end CustomBuild.Registry
