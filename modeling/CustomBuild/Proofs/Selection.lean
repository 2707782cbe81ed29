import CustomBuild.Proofs.Registry.Accepted
import CustomBuild.Selection
import Mathlib

/-!
# What a command selects

The meaning of a command as sets of names: `denoted` is what values denote, `base` what a command
starts from, and the functions asked for are the base and the names to add, less the two lists of
names to take away.  The selection is the least set that has these functions and everything that
they need of the public functions.

`mem_requested_iff` and `mem_arrange_close_iff` carry the two lists of a selection over to these
sets.  `select_eq_sets` is the result for every registry that is made of entries; it also has that
both lists stand in the order of the registry.
-/

namespace CustomBuild.Registry

variable {r : Registry} {c : Command} {s : Selection} {rule : CategoryMatch}
  {value x : String} {values : List String}

/-! ### The meaning of a command -/

/-- The value names the category, exactly or in any letter case. -/
def CategoryMatch.Names : CategoryMatch → String → Category → Prop
  | .exact, value, category => value = category.name
  | .anyCase, value, category => Text.lowered value = Text.lowered category.name

/-- **What a value denotes**: the public functions of the category that it names, and if it names
none, the public function with this name or alias. -/
def Denotes (r : Registry) (rule : CategoryMatch) (value x : String) : Prop :=
  ∃ e ∈ r.entries, e.isHelper = false ∧ e.name = x ∧
    ((∃ category, rule.Names value category ∧ e.category = category.name) ∨
      ((∀ category, ¬ rule.Names value category) ∧ (value = e.name ∨ value ∈ e.aliases)))

/-- The public functions that values denote. -/
def denoted (r : Registry) (rule : CategoryMatch) (values : List String) : Set String :=
  {x | ∃ value ∈ values, r.Denotes rule value x}

/-- What the list of names denotes, or if none is given, what one of the bundles denotes. -/
def listed (r : Registry) (c : Command) : Set String :=
  match c.included with
  | some names => r.denoted .exact names
  | none =>
    if "backbone" ∈ c.bundles then r.denoted .exact (r.bundle "backbone")
    else if "underscore" ∈ c.bundles then r.denoted .exact (r.bundle "underscore")
    else ∅

/-- **The base of a command**: what is listed together with the categories, or every public
function if there is no list of names, no bundle and no category. -/
def base (r : Registry) (c : Command) : Set String :=
  if c.included = none ∧ c.bundles = [] ∧ c.categories = [] then {x | r.IsPublicName x}
  else r.listed c ∪ r.denoted .anyCase c.categories

/-! ### Values -/

theorem CategoryMatch.category?_eq_some_iff {category : Category} :
    rule.category? value = some category ↔ rule.Names value category := by
  cases rule with
  | exact => exact Category.ofName?_eq_some_iff
  | anyCase => exact Category.ofAnyCase?_eq_some_iff

/-- A value names at most one category. -/
theorem CategoryMatch.Names.unique {a b : Category} (ha : rule.Names value a)
    (hb : rule.Names value b) : a = b := by
  rw [← category?_eq_some_iff] at ha hb
  exact Option.some.inj (ha.symm.trans hb)

theorem isHelper_eq_false_of_category {e : Entry} {category : Category}
    (h : e.category = category.name) : e.isHelper = false := by
  rw [Entry.isHelper, h]
  cases category <;> decide

theorem Denotes.isPublicName (h : r.Denotes rule value x) : r.IsPublicName x := by
  obtain ⟨e, he, hhelper, hname, -⟩ := h
  exact ⟨e, he, hname, hhelper⟩

theorem isPublicName_of_mem_denoted (h : x ∈ r.denoted rule values) : r.IsPublicName x := by
  obtain ⟨_, _, hx⟩ := h
  exact hx.isPublicName

/-- The functions that a registry finds for a value are those that it denotes. -/
theorem mem_denotation?_iff (h : r.Accepted) :
    x ∈ (r.denotation? rule value).getD [] ↔ r.Denotes rule value x := by
  unfold denotation? Denotes
  cases hcategory : rule.category? value with
  | some category =>
    have hnames := CategoryMatch.category?_eq_some_iff.1 hcategory
    rw [Option.getD_some, h.mem_byCategory_iff]
    constructor
    · rintro ⟨e, he, hname, hfiled⟩
      exact ⟨e, he, isHelper_eq_false_of_category hfiled, hname,
        Or.inl ⟨category, hnames, hfiled⟩⟩
    · rintro ⟨e, he, -, hname, ⟨other, hother, hfiled⟩ | ⟨hnone, -⟩⟩
      · exact ⟨e, he, hname, hnames.unique hother ▸ hfiled⟩
      · exact absurd hnames (hnone category)
  | none =>
    have hnone : ∀ category, ¬ rule.Names value category := by
      intro category hnames
      rw [CategoryMatch.category?_eq_some_iff.2 hnames] at hcategory
      cases hcategory
    -- without a category the value can only be a name or an alias
    have hresolve : x ∈ ((r.resolveAlias value).map fun name => [name]).getD [] ↔
        r.resolveAlias value = some x := by
      cases r.resolveAlias value with
      | none => simp
      | some name => simp [eq_comm]
    rw [hresolve, h.resolveAlias_eq_some_iff]
    constructor
    · rintro ⟨e, he, rfl, hhelper, hvalue⟩
      exact ⟨e, he, hhelper, rfl, Or.inr ⟨hnone, hvalue⟩⟩
    · rintro ⟨e, he, hhelper, rfl, ⟨category, hnames, -⟩ | ⟨-, hvalue⟩⟩
      · exact absurd hnames (hnone category)
      · exact ⟨e, he, rfl, hhelper, hvalue⟩

theorem mem_expand_iff (h : r.Accepted) : x ∈ r.expand rule values ↔ x ∈ r.denoted rule values := by
  unfold expand denoted
  rw [NameSet.mem_ofList, List.mem_flatMap, Set.mem_ofPred_eq]
  exact exists_congr fun value => and_congr_right fun _ => mem_denotation?_iff h

/-! ### The functions asked for -/

theorem hasSource_eq_false_iff :
    c.hasSource = false ↔ c.included = none ∧ c.bundles = [] ∧ c.categories = [] := by
  unfold Command.hasSource
  rw [Bool.or_eq_false_iff, Bool.or_eq_false_iff, Option.isSome_eq_false_iff,
    Option.isNone_iff_eq_none, Bool.not_eq_false', Bool.not_eq_false', List.isEmpty_iff,
    List.isEmpty_iff, and_assoc]

/-- Of the bundles the first keyword wins, and a list of names replaces them. -/
theorem listed_eq : r.listed c = r.denoted .exact (r.baseValues c) := by
  unfold listed baseValues
  cases c.included with
  | some names => rfl
  | none =>
    simp only [bundleKeywords, List.find?_cons, List.find?_nil]
    by_cases hbackbone : "backbone" ∈ c.bundles
    · simp [hbackbone]
    · by_cases hunderscore : "underscore" ∈ c.bundles
      · simp [hbackbone, hunderscore]
      · simp [hbackbone, hunderscore, denoted]

theorem mem_base_iff :
    x ∈ r.base c ↔
      if c.hasSource = false then r.IsPublicName x
      else x ∈ r.denoted .exact (r.baseValues c) ∨ x ∈ r.denoted .anyCase c.categories := by
  unfold base
  by_cases hsource : c.hasSource = false
  · rw [if_pos hsource, if_pos (hasSource_eq_false_iff.1 hsource)]
    exact Iff.rfl
  · rw [if_neg hsource, if_neg (mt hasSource_eq_false_iff.2 hsource), listed_eq]
    exact Iff.rfl

theorem isPublicName_of_mem_base (h : x ∈ r.base c) : r.IsPublicName x := by
  rw [mem_base_iff] at h
  split_ifs at h
  · exact h
  · exact h.elim isPublicName_of_mem_denoted isPublicName_of_mem_denoted

/-- **The functions asked for** are the base and the names to add, less the names to take away. -/
theorem mem_requested_iff (h : r.Accepted) :
    x ∈ r.requested c ↔
      x ∈ ((r.base c ∪ r.denoted .exact c.plus) \ r.denoted .exact c.minus) \
        r.denoted .exact c.excluded := by
  -- the filter asks for a public name once, the sets have public names only
  have hbase : (x ∈ r.base c ∨ x ∈ r.denoted .exact c.plus) ↔
      r.IsPublicName x ∧ (c.hasSource = false ∨ x ∈ r.denoted .exact (r.baseValues c) ∨
        x ∈ r.denoted .anyCase c.categories ∨ x ∈ r.denoted .exact c.plus) := by
    constructor
    · intro hx
      refine ⟨hx.elim isPublicName_of_mem_base isPublicName_of_mem_denoted, ?_⟩
      rw [mem_base_iff] at hx
      split_ifs at hx with hsource
      · exact Or.inl hsource
      · exact Or.inr (or_assoc.1 hx)
    · rintro ⟨hpublic, hx⟩
      rw [mem_base_iff]
      split_ifs with hsource
      · exact Or.inl hpublic
      · exact or_assoc.2 (hx.resolve_left hsource)
  unfold requested
  simp only [List.mem_filter, Bool.and_eq_true, Bool.or_eq_true, Bool.not_eq_true',
    decide_eq_true_eq, decide_eq_false_iff_not, mem_expand_iff h, h.isPublic_iff]
  rw [Set.mem_sdiff, Set.mem_sdiff, Set.mem_union, hbase]
  constructor
  · rintro ⟨-, ⟨⟨hpublic, hx⟩, hminus⟩, hexcluded⟩
    exact ⟨⟨⟨hpublic, by rwa [or_assoc, or_assoc] at hx⟩, hminus⟩, hexcluded⟩
  · rintro ⟨⟨⟨hpublic, hx⟩, hminus⟩, hexcluded⟩
    exact ⟨h.mem_order_of_isPublicName hpublic,
      ⟨⟨hpublic, by rwa [or_assoc, or_assoc]⟩, hminus⟩, hexcluded⟩

theorem isPublicName_of_mem_requested (h : r.Accepted) (hx : x ∈ r.requested c) :
    r.IsPublicName x := by
  have hmem := (mem_requested_iff h).1 hx
  exact hmem.1.1.elim isPublicName_of_mem_base isPublicName_of_mem_denoted

/-! ### The closure -/

/-- What public functions reach by dependencies between public functions is public. -/
theorem isPublicName_of_reflTransGen {a : String} (ha : r.IsPublicName a)
    (h : Relation.ReflTransGen r.NeedsPublic a x) : r.IsPublicName x := by
  induction h with
  | refl => exact ha
  | tail _ hstep _ => exact hstep.2.2

/-- Chains of public dependencies from a public function. -/
theorem reaches_publicDependencies_iff (h : r.Accepted) {a : String} (ha : r.IsPublicName a) :
    Graph.Reaches r.publicDependencies a x ↔ Relation.ReflTransGen r.NeedsPublic a x := by
  rw [Graph.reaches_iff_reflTransGen]
  constructor
  · intro hax
    induction hax with
    | refl => exact .refl
    | tail _ hstep ih =>
      obtain ⟨hneeds, hpublic⟩ := h.mem_publicDependencies_iff.1 hstep
      exact ih.tail ⟨isPublicName_of_reflTransGen ha ih, hneeds, hpublic⟩
  · intro hax
    exact Relation.ReflTransGen.mono
      (fun _ _ hstep => h.mem_publicDependencies_iff.2 hstep.2) _ _ hax

/-- **The closure of names**, known or not, has what they reach by steps to public functions. -/
theorem mem_close_iff (h : r.Accepted) :
    x ∈ r.close values ↔ ∃ a ∈ values, Graph.Reaches r.publicDependencies a x := by
  -- the pool of the walk is never left, so it does not restrict the walk
  have hclosed : ∀ u ∈ values ++ r.order, ∀ v ∈ r.publicDependencies u, v ∈ values ++ r.order := by
    intro u _ v hv
    obtain ⟨hneeds, -⟩ := h.mem_publicDependencies_iff.1 hv
    exact List.mem_append_right _ (h.mem_order_of_needs hneeds)
  rw [close, NameSet.mem_ofList, Graph.mem_reachable_iff_of_closed hclosed]
  refine exists_congr fun a => and_congr_right fun ha => ?_
  exact and_iff_right (List.mem_append_left _ ha)

/-- **The closure of public functions** has what they reach by public dependencies. -/
theorem mem_arrange_close_iff (h : r.Accepted) (hpublic : ∀ a ∈ values, r.IsPublicName a) :
    x ∈ r.arrange (r.close values).toList ↔
      ∃ a ∈ values, Relation.ReflTransGen r.NeedsPublic a x := by
  have hreach : x ∈ r.close values ↔ ∃ a ∈ values, Relation.ReflTransGen r.NeedsPublic a x := by
    rw [mem_close_iff h]
    refine exists_congr fun a => and_congr_right fun ha => ?_
    exact reaches_publicDependencies_iff h (hpublic a ha)
  rw [mem_arrange_iff, NameSet.mem_toList, hreach]
  refine and_iff_left_of_imp ?_
  rintro ⟨a, ha, hax⟩
  exact h.mem_order_of_isPublicName (isPublicName_of_reflTransGen (hpublic a ha) hax)

/-! ### Selections -/

/-- What a selection is made of. -/
theorem select_eq_ok (hs : r.select c = .ok s) :
    s.requested = r.requested c ∧ s.names = r.arrange (r.close (r.requested c)).toList := by
  unfold select at hs
  simp only at hs
  split_ifs at hs
  cases hs
  exact ⟨rfl, rfl⟩

/-- The functions of a selection are what the requested ones reach by public dependencies. -/
theorem mem_names_iff (h : r.Accepted) (hs : r.select c = .ok s) :
    x ∈ s.names ↔ ∃ a ∈ s.requested, Relation.ReflTransGen r.NeedsPublic a x := by
  obtain ⟨hrequested, hnames⟩ := select_eq_ok hs
  rw [hnames, hrequested]
  exact mem_arrange_close_iff h fun a ha => isPublicName_of_mem_requested h ha

theorem isPublicName_of_mem_names (h : r.Accepted) (hs : r.select c = .ok s)
    (hx : x ∈ s.names) : r.IsPublicName x := by
  obtain ⟨a, ha, hax⟩ := (mem_names_iff h hs).1 hx
  rw [(select_eq_ok hs).1] at ha
  exact isPublicName_of_reflTransGen (isPublicName_of_mem_requested h ha) hax

/-- **The selection of a command.**  The functions asked for are given by the values of the command
alone.  The names are what these functions reach by dependencies between public functions, which is
the least set that has them and is closed under such dependencies.  Both lists stand in the order
of the registry. -/
theorem select_eq_sets {entries : List Entry} {header : RegistryHeader}
    (hr : ofEntries entries header = .ok r) (hs : r.select c = .ok s) :
    {x | x ∈ s.requested} =
        ((r.base c ∪ r.denoted .exact c.plus) \ r.denoted .exact c.minus) \
          r.denoted .exact c.excluded ∧
      {x | x ∈ s.names} = {x | ∃ a ∈ s.requested, Relation.ReflTransGen r.NeedsPublic a x} ∧
      IsLeast {closed : Set String | {x | x ∈ s.requested} ⊆ closed ∧
        ∀ a b, a ∈ closed → r.NeedsPublic a b → b ∈ closed} {x | x ∈ s.names} ∧
      (s.requested.Nodup ∧ s.requested.Pairwise r.Precedes) ∧
      s.names.Nodup ∧ s.names.Pairwise r.Precedes := by
  obtain ⟨h, -, -⟩ := accepted_of_ofEntries hr
  have hreach : ∀ x, x ∈ s.names ↔ ∃ a ∈ s.requested, Relation.ReflTransGen r.NeedsPublic a x :=
    fun _ => mem_names_iff h hs
  have hlists := select_eq_ok hs
  refine ⟨?_, Set.ext hreach, ⟨⟨?_, ?_⟩, ?_⟩, ?_, ?_⟩
  · rw [hlists.1]
    exact Set.ext fun x => mem_requested_iff h
  · intro x hx
    exact (hreach x).2 ⟨x, hx, .refl⟩
  · intro a b ha hab
    obtain ⟨start, hstart, hchain⟩ := (hreach a).1 ha
    exact (hreach b).2 ⟨start, hstart, hchain.tail hab⟩
  · -- a closed set has every chain that starts in it
    rintro closed ⟨hsubset, hclosed⟩ x hx
    obtain ⟨start, hstart, hchain⟩ := (hreach x).1 hx
    induction hchain with
    | refl => exact hsubset hstart
    | tail hbefore hstep ih => exact hclosed _ _ (ih ((hreach _).2 ⟨start, hstart, hbefore⟩)) hstep
  · rw [hlists.1]
    exact ⟨h.nodup_order.filter _, h.pairwise_precedes_filter _⟩
  · rw [hlists.2]
    exact ⟨h.nodup_order.filter _, h.pairwise_precedes_filter _⟩

/-- A whole category and one more function, and a name to take away that the latter needs. -/
def sampleCommand : Command where
  categories := ["OBJECTS"]
  plus := ["map"]
  minus := ["forEach"]

/-- What the small registry selects for it: the name that is taken away comes back. -/
def sampleSelection : Selection where
  names := ["isArray", "each", "map", "keys"]
  requested := ["isArray", "map", "keys"]

theorem select_sampleCommand : sample.select sampleCommand = .ok sampleSelection := by
  cbv

/-- The sets of a selection in the small registry. -/
theorem sampleSelection_eq_sets :
    ofEntries sampleEntries sampleHeader = .ok sample ∧
      sample.select sampleCommand = .ok sampleSelection ∧
      {x | x ∈ ["isArray", "map", "keys"]} =
        ((sample.base sampleCommand ∪ sample.denoted .exact ["map"]) \
          sample.denoted .exact ["forEach"]) \ sample.denoted .exact [] ∧
      {x | x ∈ ["isArray", "each", "map", "keys"]} =
        {x | ∃ a ∈ ["isArray", "map", "keys"], Relation.ReflTransGen sample.NeedsPublic a x} := by
  have h := select_eq_sets ofEntries_sampleEntries select_sampleCommand
  exact ⟨ofEntries_sampleEntries, select_sampleCommand, h.1, h.2.1⟩

end CustomBuild.Registry
