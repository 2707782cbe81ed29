import CustomBuild.Proofs.Command.Alike
import CustomBuild.Proofs.Related
import CustomBuild.Proofs.Selection
import Mathlib.Data.List.Nodup

/-!
# Spellings of a function

A public function is spelled by its name and by each of its aliases.  All spellings select the same,
in any list of a command, as long as they are not the names of categories (`select_spelling`).

A value is looked up as a category first, and an alias may well be called like one, since a registry
only checks aliases against names and against each other.  Such a spelling stands for the whole
category (`select_shadowed`).
-/

namespace CustomBuild

/-! ### Replacing values -/

/-- One value and what stands in its place: the value itself, or `b` in place of `a`. -/
def Replaces (a b value other : String) : Prop :=
  other = value ∨ value = a ∧ other = b

/-- **A command with values replaced**: wherever the lists of names of `c` have `a`, those of `d`
may have `b`.  The commands are the same otherwise. -/
structure Command.Respelled (a b : String) (c d : Command) : Prop where
  /-- the names to start from, if a list of them is given -/
  included : Option.Rel (List.Forall₂ (Replaces a b)) c.included d.included
  /-- the names to add -/
  plus : List.Forall₂ (Replaces a b) c.plus d.plus
  /-- the names to take away -/
  minus : List.Forall₂ (Replaces a b) c.minus d.minus
  /-- the further names to take away -/
  excluded : List.Forall₂ (Replaces a b) c.excluded d.excluded
  /-- the rest of both commands is the same -/
  rest : d = { c with included := d.included, plus := d.plus, minus := d.minus,
                      excluded := d.excluded }

theorem forall₂_replaces_refl {a b : String} (values : List String) :
    List.Forall₂ (Replaces a b) values values :=
  List.forall₂_same.2 fun _ _ => Or.inl rfl

namespace Registry

variable {r : Registry} {c d : Command} {a name : String} {values others : List String}

/-- **A spelling of a public function**: its name or one of its aliases. -/
def Spells (r : Registry) (a name : String) : Prop :=
  ∃ e ∈ r.entries, e.isHelper = false ∧ e.name = name ∧ (a = name ∨ a ∈ e.aliases)

/-- The value is the name of a category, as it is spelled. -/
def IsCategoryName (value : String) : Prop :=
  ∃ category : Category, value = category.name

/-! ### What a spelling denotes -/

theorem Spells.isPublicName (h : r.Spells a name) : r.IsPublicName name := by
  obtain ⟨e, he, hhelper, hname, -⟩ := h
  exact ⟨e, he, hname, hhelper⟩

theorem Spells.self (h : r.Spells a name) : r.Spells name name := by
  obtain ⟨e, he, hhelper, hname, -⟩ := h
  exact ⟨e, he, hhelper, hname, Or.inl rfl⟩

theorem isCategoryName_iff : IsCategoryName a ↔ (Category.ofName? a).isSome = true := by
  rw [Option.isSome_iff_exists]
  exact exists_congr fun _ => Category.ofName?_eq_some_iff.symm

instance : Decidable (IsCategoryName a) :=
  decidable_of_iff _ isCategoryName_iff.symm

/-- **A spelling denotes its function** unless it is the name of a category. -/
theorem Accepted.denotation?_of_spells (h : r.Accepted) (hspells : r.Spells a name)
    (hcategory : ¬ IsCategoryName a) : r.denotation? .exact a = some [name] := by
  have hresolve : r.resolveAlias a = some name := by
    obtain ⟨e, he, hhelper, hname, ha⟩ := hspells
    exact h.resolveAlias_eq_some_iff.2 ⟨e, he, hname, hhelper, ha⟩
  rw [isCategoryName_iff, Option.not_isSome_iff_eq_none] at hcategory
  rw [denotation?, CategoryMatch.category?, hcategory]
  exact congrArg (Option.map fun name => [name]) hresolve

/-- The name of a category denotes the category, whatever else it spells. -/
theorem denotation?_of_category {category : Category} (h : a = category.name) :
    r.denotation? .exact a = some (r.byCategory category) := by
  rw [denotation?, CategoryMatch.category?, Category.ofName?_eq_some_iff.2 h]

/-! ### Replacing a spelling by the name -/

section Respelled

variable (h : r.Accepted) (hspells : r.Spells a name)
  (hcategory : a = name ∨ ¬ IsCategoryName a ∧ ¬ IsCategoryName name)

include h hspells hcategory

/-- A value and its replacement are the same, or both denote the function. -/
theorem Accepted.denotation?_of_replaces {value other : String}
    (hvalue : Replaces a name value other) :
    other = value ∨
      r.denotation? .exact value = some [name] ∧ r.denotation? .exact other = some [name] := by
  obtain rfl | ⟨rfl, rfl⟩ := hvalue
  · exact Or.inl rfl
  · obtain heq | ⟨ha, hname⟩ := hcategory
    · exact Or.inl heq.symm
    · exact Or.inr ⟨h.denotation?_of_spells hspells ha, h.denotation?_of_spells hspells.self hname⟩

theorem Accepted.expand_respelled (hvalues : List.Forall₂ (Replaces a name) values others) :
    r.expand .exact values = r.expand .exact others := by
  have hdenotations : values.map (r.denotation? .exact) = others.map (r.denotation? .exact) := by
    refine map_eq_of_forall₂ (fun value other hvalue => ?_) hvalues
    obtain rfl | ⟨hleft, hright⟩ := h.denotation?_of_replaces hspells hcategory hvalue
    · rfl
    · rw [hleft, hright]
  have hexpand : ∀ l : List String, r.expand .exact l =
      NameSet.ofList ((l.map (r.denotation? .exact)).flatMap fun found => found.getD []) := by
    intro l
    rw [List.flatMap_map]
    rfl
  rw [hexpand, hexpand, hdenotations]

/-- A value that is replaced is known before and after, so the unknown values stay. -/
theorem Accepted.unknown_respelled (hvalues : List.Forall₂ (Replaces a name) values others) :
    r.unknown .exact values = r.unknown .exact others := by
  unfold unknown
  induction hvalues with
  | nil => rfl
  | cons hvalue _ ih =>
    obtain rfl | ⟨hleft, hright⟩ := h.denotation?_of_replaces hspells hcategory hvalue
    · rw [List.filter_cons, List.filter_cons, ih]
    · rw [List.filter_cons_of_neg (by simp [hleft]), List.filter_cons_of_neg (by simp [hright]), ih]

/-- **Commands that spell a function differently select the same.** -/
theorem Accepted.select_respelled (hcommand : Command.Respelled a name c d) :
    r.select c = r.select d := by
  have hbundles : c.bundles = d.bundles := by rw [hcommand.rest]
  have hcategories : c.categories = d.categories := by rw [hcommand.rest]
  have hstrict : c.strictNames = d.strictNames := by rw [hcommand.rest]
  have hsource : c.hasSource = d.hasSource :=
    hasSource_eq_of_rel hcommand.included (by rw [hbundles]) (by rw [hcategories])
  have hbase : List.Forall₂ (Replaces a name) (r.baseValues c) (r.baseValues d) :=
    rel_baseValues forall₂_replaces_refl hcommand.included fun _ => by rw [hbundles]
  -- each list is expanded in the same way, whichever of the two spellings it has
  have hrequested : r.requested c = r.requested d := by
    unfold requested
    rw [hsource, hcategories, h.expand_respelled hspells hcategory hbase,
      h.expand_respelled hspells hcategory hcommand.plus,
      h.expand_respelled hspells hcategory hcommand.minus,
      h.expand_respelled hspells hcategory hcommand.excluded]
  have hdropped : r.droppedValues c = r.droppedValues d := by
    unfold droppedValues
    rw [hcategories, h.unknown_respelled hspells hcategory hbase,
      h.unknown_respelled hspells hcategory hcommand.plus,
      h.unknown_respelled hspells hcategory hcommand.minus,
      h.unknown_respelled hspells hcategory hcommand.excluded]
  unfold select
  rw [hrequested, hdropped, hstrict]

end Respelled

/-! ### A spelling by itself -/

/-- What is picked from the order by being in a part of it is this part. -/
theorem filter_mem_filter (l : List String) (p : String → Bool) :
    (l.filter fun x => decide (x ∈ l.filter p)) = l.filter p :=
  List.filter_congr fun x hx => by simp [hx]

/-- **A command with one value** selects what the value denotes. -/
theorem Accepted.select_of_single {found : List String} (h : r.Accepted)
    (hfound : r.denotation? .exact a = some found) (hincluded : c.included = some [a])
    (hcategories : c.categories = []) (hplus : c.plus = []) (hminus : c.minus = [])
    (hexcluded : c.excluded = []) :
    ∃ s, r.select c = .ok s ∧ s.dropped = [] ∧
      s.requested = r.order.filter fun x => decide (x ∈ found) := by
  have hdropped : r.droppedValues c = [] := by
    simp [droppedValues, baseValues, unknown, hincluded, hcategories, hplus, hminus, hexcluded,
      hfound]
  have hpublic : ∀ x ∈ found, r.isPublic x = true := by
    intro x hx
    have hdenotes : r.Denotes .exact a x := (mem_denotation?_iff h).1 (by rwa [hfound])
    exact h.isPublic_iff.2 hdenotes.isPublicName
  have hrequested : r.requested c = r.order.filter fun x => decide (x ∈ found) := by
    refine List.filter_congr fun x _ => ?_
    have hsource : c.hasSource = true := by simp [Command.hasSource, hincluded]
    have hbase : x ∈ r.expand .exact (r.baseValues c) ↔ x ∈ found := by
      rw [baseValues, hincluded, expand, NameSet.mem_ofList]
      simp [hfound]
    have hnone : ∀ rule, x ∉ r.expand rule [] := fun rule => by
      simp [expand, NameSet.mem_ofList]
    rw [hsource, hcategories, hplus, hminus, hexcluded, Bool.eq_iff_iff]
    simpa [hbase, hnone] using hpublic x
  refine ⟨{ names := r.arrange (r.close (r.requested c)).toList, requested := r.requested c,
            dropped := r.droppedValues c }, ?_, hdropped, hrequested⟩
  simp [select, hdropped]

/-- **Spellings of a function.**  In the lists of a command a spelling can be replaced by the name
of its function without any effect on the selection, an error included, as long as neither of them
is the name of a category.  By itself a spelling selects its function, or if it is the name of a
category, this category. -/
theorem select_spelling {entries : List Entry} {header : RegistryHeader}
    (hr : ofEntries entries header = .ok r) (hspells : r.Spells a name) :
    (a = name ∨ ¬ IsCategoryName a ∧ ¬ IsCategoryName name →
        ∀ c d, Command.Respelled a name c d → r.select c = r.select d) ∧
      ∀ c : Command, c.included = some [a] → c.categories = [] → c.plus = [] → c.minus = [] →
        c.excluded = [] →
        ∃ s, r.select c = .ok s ∧ s.dropped = [] ∧
          (¬ IsCategoryName a → s.requested = [name]) ∧
          ∀ category : Category, a = category.name → s.requested = r.byCategory category := by
  obtain ⟨h, -, -⟩ := accepted_of_ofEntries hr
  refine ⟨fun hcategory c d => h.select_respelled hspells hcategory, ?_⟩
  intro c hincluded hcategories hplus hminus hexcluded
  by_cases ha : IsCategoryName a
  · -- the name of a category means the category, even if a function has it too
    obtain ⟨category, hcategory⟩ := ha
    obtain ⟨s, hs, hdropped, hrequested⟩ := h.select_of_single (denotation?_of_category hcategory)
      hincluded hcategories hplus hminus hexcluded
    refine ⟨s, hs, hdropped, fun hnot => absurd ⟨category, hcategory⟩ hnot, ?_⟩
    intro other hother
    have hnames : CategoryMatch.exact.Names a category := hcategory
    rw [hrequested, hnames.unique hother]
    exact filter_mem_filter _ _
  · obtain ⟨s, hs, hdropped, hrequested⟩ := h.select_of_single (h.denotation?_of_spells hspells ha)
      hincluded hcategories hplus hminus hexcluded
    refine ⟨s, hs, hdropped, fun _ => ?_, fun category hcategory => absurd ⟨category, hcategory⟩ ha⟩
    have hmem := h.mem_order_of_isPublicName hspells.isPublicName
    rw [hrequested]
    simp only [List.mem_singleton]
    rw [List.filter_eq, List.count_eq_one_of_mem h.nodup_order hmem]
    rfl

/-- A command that lists the alias of a function twice. -/
def aliasCommand : Command where
  included := some ["map", "forEach"]
  minus := ["forEach"]
  strictNames := true

/-- The same command with the name in the first place. -/
def nameCommand : Command where
  included := some ["map", "each"]
  minus := ["forEach"]
  strictNames := true

/-- The alias of the small registry. -/
theorem sample_spells_forEach : sample.Spells "forEach" "each" :=
  ⟨sampleEntries[3], by simp [sample, sampleEntries], rfl, rfl, Or.inr (by decide)⟩

theorem aliasCommand_respelled : Command.Respelled "forEach" "each" aliasCommand nameCommand where
  included := .some (.cons (Or.inl rfl) (.cons (Or.inr ⟨rfl, rfl⟩) .nil))
  plus := .nil
  minus := .cons (Or.inl rfl) .nil
  excluded := .nil
  rest := rfl

/-- The alias in place of the name makes no difference, and by itself it selects its function. -/
theorem sample_selects_forEach :
    ofEntries sampleEntries sampleHeader = .ok sample ∧ sample.Spells "forEach" "each" ∧
      ¬ IsCategoryName "forEach" ∧ ¬ IsCategoryName "each" ∧
      Command.Respelled "forEach" "each" aliasCommand nameCommand ∧
      sample.select aliasCommand = sample.select nameCommand ∧
      ∃ s, sample.select { included := some ["forEach"] } = .ok s ∧ s.dropped = [] ∧
        s.requested = ["each"] := by
  have halias : ¬ IsCategoryName "forEach" := by decide
  have hname : ¬ IsCategoryName "each" := by decide
  obtain ⟨hreplaced, hsingle⟩ := select_spelling ofEntries_sampleEntries sample_spells_forEach
  obtain ⟨s, hs, hdropped, hrequested, -⟩ :=
    hsingle { included := some ["forEach"] } rfl rfl rfl rfl rfl
  exact ⟨ofEntries_sampleEntries, sample_spells_forEach, halias, hname, aliasCommand_respelled,
    hreplaced (Or.inr ⟨halias, hname⟩) _ _ aliasCommand_respelled, s, hs, hdropped,
    hrequested halias⟩

/-- A function with the name of a category as its alias, and one that is filed under it. -/
def shadowedEntries : List Entry :=
  [{ name := "lodash", variants := Table.ofRows [("default", .string "var lodash = \x7b\x7d;")] },
    { name := "first", category := "Objects", aliases := ["Arrays"],
      variants := Table.ofRows [("default", .string "function first() \x7b\x7d")] },
    { name := "last", category := "Arrays",
      variants := Table.ofRows [("default", .string "function last() \x7b\x7d")] }]

/-- The registry of these entries. -/
def shadowed : Registry where
  header := { version := .string "2.4.1" }
  entries := shadowedEntries
  aliases := Table.ofRows [("Arrays", "first")]
  order := ["lodash", "first", "last"]

/-- **An alias called like a category** selects the category and not its function, although the
registry is accepted. -/
theorem select_shadowed :
    ofEntries shadowedEntries { version := .string "2.4.1" } = .ok shadowed ∧
      shadowed.Spells "Arrays" "first" ∧
      Command.Respelled "Arrays" "first" { included := some ["Arrays"] }
        { included := some ["first"] } ∧
      shadowed.select { included := some ["Arrays"] } =
        .ok { names := ["last"], requested := ["last"] } ∧
      shadowed.select { included := some ["first"] } =
        .ok { names := ["first"], requested := ["first"] } := by
  refine ⟨?_, ?_, ?_, ?_, ?_⟩
  · decide +kernel
  · exact ⟨shadowedEntries[1], by simp [shadowed, shadowedEntries], rfl, rfl, Or.inr (by decide)⟩
  · exact ⟨.some (.cons (Or.inr ⟨rfl, rfl⟩) .nil), .nil, .nil, .nil, rfl⟩
  · cbv
  · cbv

end Registry

end CustomBuild
