import CustomBuild.Proofs.Graph.Earliest
import CustomBuild.Proofs.Registry.Accepted
import CustomBuild.Proofs.Selection

/-!
# Registries with one entry more

`Extends` relates a registry to one that has one entry more, which none of the others knows of.  The
order of the smaller registry is that of the larger one without the new name
(`extends_of_ofEntries`): of the names that could come next the earliest declared one does, and the
new name changes neither what the others wait for nor which of them is declared first.

So whatever a registry picks from its order is the same in both if the same names are picked
(`Extends.filter_eq`), and look-ups of other names find what they found (`Extends.lookup_eq`).  From
these two facts it follows that a command selects the same functions (`Extends.select_eq`) if the
new entry is a helper, or a public function that the command stands apart from (`Apart`).
-/

namespace CustomBuild

namespace Registry

variable {r r' : Registry} {e : Entry} {c : Command} {rule : CategoryMatch}
  {a b name value x : String} {names values : List String}

/-! ### The order of a registry -/

/-- **In the order of a registry the earliest declared entry comes first.** -/
theorem earliestFirst_order {entries : List Entry} {header : RegistryHeader}
    (hr : ofEntries entries header = .ok r) :
    Graph.EarliestFirst (r.entries.map Entry.name) r.dependencies r.order := by
  obtain ⟨h, -, -⟩ := accepted_of_ofEntries hr
  obtain ⟨-, -, -, hnodup, horder⟩ := ofSound_eq_ok (ofSound_of_ofEntries hr).2
  have hearliest := Graph.Dependencies.dependencyOrder_earliest hnodup horder
  exact hearliest.of_subset fun _ _ _ hd => (mem_graph_of_iff h.sound).1 hd

/-! ### One entry more -/

/-- **Whether a registry has one entry more** than another, and the same titles and bundles. -/
structure Extends (r r' : Registry) (e : Entry) : Prop where
  /-- the smaller registry is accepted, so none of its entries knows of the new one -/
  old : r.Accepted
  /-- the larger registry is accepted -/
  new : r'.Accepted
  /-- it has the new entry and the others -/
  mem_entries_iff : ∀ other, other ∈ r'.entries ↔ other = e ∨ other ∈ r.entries
  /-- the titles and the bundles are the same -/
  header_eq : r'.header = r.header
  /-- the order is the same apart from the new name -/
  order_eq : r.order = Graph.without e.name r'.order

/-- The names of entries without one of them. -/
theorem map_name_eq_without {front back : List Entry}
    (h : ((front ++ e :: back).map Entry.name).Nodup) :
    (front ++ back).map Entry.name =
      Graph.without e.name ((front ++ e :: back).map Entry.name) := by
  rw [List.map_append, List.map_cons, List.nodup_middle, List.nodup_cons] at h
  have hkeep : Graph.without e.name (front.map Entry.name ++ back.map Entry.name) =
      front.map Entry.name ++ back.map Entry.name := by
    refine List.filter_eq_self.2 fun x hx => decide_eq_true ?_
    rintro rfl
    exact h.1 hx
  rw [List.map_append, ← hkeep, List.map_append, List.map_cons]
  unfold Graph.without
  rw [List.filter_append, List.filter_append, List.filter_cons, if_neg (by simp)]

/-- Other names find in the larger registry what they find in the smaller one. -/
theorem lookup_eq_of_mem_entries_iff (h : r.Accepted) (h' : r'.Accepted)
    (hmem : ∀ other, other ∈ r'.entries ↔ other = e ∨ other ∈ r.entries) (hname : name ≠ e.name) :
    r'.lookup name = r.lookup name := by
  refine Option.ext fun other => ?_
  rw [h'.lookup_eq_some_iff, h.lookup_eq_some_iff, hmem]
  refine and_congr_left fun heq => or_iff_right fun hother => hname ?_
  rw [← heq, hother]

/-- **An entry more** at any place leaves the order of the others as it is. -/
theorem extends_of_ofEntries {front back : List Entry} {header : RegistryHeader}
    (hr : ofEntries (front ++ back) header = .ok r)
    (hr' : ofEntries (front ++ e :: back) header = .ok r') : r.Extends r' e := by
  obtain ⟨h, hentries, hheader⟩ := accepted_of_ofEntries hr
  obtain ⟨h', hentries', hheader'⟩ := accepted_of_ofEntries hr'
  have hmem : ∀ other, other ∈ r'.entries ↔ other = e ∨ other ∈ r.entries := by
    intro other
    rw [hentries, hentries', List.mem_append, List.mem_append, List.mem_cons]
    exact or_left_comm
  have hnodup := h'.sound.names_nodup
  have hnames : r.entries.map Entry.name =
      Graph.without e.name (r'.entries.map Entry.name) := by
    rw [hentries']
    rw [hentries'] at hnodup
    rw [hentries, map_name_eq_without hnodup]
  -- the order of the larger registry without the new name is one that the smaller could have, and
  -- it has only one
  have hearliest := earliestFirst_order hr
  have hperm := h.order_perm
  rw [hnames] at hearliest hperm
  refine ⟨h, h', hmem, hheader'.trans hheader.symm, ?_⟩
  refine hearliest.eq_without hnodup hperm h'.order_perm h.order_dependencies
    h'.order_dependencies (earliestFirst_order hr') (fun v hv => ?_) fun v hv => ?_
  · rw [dependencies, dependencies, lookup_eq_of_mem_entries_iff h h' hmem hv]
  · -- what an entry of the smaller registry needs is one of its own
    have horder := h.mem_order_of_needs (h.mem_dependencies_iff.1 hv)
    exact (Graph.mem_without.1 (hperm.mem_iff.1 horder)).2 rfl

namespace Extends

/-! ### Look-ups -/

theorem name_not_mem_order (h : r.Extends r' e) : e.name ∉ r.order := by
  rw [h.order_eq, Graph.mem_without]
  exact fun hname => hname.2 rfl

theorem ne_name (h : r.Extends r' e) (hname : name ∈ r.order) : name ≠ e.name := by
  rintro rfl
  exact h.name_not_mem_order hname

theorem mem_order_iff (h : r.Extends r' e) : name ∈ r.order ↔ name ∈ r'.order ∧ name ≠ e.name := by
  rw [h.order_eq, Graph.mem_without]

/-- **Look-ups of other names** find what they found. -/
theorem lookup_eq (h : r.Extends r' e) (hname : name ≠ e.name) :
    r'.lookup name = r.lookup name :=
  lookup_eq_of_mem_entries_iff h.old h.new h.mem_entries_iff hname

/-- **What does not hold of the new entry** holds of one of the others. -/
theorem exists_mem_entries_iff (h : r.Extends r' e) {p : Entry → Prop} (hp : ¬ p e) :
    (∃ other ∈ r'.entries, p other) ↔ ∃ other ∈ r.entries, p other := by
  constructor
  · rintro ⟨other, hother, hpother⟩
    rcases (h.mem_entries_iff other).1 hother with rfl | hold
    · exact absurd hpother hp
    · exact ⟨other, hold, hpother⟩
  · rintro ⟨other, hother, hpother⟩
    exact ⟨other, (h.mem_entries_iff other).2 (Or.inr hother), hpother⟩

theorem exists_entry_iff (h : r.Extends r' e) {p : Entry → Prop} (hname : name ≠ e.name) :
    (∃ other ∈ r'.entries, other.name = name ∧ p other) ↔
      ∃ other ∈ r.entries, other.name = name ∧ p other :=
  h.exists_mem_entries_iff fun hentry => hname hentry.1.symm

theorem isHelperName_iff (h : r.Extends r' e) (hname : name ≠ e.name) :
    r'.IsHelperName name ↔ r.IsHelperName name :=
  h.exists_entry_iff hname

theorem isPublicName_iff (h : r.Extends r' e) (hname : name ≠ e.name) :
    r'.IsPublicName name ↔ r.IsPublicName name :=
  h.exists_entry_iff hname

theorem needs_iff (h : r.Extends r' e) (ha : a ≠ e.name) : r'.Needs a b ↔ r.Needs a b :=
  h.exists_entry_iff ha

/-! ### What is picked from the order -/

/-- **What is picked from the order** is the same if the same names are picked. -/
theorem filter_eq (h : r.Extends r' e) {p p' : String → Bool}
    (hmem : ∀ x, x ∈ r'.order.filter p' ↔ x ∈ r.order.filter p) :
    r'.order.filter p' = r.order.filter p := by
  -- both pick from the larger order, and the new name is picked by neither
  rw [h.order_eq, Graph.without, List.filter_filter]
  refine List.filter_congr fun x hx => ?_
  have hiff := hmem x
  rw [List.mem_filter, List.mem_filter, h.mem_order_iff] at hiff
  simp only [hx, true_and] at hiff
  rw [Bool.eq_iff_iff, hiff, Bool.and_eq_true, decide_eq_true_eq, and_comm]

/-- Names other than the new one are arranged as they were. -/
theorem arrange_eq (h : r.Extends r' e) (hnames : ∀ x ∈ names, x ≠ e.name) :
    r'.arrange names = r.arrange names := by
  have hmem : ∀ x, x ∈ r'.arrange names ↔ x ∈ r.arrange names := by
    intro x
    rw [mem_arrange_iff, mem_arrange_iff, h.mem_order_iff]
    exact and_congr_right fun hx => (and_iff_left (hnames x hx)).symm
  exact h.filter_eq hmem

/-! ### Chains -/

/-- Chains of one relation are chains of another that has at least their steps. -/
theorem reflTransGen_of_closed {R R' : String → String → Prop} {P : String → Prop}
    (hstep : ∀ u v, P u → R u v → P v ∧ R' u v) (ha : P a)
    (hax : Relation.ReflTransGen R a x) : Relation.ReflTransGen R' a x := by
  have hboth : P x ∧ Relation.ReflTransGen R' a x := by
    induction hax with
    | refl => exact ⟨ha, .refl⟩
    | tail _ hlast ih =>
      obtain ⟨hnext, hlast'⟩ := hstep _ _ ih.1 hlast
      exact ⟨hnext, ih.2.tail hlast'⟩
  exact hboth.2

/-- Relations with the same steps from certain names, which they do not lead away from, have the
same chains from them. -/
theorem reflTransGen_iff_of_closed {R R' : String → String → Prop} {P : String → Prop}
    (hstep : ∀ u v, P u → (R' u v ↔ R u v)) (hclosed : ∀ u v, P u → R u v → P v) (ha : P a) :
    Relation.ReflTransGen R' a x ↔ Relation.ReflTransGen R a x := by
  constructor
  · refine reflTransGen_of_closed (fun u v hu huv => ?_) ha
    have hold := (hstep u v hu).1 huv
    exact ⟨hclosed u v hu hold, hold⟩
  · exact reflTransGen_of_closed (fun u v hu huv => ⟨hclosed u v hu huv, (hstep u v hu).2 huv⟩) ha

/-- What names of the smaller registry lead to is what it was. -/
theorem reflTransGen_needs_iff (h : r.Extends r' e) (ha : a ∈ r.order) :
    Relation.ReflTransGen r'.Needs a x ↔ Relation.ReflTransGen r.Needs a x :=
  reflTransGen_iff_of_closed (P := (· ∈ r.order)) (fun _ _ hu => h.needs_iff (h.ne_name hu))
    (fun _ _ _ huv => h.old.mem_order_of_needs huv) ha

theorem reflTransGen_needsPublic_iff (h : r.Extends r' e) (ha : a ∈ r.order) :
    Relation.ReflTransGen r'.NeedsPublic a x ↔ Relation.ReflTransGen r.NeedsPublic a x := by
  refine reflTransGen_iff_of_closed (P := (· ∈ r.order)) (fun u v hu => ?_)
    (fun _ _ _ huv => h.old.mem_order_of_needs huv.2.1) ha
  unfold NeedsPublic
  rw [h.isPublicName_iff (h.ne_name hu), h.needs_iff (h.ne_name hu)]
  refine and_congr_right fun _ => and_congr_right fun huv => ?_
  exact h.isPublicName_iff (h.ne_name (h.old.mem_order_of_needs huv))

end Extends

/-! ### Values -/

/-- A value that an entry is meant by: its name, an alias of it, or the name of its category. -/
def CategoryMatch.Means (rule : CategoryMatch) (value : String) (e : Entry) : Prop :=
  value = e.name ∨ value ∈ e.aliases ∨
    ∃ category, rule.Names value category ∧ e.category = category.name

/-- The values that a command lists. -/
def listedValues (c : Command) : List String :=
  c.included.getD [] ++ c.categories ++ c.plus ++ c.minus ++ c.excluded

theorem subset_listedValues (c : Command) :
    c.categories ⊆ listedValues c ∧ c.plus ⊆ listedValues c ∧ c.minus ⊆ listedValues c ∧
      c.excluded ⊆ listedValues c := by
  refine ⟨?_, ?_, ?_, ?_⟩ <;> intro value hvalue <;> simp [listedValues, hvalue]

/-- **Whether a command stands apart from an entry**: it starts from a base, none of its values
means the entry, in whatever letter case a category is given, and if it starts from a bundle, the
bundle does not list the name of the category. -/
structure Apart (r : Registry) (c : Command) (e : Entry) : Prop where
  /-- without a base the command would start from every function -/
  hasSource : c.hasSource = true
  /-- no value of the command is the name, an alias or the category -/
  values : ∀ value ∈ listedValues c,
    value ≠ e.name ∧ value ∉ e.aliases ∧ Text.lowered value ≠ Text.lowered e.category
  /-- no member of its bundle is spelled like the category -/
  bundle : c.included = none → e.category ∉ r.baseValues c

theorem CategoryMatch.Names.lowered_eq {category : Category} (h : rule.Names value category) :
    Text.lowered value = Text.lowered category.name := by
  cases rule with
  | exact => exact congrArg Text.lowered h
  | anyCase => exact h

/-- The values of a command that stands apart from an entry do not mean it. -/
theorem Apart.not_means (h : r.Apart c e) (hvalue : value ∈ listedValues c) :
    ¬ rule.Means value e := by
  obtain ⟨hname, halias, hcategory⟩ := h.values value hvalue
  rintro (heq | hmem | ⟨category, hnames, hfiled⟩)
  · exact hname heq
  · exact halias hmem
  · exact hcategory (hfiled ▸ hnames.lowered_eq)

namespace Extends

/-- The members of a bundle do not mean a new entry unless they are spelled like its category. -/
theorem not_means_of_mem_bundle (h : r.Extends r' e) (hpublic : e.isHelper = false)
    {keyword : String} (hvalue : value ∈ r.bundle keyword) (hne : value ≠ e.category) :
    ¬ CategoryMatch.exact.Means value e := by
  -- bundles list public names of the old registry, and the new entry has none of these
  have hmember : r.IsPublicName value := by
    unfold bundle at hvalue
    cases hget : r.header.bundles.get? keyword with
    | none =>
      rw [hget] at hvalue
      cases hvalue
    | some members =>
      rw [hget] at hvalue
      have hrow : (keyword, members) ∈ r.header.bundles.rows :=
        (lookup_eq_some_iff_of_nodup r.header.bundles.distinct).1 hget
      exact h.old.sound.member_public _ hrow value hvalue
  have horder := h.old.mem_order_of_isPublicName hmember
  rintro (heq | halias | ⟨category, hnames, hfiled⟩)
  · exact h.ne_name horder heq
  · -- an alias of an entry is no name of another
    have hentry : e ∈ r'.entries := (h.mem_entries_iff e).2 (Or.inl rfl)
    have hnot := h.new.sound.alias_ne_name e hentry hpublic value halias
    exact hnot (h.new.order_perm.mem_iff.1 (h.mem_order_iff.1 horder).1)
  · exact hne (Eq.trans hnames hfiled.symm)

/-- The base values of a command are the same. -/
theorem baseValues_eq (h : r.Extends r' e) : r'.baseValues c = r.baseValues c := by
  unfold baseValues bundle
  rw [h.header_eq]

/-- A value that does not mean the new entry resolves as it did. -/
theorem resolveAlias_eq (h : r.Extends r' e)
    (hvalue : e.isHelper = false → ¬ rule.Means value e) :
    r'.resolveAlias value = r.resolveAlias value := by
  refine Option.ext fun name => ?_
  rw [h.new.resolveAlias_eq_some_iff, h.old.resolveAlias_eq_some_iff]
  refine h.exists_mem_entries_iff ?_
  rintro ⟨hname, hpublic, heq | halias⟩
  · exact hvalue hpublic (Or.inl (heq.trans hname.symm))
  · exact hvalue hpublic (Or.inr (Or.inl halias))

/-- A category that the new entry is not filed under has the functions that it had. -/
theorem byCategory_eq (h : r.Extends r' e) {category : Category}
    (hcategory : e.category ≠ category.name) : r'.byCategory category = r.byCategory category := by
  have hmem : ∀ x, x ∈ r'.byCategory category ↔ x ∈ r.byCategory category := by
    intro x
    rw [h.new.mem_byCategory_iff, h.old.mem_byCategory_iff]
    exact h.exists_mem_entries_iff fun hentry => hcategory hentry.2
  exact h.filter_eq hmem

/-- **A value that does not mean the new entry** denotes what it did. -/
theorem denotation?_eq (h : r.Extends r' e)
    (hvalue : e.isHelper = false → ¬ rule.Means value e) :
    r'.denotation? rule value = r.denotation? rule value := by
  unfold denotation?
  cases hcategory : rule.category? value with
  | some category =>
    have hne : e.category ≠ category.name := by
      intro hfiled
      refine hvalue (isHelper_eq_false_of_category hfiled) (Or.inr (Or.inr ⟨category, ?_, hfiled⟩))
      exact CategoryMatch.category?_eq_some_iff.1 hcategory
    simp only [h.byCategory_eq hne]
  | none => simp only [h.resolveAlias_eq hvalue]

theorem denoted_eq (h : r.Extends r' e)
    (hvalues : e.isHelper = false → ∀ value ∈ values, ¬ rule.Means value e) :
    r'.denoted rule values = r.denoted rule values := by
  ext x
  rw [← mem_expand_iff h.new, ← mem_expand_iff h.old]
  unfold expand
  rw [NameSet.mem_ofList, NameSet.mem_ofList, List.mem_flatMap, List.mem_flatMap]
  refine exists_congr fun value => and_congr_right fun hvalue => ?_
  rw [h.denotation?_eq fun hpublic => hvalues hpublic value hvalue]

theorem unknown_eq (h : r.Extends r' e)
    (hvalues : e.isHelper = false → ∀ value ∈ values, ¬ rule.Means value e) :
    r'.unknown rule values = r.unknown rule values := by
  refine List.filter_congr fun value hvalue => ?_
  rw [h.denotation?_eq fun hpublic => hvalues hpublic value hvalue]

/-! ### Selections -/

section Selecting

variable (h : r.Extends r' e) (hapart : e.isHelper = false → r.Apart c e)

include hapart in
omit h in
/-- A list of values of the command does not mean the new entry. -/
theorem not_means_of_subset (hsub : values ⊆ listedValues c) :
    e.isHelper = false → ∀ value ∈ values, ¬ rule.Means value e :=
  fun hpublic _ hvalue => (hapart hpublic).not_means (hsub hvalue)

include h hapart in
/-- Neither do the values of its base. -/
theorem not_means_baseValues :
    e.isHelper = false → ∀ value ∈ r.baseValues c, ¬ CategoryMatch.exact.Means value e := by
  intro hpublic value hvalue
  -- a list of names replaces any bundle
  cases hincluded : c.included with
  | some listed =>
    refine (hapart hpublic).not_means ?_
    simp only [baseValues, hincluded] at hvalue
    simp [listedValues, hincluded, hvalue]
  | none =>
    have hne : value ≠ e.category := fun heq =>
      (hapart hpublic).bundle hincluded (heq ▸ hvalue)
    simp only [baseValues, hincluded] at hvalue
    split at hvalue
    · exact h.not_means_of_mem_bundle hpublic hvalue hne
    · cases hvalue

include h hapart in
/-- The values that the registry does not know are the same. -/
theorem droppedValues_eq : r'.droppedValues c = r.droppedValues c := by
  obtain ⟨hcategories, hplus, hminus, hexcluded⟩ := subset_listedValues c
  unfold droppedValues
  rw [h.baseValues_eq, h.unknown_eq (h.not_means_baseValues hapart),
    h.unknown_eq (not_means_of_subset hapart hcategories),
    h.unknown_eq (not_means_of_subset hapart hplus),
    h.unknown_eq (not_means_of_subset hapart hminus),
    h.unknown_eq (not_means_of_subset hapart hexcluded)]

include h hapart in
/-- The base of the command is the same. -/
theorem base_eq : r'.base c = r.base c := by
  ext x
  rw [mem_base_iff, mem_base_iff, h.baseValues_eq, h.denoted_eq (h.not_means_baseValues hapart),
    h.denoted_eq (not_means_of_subset hapart (subset_listedValues c).1)]
  split_ifs with hsource
  · -- a command without a base does not stand apart from any function
    have hhelper : e.isHelper = true := by
      by_contra hpublic
      have hnone := (hapart (Bool.not_eq_true _ ▸ hpublic)).hasSource
      rw [hsource] at hnone
      cases hnone
    refine h.exists_mem_entries_iff fun hentry => ?_
    rw [hhelper] at hentry
    cases hentry.2
  · exact Iff.rfl

include h hapart in
/-- The functions asked for before the closure are the same. -/
theorem requested_eq : r'.requested c = r.requested c := by
  obtain ⟨-, hplus, hminus, hexcluded⟩ := subset_listedValues c
  have hmem : ∀ x, x ∈ r'.requested c ↔ x ∈ r.requested c := by
    intro x
    rw [mem_requested_iff h.new, mem_requested_iff h.old, h.base_eq hapart,
      h.denoted_eq (not_means_of_subset hapart hplus),
      h.denoted_eq (not_means_of_subset hapart hminus),
      h.denoted_eq (not_means_of_subset hapart hexcluded)]
  exact h.filter_eq hmem

omit hapart in
include h in
/-- Public functions of the smaller registry have the closure that they had. -/
theorem arrange_close_eq (hpublic : ∀ a ∈ values, r.IsPublicName a) :
    r'.arrange (r'.close values).toList = r.arrange (r.close values).toList := by
  have horder : ∀ a ∈ values, a ∈ r.order := fun a ha =>
    h.old.mem_order_of_isPublicName (hpublic a ha)
  have hmem : ∀ x, x ∈ r'.arrange (r'.close values).toList ↔
      x ∈ r.arrange (r.close values).toList := by
    intro x
    have hpublic' : ∀ a ∈ values, r'.IsPublicName a := fun a ha =>
      (h.isPublicName_iff (h.ne_name (horder a ha))).2 (hpublic a ha)
    rw [mem_arrange_close_iff h.new hpublic', mem_arrange_close_iff h.old hpublic]
    exact exists_congr fun a => and_congr_right fun ha =>
      h.reflTransGen_needsPublic_iff (horder a ha)
  exact h.filter_eq hmem

include h hapart in
/-- **A command selects the same functions** if it stands apart from the new one. -/
theorem select_eq : r'.select c = r.select c := by
  have hnames : r'.arrange (r'.close (r.requested c)).toList =
      r.arrange (r.close (r.requested c)).toList :=
    h.arrange_close_eq fun a ha => isPublicName_of_mem_requested h.old ha
  unfold select
  rw [h.droppedValues_eq hapart, h.requested_eq hapart]
  simp only [hnames]

end Selecting

end Extends

end Registry

end CustomBuild
