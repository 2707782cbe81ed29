import CustomBuild.Proofs.Script.Layout
import CustomBuild.Proofs.Script.Omission
import CustomBuild.Proofs.Selection

/-!
# What a script emits

`Registry.Emits` says when a list of fragments is right for a selection: no entry comes twice, the
entries are the wanted ones that can be emitted, each with its fragment, and every one of them
stands after its dependencies, public functions and helpers alike.

The plan of a script has such a list (`Accepted.emits_plan`).  Four parts meet there.  The selection
has the public functions that its functions need, the helpers of a script have the helpers that
these need, both are picked from one order in which dependencies come first, and what is left out is
closed under dependents.  Helpers need helpers only, so they may all stand before the functions.
-/

namespace CustomBuild

/-! ### Variants -/

namespace Entry

variable {e : Entry} {modes : NameSet} {fragment : Json}

/-- **The tags in the order of an entry**: the usual ones, unless the entry has an order of its
own. -/
def TriesInOrder (e : Entry) (tags : List String) : Prop :=
  (e.precedence = [] → tags = modeTags) ∧ (e.precedence ≠ [] → tags = e.precedence)

/-- **The variant for the active modes**: that of the first active tag that has one, and the default
one if there is no such tag. -/
inductive HasVariant (e : Entry) (modes : NameSet) (fragment : Json) : Prop where
  /-- the first tag that is active and has a variant -/
  | active {before after : List String} {tag : String}
    (horder : e.TriesInOrder (before ++ tag :: after)) (hmode : tag ∈ modes)
    (hvariant : (tag, fragment) ∈ e.variants.rows)
    (hfirst : ∀ other ∈ before, other ∈ modes → other ∉ e.variants.names)
  /-- no active tag has a variant -/
  | default {tags : List String} (horder : e.TriesInOrder tags)
    (hnone : ∀ tag ∈ tags, tag ∈ modes → tag ∉ e.variants.names)
    (hvariant : ("default", fragment) ∈ e.variants.rows)

theorem triesInOrder_tagOrder (e : Entry) : e.TriesInOrder e.tagOrder := by
  unfold TriesInOrder tagOrder
  constructor
  · intro h
    rw [h]
    rfl
  · exact fun h => if_neg (mt List.isEmpty_iff.1 h)

/-- **The fragment for the active modes** is the variant for them. -/
theorem hasVariant_of_fragment? (h : e.fragment? modes = some fragment) :
    e.HasVariant modes fragment := by
  unfold fragment? at h
  obtain ⟨hget, -⟩ := Option.filter_eq_some_iff.1 h
  have hvariant : (e.tagFor modes, fragment) ∈ e.variants.rows :=
    (lookup_eq_some_iff_of_nodup e.variants.distinct).1 hget
  have horder := e.triesInOrder_tagOrder
  unfold tagFor at hvariant
  cases hfind : e.tagOrder.find? fun tag => decide (tag ∈ modes) && e.variants.contains tag with
  | some tag =>
    obtain ⟨hactive, before, after, hsplit, hbefore⟩ := List.find?_eq_some_iff_append.1 hfind
    rw [hfind] at hvariant
    rw [hsplit] at horder
    rw [Bool.and_eq_true, decide_eq_true_eq] at hactive
    refine .active horder hactive.1 hvariant fun other hother hmode hname => ?_
    have hnot := hbefore other hother
    simp [hmode, Table.contains, hname] at hnot
  | none =>
    rw [hfind] at hvariant
    refine .default horder (fun tag htag hmode hname => ?_) hvariant
    have hnot := List.find?_eq_none.1 hfind tag htag
    simp [hmode, Table.contains, hname] at hnot

end Entry

/-! ### The right fragments -/

namespace Registry

variable {r : Registry} {c : Command} {s : Selection} {modes : NameSet} {names : List String}
  {a b name x : String} {p : Plan}

/-- A script for the names wants the core helper, the names, and the helpers that they need. -/
def Wanted (r : Registry) (names : List String) (x : String) : Prop :=
  x = coreName ∨ x ∈ names ∨
    r.IsHelperName x ∧ ∃ a ∈ names, Relation.ReflTransGen r.Needs a x

/-- **An entry cannot be emitted** if it has no fragment for the active modes, or needs an entry
that has none. -/
def Incomplete (r : Registry) (modes : NameSet) (x : String) : Prop :=
  ∃ e ∈ r.entries, e.fragment? modes = none ∧ Relation.ReflTransGen r.Needs x e.name

/-- **The right fragments** for a selection of functions. -/
structure Emits (r : Registry) (modes : NameSet) (names : List String) (emitted : List Emitted) :
    Prop where
  /-- no entry comes twice -/
  nodup : (emitted.map fun m => m.entry.name).Nodup
  /-- the entries are the wanted ones that can be emitted -/
  mem_iff : ∀ x, x ∈ (emitted.map fun m => m.entry.name) ↔
    r.Wanted names x ∧ ¬ r.Incomplete modes x
  /-- each contributes its fragment for the active modes -/
  fragment : ∀ m ∈ emitted, m.entry ∈ r.entries ∧ m.entry.fragment? modes = some m.fragment ∧
    m.entry.HasVariant modes m.fragment
  /-- each stands after its dependencies -/
  dependencies_first : ∀ before m after, emitted = before ++ m :: after →
    ∀ d ∈ m.entry.dependencies, d ∈ before.map fun m => m.entry.name

/-- The core helper needs nothing. -/
def HasPlainCore (r : Registry) : Prop :=
  ∃ e ∈ r.entries, e.name = coreName ∧ e.isHelper = true ∧ e.dependencies = []

theorem HasPlainCore.isHelperName (h : r.HasPlainCore) : r.IsHelperName coreName := by
  obtain ⟨e, he, hname, hhelper, -⟩ := h
  exact ⟨e, he, hname, hhelper⟩

/-! ### Fragments of names -/

/-- What is emitted for names are entries with their fragments. -/
theorem mem_emittedOf {m : Emitted} (hm : m ∈ r.emittedOf modes names) :
    m.entry ∈ r.entries ∧ m.entry.fragment? modes = some m.fragment := by
  unfold emittedOf at hm
  obtain ⟨name, -, hname⟩ := List.mem_filterMap.1 hm
  obtain ⟨e, he, hfragment⟩ := Option.bind_eq_some_iff.1 hname
  obtain ⟨fragment, hsome, rfl⟩ := Option.map_eq_some_iff.1 hfragment
  exact ⟨(mem_entries_of_lookup he).1, hsome⟩

/-- What is emitted for names has one of them. -/
theorem name_mem_of_mem_emittedOf {m : Emitted} (hm : m ∈ r.emittedOf modes names) :
    m.entry.name ∈ names := by
  unfold emittedOf at hm
  obtain ⟨name, hmem, hname⟩ := List.mem_filterMap.1 hm
  obtain ⟨e, he, hfragment⟩ := Option.bind_eq_some_iff.1 hname
  obtain ⟨fragment, -, rfl⟩ := Option.map_eq_some_iff.1 hfragment
  rwa [(mem_entries_of_lookup he).2]

/-- Names whose entries have a fragment are the names of what is emitted for them. -/
theorem map_name_emittedOf (hfragment : ∀ name ∈ names, r.fragment? modes name ≠ none) :
    ((r.emittedOf modes names).map fun m => m.entry.name) = names := by
  induction names with
  | nil => rfl
  | cons name rest ih =>
    obtain ⟨hname, hrest⟩ := List.forall_mem_cons.1 hfragment
    obtain ⟨fragment, hsome⟩ := Option.ne_none_iff_exists'.1 hname
    obtain ⟨e, he, hsource⟩ := Option.bind_eq_some_iff.1 hsome
    have hcons : r.emittedOf modes (name :: rest) = ⟨e, fragment⟩ :: r.emittedOf modes rest := by
      simp [emittedOf, he, hsource]
    rw [hcons, List.map_cons, ih hrest, (mem_entries_of_lookup he).2]

namespace Accepted

/-- An entry with the name of a helper is a helper. -/
theorem isHelper_eq_true {e : Entry} (h : r.Accepted) (he : e ∈ r.entries)
    (hname : r.IsHelperName e.name) : e.isHelper = true := by
  obtain ⟨other, hother, heq, hhelper⟩ := hname
  rwa [h.entry_eq he hother heq.symm]

/-- An entry with the name of a public function is no helper. -/
theorem isHelper_eq_false {e : Entry} (h : r.Accepted) (he : e ∈ r.entries)
    (hname : r.IsPublicName e.name) : e.isHelper = false := by
  obtain ⟨other, hother, heq, hpublic⟩ := hname
  rwa [h.entry_eq he hother heq.symm]

theorem fragment?_eq_none_iff (h : r.Accepted) (hname : name ∈ r.order) :
    r.fragment? modes name = none ↔
      ∃ e ∈ r.entries, e.fragment? modes = none ∧ e.name = name := by
  obtain ⟨e, he, rfl⟩ := h.mem_order_iff.1 hname
  rw [fragment?, h.lookup_eq_some_iff.2 ⟨he, rfl⟩, Option.bind_some]
  constructor
  · exact fun hnone => ⟨e, he, hnone, rfl⟩
  · rintro ⟨other, hother, hnone, heq⟩
    exact h.entry_eq hother he heq ▸ hnone

/-! ### Helpers -/

/-- **The helpers that names need** are those that the names of entries among them lead to. -/
theorem mem_helpersFor_iff (h : r.Accepted) :
    x ∈ r.helpersFor names ↔
      r.IsHelperName x ∧ ∃ a ∈ names, a ∈ r.order ∧ Relation.ReflTransGen r.Needs a x := by
  have hclosed : ∀ u ∈ r.order, ∀ v ∈ r.dependencies u, v ∈ r.order :=
    fun u _ v hv => h.mem_order_of_needs (h.mem_dependencies_iff.1 hv)
  rw [helpersFor, mem_arrange_iff, List.mem_filter, h.isHelper_iff,
    Graph.mem_reachable_iff_of_closed hclosed]
  simp only [h.reaches_dependencies_iff]
  constructor
  · rintro ⟨⟨hreach, hhelper⟩, -⟩
    exact ⟨hhelper, hreach⟩
  · rintro ⟨hhelper, hreach⟩
    exact ⟨⟨hreach, hhelper⟩, h.mem_order_of_isHelperName hhelper⟩

theorem mem_scriptHelpers_iff (h : r.Accepted) (hcore : coreName ∈ r.order)
    (hnames : ∀ a ∈ names, a ∈ r.order) :
    x ∈ r.scriptHelpers names ↔
      x = coreName ∨ r.IsHelperName x ∧ ∃ a ∈ names, Relation.ReflTransGen r.Needs a x := by
  rw [scriptHelpers, mem_arrange_iff, List.mem_cons, h.mem_helpersFor_iff]
  constructor
  · rintro ⟨hx | ⟨hhelper, a, ha, -, hreach⟩, -⟩
    · exact Or.inl hx
    · exact Or.inr ⟨hhelper, a, ha, hreach⟩
  · rintro (rfl | ⟨hhelper, a, ha, hreach⟩)
    · exact ⟨Or.inl rfl, hcore⟩
    · exact ⟨Or.inr ⟨hhelper, a, ha, hnames a ha, hreach⟩, h.mem_order_of_isHelperName hhelper⟩

end Accepted

/-! ### Plans -/

/-- The entries that a script could emit, dependencies first. -/
def candidates (r : Registry) (names : List String) : List String :=
  r.arrange (r.scriptHelpers names ++ names)

/-- The omissions of a script. -/
def omissionsFor (r : Registry) (modes : NameSet) (names : List String) : List Omission :=
  Omission.ofMissing (dependentsIn (r.dependencyRows (r.candidates names))) (r.candidates names)
    ((r.candidates names).filter fun name => (r.fragment? modes name).isNone)

/-- Whether a script does not leave an entry out. -/
def isKept (r : Registry) (modes : NameSet) (names : List String) (name : String) : Bool :=
  !((r.omissionsFor modes names).flatMap Omission.names).contains name

/-- The helpers of a script that are not left out. -/
def keptHelpers (r : Registry) (modes : NameSet) (names : List String) : List String :=
  (r.scriptHelpers names).filter (r.isKept modes names)

/-- The functions of a script that are not left out. -/
def keptFunctions (r : Registry) (modes : NameSet) (names : List String) : List String :=
  names.filter (r.isKept modes names)

/-- The plan of a script whose names are all found. -/
theorem plan_eq_of_contains (hfound : ∀ a ∈ r.order, r.contains a = true)
    (hnames : ∀ a ∈ names, a ∈ r.order) :
    r.plan modes names = .ok
      { helpers := r.emittedOf modes (r.keptHelpers modes names)
        functions := r.emittedOf modes (r.keptFunctions modes names)
        omissions := r.omissionsFor modes names } := by
  have hordered : r.ordered (r.scriptHelpers names ++ names) = .ok (r.candidates names) := by
    have hfind : (r.scriptHelpers names ++ names).find? (fun name => !r.contains name) = none := by
      rw [List.find?_eq_none]
      intro x hx
      have hmem : x ∈ r.order := by
        rcases List.mem_append.1 hx with hx | hx
        · exact (mem_arrange_iff.1 hx).2
        · exact hnames x hx
      simp [hfound x hmem]
    rw [ordered, hfind]
    rfl
  unfold plan
  simp only [hordered]
  rfl

namespace Accepted

/-- What a script for names of entries could emit is what it wants. -/
theorem mem_candidates_iff (h : r.Accepted) (hcore : coreName ∈ r.order)
    (hnames : ∀ a ∈ names, a ∈ r.order) : x ∈ r.candidates names ↔ r.Wanted names x := by
  rw [candidates, mem_arrange_iff, List.mem_append, h.mem_scriptHelpers_iff hcore hnames]
  unfold Wanted
  constructor
  · rintro ⟨(hx | hx) | hx, -⟩
    · exact Or.inl hx
    · exact Or.inr (Or.inr hx)
    · exact Or.inr (Or.inl hx)
  · rintro (rfl | hx | hx)
    · exact ⟨Or.inl (Or.inl rfl), hcore⟩
    · exact ⟨Or.inr hx, hnames x hx⟩
    · exact ⟨Or.inl (Or.inr hx), h.mem_order_of_isHelperName hx.1⟩

/-- **The plan of a script** for names of entries. -/
theorem plan_eq (h : r.Accepted) (hnames : ∀ a ∈ names, a ∈ r.order) :
    r.plan modes names = .ok
      { helpers := r.emittedOf modes (r.keptHelpers modes names)
        functions := r.emittedOf modes (r.keptFunctions modes names)
        omissions := r.omissionsFor modes names } :=
  plan_eq_of_contains (fun _ => h.contains_of_mem_order) hnames

end Accepted

/-! ### What a selection emits -/

section Selected

variable (h : r.Accepted) (hcore : r.HasPlainCore) (hs : r.select c = .ok s)

include h hs in
theorem mem_order_of_mem_names (hx : x ∈ s.names) : x ∈ r.order :=
  h.mem_order_of_isPublicName (isPublicName_of_mem_names h hs hx)

include h hcore in
theorem not_needs_of_coreName : ¬ r.Needs coreName b := by
  rintro ⟨e, he, hname, hb⟩
  obtain ⟨core, hmem, hcorename, -, hnone⟩ := hcore
  rw [h.entry_eq he hmem (hname.trans hcorename.symm), hnone] at hb
  cases hb

include h hcore hs in
/-- The entries of a script are the wanted ones. -/
theorem mem_candidates_iff : x ∈ r.candidates s.names ↔ r.Wanted s.names x :=
  h.mem_candidates_iff (h.mem_order_of_isHelperName hcore.isHelperName)
    fun _ ha => mem_order_of_mem_names h hs ha

include h hcore hs in
/-- **What a wanted entry needs is wanted.** -/
theorem Wanted.needs (ha : r.Wanted s.names a) (hab : r.Needs a b) : r.Wanted s.names b := by
  rcases ha with rfl | ha | ⟨hhelper, start, hstart, hchain⟩
  · exact absurd hab (not_needs_of_coreName h hcore)
  · rcases h.isPublicName_or_isHelperName (h.mem_order_of_needs hab) with hpublic | hhelper
    · -- a selection is closed under the dependencies between public functions
      obtain ⟨start, hstart, hchain⟩ := (mem_names_iff h hs).1 ha
      refine Or.inr (Or.inl ((mem_names_iff h hs).2 ⟨start, hstart, hchain.tail ?_⟩))
      exact ⟨isPublicName_of_mem_names h hs ha, hab, hpublic⟩
    · exact Or.inr (Or.inr ⟨hhelper, a, ha, .single hab⟩)
  · exact Or.inr (Or.inr ⟨h.isHelperName_of_needs hhelper hab, start, hstart, hchain.tail hab⟩)

include h hcore hs in
/-- Chains of dependencies from a wanted entry stay among the wanted ones. -/
theorem reflTransGen_needsWithin_iff (ha : a ∈ r.candidates s.names) :
    Relation.ReflTransGen (r.NeedsWithin (r.candidates s.names)) a b ↔
      Relation.ReflTransGen r.Needs a b := by
  constructor
  · exact Relation.ReflTransGen.mono (fun _ _ hstep => hstep.2.1) _ _
  · intro hab
    induction hab using Relation.ReflTransGen.head_induction_on with
    | refl => exact .refl
    | head hstep _ ih =>
      have hwanted := (mem_candidates_iff h hcore hs).1 ha
      have hnext := (mem_candidates_iff h hcore hs).2 (hwanted.needs h hcore hs hstep)
      exact (ih hnext).head ⟨ha, hstep, hnext⟩

include h hcore hs in
/-- **What a script leaves out** are the wanted entries that cannot be emitted. -/
theorem mem_omissionsFor_iff :
    x ∈ (r.omissionsFor modes s.names).flatMap Omission.names ↔
      r.Wanted s.names x ∧ r.Incomplete modes x := by
  unfold omissionsFor Incomplete
  rw [h.mem_omitted_iff, mem_candidates_iff h hcore hs]
  refine and_congr_right fun hwanted => ?_
  have hx := (mem_candidates_iff h hcore hs).2 hwanted
  constructor
  · rintro ⟨root, hroot, hnone, hchain⟩
    obtain ⟨e, he, hefragment, rfl⟩ := (h.fragment?_eq_none_iff (mem_arrange_iff.1 hroot).2).1 hnone
    exact ⟨e, he, hefragment, (reflTransGen_needsWithin_iff h hcore hs hx).1 hchain⟩
  · rintro ⟨e, he, hnone, hchain⟩
    have hwithin := (reflTransGen_needsWithin_iff h hcore hs hx).2 hchain
    -- the chain ends inside the list, so the walk starts from its end
    have hroot : e.name ∈ r.candidates s.names := by
      cases hwithin using Relation.ReflTransGen.casesOn with
      | refl => exact hx
      | tail _ hstep => exact hstep.2.2
    refine ⟨e.name, hroot, ?_, hwithin⟩
    exact (h.fragment?_eq_none_iff (mem_arrange_iff.1 hroot).2).2 ⟨e, he, hnone, rfl⟩

omit h hcore hs in
/-- What an entry without a fragment is needed for cannot be emitted. -/
theorem Incomplete.of_needs (hb : r.Incomplete modes b) (hab : r.Needs a b) :
    r.Incomplete modes a := by
  obtain ⟨e, he, hnone, hchain⟩ := hb
  exact ⟨e, he, hnone, hchain.head hab⟩

include h hcore hs in
theorem isKept_iff (hx : r.Wanted s.names x) :
    r.isKept modes s.names x = true ↔ ¬ r.Incomplete modes x := by
  rw [isKept, Bool.not_eq_true', ← Bool.not_eq_true, List.contains_iff_mem,
    mem_omissionsFor_iff h hcore hs]
  exact not_congr (and_iff_right hx)

include h hcore hs in
theorem mem_keptHelpers_iff :
    x ∈ r.keptHelpers modes s.names ↔
      r.IsHelperName x ∧ r.Wanted s.names x ∧ ¬ r.Incomplete modes x := by
  have hnames : ∀ a ∈ s.names, a ∈ r.order := fun _ ha => mem_order_of_mem_names h hs ha
  have hmem := h.mem_order_of_isHelperName hcore.isHelperName
  rw [keptHelpers, List.mem_filter, h.mem_scriptHelpers_iff hmem hnames]
  constructor
  · rintro ⟨rfl | hx, hkept⟩
    · have hwanted : r.Wanted s.names coreName := Or.inl rfl
      exact ⟨hcore.isHelperName, hwanted, (isKept_iff h hcore hs hwanted).1 hkept⟩
    · have hwanted : r.Wanted s.names x := Or.inr (Or.inr hx)
      exact ⟨hx.1, hwanted, (isKept_iff h hcore hs hwanted).1 hkept⟩
  · rintro ⟨hhelper, hwanted, hcomplete⟩
    refine ⟨?_, (isKept_iff h hcore hs hwanted).2 hcomplete⟩
    rcases hwanted with hx | hx | hx
    · exact Or.inl hx
    · -- a function of the selection is no helper
      exact absurd hhelper (h.not_isHelperName (isPublicName_of_mem_names h hs hx))
    · exact Or.inr hx

include h hcore hs in
theorem mem_keptFunctions_iff :
    x ∈ r.keptFunctions modes s.names ↔ x ∈ s.names ∧ ¬ r.Incomplete modes x := by
  rw [keptFunctions, List.mem_filter]
  exact and_congr_right fun hx => isKept_iff h hcore hs (Or.inr (Or.inl hx))

include h hcore hs in
/-- What is wanted and complete needs nothing else. -/
theorem wanted_of_mem_dependencies {u d : String} (hd : d ∈ r.dependencies u)
    (hkept : r.Wanted s.names u ∧ ¬ r.Incomplete modes u) :
    r.Wanted s.names d ∧ ¬ r.Incomplete modes d := by
  have hud := h.mem_dependencies_iff.1 hd
  exact ⟨hkept.1.needs h hcore hs hud, fun hbroken => hkept.2 (hbroken.of_needs hud)⟩

/-- What is picked from names in the order of the registry is picked from this order. -/
theorem filter_arrange (r : Registry) (names : List String) (p : String → Bool) :
    (r.arrange names).filter p = r.order.filter fun name => p name && names.contains name :=
  List.filter_filter

include h hcore hs in
/-- A helper needs helpers only, which stand before it. -/
theorem dependenciesFirst_keptHelpers :
    Graph.DependenciesFirst r.dependencies (r.keptHelpers modes s.names) := by
  intro before name after hsplit d hd
  have hname : name ∈ r.keptHelpers modes s.names := by
    rw [hsplit]
    simp
  obtain ⟨hhelper, hkept⟩ := (mem_keptHelpers_iff h hcore hs).1 hname
  have hdhelper := h.isHelperName_of_needs hhelper (h.mem_dependencies_iff.1 hd)
  have hdmem := (mem_keptHelpers_iff h hcore hs).2
    ⟨hdhelper, wanted_of_mem_dependencies h hcore hs hd hkept⟩
  rw [keptHelpers, scriptHelpers, filter_arrange] at hsplit hdmem
  exact h.order_dependencies.mem_before_of_filter hsplit hd (List.mem_filter.1 hdmem).2

include h hcore hs in
/-- **The kept names** stand after what they need: helpers among themselves, and functions after
the helpers. -/
theorem dependenciesFirst_kept :
    Graph.DependenciesFirst r.dependencies
      (r.keptHelpers modes s.names ++ r.keptFunctions modes s.names) := by
  have hfunctions := r.filter_arrange (r.close (r.requested c)).toList (r.isKept modes s.names)
  rw [← (select_eq_ok hs).2, ← keptFunctions] at hfunctions
  refine Graph.dependenciesFirst_append (dependenciesFirst_keptHelpers h hcore hs) ?_
  intro before name after hsplit d hd
  have hname : name ∈ r.keptFunctions modes s.names := by
    rw [hsplit]
    simp
  obtain ⟨hmem, hcomplete⟩ := (mem_keptFunctions_iff h hcore hs).1 hname
  have hdkept := wanted_of_mem_dependencies h hcore hs hd ⟨Or.inr (Or.inl hmem), hcomplete⟩
  -- helpers come before all functions, so only functions among the dependencies are left
  by_cases hdhelper : r.IsHelperName d
  · exact Or.inl ((mem_keptHelpers_iff h hcore hs).2 ⟨hdhelper, hdkept⟩)
  · have hdnames : d ∈ s.names := by
      rcases hdkept.1 with rfl | hd | ⟨hhelper, -⟩
      · exact absurd hcore.isHelperName hdhelper
      · exact hd
      · exact absurd hhelper hdhelper
    have hdmem := (mem_keptFunctions_iff h hcore hs).2 ⟨hdnames, hdkept.2⟩
    rw [hfunctions] at hsplit hdmem
    exact Or.inr (h.order_dependencies.mem_before_of_filter hsplit hd (List.mem_filter.1 hdmem).2)

include h hcore hs in
theorem nodup_kept :
    (r.keptHelpers modes s.names ++ r.keptFunctions modes s.names).Nodup := by
  have hnodup : s.names.Nodup := by
    rw [(select_eq_ok hs).2]
    exact h.nodup_order.filter _
  rw [List.nodup_append]
  refine ⟨(h.nodup_order.filter _).filter _, hnodup.filter _, ?_⟩
  -- no name is both that of a helper and that of a function
  rintro x hx y hy rfl
  have hpublic := isPublicName_of_mem_names h hs ((mem_keptFunctions_iff h hcore hs).1 hy).1
  exact h.not_isHelperName hpublic ((mem_keptHelpers_iff h hcore hs).1 hx).1

include h hcore hs in
/-- The kept names have fragments, so they are the names of what is emitted. -/
theorem map_name_kept :
    ((r.emittedOf modes (r.keptHelpers modes s.names) ++
        r.emittedOf modes (r.keptFunctions modes s.names)).map fun m => m.entry.name) =
      r.keptHelpers modes s.names ++ r.keptFunctions modes s.names := by
  have hcomplete : ∀ x ∈ r.keptHelpers modes s.names ++ r.keptFunctions modes s.names,
      x ∈ r.order ∧ ¬ r.Incomplete modes x := by
    intro x hx
    rcases List.mem_append.1 hx with hx | hx
    · obtain ⟨hhelper, -, hcomplete⟩ := (mem_keptHelpers_iff h hcore hs).1 hx
      exact ⟨h.mem_order_of_isHelperName hhelper, hcomplete⟩
    · obtain ⟨hmem, hcomplete⟩ := (mem_keptFunctions_iff h hcore hs).1 hx
      exact ⟨mem_order_of_mem_names h hs hmem, hcomplete⟩
  have hfragment : ∀ x ∈ r.keptHelpers modes s.names ++ r.keptFunctions modes s.names,
      r.fragment? modes x ≠ none := by
    intro x hx hnone
    obtain ⟨hmem, hcomplete⟩ := hcomplete x hx
    obtain ⟨e, he, hefragment, rfl⟩ := (h.fragment?_eq_none_iff hmem).1 hnone
    exact hcomplete ⟨e, he, hefragment, .refl⟩
  rw [List.forall_mem_append] at hfragment
  rw [List.map_append, map_name_emittedOf hfragment.1, map_name_emittedOf hfragment.2]

include h hcore hs in
/-- The helpers of a plan are helpers. -/
theorem isHelper_of_mem_emittedOf {m : Emitted}
    (hm : m ∈ r.emittedOf modes (r.keptHelpers modes s.names)) : m.entry.isHelper = true := by
  have hname := name_mem_of_mem_emittedOf hm
  exact h.isHelper_eq_true (mem_emittedOf hm).1 ((mem_keptHelpers_iff h hcore hs).1 hname).1

include h hs in
/-- The functions of a plan are public. -/
theorem isPublic_of_mem_emittedOf {m : Emitted}
    (hm : m ∈ r.emittedOf modes (r.keptFunctions modes s.names)) : m.entry.isHelper = false := by
  have hname := List.mem_of_mem_filter (name_mem_of_mem_emittedOf hm)
  exact h.isHelper_eq_false (mem_emittedOf hm).1 (isPublicName_of_mem_names h hs hname)

include h hcore hs in
/-- **What the plan of a script emits** is right for the selection. -/
theorem emits_plan (hp : r.plan modes s.names = .ok p) :
    r.Emits modes s.names (p.helpers ++ p.functions) := by
  rw [h.plan_eq fun _ ha => mem_order_of_mem_names h hs ha] at hp
  cases hp
  have hmap := @map_name_kept r c s modes h hcore hs
  have hmem : ∀ m ∈ r.emittedOf modes (r.keptHelpers modes s.names) ++
      r.emittedOf modes (r.keptFunctions modes s.names),
      m.entry ∈ r.entries ∧ m.entry.fragment? modes = some m.fragment := by
    intro m hm
    exact (List.mem_append.1 hm).elim mem_emittedOf mem_emittedOf
  refine ⟨?_, fun x => ?_, fun m hm => ?_, ?_⟩
  · rw [hmap]
    exact nodup_kept h hcore hs
  · rw [hmap, List.mem_append, mem_keptHelpers_iff h hcore hs, mem_keptFunctions_iff h hcore hs]
    constructor
    · rintro (⟨-, hx⟩ | ⟨hx, hcomplete⟩)
      · exact hx
      · exact ⟨Or.inr (Or.inl hx), hcomplete⟩
    · rintro ⟨rfl | hx | hx, hcomplete⟩
      · exact Or.inl ⟨hcore.isHelperName, Or.inl rfl, hcomplete⟩
      · exact Or.inr ⟨hx, hcomplete⟩
      · exact Or.inl ⟨hx.1, Or.inr (Or.inr hx), hcomplete⟩
  · obtain ⟨hentry, hfragment⟩ := hmem m hm
    exact ⟨hentry, hfragment, Entry.hasVariant_of_fragment? hfragment⟩
  · intro before m after hsplit d hd
    have hentry := (hmem m (by rw [hsplit]; simp)).1
    rw [← h.dependencies_name hentry] at hd
    have hnames : r.keptHelpers modes s.names ++ r.keptFunctions modes s.names =
        (before.map fun m => m.entry.name) ++ m.entry.name :: after.map fun m => m.entry.name := by
      rw [← hmap, hsplit, List.map_append, List.map_cons]
    exact dependenciesFirst_kept h hcore hs _ _ _ hnames d hd

end Selected

end Registry

/-! ### What a script emits -/

namespace Registry

variable {r : Registry} {c : Command} {s : Selection} {source : String}

/-- The faults of a plan report what it leaves out. -/
theorem exists_mem_faults_iff {p : Plan} {x : String} :
    (∃ fault ∈ p.faults, fault.Omits x) ↔ x ∈ p.omissions.flatMap Omission.names := by
  unfold Plan.faults
  rw [List.mem_flatMap]
  constructor
  · rintro ⟨fault, hfault, homits⟩
    obtain ⟨o, ho, hmem⟩ := List.mem_flatMap.1 hfault
    exact ⟨o, ho, Omission.exists_mem_faults_iff.1 ⟨fault, hmem, homits⟩⟩
  · rintro ⟨o, ho, hx⟩
    obtain ⟨fault, hfault, homits⟩ := Omission.exists_mem_faults_iff.2 hx
    exact ⟨fault, List.mem_flatMap.2 ⟨o, ho, hfault⟩, homits⟩

/-- **What a generated script holds.**  It is the text of a plan that has the right fragments for
the selection, those of helpers before those of functions.  The faults report the wanted entries
that are left out. -/
theorem generate_emits {entries : List Entry} {header : RegistryHeader}
    (hr : ofEntries entries header = .ok r) (hcore : r.HasPlainCore)
    (hs : r.select c = .ok s) (hnames : s.names ≠ [])
    (hg : (Script.generate r c s.names).outcome = .ok source) :
    ∃ p, Script.planFor r c.modes s.names = .ok p ∧
      r.Emits c.modes s.names (p.helpers ++ p.functions) ∧
      (∀ m ∈ p.helpers, m.entry.isHelper = true) ∧
      (∀ m ∈ p.functions, m.entry.isHelper = false) ∧
      Script.IsTextOf r.header c p source ∧
      ∀ x, (∃ fault ∈ (Script.generate r c s.names).faults, fault.Omits x) ↔
        r.Wanted s.names x ∧ r.Incomplete c.modes x := by
  obtain ⟨h, -, -⟩ := accepted_of_ofEntries hr
  obtain ⟨p, hplanFor, hfaults, htext⟩ := Script.exists_isTextOf hnames hg
  have hp := Script.plan_of_planFor hplanFor
  have hemits := emits_plan h hcore hs hp
  rw [h.plan_eq fun _ ha => mem_order_of_mem_names h hs ha] at hp
  cases hp
  refine ⟨_, hplanFor, hemits, fun m => isHelper_of_mem_emittedOf h hcore hs,
    fun m => isPublic_of_mem_emittedOf h hs, htext, fun x => ?_⟩
  rw [hfaults, exists_mem_faults_iff]
  exact mem_omissionsFor_iff h hcore hs

/-- What the small registry emits: one function is left out with the helper that it needs. -/
def samplePlan : Plan where
  helpers := sample.emittedOf ∅ ["lodash", "iterator"]
  functions := sample.emittedOf ∅ ["isArray", "each", "map"]
  omissions := [{ root := "shimKeys", dependents := ["keys"] }]

theorem planFor_sample : Script.planFor sample ∅ sampleSelection.names = .ok samplePlan := by
  cbv

/-- **A command without modes** gets the script of this plan, whatever else it asks for. -/
theorem outcome_samplePlan (hmodes : c.modes = ∅) :
    (Script.generate sample c sampleSelection.names).outcome =
      .ok (Script.text sample.header c samplePlan) := by
  have hcore : coreName ∉ samplePlan.omitted := by decide
  have hmisuse : samplePlan.misuse? = none := by decide
  exact Script.outcome_of_planFor (by decide) (hmodes ▸ planFor_sample) hcore hmisuse

/-- The command of the selection, without any exposure. -/
def hiddenCommand : Command where
  categories := sampleCommand.categories
  plus := sampleCommand.plus
  minus := sampleCommand.minus
  exports := []

theorem select_hiddenCommand : sample.select hiddenCommand = .ok sampleSelection := by
  cbv

/-- The lines of its script. -/
def sampleLines : List String :=
  ["/*!",
    " * Lo-Dash 2.4.1 (Custom Build)",
    " * Build: `lodash`",
    " */",
    ";(function(window, undefined) \x7b",
    "  var lodash = \x7b\x7d;",
    "",
    "  function iterator() \x7b\x7d",
    "",
    "  var isArray = Array.isArray;",
    "",
    "  function each() \x7b\x7d",
    "",
    "  function map() \x7b",
    "    each();",
    "  \x7d",
    "",
    "  // add functions to `lodash`",
    "  lodash.isArray = isArray;",
    "  lodash.each = each;",
    "  lodash.forEach = each;",
    "  lodash.map = map;",
    "",
    "  /**",
    "   * The semantic version number.",
    "   *",
    "   * @static",
    "   * @memberOf _",
    "   * @type String",
    "   */",
    "  lodash.VERSION = '2.4.1';",
    "\x7d(this));",
    ""]

/-- The script for the selection in the small registry. -/
theorem outcome_sample :
    (Script.generate sample hiddenCommand sampleSelection.names).outcome =
      .ok ("\n".intercalate sampleLines) := by
  have htext :
      Script.text sample.header hiddenCommand samplePlan = "\n".intercalate sampleLines := by
    decide +kernel
  rw [← htext]
  exact outcome_samplePlan rfl

/-- The right fragments for it, in their order, and its text. -/
theorem samplePlan_emits :
    ofEntries sampleEntries sampleHeader = .ok sample ∧ sample.HasPlainCore ∧
      sample.select hiddenCommand = .ok sampleSelection ∧ sampleSelection.names ≠ [] ∧
      (Script.generate sample hiddenCommand sampleSelection.names).outcome =
        .ok ("\n".intercalate sampleLines) ∧
      sample.Emits ∅ sampleSelection.names (samplePlan.helpers ++ samplePlan.functions) ∧
      ((samplePlan.helpers ++ samplePlan.functions).map fun m => m.entry.name) =
        ["lodash", "iterator", "isArray", "each", "map"] ∧
      Script.IsTextOf sampleHeader hiddenCommand samplePlan ("\n".intercalate sampleLines) := by
  have hcore : sample.HasPlainCore := by
    unfold HasPlainCore
    decide
  have hnames : sampleSelection.names ≠ [] := by decide
  obtain ⟨p, hp, hemits, -, -, htext, -⟩ := generate_emits ofEntries_sampleEntries hcore
    select_hiddenCommand hnames outcome_sample
  obtain rfl : p = samplePlan := Except.ok.inj (hp.symm.trans planFor_sample)
  exact ⟨ofEntries_sampleEntries, hcore, select_hiddenCommand, hnames, outcome_sample, hemits,
    by decide +kernel, htext⟩

end Registry

end CustomBuild
