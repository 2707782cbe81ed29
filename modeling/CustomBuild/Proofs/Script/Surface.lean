import CustomBuild.Proofs.Script.Core

/-!
# What a script exposes

A function that a script emits becomes a property of the library object under its name and under
each of its aliases, unless it is kept off the object.  `Plan.properties` lists these properties in
order, each with the function that it is given, and the text of a script has one block with a line
for each of them (`Script.IsTextOf`).

The script does not check that it assigns no property twice.  That it does not is a fact about
registries: a name belongs to one function, whether it is an alias or not (`Accepted.name_inj`), and
this also keeps the names of every other function off the object (`Registry.generate_exposes`).
-/

namespace CustomBuild

namespace Registry

variable {r : Registry} {c : Command} {s : Selection} {modes : NameSet} {names : List String}
  {x source : String} {e other : Entry} {p : Plan}

/-! ### Names of functions -/

/-- **The right properties** for functions that a script emits. -/
structure Exposes (r : Registry) (functions : List String) (properties : List (String × String)) :
    Prop where
  /-- no property is assigned twice -/
  nodup : (properties.map Prod.fst).Nodup
  /-- each is given the function that the registry knows by this name -/
  resolves : ∀ property ∈ properties, r.resolveAlias property.1 = some property.2
  /-- the names of a function are assigned together, exactly if it is emitted and not kept off -/
  assigned_iff : ∀ e ∈ r.entries, e.isHelper = false → ∀ x ∈ e.spellings,
    x ∈ properties.map Prod.fst ↔ e.name ∈ functions ∧ e.isStatic = true

namespace Accepted

/-- The registry knows a public function by each of its names. -/
theorem resolveAlias_of_mem_spellings (h : r.Accepted) (he : e ∈ r.entries)
    (hpublic : e.isHelper = false) (hx : x ∈ e.spellings) : r.resolveAlias x = some e.name :=
  h.resolveAlias_eq_some_iff.2 ⟨e, he, rfl, hpublic, List.mem_cons.1 hx⟩

/-- **A name belongs to one public function.** -/
theorem name_inj (h : r.Accepted) (he : e ∈ r.entries) (hpublic : e.isHelper = false)
    (hother : other ∈ r.entries) (hotherpublic : other.isHelper = false) (hx : x ∈ e.spellings)
    (hxother : x ∈ other.spellings) : e = other := by
  have hname := (h.resolveAlias_of_mem_spellings he hpublic hx).symm.trans
    (h.resolveAlias_of_mem_spellings hother hotherpublic hxother)
  exact h.entry_eq he hother (Option.some.inj hname)

/-- A public function has no name twice. -/
theorem nodup_spellings (h : r.Accepted) (he : e ∈ r.entries) (hpublic : e.isHelper = false) :
    e.spellings.Nodup := by
  refine List.nodup_cons.2 ⟨fun hmem => ?_, ?_⟩
  · exact h.sound.alias_ne_name e he hpublic e.name hmem (List.mem_map.2 ⟨e, he, rfl⟩)
  · have hmem : e ∈ r.entries.filter fun e => !e.isHelper :=
      List.mem_filter.2 ⟨he, by simp [hpublic]⟩
    exact (List.nodup_flatMap.1 h.sound.aliases_nodup).1 e hmem

/-- **The names of different public functions** are all different. -/
theorem nodup_flatMap_spellings (h : r.Accepted) {functions : List Emitted}
    (hpublic : ∀ m ∈ functions, m.entry ∈ r.entries ∧ m.entry.isHelper = false)
    (hnodup : (functions.map fun m => m.entry.name).Nodup) :
    (functions.flatMap fun m => m.entry.spellings).Nodup := by
  rw [List.nodup_flatMap]
  refine ⟨fun m hm => h.nodup_spellings (hpublic m hm).1 (hpublic m hm).2, ?_⟩
  have hnames : functions.Pairwise fun m n => m.entry.name ≠ n.entry.name :=
    List.pairwise_map.1 hnodup
  refine hnames.imp_of_mem fun {m n} hm hn hne => ?_
  refine List.disjoint_left.2 fun x hxm hxn => hne ?_
  have hsame := h.name_inj (hpublic m hm).1 (hpublic m hm).2 (hpublic n hn).1 (hpublic n hn).2
    hxm hxn
  rw [hsame]

/-! ### Functions of a plan -/

/-- The kept names have fragments, so they are the names of the functions that are emitted. -/
theorem map_name_keptFunctions (h : r.Accepted) (hnames : ∀ a ∈ names, a ∈ r.order) :
    ((r.emittedOf modes (r.keptFunctions modes names)).map fun m => m.entry.name) =
      r.keptFunctions modes names := by
  refine map_name_emittedOf fun x hx => ?_
  obtain ⟨hmem, hkept⟩ := List.mem_filter.1 hx
  have hcandidate : x ∈ r.candidates names :=
    mem_arrange_iff.2 ⟨List.mem_append_right _ hmem, hnames x hmem⟩
  exact h.fragment?_ne_none_of_isKept hcandidate hkept

/-- The functions of a selection that are not left out, each once. -/
theorem nodup_keptFunctions (h : r.Accepted) (hs : r.select c = .ok s) :
    (r.keptFunctions modes s.names).Nodup := by
  have hnames : s.names.Nodup := by
    rw [(select_eq_ok hs).2]
    exact h.nodup_order.filter _
  exact hnames.filter _

/-- **Public functions with different names** are given the right properties. -/
theorem exposes_properties (h : r.Accepted)
    (hpublic : ∀ m ∈ p.functions, m.entry ∈ r.entries ∧ m.entry.isHelper = false)
    (hnodup : (p.functions.map fun m => m.entry.name).Nodup) :
    r.Exposes (p.functions.map fun m => m.entry.name) p.properties := by
  have hmem : ∀ {x f}, (x, f) ∈ p.properties →
      ∃ m ∈ p.functions, m.entry.isStatic = true ∧ x ∈ m.entry.spellings ∧ f = m.entry.name := by
    intro x f hproperty
    obtain ⟨m, hm, hx⟩ := List.mem_flatMap.1 hproperty
    obtain ⟨hm, hstatic⟩ := List.mem_filter.1 hm
    obtain ⟨property, hspelling, heq⟩ := List.mem_map.1 hx
    cases heq
    exact ⟨m, hm, hstatic, hspelling, rfl⟩
  have hfst : p.properties.map Prod.fst =
      (p.functions.filter fun m => m.entry.isStatic).flatMap fun m => m.entry.spellings := by
    rw [Plan.properties, List.map_flatMap]
    refine List.flatMap_congr fun m _ => ?_
    rw [List.map_map]
    exact List.map_id _
  constructor
  · rw [hfst]
    refine h.nodup_flatMap_spellings (fun m hm => hpublic m (List.mem_of_mem_filter hm)) ?_
    exact hnodup.sublist (List.filter_sublist.map _)
  · rintro ⟨x, f⟩ hproperty
    obtain ⟨m, hm, -, hx, rfl⟩ := hmem hproperty
    exact h.resolveAlias_of_mem_spellings (hpublic m hm).1 (hpublic m hm).2 hx
  · intro e he hepublic x hx
    constructor
    · intro hassigned
      obtain ⟨⟨x', f⟩, hproperty, rfl⟩ := List.mem_map.1 hassigned
      obtain ⟨m, hm, hstatic, hxm, -⟩ := hmem hproperty
      -- the function that is assigned is the one with the name
      have hsame := h.name_inj he hepublic (hpublic m hm).1 (hpublic m hm).2 hx hxm
      rw [hsame]
      exact ⟨List.mem_map.2 ⟨m, hm, rfl⟩, hstatic⟩
    · rintro ⟨hemitted, hstatic⟩
      obtain ⟨m, hm, hname⟩ := List.mem_map.1 hemitted
      have hsame : m.entry = e := h.entry_eq (hpublic m hm).1 he hname
      rw [hfst]
      refine List.mem_flatMap.2 ⟨m, List.mem_filter.2 ⟨hm, ?_⟩, ?_⟩
      · rw [hsame, hstatic]
      · rw [hsame]
        exact hx

end Accepted

/-! ### Scripts -/

/-- **What a generated script exposes.**  The emitted functions are those of the selection that are
not left out, in order.  One block of the text has the assignments: for each of these functions,
unless it is kept off the library object, its own name and then its aliases.  No property is
assigned twice, each is given the function that the registry knows by this name, and no name of any
other function is assigned.  A script without functions is empty. -/
theorem generate_exposes {entries : List Entry} {header : RegistryHeader}
    (hr : ofEntries entries header = .ok r) (hs : r.select c = .ok s)
    (hg : (Script.generate r c s.names).outcome = .ok source) :
    (s.names = [] ∧ source = "") ∨
      ∃ p, Script.planFor r c.modes s.names = .ok p ∧
        Script.IsTextOf r.header c p source ∧
        (p.functions.map fun m => m.entry.name) =
          s.names.filter (fun x => !p.omitted.contains x) ∧
        (∀ m ∈ p.functions, m.entry ∈ r.entries ∧ m.entry.isHelper = false) ∧
        r.Exposes (p.functions.map fun m => m.entry.name) p.properties := by
  obtain ⟨h, -, -⟩ := accepted_of_ofEntries hr
  by_cases hnames : s.names = []
  · rw [hnames] at hg
    exact Or.inl ⟨hnames, (Except.ok.inj hg).symm⟩
  refine Or.inr ?_
  obtain ⟨p, hplanFor, -, htext⟩ := Script.exists_isTextOf hnames hg
  have horder : ∀ a ∈ s.names, a ∈ r.order := fun _ ha => mem_order_of_mem_names h hs ha
  have hp := Script.plan_of_planFor hplanFor
  rw [h.plan_eq horder] at hp
  cases hp
  have hmap : ((r.emittedOf c.modes (r.keptFunctions c.modes s.names)).map fun m => m.entry.name) =
      r.keptFunctions c.modes s.names := h.map_name_keptFunctions horder
  have hpublic : ∀ m ∈ r.emittedOf c.modes (r.keptFunctions c.modes s.names),
      m.entry ∈ r.entries ∧ m.entry.isHelper = false :=
    fun m hm => ⟨(mem_emittedOf hm).1, isPublic_of_mem_emittedOf h hs hm⟩
  refine ⟨_, hplanFor, htext, hmap, hpublic, h.exposes_properties hpublic ?_⟩
  rw [hmap]
  exact h.nodup_keptFunctions hs

/-- The properties that the small registry exposes, and the lines that assign them: the function
that is left out has none, and one has an alias. -/
theorem samplePlan_exposes :
    ofEntries sampleEntries sampleHeader = .ok sample ∧
      sample.select hiddenCommand = .ok sampleSelection ∧
      (Script.generate sample hiddenCommand sampleSelection.names).outcome =
        .ok ("\n".intercalate sampleLines) ∧
      samplePlan.properties =
        [("isArray", "isArray"), ("each", "each"), ("forEach", "each"), ("map", "map")] ∧
      ["  lodash.isArray = isArray;", "  lodash.each = each;", "  lodash.forEach = each;",
        "  lodash.map = map;"] <:+: sampleLines ∧
      Script.IsTextOf sampleHeader hiddenCommand samplePlan ("\n".intercalate sampleLines) ∧
      sample.Exposes ["isArray", "each", "map"] samplePlan.properties := by
  have hnames : sampleSelection.names ≠ [] := by decide
  rcases generate_exposes ofEntries_sampleEntries select_hiddenCommand outcome_sample with
    ⟨hnone, -⟩ | ⟨p, hp, htext, -, -, hexposes⟩
  · exact absurd hnone hnames
  obtain rfl : p = samplePlan := Except.ok.inj (hp.symm.trans planFor_sample)
  have hfunctions : (samplePlan.functions.map fun m => m.entry.name) =
      ["isArray", "each", "map"] := by
    decide +kernel
  refine ⟨ofEntries_sampleEntries, select_hiddenCommand, outcome_sample, by decide +kernel,
    by decide, htext, ?_⟩
  exact hfunctions ▸ hexposes

end Registry

end CustomBuild
