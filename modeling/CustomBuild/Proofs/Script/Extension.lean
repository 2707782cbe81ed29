import CustomBuild.Proofs.Registry.Extension
import CustomBuild.Proofs.Script.Blame

/-!
# Scripts from a registry with one entry more

A script for names of a registry does not change when an entry is added that the names do not lead
to, and none of the old names leads to a new one.  `Extends.generate_eq` goes through the stages of
a script: the helpers that the names need, the candidates, what is left out of these, the fragments
of the rest, and the text.  The new entry must not be the core helper, which every script has
whether anything leads to it or not.

Together with `Extends.select_eq` this says when a build stays as it is
(`Registry.generate_of_apart`).  One condition is not about the values of the command: a bundle may
list a public function whose name is that of a category, and then the bundle starts from the whole
category (`Registry.bundle_starts_from_category`).
-/

namespace CustomBuild.Registry

variable {r r' : Registry} {e : Entry} {c : Command} {s : Selection} {modes : NameSet}
  {name : String} {names : List String} {dependents dependents' : String → List String}

namespace Extends

/-! ### Entries and helpers -/

theorem contains_eq (h : r.Extends r' e) (hname : name ≠ e.name) :
    r'.contains name = r.contains name := by
  rw [contains, contains, h.lookup_eq hname]

theorem fragment?_eq (h : r.Extends r' e) (hname : name ≠ e.name) :
    r'.fragment? modes name = r.fragment? modes name := by
  rw [fragment?, fragment?, h.lookup_eq hname]

theorem dependencyRows_eq (h : r.Extends r' e) (hnames : ∀ a ∈ names, a ∈ r.order) :
    r'.dependencyRows names = r.dependencyRows names := by
  refine List.map_congr_left fun name hname => ?_
  rw [dependencies, dependencies, h.lookup_eq (h.ne_name (hnames name hname))]

/-- Names of the smaller registry contribute the same fragments. -/
theorem emittedOf_eq (h : r.Extends r' e) (hnames : ∀ a ∈ names, a ∈ r.order) :
    r'.emittedOf modes names = r.emittedOf modes names := by
  refine List.filterMap_congr fun name hname => ?_
  rw [h.lookup_eq (h.ne_name (hnames name hname))]

/-- Names of the smaller registry need the helpers that they needed. -/
theorem helpersFor_eq (h : r.Extends r' e) (hnames : ∀ a ∈ names, a ∈ r.order) :
    r'.helpersFor names = r.helpersFor names := by
  have hmem : ∀ x, x ∈ r'.helpersFor names ↔ x ∈ r.helpersFor names := by
    intro x
    rw [h.new.mem_helpersFor_iff, h.old.mem_helpersFor_iff]
    constructor
    · rintro ⟨hhelper, a, ha, -, hchain⟩
      have haorder := hnames a ha
      have hchain := (h.reflTransGen_needs_iff haorder).1 hchain
      have hx : x ∈ r.order := h.old.mem_order_of_reflTransGen haorder hchain
      exact ⟨(h.isHelperName_iff (h.ne_name hx)).1 hhelper, a, ha, haorder, hchain⟩
    · rintro ⟨hhelper, a, ha, haorder, hchain⟩
      have hx : x ∈ r.order := h.old.mem_order_of_isHelperName hhelper
      exact ⟨(h.isHelperName_iff (h.ne_name hx)).2 hhelper, a, ha, (h.mem_order_iff.1 haorder).1,
        (h.reflTransGen_needs_iff haorder).2 hchain⟩
  exact h.filter_eq hmem

theorem scriptHelpers_eq (h : r.Extends r' e) (hcore : e.name ≠ coreName)
    (hnames : ∀ a ∈ names, a ∈ r.order) : r'.scriptHelpers names = r.scriptHelpers names := by
  rw [scriptHelpers, h.helpersFor_eq hnames, scriptHelpers]
  refine h.arrange_eq fun x hx => ?_
  rcases List.mem_cons.1 hx with rfl | hx
  · exact hcore.symm
  · exact h.ne_name (mem_arrange_iff.1 hx).2

/-! ### What is emitted and left out -/

/-- **The candidates of a script** are the same. -/
theorem candidates_eq (h : r.Extends r' e) (hcore : e.name ≠ coreName)
    (hnames : ∀ a ∈ names, a ∈ r.order) : r'.candidates names = r.candidates names := by
  rw [candidates, h.scriptHelpers_eq hcore hnames, candidates]
  refine h.arrange_eq fun x hx => ?_
  rcases List.mem_append.1 hx with hx | hx
  · exact h.ne_name (mem_arrange_iff.1 hx).2
  · exact h.ne_name (hnames x hx)

theorem mem_order_of_mem_candidates {x : String} (hx : x ∈ r.candidates names) : x ∈ r.order :=
  (mem_arrange_iff.1 hx).2

theorem missingFor_eq (h : r.Extends r' e) (hcore : e.name ≠ coreName)
    (hnames : ∀ a ∈ names, a ∈ r.order) :
    r'.missingFor modes names = r.missingFor modes names := by
  rw [missingFor, h.candidates_eq hcore hnames, missingFor]
  refine List.filter_congr fun x hx => ?_
  rw [h.fragment?_eq (h.ne_name (mem_order_of_mem_candidates hx))]

theorem omissionsFor_eq (h : r.Extends r' e) (hcore : e.name ≠ coreName)
    (hnames : ∀ a ∈ names, a ∈ r.order) :
    r'.omissionsFor modes names = r.omissionsFor modes names := by
  have hmissing : r'.missingFor modes names = r.missingFor modes names :=
    h.missingFor_eq hcore hnames
  unfold missingFor at hmissing
  rw [omissionsFor, hmissing, h.candidates_eq hcore hnames,
    h.dependencyRows_eq fun _ => mem_order_of_mem_candidates, omissionsFor]

/-- **The omissions of a script** are alike in whatever order dependents are visited. -/
theorem alike_omissionsBy (h : r.Extends r' e) (hcore : e.name ≠ coreName)
    (hnames : ∀ a ∈ names, a ∈ r.order)
    (hdependents : r.ListsDependents (r.candidates names) dependents)
    (hdependents' : r'.ListsDependents (r'.candidates names) dependents') :
    List.Forall₂ Omission.Alike (r.omissionsBy dependents modes names)
      (r'.omissionsBy dependents' modes names) := by
  -- the walks go through the same candidates along the same dependencies
  rw [h.candidates_eq hcore hnames] at hdependents'
  unfold omissionsBy
  rw [h.missingFor_eq hcore hnames, h.candidates_eq hcore hnames]
  refine Omission.alike_ofMissing (fun _ => Iff.rfl) fun u hu v _ => ?_
  rw [hdependents u hu, hdependents' u hu]
  refine and_congr_right fun hv => ?_
  exact (h.needs_iff (h.ne_name (mem_order_of_mem_candidates hv))).symm

/-- **The plan of a script** is the same. -/
theorem plan_eq (h : r.Extends r' e) (hcore : e.name ≠ coreName)
    (hnames : ∀ a ∈ names, a ∈ r.order) : r'.plan modes names = r.plan modes names := by
  have hnames' : ∀ a ∈ names, a ∈ r'.order := fun a ha => (h.mem_order_iff.1 (hnames a ha)).1
  have homissions : r'.omissionsFor modes names = r.omissionsFor modes names :=
    h.omissionsFor_eq hcore hnames
  -- the omissions settle what is kept of the helpers and of the names
  have hkept : r'.isKept modes names = r.isKept modes names := by
    funext name
    rw [isKept, homissions, isKept]
  have hhelpers : r'.keptHelpers modes names = r.keptHelpers modes names := by
    rw [keptHelpers, hkept, h.scriptHelpers_eq hcore hnames, keptHelpers]
  have hfunctions : r'.keptFunctions modes names = r.keptFunctions modes names := by
    rw [keptFunctions, hkept, keptFunctions]
  have hhelpersorder : ∀ a ∈ r.keptHelpers modes names, a ∈ r.order := fun _ ha =>
    (mem_arrange_iff.1 (List.mem_filter.1 ha).1).2
  have hfunctionsorder : ∀ a ∈ r.keptFunctions modes names, a ∈ r.order := fun a ha =>
    hnames a (List.mem_filter.1 ha).1
  rw [h.new.plan_eq hnames', h.old.plan_eq hnames, homissions, hhelpers, hfunctions,
    h.emittedOf_eq hhelpersorder, h.emittedOf_eq hfunctionsorder]

/-- **The script for names of the smaller registry** is the same, with its faults. -/
theorem generate_eq (h : r.Extends r' e) (hcore : e.name ≠ coreName)
    (hnames : ∀ a ∈ names, a ∈ r.order) :
    Script.generate r' c names = Script.generate r c names := by
  have hplan : Script.planFor r' c.modes names = Script.planFor r c.modes names := by
    rw [Script.planFor, Script.planFor, h.contains_eq hcore.symm, h.plan_eq hcore hnames]
  rw [Script.generate, Script.generate, hplan, h.header_eq]

end Extends

/-- **An unrelated entry changes nothing.**  Let one registry have an entry more than another, at
any place of its declarations, which is not the core helper.  A command selects the same functions
from both, or fails in the same way, if the new entry is a helper or if the command stands apart
from it.  The scripts for the selection are the same, and the same entries are left out with the
same roots, in whatever order the dependents of an entry are visited. -/
theorem generate_of_apart {front back : List Entry} {header : RegistryHeader}
    (hr : ofEntries (front ++ back) header = .ok r)
    (hr' : ofEntries (front ++ e :: back) header = .ok r') (hcore : e.name ≠ coreName)
    (hapart : e.isHelper = false → r.Apart c e) :
    r'.select c = r.select c ∧
      ∀ s, r.select c = .ok s →
        Script.generate r' c s.names = Script.generate r c s.names ∧
        ∀ dependents dependents', r.ListsDependents (r.candidates s.names) dependents →
          r'.ListsDependents (r'.candidates s.names) dependents' →
          List.Forall₂ Omission.Alike (r.omissionsBy dependents c.modes s.names)
            (r'.omissionsBy dependents' c.modes s.names) := by
  have h := extends_of_ofEntries hr hr'
  refine ⟨h.select_eq hapart, fun s hs => ?_⟩
  have hnames : ∀ a ∈ s.names, a ∈ r.order := fun _ ha => mem_order_of_mem_names h.old hs ha
  exact ⟨h.generate_eq hcore hnames, fun _ _ hdependents hdependents' =>
    h.alike_omissionsBy hcore hnames hdependents hdependents'⟩

/-! ### Two extensions -/

/-- A function that none of the others needs, declared before them. -/
def valuesEntry : Entry where
  name := "values"
  category := "Objects"
  aliases := ["valuesOf"]
  dependencies := ["isArray"]
  variants := Table.ofRows [("default", .string "function values() \x7b\x7d")]

/-- The small registry with this function. -/
def sampleWithValues : Registry where
  header := sampleHeader
  entries := sampleEntries.take 1 ++ valuesEntry :: sampleEntries.drop 1
  aliases := Table.ofRows [("valuesOf", "values"), ("forEach", "each")]
  order := ["lodash", "isArray", "values", "iterator", "each", "map", "shimKeys", "keys"]

/-- A bundle and one function more. -/
def bundleCommand : Command where
  bundles := ["backbone"]
  plus := ["map"]

theorem ofEntries_sampleWithValues :
    ofEntries (sampleEntries.take 1 ++ valuesEntry :: sampleEntries.drop 1) sampleHeader =
      .ok sampleWithValues := by
  decide

theorem select_bundleCommand : sample.select bundleCommand =
    .ok { names := ["isArray", "each", "map", "keys"], requested := ["each", "map", "keys"] } := by
  cbv

theorem apart_bundleCommand : sample.Apart bundleCommand valuesEntry where
  hasSource := by decide
  values := by decide
  bundle := by decide

/-- The new function stands among the others in the order, and the build stays as it is. -/
theorem sampleWithValues_builds_alike :
    ofEntries sampleEntries sampleHeader = .ok sample ∧
      ofEntries (sampleEntries.take 1 ++ valuesEntry :: sampleEntries.drop 1) sampleHeader =
        .ok sampleWithValues ∧
      valuesEntry.name ≠ coreName ∧ sample.Apart bundleCommand valuesEntry ∧
      sampleWithValues.select bundleCommand =
        .ok { names := ["isArray", "each", "map", "keys"], requested := ["each", "map", "keys"] } ∧
      Script.generate sampleWithValues bundleCommand ["isArray", "each", "map", "keys"] =
        Script.generate sample bundleCommand ["isArray", "each", "map", "keys"] ∧
      ∃ dependents dependents',
        sample.ListsDependents (sample.candidates ["isArray", "each", "map", "keys"]) dependents ∧
        sampleWithValues.ListsDependents
          (sampleWithValues.candidates ["isArray", "each", "map", "keys"]) dependents' ∧
        List.Forall₂ Omission.Alike
          (sample.omissionsBy dependents ∅ ["isArray", "each", "map", "keys"])
          (sampleWithValues.omissionsBy dependents' ∅ ["isArray", "each", "map", "keys"]) := by
  have hsample : ofEntries (sampleEntries.take 1 ++ sampleEntries.drop 1) sampleHeader =
      .ok sample := ofEntries_sampleEntries
  have hcore : valuesEntry.name ≠ coreName := by decide
  obtain ⟨hselect, hscripts⟩ := generate_of_apart hsample ofEntries_sampleWithValues hcore
    fun _ => apart_bundleCommand
  obtain ⟨hgenerate, hfaults⟩ := hscripts _ select_bundleCommand
  obtain ⟨h, -, -⟩ := accepted_of_ofEntries ofEntries_sampleEntries
  obtain ⟨h', -, -⟩ := accepted_of_ofEntries ofEntries_sampleWithValues
  have hdependents : sample.ListsDependents
      (sample.candidates ["isArray", "each", "map", "keys"]) _ := h.listsDependents_dependentsIn
  have hdependents' : sampleWithValues.ListsDependents
      (sampleWithValues.candidates ["isArray", "each", "map", "keys"]) _ :=
    h'.listsDependents_dependentsIn
  exact ⟨ofEntries_sampleEntries, ofEntries_sampleWithValues, hcore, apart_bundleCommand,
    hselect.trans select_bundleCommand, hgenerate, _, _, hdependents, hdependents',
    hfaults _ _ hdependents hdependents'⟩

/-- A bundle that lists a function with the name of a category. -/
def clashEntries : List Entry :=
  [{ name := "lodash", variants := Table.ofRows [("default", .string "var lodash = \x7b\x7d;")] },
    { name := "Arrays", category := "Objects",
      variants := Table.ofRows [("default", .string "var Arrays;")] }]

/-- The first function of this category. -/
def firstEntry : Entry where
  name := "first"
  category := "Arrays"
  variants := Table.ofRows [("default", .string "function first() \x7b\x7d")]

/-- The titles of both registries. -/
def clashHeader : RegistryHeader where
  version := .string "2.4.1"
  bundles := Table.ofRows [("backbone", ["Arrays"])]

/-- The registry without the new function. -/
def clash : Registry where
  header := clashHeader
  entries := clashEntries
  aliases := ∅
  order := ["lodash", "Arrays"]

/-- The registry with it. -/
def clashWithFirst : Registry where
  header := clashHeader
  entries := clashEntries ++ [firstEntry]
  aliases := ∅
  order := ["lodash", "Arrays", "first"]

/-- **A bundle starts from the category** if it lists a function with the name of one.  So a new
function of the category is selected by a command that has none of its names. -/
theorem bundle_starts_from_category :
    ofEntries (clashEntries ++ []) clashHeader = .ok clash ∧
      ofEntries (clashEntries ++ [firstEntry]) clashHeader = .ok clashWithFirst ∧
      firstEntry.name ≠ coreName ∧
      ({ bundles := ["backbone"] } : Command).hasSource = true ∧
      (∀ value ∈ ({ bundles := ["backbone"] } : Command).bundles
          ++ listedValues { bundles := ["backbone"] },
        value ≠ firstEntry.name ∧ value ∉ firstEntry.aliases ∧
          Text.lowered value ≠ Text.lowered firstEntry.category) ∧
      clash.select { bundles := ["backbone"] } = .ok {} ∧
      clashWithFirst.select { bundles := ["backbone"] } =
        .ok { names := ["first"], requested := ["first"] } := by
  refine ⟨?_, ?_, ?_, ?_, ?_, ?_, ?_⟩
  · decide +kernel
  · decide +kernel
  · decide
  · decide
  · decide +kernel
  · cbv
  · cbv

end CustomBuild.Registry
