import CustomBuild.Proofs.Build.Completion
import CustomBuild.Proofs.Registry.Loading
import CustomBuild.Proofs.Script.Emission

/-!
# Building from a loaded registry

A registry that is loaded from a directory has all it takes (`Registry.Stocked`), so a script leaves
nothing out: the core helper, the helpers that the functions need and the functions themselves each
have their fragment, and no value of the registry is of no use.  Hence generation has no faults, and
in a report only a rejected reduction or a failed delivery can be a problem
(`Site.load_builds_whole`).
-/

namespace CustomBuild

/-! ### Whole plans -/

namespace Registry

variable {r : Registry} {c : Command} {s : Selection} {modes : NameSet} {names : List String}
  {name : String}

/-- A plan that leaves nothing out. -/
def wholePlan (r : Registry) (modes : NameSet) (names : List String) : Plan where
  helpers := r.emittedOf modes (r.scriptHelpers names)
  functions := r.emittedOf modes names
  omissions := []

namespace Stocked

theorem fragment? (h : r.Stocked) (modes : NameSet) (hname : name ∈ r.order) :
    ∃ text, r.fragment? modes name = some (.string text) := by
  obtain ⟨e, he⟩ := h.lookup name hname
  obtain ⟨text, htext⟩ := (h.entries e (mem_entries_of_lookup he).1).fragment modes
  exact ⟨text, by rw [Registry.fragment?, he, Option.bind_some, htext]⟩

/-- Without missing fragments nothing is left out. -/
theorem omissionsFor_eq_nil (h : r.Stocked) : r.omissionsFor modes names = [] := by
  have hmissing : (r.candidates names).filter
      (fun name => (r.fragment? modes name).isNone) = [] := by
    rw [List.filter_eq_nil_iff]
    intro name hname
    obtain ⟨text, htext⟩ := h.fragment? modes (mem_arrange_iff.1 hname).2
    simp [htext]
  rw [omissionsFor, hmissing, Omission.ofMissing]

theorem isKept (h : r.Stocked) : r.isKept modes names name = true := by
  rw [Registry.isKept, h.omissionsFor_eq_nil]
  rfl

/-- **The plan of a script leaves nothing out.** -/
theorem plan_eq (h : r.Stocked) (hnames : ∀ a ∈ names, a ∈ r.order) :
    r.plan modes names = .ok (r.wholePlan modes names) := by
  have hfound : ∀ a ∈ r.order, r.contains a = true := by
    intro a ha
    obtain ⟨e, he⟩ := h.lookup a ha
    rw [contains, he]
    rfl
  have hall : ∀ values : List String, values.filter (r.isKept modes names) = values :=
    fun values => List.filter_eq_self.2 fun _ _ => h.isKept
  rw [plan_eq_of_contains hfound hnames, keptHelpers, keptFunctions, hall, hall,
    h.omissionsFor_eq_nil]
  rfl

/-- What a whole plan puts into a script are texts. -/
theorem isText_of_mem_values (h : r.Stocked) :
    ∀ value ∈ (r.wholePlan modes names).values, value.isText = true := by
  have hemitted : ∀ m ∈ (r.wholePlan modes names).helpers ++ (r.wholePlan modes names).functions,
      m.entry.Stocked ∧ m.entry.fragment? modes = some m.fragment := by
    intro m hm
    obtain ⟨hentry, hfragment⟩ := (List.mem_append.1 hm).elim mem_emittedOf mem_emittedOf
    exact ⟨h.entries m.entry hentry, hfragment⟩
  intro value hvalue
  rcases List.mem_append.1 hvalue with hvalue | hvalue
  · obtain ⟨m, hm, rfl⟩ := List.mem_map.1 hvalue
    obtain ⟨hstocked, hfragment⟩ := hemitted m hm
    obtain ⟨text, htext⟩ := hstocked.fragment modes
    rw [Option.some.inj (hfragment.symm.trans htext)]
    rfl
  · obtain ⟨m, hm, rfl⟩ := List.mem_map.1 (List.mem_filter.1 hvalue).1
    obtain ⟨text, htext⟩ := (hemitted m (List.mem_append_right _ hm)).1.tail
    rw [htext]
    rfl

theorem misuse?_eq_none (h : r.Stocked) : (r.wholePlan modes names).misuse? = none :=
  Script.misuse?_eq_none_iff.2 h.isText_of_mem_values

/-- **A script of a stocked registry** is the text of the whole plan. -/
theorem generate_eq (h : r.Stocked) (hcore : r.contains coreName = true) (hnames : names ≠ [])
    (horder : ∀ a ∈ names, a ∈ r.order) :
    Script.planFor r c.modes names = .ok (r.wholePlan c.modes names) ∧
      Script.generate r c names =
        { faults := [], outcome := .ok (Script.text r.header c (r.wholePlan c.modes names)) } := by
  have hplan : Script.planFor r c.modes names = .ok (r.wholePlan c.modes names) := by
    rw [Script.planFor, if_pos hcore, h.plan_eq horder]
    rfl
  refine ⟨hplan, ?_⟩
  rw [Script.generate, if_neg (mt List.isEmpty_iff.1 hnames), hplan]
  simp only [Script.ofPlan, h.misuse?_eq_none]
  rfl

/-- The functions of a whole plan are those that are asked for. -/
theorem map_name_functions (h : r.Stocked) (horder : ∀ a ∈ names, a ∈ r.order) :
    ((r.wholePlan modes names).functions.map fun m => m.entry.name) = names := by
  refine map_name_emittedOf fun name hname => ?_
  obtain ⟨text, htext⟩ := h.fragment? modes (horder name hname)
  rw [htext]
  exact Option.some_ne_none _

end Stocked

/-- The names of a selection stand in the order of the registry. -/
theorem mem_order_of_select (hs : r.select c = .ok s) : ∀ a ∈ s.names, a ∈ r.order := by
  intro a ha
  rw [(select_eq_ok hs).2] at ha
  exact (mem_arrange_iff.1 ha).2

end Registry

/-! ### Builds -/

namespace Site

variable {site : Site} {tokens : List String} {report : Report}

/-- **A build without faults of generation** has no problem of that kind but a rejected
reduction. -/
theorem isRejection_of_allFaults_eq_nil
    (hfaults : ∀ c s, Command.ofTokens tokens = .ok c → site.registry.select c = .ok s →
      (Script.generate site.registry c s.names).allFaults = [])
    (h : (site.build tokens).result = .ok report) :
    ∀ d ∈ report.diagnostics, d.kind = generationKind → d.IsRejection := by
  cases hread : site.readCommand tokens with
  | error diagnostic =>
    have hkind := kind_of_readCommand_error hread
    rw [build_of_readCommand_error hread] at h
    cases h
    -- the report of a refused command has this one problem
    intro d hd hgeneration
    rw [List.mem_singleton.1 hd] at hgeneration
    rcases hkind with hkind | hkind
    · exact absurd (hkind.symm.trans hgeneration) (by decide)
    · exact absurd (hkind.symm.trans hgeneration) (by decide)
  | ok pair =>
    obtain ⟨c, s⟩ := pair
    obtain ⟨d, hdraft, hbuild⟩ := exists_draft_of_result hread h
    rw [hbuild] at h
    obtain ⟨rfl, rfl⟩ := command_of_draft hread hdraft
    obtain ⟨-, rejections, hdiagnostics, -, hrejections⟩ := draft_eq_ok hdraft
    obtain ⟨-, -, failures, hreport, -, hfailures⟩ := deliver_eq_ok h
    obtain ⟨hc, hs⟩ := readCommand_eq_ok_iff.1 hread
    rw [hfaults _ _ hc hs, List.map_nil, List.nil_append] at hdiagnostics
    intro problem hproblem hgeneration
    rw [hreport, hdiagnostics] at hproblem
    rcases List.mem_append.1 hproblem with hproblem | hproblem
    · exact hrejections problem hproblem
    · -- the kind of a failed delivery is another one
      have hkind : problem.kind = deliveryKind := hfailures problem hproblem
      exact absurd (hkind.symm.trans hgeneration) (by decide)

/-- **Building from a loaded registry** that has the core helper.  A script has no faults and leaves
nothing out: without functions it is empty, and otherwise it has the lines of the fragment of every
function that is selected, and of every helper that goes with them, each two places further to the
right.  So a report has no problem of generation but a rejected reduction. -/
theorem load_builds_whole {t : FileTree} {workingDirectory : Location} {directory : Path}
    (hload : Registry.load t workingDirectory directory = .ok site.registry)
    (hcore : site.registry.contains coreName = true) :
    (∀ tokens c s, Command.ofTokens tokens = .ok c → site.registry.select c = .ok s →
      (Script.generate site.registry c s.names).faults = [] ∧
      (s.names = [] → (Script.generate site.registry c s.names).outcome = .ok "") ∧
      (s.names ≠ [] → ∃ p source, Script.planFor site.registry c.modes s.names = .ok p ∧
        (Script.generate site.registry c s.names).outcome = .ok source ∧
        Script.IsTextOf site.registry.header c p source ∧ p.omissions = [] ∧
        (p.functions.map fun m => m.entry.name) = s.names ∧
        ∀ m ∈ p.helpers ++ p.functions, m.entry ∈ site.registry.entries ∧
          m.entry.fragment? c.modes = some m.fragment ∧ m.entry.HasVariant c.modes m.fragment ∧
          ∃ fragment moved, m.fragment.HasText fragment ∧ Script.IsMoved fragment moved ∧
            moved.toList <:+: source.toList)) ∧
      ∀ tokens report, (site.build tokens).result = .ok report →
        ∀ d ∈ report.diagnostics, d.kind = "GenerationFault" → d.IsRejection := by
  have hstocked := Registry.stocked_of_load hload
  have hgenerate : ∀ c s, site.registry.select c = .ok s → s.names ≠ [] → _ :=
    fun c s hs hnames =>
      hstocked.generate_eq (c := c) hcore hnames (Registry.mem_order_of_select hs)
  have hempty : ∀ c : Command, Script.generate site.registry c [] =
      { faults := [], outcome := .ok "" } := fun _ => rfl
  refine ⟨fun tokens c s _ hs => ⟨?_, ?_, ?_⟩, fun tokens report hresult => ?_⟩
  · by_cases hnames : s.names = []
    · rw [hnames, hempty]
    · rw [(hgenerate c s hs hnames).2]
  · intro hnames
    rw [hnames, hempty]
  · intro hnames
    obtain ⟨hplan, heq⟩ := hgenerate c s hs hnames
    have htext : Script.IsTextOf site.registry.header c
        (site.registry.wholePlan c.modes s.names) (Script.text site.registry.header c
          (site.registry.wholePlan c.modes s.names)) :=
      (Script.isTextOf_iff hstocked.misuse?_eq_none).2 rfl
    refine ⟨_, _, hplan, ?_, htext, rfl, ?_, fun m hm => ?_⟩
    · rw [heq]
    · exact hstocked.map_name_functions (Registry.mem_order_of_select hs)
    · obtain ⟨hentry, hfragment⟩ :=
        (List.mem_append.1 hm).elim Registry.mem_emittedOf Registry.mem_emittedOf
      exact ⟨hentry, hfragment, Entry.hasVariant_of_fragment? hfragment,
        htext.exists_isMoved hm⟩
  · refine isRejection_of_allFaults_eq_nil (fun c s _ hs => ?_) hresult
    by_cases hnames : s.names = []
    · rw [hnames, hempty]
      rfl
    · rw [(hgenerate c s hs hnames).2]
      rfl

/-- A directory with the core helper and one function, which has a fragment for one mode. -/
def smallTree : FileTree where
  nodes :=
    [(["lib"], .directory),
      (["lib", "manifest.json"], .file
        ("\x7b\"version\": \"1\", \"fragment_files\": [\"all.js\"], \"helpers\": "
          ++ "[\x7b\"name\": \"lodash\"\x7d], \"functions\": "
          ++ "[\x7b\"name\": \"isArray\", \"category\": \"Objects\"\x7d]\x7d")),
      (["lib", "all.js"], .file
        ("//@ lodash\nvar lodash;\n//@ isArray\nvar isArray;\n"
          ++ "//@ isArray legacy\nvar legacy;\n"))]

/-- A site with the registry of this directory. -/
def smallSite : Site where
  registry :=
    { header := { version := .string "1" },
      entries :=
        [{ name := "lodash", variants := Table.ofRows [("default", .string "var lodash;")] },
          { name := "isArray", category := "Objects",
            variants := Table.ofRows
              [("default", .string "var isArray;"), ("legacy", .string "var legacy;")] }],
      aliases := ∅,
      order := ["lodash", "isArray"] }

theorem load_smallTree :
    Registry.load smallTree [] (Path.ofText "lib") = .ok smallSite.registry := by
  decide +kernel

/-- The command of `include=isArray exports= -c`. -/
def smallCommand : Command where
  included := some ["isArray"]
  exports := []
  stdout := true
  tokens := ["include=\"isArray\"", "exports=\"\""]

/-- The lines of its script. -/
def smallLines : List String :=
  ["/*!",
    " * Lo-Dash 1 (Custom Build)",
    " * Build: `lodash include=\"isArray\" exports=\"\"`",
    " */",
    ";(function(window, undefined) \x7b",
    "  var lodash;",
    "",
    "  var isArray;",
    "",
    "  // add functions to `lodash`",
    "  lodash.isArray = isArray;",
    "",
    "  /**",
    "   * The semantic version number.",
    "   *",
    "   * @static",
    "   * @memberOf _",
    "   * @type String",
    "   */",
    "  lodash.VERSION = '1';",
    "\x7d(this));",
    ""]

/-- What it emits. -/
def smallPlan : Plan where
  helpers := smallSite.registry.emittedOf ∅ ["lodash"]
  functions := smallSite.registry.emittedOf ∅ ["isArray"]
  omissions := []

theorem planFor_small : Script.planFor smallSite.registry ∅ ["isArray"] = .ok smallPlan := by
  cbv

theorem outcome_small :
    (Script.generate smallSite.registry smallCommand ["isArray"]).outcome =
      .ok ("\n".intercalate smallLines) := by
  have htext : Script.text smallSite.registry.header smallCommand smallPlan =
      "\n".intercalate smallLines := by
    decide +kernel
  rw [← htext]
  exact Script.outcome_of_planFor (List.cons_ne_nil _ _) planFor_small (by decide) (by decide)

/-- The script of its one function has no faults, and the two fragments are in it. -/
theorem small_builds_whole :
    Registry.load smallTree [] (Path.ofText "lib") = .ok smallSite.registry ∧
      smallSite.registry.contains coreName = true ∧
      Command.ofTokens ["include=isArray", "exports=", "-c"] = .ok smallCommand ∧
      smallSite.registry.select smallCommand =
        .ok { names := ["isArray"], requested := ["isArray"] } ∧
      (Script.generate smallSite.registry smallCommand ["isArray"]).faults = [] ∧
      (Script.generate smallSite.registry smallCommand ["isArray"]).outcome =
        .ok ("\n".intercalate smallLines) ∧
      Script.IsTextOf smallSite.registry.header smallCommand smallPlan
        ("\n".intercalate smallLines) ∧
      (smallPlan.functions.map fun m => m.entry.name) = ["isArray"] ∧
      ∃ report, (smallSite.build ["include=isArray", "exports=", "-c"]).result = .ok report ∧
        ∀ d ∈ report.diagnostics, d.kind = "GenerationFault" → d.IsRejection := by
  have hcore : smallSite.registry.contains coreName = true := by decide
  have hc : Command.ofTokens ["include=isArray", "exports=", "-c"] = .ok smallCommand := by
    decide +kernel
  have hs : smallSite.registry.select smallCommand =
      .ok { names := ["isArray"], requested := ["isArray"] } := by
    cbv
  obtain ⟨hscript, hreport⟩ := load_builds_whole load_smallTree hcore
  obtain ⟨hfaults, -, hplan⟩ := hscript _ _ _ hc hs
  obtain ⟨p, source, hp, houtcome, htext, -, hnames, -⟩ := hplan (List.cons_ne_nil _ _)
  obtain rfl : source = "\n".intercalate smallLines :=
    Except.ok.inj (houtcome.symm.trans outcome_small)
  obtain rfl : p = smallPlan := Except.ok.inj (hp.symm.trans planFor_small)
  obtain ⟨report, hresult⟩ : ∃ report,
      (smallSite.build ["include=isArray", "exports=", "-c"]).result = .ok report := by
    have hreduce : smallSite.reduce smallCommand ("\n".intercalate smallLines) =
        .ok { source := "\n".intercalate smallLines } := rfl
    rw [build]
    simp only [draft, readCommand, hc, hs, houtcome, hreduce]
    exact ⟨_, rfl⟩
  exact ⟨load_smallTree, hcore, hc, hs, hfaults, houtcome, htext, hnames, report, hresult,
    hreport _ report hresult⟩

end Site

end CustomBuild
