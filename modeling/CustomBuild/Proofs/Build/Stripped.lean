import CustomBuild.Proofs.Build.Reduction
import CustomBuild.Proofs.Registry.Loading
import CustomBuild.Proofs.Script.Closed

/-!
# Builds that strip their source

If the fragments and tails of a registry are comment-closed, a script can be stripped without harm:
the version and the assignments stay, each as a line of its own, and there are fewer lines
(`Script.Stripped`).  Then the contract of a reduction is met, so a build with the built-in reducer
takes over the stripped source and reports no rejection (`Site.build_strips`).
-/

namespace CustomBuild

/-- **An entry whose fragments and tail are comment-closed.** -/
structure Entry.CommentClosed (e : Entry) : Prop where
  /-- every fragment is closed -/
  variants : ∀ value ∈ e.variants.values, Strip.IsClosed value.display
  /-- the tail is closed -/
  tail : Strip.IsClosed e.tail.value.display

/-! ### Stripped scripts -/

namespace Script

variable {header : RegistryHeader} {c : Command} {p : Plan} {source : String}

/-- **What stripping does to a script**: it makes it shorter, and keeps the version and the
assignments. -/
structure Stripped (header : RegistryHeader) (p : Plan) (source : String) : Prop where
  /-- there are fewer lines -/
  lineFeeds_lt : Text.lineFeeds (Strip.strip source) < Text.lineFeeds source
  /-- the line that states the version stays -/
  version_mem : coreName ++ ".VERSION = '" ++ header.version.display ++ "';" ∈
    Text.lines (Strip.strip source)
  /-- every assignment stays, without its indentation -/
  assignment_mem : ∀ line ∈ p.functions.flatMap fun m => assignmentLines m.entry,
    "  " ++ line ∈ Text.lines source ∧ line ∈ Text.lines (Strip.strip source)

theorem endsWith_text : Text.endsWith (text header c p) "\n" = true := by
  unfold text Text.endsWith
  rw [List.isSuffixOf_iff_suffix]
  simp only [String.toList_append]
  exact List.suffix_append _ _

/-- The version is stated by a line of its block. -/
theorem versionLine_mem_keptLines (hwrapper : c.wrapper = none) (h : ClosedPlan p)
    (hversion : '\n' ∉ header.version.display.toList) :
    (versionLine header.version.display).toList ∈ Strip.keptLines (text header c p) := by
  refine mem_keptLines_text hwrapper h hversion versionBlock_mem_blocks ?_
  rw [(keptOf_versionBlock hversion).2.1]
  exact List.mem_singleton_self _

/-- **A script in its usual wrapping** can be stripped without harm. -/
theorem stripped_text (hwrapper : c.wrapper = none) (h : ClosedPlan p)
    (hversion : '\n' ∉ header.version.display.toList) :
    Stripped header p (text header c p) := by
  have hkept := versionLine_mem_keptLines hwrapper h hversion
  have hlines := Strip.charLines_strip (List.ne_nil_of_mem hkept) endsWith_text
  have hmem : ∀ line : String, line.toList ∈ Strip.keptLines (text header c p) →
      line ∈ Text.lines (Strip.strip (text header c p)) := by
    intro line hline
    rw [Text.mem_lines_iff, hlines]
    exact List.mem_append_left _ hline
  constructor
  · have hlt := length_keptLines_text hwrapper h hversion
    have hstripped := Text.length_charLines (Strip.strip (text header c p))
    rw [hlines, List.length_append, List.length_singleton] at hstripped
    rw [Text.length_charLines] at hlt
    omega
  · exact hmem _ hkept
  · intro line hline
    have hstatement := h.isStatement line hline
    have hblock : Text.unlines ("// add functions to `lodash`" ::
        p.functions.flatMap fun m => assignmentLines m.entry) ∈ blocks header c p := by
      have hassignments := mem_assignmentBlocks_iff.2 ⟨List.ne_nil_of_mem hline, rfl⟩
      unfold blocks
      simp only [List.mem_append, hassignments, true_or, or_true]
    constructor
    · have hmemblock := Text.mem_lines_unlines
        (List.mem_cons_of_mem "// add functions to `lodash`" hline) hstatement.1
      exact indented_mem_lines_text hwrapper hblock hmemblock hstatement.isAllBlank
    · refine hmem line (mem_keptLines_text hwrapper h hversion hblock ?_)
      exact hstatement.mem_keptOf_unlines (isNeutral_assignmentTexts h)
        (List.mem_cons_of_mem _ hline)

end Script

/-! ### Plans of comment-closed entries -/

namespace Registry

variable {r : Registry} {modes : NameSet} {names : List String} {p : Plan}

/-- What is emitted of an entry is one of its variants. -/
theorem source_of_fragment? {m : Emitted} (h : m.entry.fragment? modes = some m.fragment) :
    m.fragment ∈ m.entry.variants.values := by
  unfold Entry.fragment? at h
  obtain ⟨hvalue, -⟩ := Option.filter_eq_some_iff.1 h
  exact List.mem_map_of_mem (Table.mem_rows_of_get? hvalue)

/-- **The plan of comment-closed entries** is closed. -/
theorem closedPlan_of_plan_eq (h : r.Accepted) (hnames : ∀ a ∈ names, a ∈ r.order)
    (hp : r.plan modes names = .ok p) (hclosed : ∀ e ∈ r.entries, e.CommentClosed)
    (hplain : ∀ e ∈ r.entries, e.name ∈ names → Script.HasPlainNames e) : Script.ClosedPlan p := by
  rw [h.plan_eq hnames] at hp
  cases hp
  constructor
  · intro m hm
    obtain ⟨hentry, hfragment⟩ := (List.mem_append.1 hm).elim mem_emittedOf mem_emittedOf
    exact (hclosed m.entry hentry).variants m.fragment (source_of_fragment? hfragment)
  · intro m hm
    exact (hclosed m.entry (mem_emittedOf hm).1).tail
  · intro m hm
    refine hplain m.entry (mem_emittedOf hm).1 ?_
    exact (List.mem_filter.1 (name_mem_of_mem_emittedOf hm)).1

end Registry

/-! ### Builds -/

namespace Site

variable {site : Site} {tokens : List String} {c : Command} {s : Selection} {source : String}

/-- **A stripped script is accepted** in place of the script. -/
theorem accepts_strip {p : Plan} (hreducer : site.chosenReducer = .ok stripReducer)
    (h : Script.Stripped site.registry.header p source) :
    site.Accepts c source (Strip.strip source) := by
  refine ⟨stripReducer, hasReducer_iff.2 hreducer, rfl, rfl, h.lineFeeds_lt.le, fun _ => ?_⟩
  -- the contract asks for the assignment of the version, which is a line of the stripped script
  have hline := Text.isInfix_unlines h.version_mem
  rw [Text.unlines_lines] at hline
  refine (Text.isInfix_between (coreName ++ ".VERSION = '") _ "';").trans ?_
  exact hline

/-- **A build that strips its source** takes over the stripped script, which is shorter and still
has the version and every assignment as a line of its own.  No rejection is reported. -/
theorem build_strips {entries : List Entry} {header : RegistryHeader}
    (hr : Registry.ofEntries entries header = .ok site.registry)
    (hversion : header.version.isText = true ∧ '\n' ∉ header.version.display.toList)
    (hclosed : ∀ e ∈ entries, e.CommentClosed)
    (hreducer : site.chosenReducer = .ok stripReducer)
    (hc : Command.ofTokens tokens = .ok c) (hminify : c.minify = true) (hwrapper : c.wrapper = none)
    (hs : site.registry.select c = .ok s)
    (hplain : ∀ e ∈ entries, e.name ∈ s.names →
      '\n' ∉ e.name.toList ∧ ∀ otherName ∈ e.aliases, '\n' ∉ otherName.toList)
    (hg : (Script.generate site.registry c s.names).outcome = .ok source) (hsource : source ≠ "") :
    ∃ p, Script.planFor site.registry c.modes s.names = .ok p ∧
      source = Script.text header c p ∧ Script.Stripped header p source ∧
      (∃ d, site.draft tokens = .ok d ∧ d.source = Strip.strip source ∧
        d.diagnostics =
          (Script.generate site.registry c s.names).faults.map Fault.diagnostic) ∧
      ∀ report, (site.build tokens).result = .ok report →
        report.source = Strip.strip source ∧
        ∃ failures, report.diagnostics =
            (Script.generate site.registry c s.names).faults.map Fault.diagnostic ++ failures ∧
          Diagnostic.AtMostOne Diagnostic.IsFailedDelivery failures := by
  obtain ⟨h, rfl, rfl⟩ := Registry.accepted_of_ofEntries hr
  have hnames : s.names ≠ [] := by
    intro hnil
    rw [hnil] at hg
    exact hsource (Except.ok.inj hg).symm
  obtain ⟨p, hplanFor, -, hsourceeq, -⟩ := Script.generate_eq_ok hnames hg
  have hplan := Registry.closedPlan_of_plan_eq h
    (fun _ ha => Registry.mem_order_of_mem_names h hs ha) (Script.plan_of_planFor hplanFor) hclosed
    hplain
  have hstripped : Script.Stripped site.registry.header p source := by
    rw [hsourceeq]
    exact Script.stripped_text hwrapper hplan hversion.2
  have haccepts : site.Accepts c source (Strip.strip source) := accepts_strip hreducer hstripped
  have hread := readCommand_eq_ok_iff.2 ⟨hc, hs⟩
  obtain ⟨reduced, hreduce⟩ : ∃ reduced, site.reduce c source = .ok reduced :=
    checkable_iff.1 fun _ _ _ _ _ _ _ => hversion.1
  have hdraft := draft_eq_of_generate hread hg
  rw [hreduce] at hdraft
  obtain ⟨hout, hnone⟩ := (reduce_eq_ok hminify hsource hreduce).1 _ haccepts
  refine ⟨p, hplanFor, hsourceeq, hstripped, ⟨_, hdraft, hout, ?_⟩, fun report hresult => ?_⟩
  · simp only [hnone, List.append_nil]
  · exact (reduces_of_build hread hg hminify hsource hresult).accepted _ haccepts

/-- A build from the small registry with the built-in reducer. -/
def strippingSite : Site where
  registry := Registry.sample

theorem commentClosed_sampleEntries : ∀ e ∈ Registry.sampleEntries, e.CommentClosed := by
  have hboth : ∀ e ∈ Registry.sampleEntries,
      (∀ value ∈ e.variants.values, Strip.IsClosed value.display) ∧
        Strip.IsClosed e.tail.value.display := by
    decide +kernel
  exact fun e he => ⟨(hboth e he).1, (hboth e he).2⟩

/-- Its source is shorter than the script, and has the version and the assignment. -/
theorem stripping_shortens :
    Registry.ofEntries Registry.sampleEntries Registry.sampleHeader = .ok strippingSite.registry ∧
      Command.ofTokens ["include=isArray", "-c", "-m"] = .ok reducedCommand ∧
      strippingSite.chosenReducer = .ok stripReducer ∧ reducedSource ≠ "" ∧
      ∃ report, (strippingSite.build ["include=isArray", "-c", "-m"]).result = .ok report ∧
        Text.lineFeeds report.source < Text.lineFeeds reducedSource ∧
        "lodash.VERSION = '2.4.1';" ∈ Text.lines report.source ∧
        "lodash.isArray = isArray;" ∈ Text.lines report.source := by
  have hreducer : strippingSite.chosenReducer = .ok stripReducer := rfl
  have hsource : reducedSource ≠ "" := Script.text_ne_empty
  have hversion : Registry.sampleHeader.version.isText = true ∧
      '\n' ∉ Registry.sampleHeader.version.display.toList := by
    decide +kernel
  have hplain : ∀ e ∈ Registry.sampleEntries, e.name ∈ ["isArray"] →
      '\n' ∉ e.name.toList ∧ ∀ otherName ∈ e.aliases, '\n' ∉ otherName.toList := by
    decide +kernel
  obtain ⟨p, hp, -, hstripped, ⟨d, hdraft, -⟩, hreport⟩ :=
    build_strips Registry.ofEntries_sampleEntries hversion commentClosed_sampleEntries hreducer
      ofTokens_reduced rfl rfl select_reduced hplain outcome_reduced hsource
  have hassignment : "lodash.isArray = isArray;" ∈
      p.functions.flatMap fun m => Script.assignmentLines m.entry := by
    obtain rfl := Except.ok.inj (planFor_isArray.symm.trans hp)
    decide +kernel
  have hread : strippingSite.readCommand ["include=isArray", "-c", "-m"] = .ok _ :=
    readCommand_eq_ok_iff.2 ⟨ofTokens_reduced, select_reduced⟩
  obtain ⟨report, hresult⟩ := exists_report_of_draft hread rfl hdraft
  have hreduced := (hreport report hresult).1
  refine ⟨Registry.ofEntries_sampleEntries, ofTokens_reduced, hreducer, hsource, report, hresult,
    ?_, ?_, ?_⟩
  · rw [hreduced]
    exact hstripped.lineFeeds_lt
  · rw [hreduced]
    exact hstripped.version_mem
  · rw [hreduced]
    exact (hstripped.assignment_mem _ hassignment).2

end Site

end CustomBuild
