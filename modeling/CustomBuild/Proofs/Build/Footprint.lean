import CustomBuild.Proofs.Build.Completion
import CustomBuild.Proofs.FileTree.Growth

/-!
# What builds do to the file tree

A build that ends with a report has touched no more of the file tree than it had to
(`Site.build_leaves_file`).  A refused command and one that asks for standard output leave the tree
as it is.  Every other command changes the file that it names and makes directories on the way to
it; if the report has a failed delivery, no file is changed either, so an old file is never lost.
-/

namespace CustomBuild.Site

variable {site : Site} {tokens : List String} {c : Command} {s : Selection} {d : Draft}
  {report : Report} {diagnostic : Diagnostic} {path : String}

/-- **What a build leaves in the file tree** when its source was to go to a file. -/
structure LeavesFile (site : Site) (path : String) (o : Outcome) (report : Report) : Prop where
  /-- everything is kept that is not in place of the file -/
  kept : ∀ place node, place ≠ (Path.ofText path).place site.workingDirectory →
    site.tree.node? place = some node → o.tree.node? place = some node
  /-- what is new is a directory on the way, or the file -/
  added : ∀ place node, site.tree.node? place = none → o.tree.node? place = some node →
    node = .directory ∧ place ∈ (Path.ofText path).wayTo site.workingDirectory ∨
      place = (Path.ofText path).place site.workingDirectory ∧ ∃ text, node = .file text
  /-- after a delivery that did not fail, the source is in place, and can be read under the path -/
  delivered : report.has "DeliveryError" = false →
    o.tree.node? ((Path.ofText path).place site.workingDirectory) = some (.file report.source) ∧
      o.tree.readFile site.workingDirectory (Path.ofText path) = .ok report.source
  /-- after a delivery that failed, there is nothing new but directories on the way -/
  failed : report.has "DeliveryError" = true →
    FileTree.Grown ((Path.ofText path).wayTo site.workingDirectory) site.tree o.tree

/-! ### Problems that are no failed delivery -/

/-- The problems of a draft are those of generation and reduction. -/
theorem kind_of_mem_draft (h : site.draft tokens = .ok d) (hmem : diagnostic ∈ d.diagnostics) :
    diagnostic.kind = "GenerationFault" := by
  obtain ⟨-, rejections, hdiagnostics, -, hrejections⟩ := draft_eq_ok h
  rw [hdiagnostics] at hmem
  rcases List.mem_append.1 hmem with hfault | hrejection
  · obtain ⟨fault, -, rfl⟩ := List.mem_map.1 hfault
    rfl
  · obtain ⟨name, problems, -, rfl⟩ := hrejections diagnostic hrejection
    rfl

/-- A build to a file has a failed delivery exactly if the file could not be written. -/
theorem has_deliveryError_iff (hdraft : site.draft tokens = .ok d) {tree : FileTree}
    {error : Option String} (h : (site.finishOnFile d path tree error).result = .ok report) :
    report.has "DeliveryError" = error.isSome := by
  have hnone : d.diagnostics.any (fun x => x.kind == "DeliveryError") = false := by
    rw [List.any_eq_false]
    intro x hx
    rw [kind_of_mem_draft hdraft hx]
    decide
  cases h
  unfold Report.has
  simp only [List.any_append, hnone, Bool.false_or]
  cases error with
  | none => rfl
  | some wording => rfl

/-! ### Deliveries -/

/-- A file that could not be written: the tree has at most grown. -/
theorem leavesFile_of_error (hdraft : site.draft tokens = .ok d) {tree : FileTree}
    {wording : String}
    (hgrown : FileTree.Grown ((Path.ofText path).wayTo site.workingDirectory) site.tree tree)
    (h : (site.finishOnFile d path tree (some wording)).result = .ok report) :
    site.LeavesFile path (site.finishOnFile d path tree (some wording)) report := by
  have hhas : report.has "DeliveryError" = true := has_deliveryError_iff hdraft h
  constructor
  · exact fun place node _ => hgrown.kept place node
  · exact fun place node hnone hsome => Or.inl (hgrown.added place node hnone hsome)
  · intro hnot
    rw [hhas] at hnot
    cases hnot
  · exact fun _ => hgrown

/-- A file that was written: the source is in its place. -/
theorem leavesFile_of_delivery (hdraft : site.draft tokens = .ok d) {tree : FileTree}
    (hdelivery : FileTree.Delivery site.workingDirectory (Path.ofText path) d.source site.tree tree)
    (h : (site.finishOnFile d path tree none).result = .ok report) :
    site.LeavesFile path (site.finishOnFile d path tree none) report := by
  have hhas : report.has "DeliveryError" = false := has_deliveryError_iff hdraft h
  have hsource : report.source = d.source := by
    cases h
    rfl
  constructor
  · exact hdelivery.kept
  · intro place node hnone hsome
    rcases hdelivery.added place node hnone hsome with hdirectory | ⟨hplace, hfile⟩
    · exact Or.inl hdirectory
    · exact Or.inr ⟨hplace, d.source, hfile⟩
  · intro _
    rw [hsource]
    exact ⟨hdelivery.placed, hdelivery.readable⟩
  · intro hfailed
    rw [hhas] at hfailed
    cases hfailed

/-- **A delivery to a file** that ends with a report. -/
theorem leavesFile_deliver (hdraft : site.draft tokens = .ok d)
    (hpath : d.command.destination = some path)
    (h : (site.deliver d).result = .ok report) :
    site.LeavesFile path (site.deliver d) report := by
  cases deliveryEnd_of_deliver h with
  | onStream hnone heq => cases hnone.symm.trans hpath
  | failed hfile heq hgrown =>
    cases hfile.symm.trans hpath
    rw [heq] at h ⊢
    exact leavesFile_of_error hdraft hgrown h
  | written hfile heq hdelivery =>
    cases hfile.symm.trans hpath
    rw [heq] at h ⊢
    exact leavesFile_of_delivery hdraft hdelivery h

/-! ### Builds -/

/-- A refused command leaves the tree as it is. -/
theorem tree_of_readCommand_error (hread : site.readCommand tokens = .error diagnostic) :
    (site.build tokens).tree = site.tree := by
  rw [build_of_readCommand_error hread]
  rfl

/-- A build that goes to standard output leaves the tree as it is. -/
theorem tree_deliver_of_destination_eq_none (hpath : d.command.destination = none) :
    (site.deliver d).tree = site.tree := by
  unfold deliver
  rw [hpath]
  rfl

/-- **What a build does to the file tree.**  A command that cannot be parsed or selects unknown
names, and one that asks for standard output, leave the tree as it is.  Any other leaves a file in
the tree, or if the delivery fails, at most directories on the way to it. -/
theorem build_leaves_file (h : (site.build tokens).result = .ok report) :
    (∀ error, Command.ofTokens tokens = .error error → (site.build tokens).tree = site.tree) ∧
      (∀ c error, Command.ofTokens tokens = .ok c → site.registry.select c = .error error →
        (site.build tokens).tree = site.tree) ∧
      ∀ c s, Command.ofTokens tokens = .ok c → site.registry.select c = .ok s →
        (c.stdout = true → (site.build tokens).tree = site.tree) ∧
        (c.stdout = false → ∃ path, c.destination = some path ∧ report.destination = some path ∧
          site.LeavesFile path (site.build tokens) report) := by
  refine ⟨fun error hc => ?_, fun c error hc hs => ?_, fun c s hc hs => ?_⟩
  · have hread : site.readCommand tokens = .error ⟨commandKind, error.message⟩ := by
      rw [readCommand, hc]
    exact tree_of_readCommand_error hread
  · have hread : site.readCommand tokens = .error ⟨unknownNamesKind, error.message⟩ := by
      simp only [readCommand, hc, hs]
    exact tree_of_readCommand_error hread
  · have hread := readCommand_eq_ok_iff.2 ⟨hc, hs⟩
    obtain ⟨d, hdraft, hbuild⟩ := exists_draft_of_result hread h
    obtain ⟨rfl, rfl⟩ := command_of_draft hread hdraft
    rw [hbuild] at h ⊢
    constructor
    · exact fun hstdout =>
        tree_deliver_of_destination_eq_none (destination_eq_none_iff.2 hstdout)
    · intro hfile
      obtain ⟨path, hpath⟩ : ∃ path, d.command.destination = some path := by
        rw [← Option.ne_none_iff_exists', Ne, destination_eq_none_iff, hfile]
        exact Bool.false_ne_true
      have hreport : report.destination = some path := (deliver_eq_ok h).destination_eq.trans hpath
      exact ⟨path, hpath, hreport, leavesFile_deliver hdraft hpath h⟩

/-- A library without a core helper, and a file where a directory is to go. -/
def blockedSite : Site where
  registry := faultySite.registry
  tree := { nodes := [(["old.js"], .file "old")] }

/-- The command of `include=isArray -o made/../old.js/b.js`. -/
def blockedCommand : Command where
  included := some ["isArray"]
  outputPath := some "made/../old.js/b.js"
  tokens := ["include=\"isArray\""]

/-- Its report: one directory is made, and then the way ends at the file. -/
def blockedReport : Report where
  destination := some "made/../old.js/b.js"
  diagnostics :=
    [{ kind := "GenerationFault", message := "Registry has no core helper 'lodash'" },
      { kind := "DeliveryError",
        message :=
          "Cannot write made/../old.js/b.js: [Errno 17] File exists: 'made/../old.js'" }]

theorem ofTokens_blocked :
    Command.ofTokens ["include=isArray", "-o", "made/../old.js/b.js"] = .ok blockedCommand := by
  decide +kernel

theorem select_blocked :
    blockedSite.registry.select blockedCommand =
      .ok { names := ["isArray"], requested := ["isArray"] } := by
  cbv

theorem draft_blocked :
    blockedSite.draft ["include=isArray", "-o", "made/../old.js/b.js"] = .ok
      { command := blockedCommand, selection := { names := ["isArray"], requested := ["isArray"] },
        source := "", diagnostics := [Fault.noCore.diagnostic], reducerCalls := [],
        launched := [] } := by
  have houtcome : (Script.generate blockedSite.registry blockedCommand ["isArray"]) =
      { faults := [], outcome := .error (.core .noCore) } := by
    cbv
  simp only [draft, readCommand, ofTokens_blocked, select_blocked, houtcome]
  rfl

theorem result_blocked :
    (blockedSite.build ["include=isArray", "-o", "made/../old.js/b.js"]).result =
      .ok blockedReport := by
  rw [build, draft_blocked]
  decide +kernel

/-- The file in the way of this build is not touched, and the directory before it stays. -/
theorem blocked_leaves_file :
    (blockedSite.build ["include=isArray", "-o", "made/../old.js/b.js"]).result =
        .ok blockedReport ∧
      blockedReport.has "DeliveryError" = true ∧
      FileTree.Grown ((Path.ofText "made/../old.js/b.js").wayTo []) blockedSite.tree
        (blockedSite.build ["include=isArray", "-o", "made/../old.js/b.js"]).tree ∧
      (blockedSite.build ["include=isArray", "-o", "made/../old.js/b.js"]).tree.nodes =
        [(["old.js"], .file "old"), (["made"], .directory)] := by
  have hhas : blockedReport.has "DeliveryError" = true := by decide
  obtain ⟨path, hpath, -, hleaves⟩ :=
    ((build_leaves_file result_blocked).2.2 _ _ ofTokens_blocked select_blocked).2 rfl
  have hnodes : (blockedSite.build ["include=isArray", "-o", "made/../old.js/b.js"]).tree.nodes =
      [(["old.js"], .file "old"), (["made"], .directory)] := by
    rw [build, draft_blocked]
    decide +kernel
  obtain rfl := Option.some.inj hpath
  exact ⟨result_blocked, hhas, hleaves.failed hhas, hnodes⟩

end CustomBuild.Site
