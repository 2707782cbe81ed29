import CustomBuild.Build
import CustomBuild.Proofs.FileTree.Growth
import Mathlib

/-!
# How builds end

A build that ends with a report has told its listener once (`Site.build_completes`).  `Site.Refused`
is the end of a build whose command is refused: there is one problem, and nothing else has happened.
`Site.Completed` is the end of every other one: the listener knows the source and the destination of
the report, and the problems are those of generation, of the reduction and of the delivery, in this
order.

A build is a draft and its delivery, and each of the two adds problems of its own:
`Site.draft_eq_ok` and `Site.deliver_eq_ok` say which.  `Site.ReductionEnd` and `Site.DeliveryEnd`
have every way in which a reduction and a delivery come to their end, so that whatever else is said
about them goes by these cases.
-/

namespace CustomBuild

/-- Every fault of generating a script, that of the core helper last. -/
def Script.Generated.allFaults (g : Script.Generated) : List Fault :=
  g.faults ++ match g.outcome with
    | .error (.core fault) => [fault]
    | _ => []

namespace Diagnostic

/-- The problem is that a reduction was rejected. -/
def IsRejection (d : Diagnostic) : Prop :=
  ∃ name problems, problems ≠ [] ∧ d = rejection name problems

/-- The problem is that the delivery failed. -/
def IsFailedDelivery (d : Diagnostic) : Prop :=
  d.kind = "DeliveryError"

/-- At most one problem, which has a property. -/
def AtMostOne (p : Diagnostic → Prop) (ds : List Diagnostic) : Prop :=
  ds.length ≤ 1 ∧ ∀ d ∈ ds, p d

variable {p : Diagnostic → Prop} {d : Diagnostic}

theorem atMostOne_nil : AtMostOne p [] := by
  simp [AtMostOne]

theorem atMostOne_singleton (h : p d) : AtMostOne p [d] := by
  simp [AtMostOne, h]

end Diagnostic

namespace Site

variable {site : Site} {tokens : List String} {c : Command} {s : Selection} {source : String}
  {reduced : Reduced} {d : Draft} {report : Report} {diagnostic : Diagnostic}

/-! ### The two ends -/

/-- **The end of a build whose command is refused.** -/
structure Refused (site : Site) (diagnostic : Diagnostic) (o : Outcome) (report : Report) :
    Prop where
  /-- there is one problem, and neither a source nor a destination -/
  report_eq : report = { source := "", destination := none, diagnostics := [diagnostic] }
  /-- the listener is told the empty source -/
  notices_eq : o.notices = [{ source := "" }]
  /-- no file is touched -/
  tree_eq : o.tree = site.tree
  /-- nothing is written to standard output or in its place -/
  output_eq : o.stdout = "" ∧ o.stream = ""
  /-- nothing is reduced -/
  reducer_eq : o.reducerCalls = [] ∧ o.launched = []

/-- **The end of a build whose command is accepted.** -/
structure Completed (site : Site) (c : Command) (s : Selection) (o : Outcome) (report : Report) :
    Prop where
  /-- the listener is told the source, and the destination unless that is standard output -/
  notices_eq : o.notices = [{ source := report.source, path := report.destination }]
  /-- the destination is that of the command -/
  destination_eq : report.destination = c.destination
  /-- it is a file unless the command asks for standard output -/
  destination_eq_none_iff : report.destination = none ↔ c.stdout = true
  /-- the problems are the faults of generation, then a rejection, then a failed delivery -/
  diagnostics_eq : ∃ rejections failures,
    report.diagnostics = (Script.generate site.registry c s.names).allFaults.map Fault.diagnostic
        ++ rejections ++ failures ∧
      Diagnostic.AtMostOne Diagnostic.IsRejection rejections ∧
      Diagnostic.AtMostOne Diagnostic.IsFailedDelivery failures

theorem destination_eq_none_iff : c.destination = none ↔ c.stdout = true := by
  unfold Command.destination
  cases c.stdout with
  | true => simp
  | false =>
    cases c.outputPath with
    | none => simp
    | some path => by_cases hpath : path.isEmpty = true <;> simp [hpath]

/-! ### Reduction -/

/-- **How a reduction ends**, if it ends with a source. -/
inductive ReductionEnd (site : Site) (c : Command) (source : String) (reduced : Reduced) :
    Prop where
  /-- the command does not ask for one, or there is nothing to reduce -/
  | unwanted (hnot : ¬ (c.minify = true ∧ source ≠ "")) (heq : reduced = { source })
  /-- there is no reducer, which is the problem -/
  | noReducer {error : ExternalError} (hwants : c.minify = true ∧ source ≠ "")
      (hchosen : site.chosenReducer = .error error)
      (heq : reduced =
        { source
          diagnostics := [rejection "configured" [valueKind ++ ": " ++ error.message]] })
  /-- the reducer is used, and its first text takes the place of the source if there are no
  problems -/
  | used {reducer : Reducer} {problems : List String} (hwants : c.minify = true ∧ source ≠ "")
      (hchosen : site.chosenReducer = .ok reducer)
      (hproblems : (reducer.reduce source (reducerOptions c)).problems source
        site.registry.header.version = .ok problems)
      (hcalls : reduced.reducerCalls = if site.reducer.isSome then [reducerOptions c] else [])
      (hlaunched : reduced.launched = (reducer.reduce source (reducerOptions c)).launched)
      (hend : problems = [] ∧ reduced.diagnostics = [] ∧
          reduced.source = (reducer.reduce source (reducerOptions c)).outputs.headD source ∨
        problems ≠ [] ∧ reduced.diagnostics = [rejection reducer.name problems] ∧
          reduced.source = source)

theorem reductionEnd_of_reduce (h : site.reduce c source = .ok reduced) :
    site.ReductionEnd c source reduced := by
  unfold reduce at h
  split_ifs at h with hcond
  · have hwants : c.minify = true ∧ source ≠ "" := by simpa using hcond
    cases hchosen : site.chosenReducer with
    | error error =>
      rw [hchosen] at h
      exact .noReducer hwants hchosen (Except.ok.inj h).symm
    | ok reducer =>
      simp only [hchosen, reduceWith] at h
      cases hproblems : (reducer.reduce source (reducerOptions c)).problems source
          site.registry.header.version with
      | error misuse =>
        rw [hproblems] at h
        cases h
      | ok problems =>
        simp only [hproblems, Except.map, Except.ok.injEq] at h
        subst h
        by_cases hnil : problems = []
        · rw [if_pos (List.isEmpty_iff.2 hnil)]
          exact .used hwants hchosen hproblems rfl rfl (Or.inl ⟨hnil, rfl, rfl⟩)
        · rw [if_neg (mt List.isEmpty_iff.1 hnil)]
          exact .used hwants hchosen hproblems rfl rfl (Or.inr ⟨hnil, rfl, rfl⟩)
  · exact .unwanted (by simpa using hcond) (Except.ok.inj h).symm

/-- **A reduction** has no problem or one rejection. -/
theorem diagnostics_of_reduce (h : site.reduce c source = .ok reduced) :
    Diagnostic.AtMostOne Diagnostic.IsRejection reduced.diagnostics := by
  cases reductionEnd_of_reduce h with
  | unwanted hnot heq =>
    rw [heq]
    exact Diagnostic.atMostOne_nil
  | noReducer hwants hchosen heq =>
    rw [heq]
    exact Diagnostic.atMostOne_singleton ⟨_, _, List.cons_ne_nil _ _, rfl⟩
  | used hwants hchosen hproblems hcalls hlaunched hend =>
    rcases hend with ⟨-, hnone, -⟩ | ⟨hne, hone, -⟩
    · rw [hnone]
      exact Diagnostic.atMostOne_nil
    · rw [hone]
      exact Diagnostic.atMostOne_singleton ⟨_, _, hne, rfl⟩

/-! ### Drafts -/

/-- **Reading a command** is parsing it and settling its selection. -/
theorem readCommand_eq_ok_iff :
    site.readCommand tokens = .ok (c, s) ↔
      Command.ofTokens tokens = .ok c ∧ site.registry.select c = .ok s := by
  unfold readCommand
  cases Command.ofTokens tokens with
  | error error => simp
  | ok command =>
    cases hs : site.registry.select command with
    | error error =>
      simp only [hs]
      constructor
      · intro h
        cases h
      · rintro ⟨h, hselect⟩
        cases h
        rw [hs] at hselect
        cases hselect
    | ok selection =>
      simp only [hs]
      constructor
      · intro h
        cases h
        exact ⟨rfl, hs⟩
      · rintro ⟨h, hselect⟩
        cases h
        rw [hs] at hselect
        cases hselect
        rfl

/-- A command is refused because it is malformed, or for unknown names. -/
theorem kind_of_readCommand_error (h : site.readCommand tokens = .error diagnostic) :
    diagnostic.kind = commandKind ∨ diagnostic.kind = unknownNamesKind := by
  unfold readCommand at h
  split at h
  · cases h
    exact Or.inl rfl
  · split at h
    · cases h
      exact Or.inr rfl
    · cases h

/-- **A draft** is of the command and its selection, and has the faults of generation and at most
one rejection. -/
theorem draft_eq_ok (h : site.draft tokens = .ok d) :
    site.readCommand tokens = .ok (d.command, d.selection) ∧
      ∃ rejections, d.diagnostics =
          (Script.generate site.registry d.command d.selection.names).allFaults.map
            Fault.diagnostic ++ rejections ∧
        Diagnostic.AtMostOne Diagnostic.IsRejection rejections := by
  unfold draft at h
  cases hread : site.readCommand tokens with
  | error diagnostic =>
    rw [hread] at h
    cases h
  | ok pair =>
    obtain ⟨c, s⟩ := pair
    simp only [hread] at h
    cases houtcome : (Script.generate site.registry c s.names).outcome with
    | error error =>
      simp only [houtcome] at h
      cases error with
      | unknownName name => cases h
      | misuse misuse => cases h
      | core fault =>
        -- without the core helper there is no source, and nothing is reduced
        cases h
        exact ⟨rfl, [], by simp [Script.Generated.allFaults, houtcome], Diagnostic.atMostOne_nil⟩
    | ok source =>
      simp only [houtcome] at h
      cases hreduce : site.reduce c source with
      | error misuse =>
        simp only [hreduce] at h
        cases h
      | ok reduced =>
        simp only [hreduce] at h
        cases h
        exact ⟨rfl, reduced.diagnostics, by simp [Script.Generated.allFaults, houtcome],
          diagnostics_of_reduce hreduce⟩

/-- A draft is of the command that is read. -/
theorem command_of_draft (hread : site.readCommand tokens = .ok (c, s))
    (hdraft : site.draft tokens = .ok d) : d.command = c ∧ d.selection = s :=
  Prod.mk.inj (Except.ok.inj ((draft_eq_ok hdraft).1.symm.trans hread))

/-! ### Delivery -/

/-- The end of a delivery: the listener is told what the report has, and the delivery adds at most
one problem. -/
structure Delivered (site : Site) (d : Draft) (o : Outcome) (report : Report) : Prop where
  /-- what the listener is told -/
  notices_eq : o.notices = site.tell { source := report.source, path := report.destination }
  /-- the destination is that of the command -/
  destination_eq : report.destination = d.command.destination
  /-- a failed delivery is a problem of its own -/
  diagnostics_eq : ∃ failures, report.diagnostics = d.diagnostics ++ failures ∧
    Diagnostic.AtMostOne Diagnostic.IsFailedDelivery failures

theorem delivered_finishOnStream (hpath : d.command.destination = none)
    (h : (site.finishOnStream d).result = .ok report) :
    site.Delivered d (site.finishOnStream d) report := by
  cases h
  refine ⟨rfl, hpath.symm, _, rfl, ?_⟩
  cases site.stream with
  | terminal => exact Diagnostic.atMostOne_nil
  | own => exact Diagnostic.atMostOne_nil
  | broken reason => exact Diagnostic.atMostOne_singleton rfl

theorem delivered_finishOnFile {path : String} {tree : FileTree} {error : Option String}
    (hpath : d.command.destination = some path)
    (h : (site.finishOnFile d path tree error).result = .ok report) :
    site.Delivered d (site.finishOnFile d path tree error) report := by
  cases h
  refine ⟨rfl, hpath.symm, _, rfl, ?_⟩
  cases error with
  | none => exact Diagnostic.atMostOne_nil
  | some wording => exact Diagnostic.atMostOne_singleton rfl

/-- **How a delivery ends**, if it ends with a report. -/
inductive DeliveryEnd (site : Site) (d : Draft) : Prop where
  /-- the source goes to standard output -/
  | onStream (hpath : d.command.destination = none)
      (heq : site.deliver d = site.finishOnStream d)
  /-- the file could not be written, and the tree has at most grown -/
  | failed {path wording : String} {tree : FileTree} (hpath : d.command.destination = some path)
      (heq : site.deliver d = site.finishOnFile d path tree (some wording))
      (hgrown : FileTree.Grown ((Path.ofText path).wayTo site.workingDirectory) site.tree tree)
  /-- the source is in the file -/
  | written {path : String} {tree : FileTree} (hpath : d.command.destination = some path)
      (heq : site.deliver d = site.finishOnFile d path tree none)
      (hdelivery : FileTree.Delivery site.workingDirectory (Path.ofText path) d.source site.tree
        tree)

theorem deliveryEnd_of_deliver (h : (site.deliver d).result = .ok report) :
    site.DeliveryEnd d := by
  cases hpath : d.command.destination with
  | none => exact .onStream hpath (by simp only [deliver, hpath])
  | some path =>
    have hcases := site.tree.deliver_cases site.workingDirectory path
      (if (site.halves? d.source).isSome then "" else d.source)
    unfold deliver at h
    simp only [hpath] at h
    split at h
    · cases h
    · cases h
    · next halves tree error hdelivered =>
      have heq : site.deliver d = site.finishOnFile d path tree (some error.message) := by
        simp only [deliver, hpath, hdelivered]
      rw [hdelivered] at hcases
      rcases hcases with ⟨hnone, -⟩ | ⟨-, hgrown⟩
      · cases hnone
      · exact .failed hpath heq hgrown
    · cases h
    · next tree hdelivered hhalves =>
      have heq : site.deliver d = site.finishOnFile d path tree none := by
        simp only [deliver, hpath]
        rw [hdelivered, hhalves]
      -- a source without halves of surrogate pairs is written as it is
      rw [hdelivered, hhalves] at hcases
      rcases hcases with ⟨-, hdelivery⟩ | ⟨hsome, -⟩
      · exact .written hpath heq hdelivery
      · exact absurd rfl hsome

/-- **A delivery that ends with a report.** -/
theorem deliver_eq_ok (h : (site.deliver d).result = .ok report) :
    site.Delivered d (site.deliver d) report := by
  cases deliveryEnd_of_deliver h with
  | onStream hpath heq =>
    rw [heq] at h ⊢
    exact delivered_finishOnStream hpath h
  | failed hpath heq =>
    rw [heq] at h ⊢
    exact delivered_finishOnFile hpath h
  | written hpath heq =>
    rw [heq] at h ⊢
    exact delivered_finishOnFile hpath h

/-! ### Builds -/

/-- A command that cannot be read has no draft. -/
theorem draft_of_readCommand_error (hread : site.readCommand tokens = .error diagnostic) :
    site.draft tokens = .error (.refused diagnostic) := by
  rw [draft, hread]

/-- **A command that cannot be read** is refused. -/
theorem build_of_readCommand_error (hread : site.readCommand tokens = .error diagnostic) :
    site.build tokens = site.refuse tokens diagnostic := by
  rw [build, draft_of_readCommand_error hread]

/-- The end of a build whose command cannot be read. -/
theorem refused_of_readCommand (hlistener : site.hasListener = true)
    (hread : site.readCommand tokens = .error diagnostic)
    (h : (site.build tokens).result = .ok report) :
    site.Refused diagnostic (site.build tokens) report := by
  rw [build_of_readCommand_error hread] at h ⊢
  cases h
  refine ⟨rfl, ?_, rfl, ⟨rfl, rfl⟩, rfl, rfl⟩
  simp [refuse, tell, hlistener]

/-- A build that ends with a report delivers a draft if its command is read. -/
theorem exists_draft_of_result (hread : site.readCommand tokens = .ok (c, s))
    (h : (site.build tokens).result = .ok report) :
    ∃ d, site.draft tokens = .ok d ∧ site.build tokens = site.deliver d := by
  unfold build at h ⊢
  cases hdraft : site.draft tokens with
  | ok d => exact ⟨d, rfl, rfl⟩
  | error refusal =>
    rw [hdraft] at h
    cases refusal with
    | aborted abort => cases h
    | refused diagnostic =>
      unfold draft at hdraft
      simp only [hread] at hdraft
      split at hdraft
      · cases hdraft
      · cases hdraft
      · cases hdraft
      · split at hdraft <;> cases hdraft

/-- The end of a build whose command is read. -/
theorem completed_of_readCommand (hlistener : site.hasListener = true)
    (hread : site.readCommand tokens = .ok (c, s))
    (h : (site.build tokens).result = .ok report) :
    site.Completed c s (site.build tokens) report := by
  obtain ⟨d, hdraft, hbuild⟩ := exists_draft_of_result hread h
  rw [hbuild] at h ⊢
  obtain ⟨rfl, rfl⟩ := command_of_draft hread hdraft
  obtain ⟨-, rejections, hdiagnostics, hrejections⟩ := draft_eq_ok hdraft
  obtain ⟨hnotices, hdestination, failures, hreport, hfailures⟩ := deliver_eq_ok h
  refine ⟨?_, hdestination, ?_, rejections, failures, ?_, hrejections, hfailures⟩
  · rw [hnotices, tell, hlistener]
    rfl
  · rw [hdestination]
    exact destination_eq_none_iff
  · rw [hreport, hdiagnostics]

/-- **A build that ends with a report** has told its listener once.  If the command cannot be parsed
or selects unknown names, that is the only problem and nothing else has happened.  Otherwise the
listener is told the source and the destination of the report, whatever went wrong on the way. -/
theorem build_completes (hlistener : site.hasListener = true)
    (h : (site.build tokens).result = .ok report) :
    (∀ error, Command.ofTokens tokens = .error error →
        site.Refused { kind := "ConfigurationError", message := error.message }
          (site.build tokens) report) ∧
      (∀ c error, Command.ofTokens tokens = .ok c → site.registry.select c = .error error →
        site.Refused { kind := "UnknownNameError", message := error.message }
          (site.build tokens) report) ∧
      ∀ c s, Command.ofTokens tokens = .ok c → site.registry.select c = .ok s →
        site.Completed c s (site.build tokens) report := by
  refine ⟨fun error hc => ?_, fun c error hc hs => ?_, fun c s hc hs => ?_⟩
  · refine refused_of_readCommand hlistener ?_ h
    rw [readCommand, hc]
    rfl
  · refine refused_of_readCommand hlistener ?_ h
    simp only [readCommand, hc, hs]
    rfl
  · exact completed_of_readCommand hlistener (readCommand_eq_ok_iff.2 ⟨hc, hs⟩) h

/-- A library without a core helper, and a directory where the file is to go. -/
def faultySite : Site where
  registry :=
    { header := { version := .string "2.4.1" },
      entries := [{ name := "isArray", category := "Objects" }],
      aliases := ∅,
      order := ["isArray"] }
  tree := { nodes := [(["b.js"], .directory)] }

/-- The command of `include=isArray -o b.js`. -/
def faultyCommand : Command where
  included := some ["isArray"]
  outputPath := some "b.js"
  tokens := ["include=\"isArray\""]

/-- Its report: neither generation nor delivery goes well. -/
def faultyReport : Report where
  destination := some "b.js"
  diagnostics :=
    [{ kind := "GenerationFault", message := "Registry has no core helper 'lodash'" },
      { kind := "DeliveryError",
        message := "Cannot write b.js: [Errno 21] Is a directory: 'b.js'" }]

theorem ofTokens_faulty :
    Command.ofTokens ["include=isArray", "-o", "b.js"] = .ok faultyCommand := by
  decide +kernel

theorem select_faulty :
    faultySite.registry.select faultyCommand =
      .ok { names := ["isArray"], requested := ["isArray"] } := by
  cbv

theorem draft_faulty :
    faultySite.draft ["include=isArray", "-o", "b.js"] = .ok
      { command := faultyCommand, selection := { names := ["isArray"], requested := ["isArray"] },
        source := "", diagnostics := [Fault.noCore.diagnostic], reducerCalls := [],
        launched := [] } := by
  have houtcome : (Script.generate faultySite.registry faultyCommand ["isArray"]) =
      { faults := [], outcome := .error (.core .noCore) } := by
    cbv
  simp only [draft, readCommand, ofTokens_faulty, select_faulty, houtcome]
  rfl

theorem result_faulty :
    (faultySite.build ["include=isArray", "-o", "b.js"]).result = .ok faultyReport := by
  rw [build, draft_faulty]
  decide +kernel

/-- The listener of this build is told the destination that could not be written. -/
theorem faulty_completes :
    faultySite.hasListener = true ∧
      (faultySite.build ["include=isArray", "-o", "b.js"]).result = .ok faultyReport ∧
      faultySite.Completed faultyCommand { names := ["isArray"], requested := ["isArray"] }
        (faultySite.build ["include=isArray", "-o", "b.js"]) faultyReport :=
  ⟨rfl, result_faulty,
    (build_completes rfl result_faulty).2.2 _ _ ofTokens_faulty select_faulty⟩

end Site

end CustomBuild
