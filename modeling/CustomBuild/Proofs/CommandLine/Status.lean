import CustomBuild.Proofs.Build.Independent
import CustomBuild.Proofs.Build.Loaded
import CustomBuild.Proofs.CommandLine.Agreement
import CustomBuild.Proofs.CommandLine.Origin
import CustomBuild.Proofs.FileTree.Failure
import CustomBuild.Proofs.Packaged

/-!
# What the exit status tells

The exit status of a build that the program runs to its end is 1 exactly if the command is refused,
2 exactly if the source could not be written, and 0 exactly if the whole source has arrived
(`CommandLine.Truthful`).  This holds for the packaged registry, for every command, environment and
file tree, and whatever a reducer does; but the program does not always come to its end.  It breaks
off if the environment names no level for log records but something else, if the path of the command
needs too many directories, and if standard output does not take the line about a file that was
written (`CommandLine.start_tells_truth`).
-/

namespace CustomBuild

/-! ### Drafts -/

namespace Script

variable {r : Registry} {c : Command} {names : List String}

/-- **Generating a script** of a registry whose fragments are texts gives a source, or the fault
that there is no core helper. -/
theorem outcome_of_stocked (h : r.Stocked) (horder : ∀ a ∈ names, a ∈ r.order) :
    (∃ source, (generate r c names).outcome = .ok source) ∨
      ∃ fault, (generate r c names).outcome = .error (.core fault) := by
  by_cases hempty : names = []
  · rw [hempty]
    exact Or.inl ⟨"", rfl⟩
  · by_cases hcore : r.contains coreName = true
    · obtain ⟨-, hgenerate⟩ := h.generate_eq (c := c) hcore hempty horder
      rw [hgenerate]
      exact Or.inl ⟨_, rfl⟩
    · have hplan : planFor r c.modes names = .error (.core .noCore) := by
        rw [planFor, if_neg hcore]
      rw [generate, if_neg (mt List.isEmpty_iff.1 hempty), hplan]
      exact Or.inr ⟨.noCore, rfl⟩

end Script

namespace Site

variable {site : Site} {tokens : List String} {c : Command} {s : Selection} {d : Draft}
  {path : String} {diagnostic : Diagnostic}

/-- **A command that is read has a draft** if the registry has scripts that can be written. -/
theorem exists_draft (h : site.registry.Writable) (hread : site.readCommand tokens = .ok (c, s)) :
    ∃ d, site.draft tokens = .ok d := by
  have horder := Registry.mem_order_of_select (readCommand_eq_ok_iff.1 hread).2
  have hreduce : ∀ source, ∃ reduced, site.reduce c source = .ok reduced :=
    fun source => checkable_iff.1 fun _ _ _ _ _ _ _ => h.version
  unfold draft
  simp only [hread]
  rcases Script.outcome_of_stocked (c := c) h.stocked horder with
    ⟨source, hsource⟩ | ⟨fault, hfault⟩
  · obtain ⟨reduced, hreduced⟩ := hreduce source
    simp only [hsource, hreduced]
    exact ⟨_, rfl⟩
  · simp only [hfault]
    exact ⟨_, rfl⟩

/-- **The source of a draft cannot be written**: not to its file, or not to standard output. -/
def FailsToWrite (site : Site) (d : Draft) : Prop :=
  match d.command.destination with
  | some path => (site.tree.deliver site.workingDirectory path d.source).2 ≠ none
  | none => ∃ reason, site.stream = .broken reason

theorem failsToWrite_iff_of_some (hpath : d.command.destination = some path) :
    site.FailsToWrite d ↔ (site.tree.deliver site.workingDirectory path d.source).2 ≠ none := by
  rw [FailsToWrite, hpath]

theorem failsToWrite_iff_of_none (hpath : d.command.destination = none) :
    site.FailsToWrite d ↔ ∃ reason, site.stream = .broken reason := by
  rw [FailsToWrite, hpath]

/-- **Delivering a draft to a file** is delivering its source, if no text has halves of surrogate
pairs. -/
theorem build_of_destination (h : site.registry.hasHalves = false)
    (hdraft : site.draft tokens = .ok d) (hpath : d.command.destination = some path) :
    site.build tokens = site.finishDelivery d path
      (site.tree.deliver site.workingDirectory path d.source).1
      (site.tree.deliver site.workingDirectory path d.source).2 := by
  have hhalves : site.halves? d.source = none := by
    rw [halves?, h]
    rfl
  have hx : site.parcel? tokens = some { path, text := d.source } := by
    refine parcel?_eq_some_iff.2 ⟨d, hdraft, hpath, ?_⟩
    rw [hhalves]
    rfl
  rw [build_of_some site hx, finish_of_some hdraft hpath]

end Site

namespace CommandLine

variable {site : Site} {tokens texts : List String} {d : Site.Draft} {path : String}
  {e : Ending} {settled : Settled} {report : Report} {outcome : Outcome} {c : Command}

/-- **The program writes to no path with the null character** if its arguments do not have it. -/
theorem hasNull_destination (hnull : ∀ text ∈ texts, Char.ofNat 0 ∉ text.toList)
    (hread : read texts = .ok settled) (hc : Command.ofTokens settled.tokens = .ok c)
    (hpath : c.destination = some path) : (Path.ofText path).hasNull = false := by
  rw [← Bool.not_eq_true, Path.hasNull_ofText_iff]
  have hmade : ∀ text ∈ texts, Text.MadeOf (· ≠ Char.ofNat 0) text := by
    rintro text htext _ hmem rfl
    exact hnull text htext hmem
  rcases madeOf_destination hmade hread hc hpath with h | rfl | rfl
  · exact fun hmem => h _ hmem rfl
  · decide
  · decide

/-! ### Exit statuses -/

/-- **The status after a draft** is 2 if there are problems of the delivery, and 0 otherwise: those
of generation and reduction do not count. -/
theorem exitStatus_of_draft (hdraft : site.draft tokens = .ok d) {failures : List Diagnostic}
    (hreport : report.diagnostics = d.diagnostics ++ failures)
    (hfailures : ∀ x ∈ failures, x.kind = deliveryKind) :
    exitStatus report = if failures.isEmpty then 0 else 2 := by
  have hmade : ∀ x ∈ d.diagnostics, x.kind = generationKind :=
    fun x hx => Site.kind_of_mem_draft hdraft hx
  -- neither problems of the draft nor those of the delivery are refusals
  have hrefused : report.diagnostics.any (fun x => refusalKinds.contains x.kind) = false := by
    rw [hreport, List.any_eq_false]
    intro x hx
    rcases List.mem_append.1 hx with hx | hx
    · rw [hmade x hx]
      decide
    · rw [hfailures x hx]
      decide
  have hgenerated : d.diagnostics.any (fun x => x.kind == deliveryKind) = false := by
    rw [List.any_eq_false]
    intro x hx
    rw [hmade x hx]
    decide
  rw [exitStatus, hrefused, Report.has, hreport, List.any_append, hgenerated]
  cases failures with
  | nil => rfl
  | cons failure rest =>
    have hfirst : (failure.kind == deliveryKind) = true :=
      beq_iff_eq.2 (hfailures failure List.mem_cons_self)
    simp [hfirst]

/-! ### Endings -/

/-- **The program has broken off**: at its start, in the build or in printing a line. -/
def Ending.IsBrokenOff (e : Ending) : Prop :=
  e.unlogged ≠ none ∨ e.breakdown ≠ none ∨ e.unprinted ≠ none

/-- **After its start, the program breaks off** if the build ends without a report, or prints a line
that standard output does not take. -/
theorem isBrokenOff_endingOf_iff {stream : Stream} :
    (endingOf stream outcome).IsBrokenOff ↔
      (∃ abort, outcome.result = .error abort) ∨
        (∃ reason, stream = .broken reason) ∧ outcome.stdout ≠ "" := by
  unfold Ending.IsBrokenOff endingOf
  cases outcome.result with
  | error abort => simp
  | ok report =>
    cases stream with
    | terminal => simp
    | own => simp
    | broken reason => by_cases hempty : outcome.stdout = "" <;> simp [hempty]

/-- **The ending of a program that has not broken off** is that of the report. -/
theorem endingOf_of_not_isBrokenOff {stream : Stream} (h : outcome.result = .ok report)
    (hbroken : ¬ (endingOf stream outcome).IsBrokenOff) :
    endingOf stream outcome =
      { status := exitStatus report, stdout := outcome.stdout, stderr := outcome.stderr,
        tree := outcome.tree } := by
  have hprinted := mt isBrokenOff_endingOf_iff.2 hbroken
  rw [endingOf, h]
  cases stream with
  | terminal => rfl
  | own => rfl
  | broken reason =>
    have hempty : outcome.stdout = "" := by
      by_contra hne
      exact hprinted (Or.inr ⟨⟨reason, rfl⟩, hne⟩)
    rw [hempty]
    rfl

/-- **The source of a draft has arrived** where it was to go: it can be read from the file, or
standard output has it. -/
def Ending.Holds (e : Ending) (site : Site) (d : Site.Draft) : Prop :=
  match d.command.destination with
  | some path => e.tree.readFile site.workingDirectory (Path.ofText path) = .ok d.source
  | none => site.stream = .terminal ∧ e.stdout = d.source

/-- **The exit status tells the truth** about the build of some tokens. -/
structure Truthful (site : Site) (tokens : List String) (e : Ending) : Prop where
  /-- the status is 1 exactly if the command is refused -/
  refused : e.status = 1 ↔ ∃ diagnostic, site.readCommand tokens = .error diagnostic
  /-- and then nothing is written -/
  untouched : e.status = 1 → e.tree = site.tree ∧ e.stdout = ""
  /-- the status is 2 exactly if the source of the build could not be written -/
  failed : e.status = 2 ↔ ∃ d, site.draft tokens = .ok d ∧ site.FailsToWrite d
  /-- the status is 0 exactly if the whole source of the build has arrived -/
  delivered : e.status = 0 ↔ ∃ d, site.draft tokens = .ok d ∧ e.Holds site d

/-- The ending of a build that delivers a draft tells the truth if its status is that of the
delivery. -/
theorem truthful_of_draft (hdraft : site.draft tokens = .ok d)
    (h : e.status = 2 ∧ site.FailsToWrite d ∧ ¬ e.Holds site d ∨
      e.status = 0 ∧ ¬ site.FailsToWrite d ∧ e.Holds site d) : Truthful site tokens e := by
  have hread := (Site.draft_eq_ok hdraft).1
  have hnotRefused : ¬ ∃ diagnostic, site.readCommand tokens = .error diagnostic := by
    rintro ⟨diagnostic, hdiagnostic⟩
    rw [hread] at hdiagnostic
    cases hdiagnostic
  have hunique : ∀ p : Site.Draft → Prop, (∃ d, site.draft tokens = .ok d ∧ p d) ↔ p d := by
    intro p
    rw [hdraft]
    constructor
    · rintro ⟨other, hother, hp⟩
      rwa [Except.ok.inj hother]
    · exact fun hp => ⟨d, rfl, hp⟩
  have hne : e.status ≠ 1 := by
    rcases h with ⟨hstatus, -⟩ | ⟨hstatus, -⟩ <;> rw [hstatus] <;> decide
  refine ⟨iff_of_false hne hnotRefused, fun hone => absurd hone hne, ?_, ?_⟩
  · rw [hunique]
    rcases h with ⟨hstatus, hfails, -⟩ | ⟨hstatus, hnot, -⟩
    · exact iff_of_true hstatus hfails
    · exact iff_of_false (by rw [hstatus]; decide) hnot
  · rw [hunique]
    rcases h with ⟨hstatus, -, hnot⟩ | ⟨hstatus, -, hholds⟩
    · exact iff_of_false (by rw [hstatus]; decide) hnot
    · exact iff_of_true hstatus hholds

/-- **A refused command** ends the program with the status 1 and leaves everything as it is. -/
theorem truthful_of_refused {diagnostic : Diagnostic}
    (hread : site.readCommand tokens = .error diagnostic) :
    ¬ (endingOf site.stream (site.build tokens)).IsBrokenOff ∧
      Truthful site tokens (endingOf site.stream (site.build tokens)) := by
  have hbuild := Site.build_of_readCommand_error hread
  have hresult : (site.build tokens).result = .ok { diagnostics := [diagnostic] } := by
    rw [hbuild]
    rfl
  have hempty : (site.build tokens).stdout = "" := by
    rw [hbuild]
    rfl
  have hbroken : ¬ (endingOf site.stream (site.build tokens)).IsBrokenOff := by
    rw [isBrokenOff_endingOf_iff, hresult, hempty]
    simp
  have hstatus : exitStatus { diagnostics := [diagnostic] } = 1 := by
    have hkind : refusalKinds.contains diagnostic.kind = true := by
      rcases Site.kind_of_readCommand_error hread with hkind | hkind <;> rw [hkind] <;> decide
    rw [exitStatus, List.any_cons, hkind]
    rfl
  have hnone : ∀ p : Site.Draft → Prop, ¬ ∃ d, site.draft tokens = .ok d ∧ p d := by
    rintro p ⟨d, hd, -⟩
    rw [Site.draft_of_readCommand_error hread] at hd
    cases hd
  refine ⟨hbroken, ?_⟩
  rw [endingOf_of_not_isBrokenOff hresult hbroken, hstatus]
  refine ⟨iff_of_true rfl ⟨diagnostic, hread⟩, fun _ => ?_, ?_, ?_⟩
  · exact ⟨Site.tree_of_readCommand_error hread, hempty⟩
  · exact iff_of_false (show 1 ≠ 2 by decide) (hnone _)
  · exact iff_of_false (show 1 ≠ 0 by decide) (hnone _)

/-- **A build to standard output** ends the program with the status 0 if it has the source. -/
theorem truthful_of_stream (hstream : site.stream ≠ .own) (hdraft : site.draft tokens = .ok d)
    (hpath : d.command.destination = none) :
    ¬ (endingOf site.stream (site.build tokens)).IsBrokenOff ∧
      Truthful site tokens (endingOf site.stream (site.build tokens)) := by
  have hbuild : site.build tokens = site.finishOnStream d := by
    rw [Site.build, hdraft]
    simp only [Site.deliver, hpath]
  -- nothing is printed but the source, and a stream that is broken is a problem of the report
  have hbroken : ¬ (endingOf site.stream (site.finishOnStream d)).IsBrokenOff := by
    rw [isBrokenOff_endingOf_iff]
    rintro (⟨abort, hresult⟩ | ⟨⟨reason, hreason⟩, hne⟩)
    · cases hresult
    · exact hne (by rw [Site.finishOnStream, hreason]; rfl)
  have hfails : site.FailsToWrite d ↔ ∃ reason, site.stream = .broken reason :=
    Site.failsToWrite_iff_of_none hpath
  have hholds : ∀ e : Ending, e.Holds site d ↔ site.stream = .terminal ∧ e.stdout = d.source := by
    intro e
    rw [Ending.Holds, hpath]
  rw [hbuild]
  refine ⟨hbroken, truthful_of_draft hdraft ?_⟩
  rw [endingOf_of_not_isBrokenOff rfl hbroken, hfails, hholds, Site.finishOnStream]
  cases hcase : site.stream with
  | own => exact absurd hcase hstream
  | terminal =>
    refine Or.inr ⟨exitStatus_of_draft hdraft rfl (List.forall_mem_nil _), ?_, rfl, rfl⟩
    rintro ⟨reason, hreason⟩
    cases hreason
  | broken reason =>
    refine Or.inl
      ⟨exitStatus_of_draft hdraft rfl (List.forall_mem_singleton.2 rfl), ⟨reason, rfl⟩, ?_⟩
    rintro ⟨hterminal, -⟩
    cases hterminal

/-- A line about a file breaks the program off if standard output does not take it, unless the
command keeps quiet. -/
theorem isBrokenOff_finishOnFile_iff {stream : Stream} {tree : FileTree} {error : Option String} :
    (endingOf stream (site.finishOnFile d path tree error)).IsBrokenOff ↔
      (∃ reason, stream = .broken reason) ∧ d.command.silent = false ∧ error = none := by
  rw [isBrokenOff_endingOf_iff]
  have hline : (site.finishOnFile d path tree error).stdout ≠ "" ↔
      d.command.silent = false ∧ error = none := by
    unfold Site.finishOnFile Site.savedLine
    cases error <;> cases d.command.silent <;> simp
  rw [hline]
  refine or_iff_right ?_
  rintro ⟨abort, hresult⟩
  cases hresult

/-- **A build to a file** ends the program with the status of the delivery. -/
theorem truthful_of_finishOnFile (hdraft : site.draft tokens = .ok d)
    (hpath : d.command.destination = some path) {tree : FileTree} {error : Option String}
    (hfails : site.FailsToWrite d ↔ error ≠ none)
    (hread : tree.readFile site.workingDirectory (Path.ofText path) = .ok d.source ↔ error = none)
    (hbroken : ¬ (endingOf site.stream (site.finishOnFile d path tree error)).IsBrokenOff) :
    Truthful site tokens (endingOf site.stream (site.finishOnFile d path tree error)) := by
  have hholds : ∀ e : Ending, e.Holds site d ↔
      e.tree.readFile site.workingDirectory (Path.ofText path) = .ok d.source := by
    intro e
    rw [Ending.Holds, hpath]
  refine truthful_of_draft hdraft ?_
  rw [endingOf_of_not_isBrokenOff rfl hbroken, hholds, hfails]
  simp only [Site.finishOnFile, hread]
  cases error with
  | some wording =>
    have hne : some wording ≠ none := Option.some_ne_none wording
    exact Or.inl ⟨exitStatus_of_draft hdraft rfl (List.forall_mem_singleton.2 rfl), hne, hne⟩
  | none =>
    exact Or.inr ⟨exitStatus_of_draft hdraft rfl (List.forall_mem_nil _), fun h => h rfl, rfl⟩

/-- **A build to a file** breaks the program off if the path needs too many directories, or if
standard output does not take the line about the file. -/
theorem truthful_of_file (hhalves : site.registry.hasHalves = false)
    (hnull : (Path.ofText path).hasNull = false) (hdraft : site.draft tokens = .ok d)
    (hpath : d.command.destination = some path) :
    ((endingOf site.stream (site.build tokens)).IsBrokenOff ↔
        site.tree.isTooDeep site.workingDirectory (Path.ofText path) = true ∨
          (∃ reason, site.stream = .broken reason) ∧ d.command.silent = false ∧
            ¬ site.FailsToWrite d) ∧
      (¬ (endingOf site.stream (site.build tokens)).IsBrokenOff →
        Truthful site tokens (endingOf site.stream (site.build tokens))) := by
  have hdelivered := site.tree.deliver_cases site.workingDirectory path d.source
  have hfails : site.FailsToWrite d ↔
      (site.tree.deliver site.workingDirectory path d.source).2 ≠ none :=
    Site.failsToWrite_iff_of_some hpath
  have hwhole : site.halves? d.source = none := by
    rw [Site.halves?, hhalves]
    rfl
  rw [Site.build_of_destination hhalves hdraft hpath]
  rcases site.tree.error_deliver_cases site.workingDirectory d.source hnull with
    ⟨hdeep, herror⟩ | ⟨hdeep, ⟨error, herror⟩ | hnone⟩
  · -- too many directories: there is no report
    rw [herror]
    have hbroken : (endingOf site.stream (site.finishDelivery d path
        (site.tree.deliver site.workingDirectory path d.source).1 (some .tooDeep))).IsBrokenOff :=
      Or.inr (Or.inl (Option.some_ne_none Abort.tooDeep))
    exact ⟨iff_of_true hbroken (Or.inl hdeep), fun h => absurd hbroken h⟩
  · -- the file could not be written, which is a problem of the report
    have hfailed : (site.tree.deliver site.workingDirectory path d.source).2 ≠ none := by
      rw [herror]
      exact Option.some_ne_none _
    rw [herror, hfails, hdeep, Site.finishDelivery, isBrokenOff_finishOnFile_iff]
    refine ⟨by simp [hfailed], fun hbroken => ?_⟩
    rw [← isBrokenOff_finishOnFile_iff] at hbroken
    refine truthful_of_finishOnFile hdraft hpath ?_ ?_ hbroken
    · exact iff_of_true (hfails.2 hfailed) (Option.some_ne_none _)
    · exact iff_of_false (FileTree.readFile_of_deliver_ne_none hnull hfailed d.source)
        (Option.some_ne_none _)
  · -- the file was written, so that there is a line about it
    have hreadable := (hdelivered.resolve_right fun h => h.1 hnone).2.readable
    rw [hnone, hfails, hdeep, hnone, Site.finishDelivery]
    simp only [hwhole]
    rw [isBrokenOff_finishOnFile_iff]
    refine ⟨by simp, fun hbroken => ?_⟩
    rw [← isBrokenOff_finishOnFile_iff] at hbroken
    refine truthful_of_finishOnFile hdraft hpath ?_ ?_ hbroken
    · exact iff_of_false (fun hfailed => hfails.1 hfailed hnone) fun hne => hne rfl
    · exact iff_of_true hreadable rfl

/-! ### Runs -/

/-- If log records can be kept, the program starts with its run. -/
theorem start_of_logs (h : logFault? site.environment = none) :
    start site texts = run site texts := by
  -- with `rw [start]`, the table of misnamed levels would be evaluated
  delta start
  rw [h]

/-- If they cannot, it breaks off at once. -/
theorem start_of_logFault {fault : String} (h : logFault? site.environment = some fault) :
    start site texts = { status := 1, tree := site.tree, unlogged := some fault } := by
  delta start
  rw [h]

/-- **A run with the packaged registry** has a true exit status if it comes to its end.  There are
two ways in which it does not: the path needs too many directories, or standard output does not take
the line about a file that was written. -/
theorem truthful_run (hregistry : site.registry = Packaged.registry)
    (hstream : site.stream ≠ .own) (hnull : ∀ text ∈ texts, Char.ofNat 0 ∉ text.toList)
    (hread : read texts = .ok settled) :
    ((run site texts).IsBrokenOff ↔
        ∃ d path, site.draft settled.tokens = .ok d ∧ d.command.destination = some path ∧
          (site.tree.isTooDeep site.workingDirectory (Path.ofText path) = true ∨
            (∃ reason, site.stream = .broken reason) ∧ d.command.silent = false ∧
              ¬ site.FailsToWrite d)) ∧
      (¬ (run site texts).IsBrokenOff → Truthful site settled.tokens (run site texts)) := by
  have hwritable : site.registry.Writable := by
    rw [hregistry]
    exact Packaged.writable
  have hrun : run site texts = endingOf site.stream (site.build settled.tokens) := by
    rw [run, hread]
  rw [hrun]
  cases hcommand : site.readCommand settled.tokens with
  | error diagnostic =>
    obtain ⟨hbroken, htruth⟩ := truthful_of_refused hcommand
    refine ⟨iff_of_false hbroken ?_, fun _ => htruth⟩
    rintro ⟨d, path, hdraft, -⟩
    rw [(Site.draft_eq_ok hdraft).1] at hcommand
    cases hcommand
  | ok pair =>
    -- a registry of texts has a draft for every command that is read
    obtain ⟨d, hdraft⟩ := Site.exists_draft hwritable hcommand
    have hc := (Site.readCommand_eq_ok_iff.1 (Site.draft_eq_ok hdraft).1).1
    cases hpath : d.command.destination with
    | none =>
      obtain ⟨hbroken, htruth⟩ := truthful_of_stream hstream hdraft hpath
      refine ⟨iff_of_false hbroken ?_, fun _ => htruth⟩
      rintro ⟨other, path, hother, hsome, -⟩
      obtain rfl := Except.ok.inj (hdraft.symm.trans hother)
      rw [hpath] at hsome
      cases hsome
    | some path =>
      have hwithout := hasNull_destination hnull hread hc hpath
      obtain ⟨hbroken, htruth⟩ := truthful_of_file hwritable.whole hwithout hdraft hpath
      refine ⟨hbroken.trans ?_, htruth⟩
      constructor
      · exact fun h => ⟨d, path, hdraft, hpath, h⟩
      · rintro ⟨other, path', hother, hsome, h⟩
        obtain rfl := Except.ok.inj (hdraft.symm.trans hother)
        obtain rfl := Option.some.inj (hpath.symm.trans hsome)
        exact h

/-- **The exit status of the program tells the truth** if the program comes to its end.  With the
packaged registry, whatever the arguments, the environment and the file tree are, there are three
ways in which it does not: log records cannot be kept at the level that the environment gives, the
path needs too many directories, or standard output does not take the line about a file that was
written. -/
theorem start_tells_truth (hregistry : site.registry = Packaged.registry)
    (hstream : site.stream ≠ .own) (hnull : ∀ text ∈ texts, Char.ofNat 0 ∉ text.toList)
    (hread : read texts = .ok settled) :
    ((start site texts).IsBrokenOff ↔
        (∃ fault, logFault? site.environment = some fault) ∨
          ∃ d path, site.draft settled.tokens = .ok d ∧ d.command.destination = some path ∧
            (site.tree.isTooDeep site.workingDirectory (Path.ofText path) = true ∨
              (∃ reason, site.stream = .broken reason) ∧ d.command.silent = false ∧
                ¬ site.FailsToWrite d)) ∧
      (¬ (start site texts).IsBrokenOff → Truthful site settled.tokens (start site texts)) := by
  obtain ⟨hbroken, htruth⟩ := truthful_run hregistry hstream hnull hread
  cases hlog : logFault? site.environment with
  | some fault =>
    have hstart : (start site texts).IsBrokenOff := by
      rw [start_of_logFault hlog]
      exact Or.inl (Option.some_ne_none fault)
    exact ⟨iff_of_true hstart (Or.inl ⟨fault, rfl⟩), fun h => absurd hstart h⟩
  | none =>
    rw [start_of_logs hlog]
    refine ⟨hbroken.trans (or_iff_right ?_).symm, htruth⟩
    rintro ⟨fault, hfault⟩
    cases hfault

/-! ### Two runs -/

/-- The usual surroundings of the program: an empty directory and a terminal. -/
def usualSite (r : Registry) : Site where
  registry := r

/-- The usual environment does not give a level, so that log records can be kept. -/
theorem start_usualSite (r : Registry) (texts : List String) :
    start (usualSite r) texts = run (usualSite r) texts := by
  have hlog : logFault? {} = none := by decide
  exact start_of_logs hlog

/-- The texts of a command that selects nothing and goes to a file. -/
def emptyTexts (path : String) : List String :=
  ["include="] ++ [] ++ ["--output=" ++ path]

/-- What they settle. -/
def emptySettled (path : String) : Settled where
  directives := ["include="]
  output := pathOf path

theorem read_emptyTexts (path : String) : read (emptyTexts path) = .ok (emptySettled path) :=
  read_written (by decide) (by decide) path

/-- They do not have the null character if the path does not. -/
theorem emptyTexts_without_null (h : Char.ofNat 0 ∉ path.toList) :
    ∀ text ∈ emptyTexts path, Char.ofNat 0 ∉ text.toList := by
  refine List.forall_mem_cons.2 ⟨by decide, List.forall_mem_singleton.2 ?_⟩
  rw [String.toList_append, List.mem_append, not_or]
  exact ⟨by decide, h⟩

theorem tokens_emptySettled (hpath : Term.isPath path = true) :
    (emptySettled path).tokens = Site.emptyTokens path := by
  have htokens := tokens_after ["include="] [] path
  rw [if_neg (ne_of_isPath hpath)] at htokens
  exact htokens

/-- **Such a command** delivers the empty source. -/
theorem start_emptyTexts {r : Registry} (hwhole : r.hasHalves = false)
    (hpath : Term.isPath path = true) :
    start (usualSite r) (emptyTexts path) =
      endingOf .terminal ((usualSite r).finishDelivery (Site.emptyDraft path) path
        (({} : FileTree).deliver [] path "").1 (({} : FileTree).deliver [] path "").2) := by
  have hsite : (usualSite r).registry.hasHalves = false := hwhole
  have hbuild := Site.build_of_destination hsite (Site.draft_empty (usualSite r) hpath)
    (Site.destination_empty hpath)
  rw [start_usualSite, run, read_emptyTexts]
  simp only
  rw [tokens_emptySettled hpath, hbuild]
  rfl

/-- If the empty source can be written, the program comes to its end. -/
theorem status_emptyTexts {r : Registry} (hwhole : r.hasHalves = false)
    (hpath : Term.isPath path = true) {tree : FileTree}
    (hdeliver : ({} : FileTree).deliver [] path "" = (tree, none)) :
    ¬ (start (usualSite r) (emptyTexts path)).IsBrokenOff ∧
      (start (usualSite r) (emptyTexts path)).status = 0 := by
  have hsite : (usualSite r).registry.hasHalves = false := hwhole
  have hhalves : (usualSite r).halves? (Site.emptyDraft path).source = none := by
    rw [Site.halves?, hsite]
    rfl
  have hfinish : (usualSite r).finishDelivery (Site.emptyDraft path) path tree none =
      (usualSite r).finishOnFile (Site.emptyDraft path) path tree none := by
    rw [Site.finishDelivery, hhalves]
  rw [start_emptyTexts hwhole hpath, hdeliver, hfinish, isBrokenOff_finishOnFile_iff]
  refine ⟨?_, rfl⟩
  rintro ⟨⟨reason, hreason⟩, -⟩
  cases hreason

/-- A usual command line comes to its end, and the file is there. -/
theorem start_tells_truth_usual :
    (usualSite Packaged.registry).registry = Packaged.registry ∧
      (usualSite Packaged.registry).stream ≠ .own ∧
      (∀ text ∈ emptyTexts "x.js", Char.ofNat 0 ∉ text.toList) ∧
      read (emptyTexts "x.js") = .ok (emptySettled "x.js") ∧
      ¬ (start (usualSite Packaged.registry) (emptyTexts "x.js")).IsBrokenOff ∧
      Truthful (usualSite Packaged.registry) (emptySettled "x.js").tokens
        (start (usualSite Packaged.registry) (emptyTexts "x.js")) ∧
      (start (usualSite Packaged.registry) (emptyTexts "x.js")).status = 0 := by
  have hpath : Term.isPath "x.js" = true := by decide
  have hnull := emptyTexts_without_null (show Char.ofNat 0 ∉ "x.js".toList by decide)
  have hread := read_emptyTexts "x.js"
  have hdeliver : ({} : FileTree).deliver [] "x.js" "" =
      ({ nodes := [(["x.js"], .file "")] }, none) := by
    decide +kernel
  have hstream : ∀ r, (usualSite r).stream ≠ .own := fun _ => nofun
  have hregistry : ∀ r, (usualSite r).registry = r := fun _ => rfl
  obtain ⟨-, htruth⟩ := start_tells_truth (hregistry _) (hstream _) hnull hread
  obtain ⟨hbroken, hstatus⟩ := status_emptyTexts Packaged.writable.whole hpath hdeliver
  exact ⟨hregistry _, hstream _, hnull, hread, hbroken, htruth hbroken, hstatus⟩

/-! ### A path with too many directories -/

/-- The characters of a path through directories of one name. -/
def deepChars : ℕ → List Char
  | 0 => ['x', '.', 'j', 's']
  | n + 1 => 'a' :: '/' :: deepChars n

/-- The path. -/
def deepPath (n : ℕ) : String :=
  String.ofList (deepChars n)

theorem toList_deepPath (n : ℕ) : (deepPath n).toList = deepChars n :=
  String.toList_ofList

theorem deepChars_without_null (n : ℕ) : Char.ofNat 0 ∉ deepChars n := by
  induction n with
  | zero => decide
  | succ n ih =>
    rw [deepChars, List.mem_cons, List.mem_cons, not_or, not_or]
    exact ⟨by decide, by decide, ih⟩

theorem splitWhere_deepChars (n : ℕ) :
    Text.splitWhere (· == '/') (deepChars n) =
      List.replicate n ['a'] ++ [['x', '.', 'j', 's']] := by
  induction n with
  | zero => rfl
  | succ n ih =>
    rw [deepChars, Text.splitWhere_cons, if_neg (by decide), Text.splitWhere_cons,
      if_pos (by decide), ih]
    rfl

theorem ofText_deepPath (n : ℕ) :
    Path.ofText (deepPath n) = { start := .here, parts := List.replicate n "a" ++ ["x.js"] } := by
  have hstart : Path.startOf (deepChars n) = .here := by
    cases n <;> rfl
  have hfirst : String.ofList ['a'] = "a" := rfl
  have hlast : String.ofList ['x', '.', 'j', 's'] = "x.js" := rfl
  rw [Path.ofText, toList_deepPath, hstart, splitWhere_deepChars, List.map_append,
    List.map_replicate, List.map_singleton, hfirst, hlast, List.filter_append,
    List.filter_replicate]
  rfl

theorem isPath_deepPath (n : ℕ) : Term.isPath (deepPath n) = true := by
  have hbegins : Text.beginsWith (deepPath n) "-" = false := by
    rw [Text.beginsWith, toList_deepPath]
    cases n <;> rfl
  have hempty : (deepPath n).isEmpty = false := by
    cases n <;> simp [deepPath, deepChars]
  rw [Term.isPath, hbegins, hempty]
  rfl

/-- The path is not too long. -/
theorem utf8ByteSize_deepPath_lt {n : ℕ} (h : n ≤ 2000) :
    (Path.mk .here (List.replicate n "a" ++ ["x.js"])).text.utf8ByteSize <
      FileTree.pathBytesLimit := by
  have hle := Path.utf8ByteSize_intercalate_slash_le (List.replicate n "a" ++ ["x.js"])
  have hname : "a".utf8ByteSize = 1 := rfl
  have hfile : "x.js".utf8ByteSize = 4 := rfl
  have hlimit : FileTree.pathBytesLimit = 4096 := rfl
  rw [List.map_append, List.map_replicate, List.map_singleton, List.sum_append,
    List.sum_replicate, List.sum_singleton, hname, hfile, smul_eq_mul] at hle
  rw [Path.text, if_neg (by simp), String.utf8ByteSize_append, hlimit]
  change 0 + ("/".intercalate (List.replicate n "a" ++ ["x.js"])).utf8ByteSize < 4096
  omega

/-- Too many directories are missing for the path. -/
theorem deliver_deepPath {n : ℕ} (hmany : FileTree.maxMissingLevels + 1 < n) (hfew : n ≤ 2000) :
    (({} : FileTree).deliver [] (deepPath n) "").2 = some .tooDeep := by
  have hdeep : ({} : FileTree).isTooDeep [] (Path.ofText (deepPath n)) = true := by
    obtain ⟨m, rfl⟩ : ∃ m, n = m + 1 := ⟨n - 1, by omega⟩
    have hshort := utf8ByteSize_deepPath_lt hfew
    rw [List.replicate_succ, List.cons_append] at hshort
    rw [ofText_deepPath, List.replicate_succ, List.cons_append]
    refine FileTree.isTooDeep_of_missing rfl rfl (by decide) (by decide) hshort ?_
    rw [List.length_append, List.length_replicate]
    exact hmany
  have hnull : (Path.ofText (deepPath n)).hasNull = false := by
    rw [← Bool.not_eq_true, Path.hasNull_ofText_iff, toList_deepPath]
    exact deepChars_without_null n
  rcases FileTree.error_deliver_cases {} [] "" hnull with ⟨-, herror⟩ | ⟨hnot, -⟩
  · exact herror
  · rw [hdeep] at hnot
    cases hnot

/-- Such a path breaks the program off. -/
theorem start_deepPath {r : Registry} (hwhole : r.hasHalves = false) {n : ℕ}
    (hmany : FileTree.maxMissingLevels + 1 < n) (hfew : n ≤ 2000) :
    (∃ d, (usualSite r).draft (emptySettled (deepPath n)).tokens = .ok d ∧
        (usualSite r).FailsToWrite d) ∧
      (start (usualSite r) (emptyTexts (deepPath n))).breakdown = some .tooDeep ∧
      (start (usualSite r) (emptyTexts (deepPath n))).status ≠ 2 := by
  have hpath := isPath_deepPath n
  have hdeliver := deliver_deepPath hmany hfew
  have hfails : (usualSite r).FailsToWrite (Site.emptyDraft (deepPath n)) := by
    rw [Site.failsToWrite_iff_of_some (Site.destination_empty hpath)]
    intro hnone
    have hboth : some DeliveryError.tooDeep = none := hdeliver.symm.trans hnone
    cases hboth
  rw [tokens_emptySettled hpath, start_emptyTexts hwhole hpath, hdeliver]
  exact ⟨⟨_, Site.draft_empty _ hpath, hfails⟩, rfl, nofun⟩

/-- **A path with too many directories breaks the program off**, so that the exit status does not
tell that nothing was written. -/
theorem deep_path_breaks_off :
    (∀ text ∈ emptyTexts (deepPath 1500), Char.ofNat 0 ∉ text.toList) ∧
      read (emptyTexts (deepPath 1500)) = .ok (emptySettled (deepPath 1500)) ∧
      (∃ d, (usualSite Packaged.registry).draft (emptySettled (deepPath 1500)).tokens = .ok d ∧
        (usualSite Packaged.registry).FailsToWrite d) ∧
      (start (usualSite Packaged.registry) (emptyTexts (deepPath 1500))).breakdown =
        some .tooDeep ∧
      (start (usualSite Packaged.registry) (emptyTexts (deepPath 1500))).status ≠ 2 := by
  have hnull : Char.ofNat 0 ∉ (deepPath 1500).toList := by
    rw [toList_deepPath]
    exact deepChars_without_null 1500
  exact ⟨emptyTexts_without_null hnull, read_emptyTexts _,
    start_deepPath Packaged.writable.whole (by decide) (by decide)⟩

end CommandLine

end CustomBuild
