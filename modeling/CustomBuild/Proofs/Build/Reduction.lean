import CustomBuild.Proofs.Build.Boundary
import CustomBuild.Proofs.Text.Commas

/-!
# What reducers can do to a source

A reducer is free to do what it likes, but a build takes over what it hands on only if it does as it
should (`Site.Accepts`): it ends without a failure and hands on one text, which still has the
version and has no more lines.  In every other case the source stays as it was generated, and one
problem says so.  `Site.build_reduces` has this for every build, and that a reducer is used once at
most.

A generated source has the version in its banner (`Script.version_isInfix_of_generate`), and so has
the source of every build, reduced or not.
-/

namespace CustomBuild

/-! ### The version in a script -/

namespace Script

variable {r : Registry} {c : Command} {header : RegistryHeader} {names : List String} {p : Plan}
  {source : String}

/-- The banner has the version, which is not broken up. -/
theorem version_isInfix_banner (header : RegistryHeader) (words : List String) :
    header.version.display.toList <:+: (banner header words).toList := by
  have hline : " * " ++ header.library.display ++ " " ++ header.version.display ++
      " (Custom Build)" ∈ ["/*!",
        " * " ++ header.library.display ++ " " ++ header.version.display ++ " (Custom Build)",
        " * Build: `" ++ bannerCommand words ++ "`"]
        ++ (if header.license.isTruthy then [" * " ++ header.license.display] else [])
        ++ [" */"] := by
    simp
  have hversion : header.version.display.toList <:+:
      (" * " ++ header.library.display ++ " " ++ header.version.display ++
        " (Custom Build)").toList := by
    refine ⟨(" * " ++ header.library.display ++ " ").toList, " (Custom Build)".toList, ?_⟩
    simp only [String.toList_append]
  exact hversion.trans (Text.isInfix_unlines hline)

/-- The text of a script is never empty. -/
theorem text_ne_empty : text header c p ≠ "" := by
  intro h
  have hlist := congrArg String.toList h
  unfold text at hlist
  simp at hlist

/-- **A script has the version** of its library. -/
theorem version_isInfix_of_generate (hg : (generate r c names).outcome = .ok source)
    (hsource : source ≠ "") : r.header.version.display.toList <:+: source.toList := by
  have hnames : names ≠ [] := by
    rintro rfl
    exact hsource (Except.ok.inj hg).symm
  obtain ⟨p, -, -, rfl, -⟩ := generate_eq_ok hnames hg
  have hbanner : (banner r.header c.tokens).toList <:+: (text r.header c p).toList := by
    unfold text
    simp only [String.toList_append, List.append_assoc]
    exact List.IsPrefix.isInfix (List.prefix_append _ _)
  exact (version_isInfix_banner r.header c.tokens).trans hbanner

end Script

namespace Site

variable {site : Site} {tokens : List String} {c : Command} {s : Selection} {source out : String}
  {reduced : Reduced} {d : Draft} {report : Report}

/-! ### The reducer of a site -/

/-- **The reducer of a site** is the one that it is given.  Without one, it is the external command
of the environment, if that can be cut into words; an environment without a command has the built-in
reducer, and one whose command cannot be cut into words has none. -/
inductive HasReducer (site : Site) : Reducer → Prop where
  /-- the reducer that the site is given -/
  | given {reducer : Reducer} (h : site.reducer = some reducer) : HasReducer site reducer
  /-- the built-in reducer -/
  | builtIn (hnone : site.reducer = none)
    (hunset : ∀ text ∈ site.environment.minifier, ∀ c ∈ text.toList,
      c.toNat ∈ Text.blankCodes) : HasReducer site stripReducer
  /-- an external command with two minutes -/
  | external {text command : String} {words : List String} (hnone : site.reducer = none)
    (htext : site.environment.minifier = some text) (hcommand : Text.IsTrimmed text command)
    (hwords : ShellWords.split command = .ok words) (hne : words ≠ []) :
    HasReducer site (ExternalCommand.reducer { words, timeout := .integer 120 } site.run)

/-- The reducer that the environment gives, by the command in it. -/
theorem chosenReducer_of_none (hnone : site.reducer = none) :
    site.chosenReducer =
      if Text.trim (site.environment.minifier.getD "") = "" then .ok stripReducer
      else (ExternalCommand.ofText (Text.trim (site.environment.minifier.getD ""))
        defaultTimeout).map fun command => command.reducer site.run := by
  rw [chosenReducer, hnone]
  simp only [Settings.reducer, Settings.externalCommand, Settings.ofEnvironment,
    String.isEmpty_iff]
  split_ifs
  · rfl
  · simp only
    cases ExternalCommand.ofText _ _ <;> rfl

/-- A text without words is no external command. -/
theorem ofText_eq_ok_iff {text : String} {timeout : Json} {command : ExternalCommand} :
    ExternalCommand.ofText text timeout = .ok command ↔
      ∃ words, ShellWords.split text = .ok words ∧ words ≠ [] ∧ command = { words, timeout } := by
  unfold ExternalCommand.ofText
  cases ShellWords.split text with
  | error error => simp
  | ok words =>
    cases words with
    | nil => simp
    | cons word rest => simp [eq_comm]

/-- **The reducer of a build** is that of its site. -/
theorem hasReducer_iff {reducer : Reducer} :
    site.HasReducer reducer ↔ site.chosenReducer = .ok reducer := by
  constructor
  · intro h
    cases h with
    | given h => rw [chosenReducer, h]
    | builtIn hnone hunset =>
      rw [chosenReducer_of_none hnone]
      cases hminifier : site.environment.minifier with
      | none => rfl
      | some text => exact if_pos (Text.trim_eq_empty_iff.2 (hunset text hminifier))
    | external hnone htext hcommand hwords hne =>
      rw [Text.isTrimmed_iff] at hcommand
      subst hcommand
      rw [chosenReducer_of_none hnone, htext, Option.getD_some,
        ofText_eq_ok_iff.2 ⟨_, hwords, hne, rfl⟩]
      refine if_neg fun hempty => hne ?_
      -- an empty text has no words
      rw [hempty] at hwords
      exact (Except.ok.inj hwords).symm
  · intro h
    cases hreducer : site.reducer with
    | some given =>
      rw [chosenReducer, hreducer] at h
      cases h
      exact .given hreducer
    | none =>
      rw [chosenReducer_of_none hreducer] at h
      split_ifs at h with hempty
      · cases h
        refine .builtIn hreducer fun text htext => ?_
        rw [Option.mem_def.1 htext] at hempty
        exact Text.trim_eq_empty_iff.1 hempty
      · obtain ⟨command, hcommand, rfl⟩ := exists_of_map_eq_ok h
        obtain ⟨words, hwords, hne, rfl⟩ := ofText_eq_ok_iff.1 hcommand
        cases hminifier : site.environment.minifier with
        | none =>
          rw [hminifier] at hempty
          exact absurd rfl hempty
        | some text =>
          rw [hminifier] at hwords
          exact .external hreducer hminifier (Text.isTrimmed_iff.2 rfl) hwords hne

/-! ### Accepted reductions -/

/-- **A text is accepted in place of a source**: there is a reducer, it ends without a failure, it
hands on this text alone, and the text has no more lines than the source and the version if the
source has it. -/
def Accepts (site : Site) (c : Command) (source out : String) : Prop :=
  ∃ reducer, site.HasReducer reducer ∧
    (reducer.reduce source (reducerOptions c)).failure = none ∧
    (reducer.reduce source (reducerOptions c)).outputs = [out] ∧
    Text.lineFeeds out ≤ Text.lineFeeds source ∧
    (site.registry.header.version.display.toList <:+: source.toList →
      site.registry.header.version.display.toList <:+: out.toList)

theorem contractViolations_eq_nil_iff {marker : String} :
    contractViolations source out marker = [] ↔
      Text.lineFeeds out ≤ Text.lineFeeds source ∧
        (marker.toList <:+: source.toList → marker.toList <:+: out.toList) := by
  have hmarker : (Text.contains source marker && !Text.contains out marker) = false ↔
      (marker.toList <:+: source.toList → marker.toList <:+: out.toList) := by
    rw [← Text.contains_iff_isInfix, ← Text.contains_iff_isInfix]
    cases Text.contains source marker <;> cases Text.contains out marker <;> simp
  have hlines : (if Text.lineFeeds source < Text.lineFeeds out then
      [Violation.linesGrew (Text.lineFeeds source) (Text.lineFeeds out)] else []) = [] ↔
      Text.lineFeeds out ≤ Text.lineFeeds source := by
    rw [ite_eq_right_iff]
    simp
  unfold contractViolations
  rw [List.append_eq_nil_iff, hlines, ← hmarker, and_comm]
  apply and_congr_right
  intro _
  rw [ite_eq_right_iff]
  simp

/-- **A reduction has no problems** if it does as it should. -/
theorem problems_eq_nil_iff {reduction : Reduction} {version : Json} {problems : List String}
    (h : reduction.problems source version = .ok problems) :
    problems = [] ↔ reduction.failure = none ∧ ∃ out, reduction.outputs = [out] ∧
      Text.lineFeeds out ≤ Text.lineFeeds source ∧
      (version.display.toList <:+: source.toList → version.display.toList <:+: out.toList) := by
  unfold Reduction.problems at h
  -- a failure counts first, then the number of texts, and the contract only for a single text
  cases hfailure : reduction.failure with
  | some failure =>
    rw [hfailure] at h
    cases h
    simp
  | none =>
    simp only [hfailure] at h
    split at h
    · next out houtputs =>
      split_ifs at h
      cases h
      rw [List.map_eq_nil_iff, contractViolations_eq_nil_iff, houtputs]
      simp
    · next hmany =>
      cases h
      refine iff_of_false (List.cons_ne_nil _ _) ?_
      rintro ⟨-, out, houtputs, -⟩
      exact hmany out houtputs

/-- **Using a reducer** on a source: what it hands on takes the place of the source if it is
accepted, and otherwise one problem says that it is not. -/
theorem reduce_eq_ok (hminify : c.minify = true) (hsource : source ≠ "")
    (h : site.reduce c source = .ok reduced) :
    (∀ out, site.Accepts c source out → reduced.source = out ∧ reduced.diagnostics = []) ∧
      ((∀ out, ¬ site.Accepts c source out) → reduced.source = source ∧
        ∃ name problems, problems ≠ [] ∧ reduced.diagnostics = [rejection name problems]) := by
  cases reductionEnd_of_reduce h with
  | unwanted hnot heq => exact absurd ⟨hminify, hsource⟩ hnot
  | noReducer hwants hchosen heq =>
    rw [heq]
    refine ⟨?_, fun _ => ⟨rfl, _, _, List.cons_ne_nil _ _, rfl⟩⟩
    rintro out ⟨reducer, hok, -⟩
    cases hchosen.symm.trans (hasReducer_iff.1 hok)
  | used hwants hchosen hproblems hcalls hlaunched hend =>
    have hiff := problems_eq_nil_iff hproblems
    constructor
    · rintro out ⟨other, hother, hfailure, houtputs, hcontract⟩
      cases hchosen.symm.trans (hasReducer_iff.1 hother)
      have hnil := hiff.2 ⟨hfailure, out, houtputs, hcontract⟩
      rcases hend with ⟨-, hnone, hfirst⟩ | ⟨hne, -⟩
      · exact ⟨by rw [hfirst, houtputs]; rfl, hnone⟩
      · exact absurd hnil hne
    · intro hrejects
      rcases hend with ⟨hnil, -⟩ | ⟨hne, hone, hsame⟩
      · obtain ⟨hfailure, out, houtputs, hcontract⟩ := hiff.1 hnil
        exact absurd ⟨_, hasReducer_iff.2 hchosen, hfailure, houtputs, hcontract⟩ (hrejects out)
      · exact ⟨hsame, _, _, hne, hone⟩

/-! ### Uses of a reducer -/

/-- The build comes to a source that its command wants reduced. -/
def WantsReduction (site : Site) (tokens : List String) : Prop :=
  ∃ c s source, Command.ofTokens tokens = .ok c ∧ site.registry.select c = .ok s ∧
    (Script.generate site.registry c s.names).outcome = .ok source ∧
    c.minify = true ∧ source ≠ ""

/-- The commands of the environment are run once for a reduction. -/
theorem length_launched_le {settings : Settings} {run : Launch → LaunchOutcome} {reducer : Reducer}
    (h : settings.reducer run = .ok reducer) (source : String) (options : ReducerOptions) :
    (reducer.reduce source options).launched.length ≤ 1 := by
  unfold Settings.reducer at h
  cases hcommand : settings.externalCommand with
  | error error =>
    rw [hcommand] at h
    cases h
  | ok command =>
    rw [hcommand] at h
    cases command with
    | none =>
      cases h
      exact Nat.zero_le 1
    | some command =>
      cases h
      show (command.reduce run source).launched.length ≤ 1
      unfold ExternalCommand.reduce
      simp only
      split
      · split_ifs <;> exact Nat.le_refl 1
      all_goals exact Nat.le_refl 1

/-- A reducer is used at most once, and only for a source that the command wants reduced. -/
theorem uses_of_reduce (h : site.reduce c source = .ok reduced) :
    reduced.reducerCalls.length ≤ 1 ∧ (site.reducer = none → reduced.launched.length ≤ 1) ∧
      (reduced.reducerCalls ≠ [] ∨ reduced.launched ≠ [] → c.minify = true ∧ source ≠ "") := by
  cases reductionEnd_of_reduce h with
  | unwanted hnot heq =>
    rw [heq]
    exact ⟨Nat.zero_le 1, fun _ => Nat.zero_le 1, by simp⟩
  | noReducer hwants hchosen heq =>
    rw [heq]
    exact ⟨Nat.zero_le 1, fun _ => Nat.zero_le 1, fun _ => hwants⟩
  | @used reducer _ hwants hchosen hproblems hcalls hlaunched hend =>
    refine ⟨?_, fun hnone => ?_, fun _ => hwants⟩
    · rw [hcalls]
      split_ifs
      · exact Nat.le_refl 1
      · exact Nat.zero_le 1
    · -- without a reducer of the caller, it is the one of the environment
      rw [chosenReducer, hnone] at hchosen
      rw [hlaunched]
      exact length_launched_le hchosen source (reducerOptions c)

/-! ### Drafts and deliveries -/

/-- **A draft of a generated source** is its reduction. -/
theorem draft_eq_of_generate (hread : site.readCommand tokens = .ok (c, s))
    (hg : (Script.generate site.registry c s.names).outcome = .ok source) :
    site.draft tokens = match site.reduce c source with
      | .error misuse => .error (.aborted (.misuse misuse))
      | .ok reduced => .ok
          { command := c, selection := s, source := reduced.source,
            diagnostics := (Script.generate site.registry c s.names).faults.map Fault.diagnostic
              ++ reduced.diagnostics,
            reducerCalls := reduced.reducerCalls, launched := reduced.launched } := by
  unfold draft
  cases hreduce : site.reduce c source with
  | error misuse => simp only [hread, hg, hreduce]
  | ok reduced => simp only [hread, hg, hreduce]

theorem reduce_of_draft (hread : site.readCommand tokens = .ok (c, s))
    (hg : (Script.generate site.registry c s.names).outcome = .ok source)
    (h : site.draft tokens = .ok d) :
    ∃ reduced, site.reduce c source = .ok reduced ∧ d.source = reduced.source ∧
      d.diagnostics = (Script.generate site.registry c s.names).faults.map Fault.diagnostic
        ++ reduced.diagnostics ∧
      d.reducerCalls = reduced.reducerCalls ∧ d.launched = reduced.launched := by
  rw [draft_eq_of_generate hread hg] at h
  cases hreduce : site.reduce c source with
  | error misuse =>
    rw [hreduce] at h
    cases h
  | ok reduced =>
    rw [hreduce] at h
    cases h
    exact ⟨reduced, rfl, rfl, rfl, rfl, rfl⟩

/-- A delivery changes neither the source nor what was done for it. -/
theorem source_of_deliver (h : (site.deliver d).result = .ok report) :
    report.source = d.source := by
  cases deliveryEnd_of_deliver h with
  | onStream hpath heq =>
    rw [heq] at h
    cases h
    rfl
  | failed hpath heq hgrown =>
    rw [heq] at h
    cases h
    rfl
  | written hpath heq hdelivery =>
    rw [heq] at h
    cases h
    rfl

theorem uses_deliver (site : Site) (d : Draft) :
    (site.deliver d).reducerCalls = d.reducerCalls ∧ (site.deliver d).launched = d.launched := by
  unfold deliver
  cases d.command.destination with
  | none => exact ⟨rfl, rfl⟩
  | some path =>
    simp only
    split <;> exact ⟨rfl, rfl⟩

/-! ### Builds -/

/-- **What a build has made of a source** that its command wants reduced. -/
structure Reduces (site : Site) (c : Command) (s : Selection) (source : String)
    (report : Report) : Prop where
  /-- a text that is accepted takes the place of the source -/
  accepted : ∀ out, site.Accepts c source out → report.source = out ∧
    ∃ failures, report.diagnostics =
        (Script.generate site.registry c s.names).faults.map Fault.diagnostic ++ failures ∧
      Diagnostic.AtMostOne Diagnostic.IsFailedDelivery failures
  /-- otherwise the source stays, and one problem more says so -/
  rejected : (∀ out, ¬ site.Accepts c source out) → report.source = source ∧
    ∃ d failures, d.IsRejection ∧ d.kind = "GenerationFault" ∧ report.diagnostics =
        (Script.generate site.registry c s.names).faults.map Fault.diagnostic ++ d :: failures ∧
      Diagnostic.AtMostOne Diagnostic.IsFailedDelivery failures
  /-- the version is there in any case -/
  version_mem : site.registry.header.version.display.toList <:+: report.source.toList
  /-- and there are no more lines than before -/
  lines_le : Text.lineFeeds report.source ≤ Text.lineFeeds source

/-- **The uses of a reducer** by a build. -/
structure UsesReducer (site : Site) (tokens : List String) (o : Outcome) : Prop where
  /-- a given reducer is called once at most -/
  calls_le : o.reducerCalls.length ≤ 1
  /-- the command of the environment is run once at most -/
  launched_le : site.reducer = none → o.launched.length ≤ 1
  /-- this is done only for a source that is to be reduced -/
  wanted : o.reducerCalls ≠ [] ∨ o.launched ≠ [] → site.WantsReduction tokens
  /-- without one, no reducer makes a difference -/
  unused : ¬ site.WantsReduction tokens → ∀ reducer environment run,
    ({ site with reducer, environment, run } : Site).build tokens = o

theorem reduces_of_build (hread : site.readCommand tokens = .ok (c, s))
    (hg : (Script.generate site.registry c s.names).outcome = .ok source)
    (hminify : c.minify = true) (hsource : source ≠ "")
    (h : (site.build tokens).result = .ok report) : site.Reduces c s source report := by
  obtain ⟨d, hdraft, hbuild⟩ := exists_draft_of_result hread h
  rw [hbuild] at h
  obtain ⟨reduced, hreduce, hdsource, hddiagnostics, -⟩ := reduce_of_draft hread hg hdraft
  obtain ⟨haccepted, hrejected⟩ := reduce_eq_ok hminify hsource hreduce
  obtain ⟨-, -, failures, hdiagnostics, hfailures⟩ := deliver_eq_ok h
  have hreport : report.source = reduced.source := (source_of_deliver h).trans hdsource
  have hversion := Script.version_isInfix_of_generate hg hsource
  -- the version and the lines follow from the contract, or from the source that stays
  by_cases hex : ∃ out, site.Accepts c source out
  · obtain ⟨out, hout⟩ := hex
    obtain ⟨hsame, hnil⟩ := haccepted out hout
    have ⟨_, _, _, _, hlines, hkept⟩ := hout
    constructor
    · intro other hother
      rw [hreport, (haccepted other hother).1]
      refine ⟨rfl, failures, ?_, hfailures⟩
      rw [hdiagnostics, hddiagnostics, hnil, List.append_nil]
    · intro hnone
      exact absurd hout (hnone out)
    · rw [hreport, hsame]
      exact hkept hversion
    · rw [hreport, hsame]
      exact hlines
  · have hnone : ∀ out, ¬ site.Accepts c source out := not_exists.1 hex
    obtain ⟨hsame, name, problems, hproblems, hone⟩ := hrejected hnone
    constructor
    · exact fun out hout => absurd hout (hnone out)
    · intro _
      rw [hreport, hsame]
      refine ⟨rfl, rejection name problems, failures, ⟨name, problems, hproblems, rfl⟩, rfl, ?_,
        hfailures⟩
      rw [hdiagnostics, hddiagnostics, hone, List.append_assoc]
      rfl
    · rw [hreport, hsame]
      exact hversion
    · rw [hreport, hsame]

/-- A draft has used a reducer once at most, and only for a source that is to be reduced. -/
theorem uses_of_draft (h : site.draft tokens = .ok d) :
    d.reducerCalls.length ≤ 1 ∧ (site.reducer = none → d.launched.length ≤ 1) ∧
      (d.reducerCalls ≠ [] ∨ d.launched ≠ [] → site.WantsReduction tokens) := by
  obtain ⟨hread, -⟩ := draft_eq_ok h
  obtain ⟨hc, hs⟩ := readCommand_eq_ok_iff.1 hread
  -- without a source there is nothing to reduce
  cases hg : (Script.generate site.registry d.command d.selection.names).outcome with
  | error error =>
    unfold draft at h
    simp only [hread, hg] at h
    cases error with
    | unknownName name => cases h
    | misuse misuse => cases h
    | core fault =>
      rw [← Except.ok.inj h]
      exact ⟨Nat.zero_le 1, fun _ => Nat.zero_le 1, by simp⟩
  | ok source =>
    obtain ⟨reduced, hreduce, -, -, hcalls, hlaunched⟩ := reduce_of_draft hread hg h
    rw [hcalls, hlaunched]
    obtain ⟨hone, honce, hwants⟩ := uses_of_reduce hreduce
    exact ⟨hone, honce, fun huse => ⟨d.command, d.selection, source, hc, hs, hg, hwants huse⟩⟩

/-- **Without a source to reduce**, a build is the same with any reducer. -/
theorem build_eq_of_not_wantsReduction (h : ¬ site.WantsReduction tokens)
    (reducer : Option Reducer) (environment : Environment) (run : Launch → LaunchOutcome) :
    ({ site with reducer, environment, run } : Site).build tokens = site.build tokens := by
  have hdraft :
      ({ site with reducer, environment, run } : Site).draft tokens = site.draft tokens := by
    cases hread : site.readCommand tokens with
    | error diagnostic =>
      have hother : ({ site with reducer, environment, run } : Site).readCommand tokens =
          .error diagnostic := hread
      rw [draft, draft, hread, hother]
    | ok pair =>
      obtain ⟨c, s⟩ := pair
      have hother : ({ site with reducer, environment, run } : Site).readCommand tokens =
          .ok (c, s) := hread
      obtain ⟨hc, hs⟩ := readCommand_eq_ok_iff.1 hread
      cases hg : (Script.generate site.registry c s.names).outcome with
      | error error =>
        unfold draft
        simp only [hread, hother, hg]
        cases error <;> rfl
      | ok source =>
        -- the condition of a reduction is the same for both, and it does not hold
        have hcond : (c.minify && !source.isEmpty) = false := by
          rw [← Bool.not_eq_true]
          intro htrue
          have hwants : c.minify = true ∧ source ≠ "" := by simpa using htrue
          exact h ⟨c, s, source, hc, hs, hg, hwants⟩
        rw [draft_eq_of_generate hread hg, draft_eq_of_generate hother hg]
        unfold reduce
        simp only [hcond, Bool.false_eq_true, if_false]
  unfold build
  rw [hdraft]
  cases site.draft tokens with
  | error refusal => cases refusal <;> rfl
  | ok d => rfl

theorem usesReducer_build (site : Site) (tokens : List String) :
    site.UsesReducer tokens (site.build tokens) := by
  have hunused := fun (h : ¬ site.WantsReduction tokens) => build_eq_of_not_wantsReduction h
  cases hdraft : site.draft tokens with
  | error refusal =>
    -- what breaks off or is refused has used no reducer
    have huses : (site.build tokens).reducerCalls = [] ∧ (site.build tokens).launched = [] := by
      rw [build, hdraft]
      cases refusal <;> exact ⟨rfl, rfl⟩
    constructor
    · rw [huses.1]
      exact Nat.zero_le 1
    · rw [huses.2]
      exact fun _ => Nat.zero_le 1
    · rw [huses.1, huses.2]
      simp
    · exact hunused
  | ok d =>
    have hbuild : site.build tokens = site.deliver d := by rw [build, hdraft]
    obtain ⟨hone, honce, hwants⟩ := uses_of_draft hdraft
    obtain ⟨hcalls, hlaunched⟩ := site.uses_deliver d
    constructor
    · rwa [hbuild, hcalls]
    · rwa [hbuild, hlaunched]
    · rwa [hbuild, hcalls, hlaunched]
    · exact hunused

/-- **What builds make of reducers.**  If the command wants a source reduced and the version is a
text, nothing that the reducer does keeps the build from a draft; and if the build ends with a
report, the source has been replaced by what the reducer has handed on, or else has been kept with
one problem more.  A reducer is used once at most, and never for another build. -/
theorem build_reduces (site : Site) (tokens : List String) :
    (∀ c s source, Command.ofTokens tokens = .ok c → site.registry.select c = .ok s →
        (Script.generate site.registry c s.names).outcome = .ok source →
        c.minify = true → source ≠ "" →
        (site.registry.header.version.isText = true → ∃ d, site.draft tokens = .ok d) ∧
          ∀ report, (site.build tokens).result = .ok report →
            site.Reduces c s source report) ∧
      site.UsesReducer tokens (site.build tokens) := by
  refine ⟨fun c s source hc hs hg hminify hsource => ⟨fun htext => ?_, fun report h => ?_⟩,
    usesReducer_build site tokens⟩
  · have hread := readCommand_eq_ok_iff.2 ⟨hc, hs⟩
    obtain ⟨reduced, hreduce⟩ : ∃ reduced, site.reduce c source = .ok reduced :=
      checkable_iff.1 fun _ _ _ _ _ _ _ => htext
    rw [draft_eq_of_generate hread hg, hreduce]
    exact ⟨_, rfl⟩
  · exact reduces_of_build (readCommand_eq_ok_iff.2 ⟨hc, hs⟩) hg hminify hsource h

/-- A draft for standard output becomes a report, as standard output takes every source. -/
theorem exists_report_of_draft (hread : site.readCommand tokens = .ok (c, s))
    (hdestination : c.destination = none) (hdraft : site.draft tokens = .ok d) :
    ∃ report, (site.build tokens).result = .ok report := by
  rw [build, hdraft]
  refine deliver_returns_iff.2 fun path hpath => ?_
  rw [(command_of_draft hread hdraft).1, hdestination] at hpath
  cases hpath

/-! ### Two reducers -/

/-- A reducer that hands on a short text, and fails after that. -/
def failingReducer : Reducer where
  name := "late"
  reduce _ _ := { outputs := ["2.4.1"], failure := some (.other "RuntimeError" "too late") }

/-- A build from the small registry with this reducer. -/
def failingSite : Site where
  registry := Registry.sample
  reducer := some failingReducer

/-- A reducer that hands on the same text, and does not fail. -/
def shortReducer : Reducer where
  name := "short"
  reduce _ _ := { outputs := ["2.4.1"] }

/-- A build from the small registry with this reducer. -/
def shortSite : Site where
  registry := Registry.sample
  reducer := some shortReducer

/-- The command of `include=isArray -c -m`. -/
def reducedCommand : Command where
  included := some ["isArray"]
  stdout := true
  minify := true
  tokens := ["include=\"isArray\""]

/-- The script that it asks for. -/
def reducedSource : String :=
  Script.text Registry.sampleHeader reducedCommand
    { helpers := Registry.sample.emittedOf ∅ ["lodash"]
      functions := Registry.sample.emittedOf ∅ ["isArray"]
      omissions := [] }

theorem ofTokens_reduced :
    Command.ofTokens ["include=isArray", "-c", "-m"] = .ok reducedCommand := by
  decide

theorem select_reduced :
    Registry.sample.select reducedCommand =
      .ok { names := ["isArray"], requested := ["isArray"] } := by
  cbv

theorem outcome_reduced :
    (Script.generate Registry.sample reducedCommand ["isArray"]).outcome = .ok reducedSource :=
  Script.outcome_of_planFor (List.cons_ne_nil _ _) planFor_isArray (by decide) (by decide)

/-- The text of the first reducer is not accepted, so the source stays.  That of the second takes
the place of the source. -/
theorem failing_reducer_keeps_source :
    reducedCommand.minify = true ∧ reducedSource ≠ "" ∧
      (∃ report, (failingSite.build ["include=isArray", "-c", "-m"]).result = .ok report ∧
        report.source = reducedSource ∧
        "2.4.1".toList <:+: report.source.toList ∧
        (failingSite.build ["include=isArray", "-c", "-m"]).reducerCalls.length ≤ 1) ∧
      ∃ report, (shortSite.build ["include=isArray", "-c", "-m"]).result = .ok report ∧
        report.source = "2.4.1" ∧
        (shortSite.build ["include=isArray", "-c", "-m"]).reducerCalls.length ≤ 1 := by
  have hsource : reducedSource ≠ "" := Script.text_ne_empty
  have hnone : ∀ out, ¬ failingSite.Accepts reducedCommand reducedSource out := by
    rintro out ⟨reducer, hreducer, hfailure, -⟩
    cases hasReducer_iff.1 hreducer
    cases hfailure
  have haccepts : shortSite.Accepts reducedCommand reducedSource "2.4.1" := by
    have hlines : Text.lineFeeds "2.4.1" = 0 := by decide
    have hversion : shortSite.registry.header.version.display = "2.4.1" := rfl
    refine ⟨shortReducer, .given rfl, rfl, rfl, ?_, ?_⟩
    · rw [hlines]
      exact Nat.zero_le _
    · rw [hversion]
      exact fun _ => List.infix_rfl
  -- both sites have the registry, so they come to the same source
  have hboth : ∀ site : Site, site.registry = Registry.sample →
      ∃ report, (site.build ["include=isArray", "-c", "-m"]).result = .ok report ∧
        site.Reduces reducedCommand { names := ["isArray"], requested := ["isArray"] }
          reducedSource report ∧
        (site.build ["include=isArray", "-c", "-m"]).reducerCalls.length ≤ 1 := by
    intro site hsite
    have hselect := select_reduced
    have houtcome := outcome_reduced
    rw [← hsite] at hselect houtcome
    obtain ⟨hbuild, huses⟩ := build_reduces site ["include=isArray", "-c", "-m"]
    obtain ⟨hdraft, hreport⟩ := hbuild _ _ _ ofTokens_reduced hselect houtcome rfl hsource
    obtain ⟨d, hd⟩ := hdraft (by rw [hsite]; rfl)
    have hread := readCommand_eq_ok_iff.2 ⟨ofTokens_reduced, hselect⟩
    obtain ⟨report, hresult⟩ := exists_report_of_draft hread rfl hd
    exact ⟨report, hresult, hreport report hresult, huses.calls_le⟩
  obtain ⟨kept, hkept, hreduced, hcalls⟩ := hboth failingSite rfl
  obtain ⟨replaced, hreplaced, hreduces, huses⟩ := hboth shortSite rfl
  exact ⟨rfl, hsource,
    ⟨kept, hkept, (hreduced.rejected hnone).1, hreduced.version_mem, hcalls⟩,
    replaced, hreplaced, (hreduces.accepted _ haccepts).1, huses⟩

end Site

end CustomBuild
