import CustomBuild.Proofs.Build.Completion
import CustomBuild.Proofs.Script.Emission

/-!
# When builds end with a report

Whatever goes wrong in a build should become a problem of its report.  `Site.build_returns_iff` says
for accepted registries which builds end with one.  Every refused command does, and so does every
failure of a reducer, of a stream or of the file system.  What breaks a build off is a value of the
registry that is used as a text and is none, a path with the null character, a path with too many
missing directories, and a source that no file can hold.

The parts of a build are taken one by one: the script (`Script.Emittable`), the reduction
(`Site.Checkable`) and the delivery to a file (`Site.CanDeliver`).
-/

namespace CustomBuild

/-! ### The null character in a path -/

/-- A character that is no separator is in one of the pieces of a text that has it. -/
theorem Text.exists_mem_splitWhere_iff (isSeparator : Char → Bool) {x : Char} {cs : List Char}
    (hx : isSeparator x = false) :
    (∃ piece ∈ splitWhere isSeparator cs, x ∈ piece) ↔ x ∈ cs := by
  induction cs with
  | nil => simp [splitWhere]
  | cons c cs ih =>
    rw [splitWhere, List.foldr_cons, ← splitWhere, List.mem_cons, ← ih]
    by_cases hc : isSeparator c = true
    · have hne : x ≠ c := by
        rintro rfl
        rw [hx] at hc
        cases hc
      simp [hc, hne]
    · rw [if_neg hc]
      cases hpieces : splitWhere isSeparator cs with
      | nil => exact absurd hpieces (splitWhere_ne_nil _ cs)
      | cons piece rest => simp [or_assoc]

/-- **A path has the null character** if its text does. -/
theorem Path.hasNull_ofText_iff {text : String} :
    (Path.ofText text).hasNull = true ↔ Char.ofNat 0 ∈ text.toList := by
  rw [← Text.exists_mem_splitWhere_iff (· == '/') (by decide)]
  unfold Path.hasNull Path.ofText
  simp only [List.any_filter, List.any_map, List.any_eq_true]
  refine exists_congr fun piece => and_congr_right fun _ => ?_
  simp only [Function.comp_apply, Bool.and_eq_true, String.toList_ofList, List.contains_iff_mem]
  -- the parts that are left out, the empty one and the dot, do not have it
  have hne : ∀ other : String, Char.ofNat 0 ∉ other.toList → Char.ofNat 0 ∈ piece →
      (String.ofList piece != other) = true := by
    intro other hother hnull
    rw [bne_iff_ne]
    rintro rfl
    rw [String.toList_ofList] at hother
    exact hother hnull
  exact and_iff_right_of_imp fun hnull => ⟨hne "" (by decide) hnull, hne "." (by decide) hnull⟩

/-! ### Scripts -/

namespace Script

variable {r : Registry} {c : Command} {names : List String} {source : String}

/-- **What a script emits is text**: the fragments and tails, unless the core helper is left out. -/
def Emittable (r : Registry) (c : Command) (names : List String) : Prop :=
  ∀ p, names ≠ [] → planFor r c.modes names = .ok p → coreName ∉ p.omitted →
    ∀ value ∈ p.values, value.isText = true

theorem emittable_iff_of_planFor {p : Plan} (hempty : names ≠ [])
    (hplan : planFor r c.modes names = .ok p) :
    Emittable r c names ↔ (coreName ∉ p.omitted → ∀ value ∈ p.values, value.isText = true) := by
  constructor
  · exact fun hemit => hemit p hempty hplan
  · intro htext q _ hq
    rw [hplan] at hq
    cases hq
    exact htext

/-- **Generating a script** for names of entries ends with a source or with a fault exactly if what
the script emits is text. -/
theorem emittable_iff (h : r.Accepted) (hnames : ∀ a ∈ names, a ∈ r.order) :
    Emittable r c names ↔
      (∃ source, (generate r c names).outcome = .ok source) ∨
        ∃ fault, (generate r c names).outcome = .error (.core fault) := by
  by_cases hempty : names = []
  · subst hempty
    exact ⟨fun _ => Or.inl ⟨"", rfl⟩, fun _ _ hne => absurd rfl hne⟩
  · unfold generate
    rw [if_neg (mt List.isEmpty_iff.1 hempty)]
    -- without the core helper there is no plan; with it there is one, as all names are known
    by_cases hcore : r.contains coreName = true
    · obtain ⟨p, hplan⟩ : ∃ p, planFor r c.modes names = .ok p := by
        rw [planFor, if_pos hcore, h.plan_eq hnames]
        exact ⟨_, rfl⟩
      rw [emittable_iff_of_planFor hempty hplan, ← misuse?_eq_none_iff, hplan]
      simp only [ofPlan]
      by_cases hleft : coreName ∈ p.omitted
      · simp [hleft]
      · rw [if_neg (mt List.contains_iff_mem.1 hleft)]
        cases p.misuse? <;> simp [hleft]
    · have hplan : planFor r c.modes names = .error (.core .noCore) := by
        rw [planFor, if_neg hcore]
      rw [hplan]
      exact ⟨fun _ => Or.inr ⟨.noCore, rfl⟩, fun _ q _ hq => by rw [hplan] at hq; cases hq⟩

end Script

/-! ### Reductions -/

namespace Site

variable {site : Site} {tokens : List String} {c : Command} {s : Selection} {source : String}
  {d : Draft}

/-- **The version can be looked for** in what a reducer hands on, if it does so as it should. -/
def Checkable (site : Site) (c : Command) (source : String) : Prop :=
  c.minify = true → source ≠ "" → ∀ reducer, site.chosenReducer = .ok reducer →
    ∀ reduced, (reducer.reduce source (reducerOptions c)).failure = none →
      (reducer.reduce source (reducerOptions c)).outputs = [reduced] →
      site.registry.header.version.isText = true

theorem problems_eq_ok_iff {reduction : Reduction} {version : Json} :
    (∃ problems, reduction.problems source version = .ok problems) ↔
      ∀ reduced, reduction.failure = none → reduction.outputs = [reduced] →
        version.isText = true := by
  unfold Reduction.problems
  cases reduction.failure with
  | some failure => simp
  | none =>
    match reduction.outputs with
    | [] => simp
    | [reduced] => by_cases htext : version.isText = true <;> simp [htext]
    | _ :: _ :: _ => simp

/-- **A reduction ends with a source**, reduced or not, if the version can be looked for. -/
theorem checkable_iff :
    site.Checkable c source ↔ ∃ reduced, site.reduce c source = .ok reduced := by
  unfold Checkable reduce
  by_cases hminify : c.minify = true
  · by_cases hsource : source = ""
    · simp [hsource]
    · have hcond : (c.minify && !source.isEmpty) = true := by simp [hminify, hsource]
      rw [if_pos hcond]
      cases hreducer : site.chosenReducer with
      | error error => simp
      | ok reducer =>
        simp only [hminify, ne_eq, hsource, not_false_eq_true, forall_const, Except.ok.injEq,
          forall_eq', reduceWith]
        rw [← problems_eq_ok_iff]
        cases (reducer.reduce source (reducerOptions c)).problems source
          site.registry.header.version <;> simp [Except.map]
  · simp [hminify]

end Site

/-! ### Deliveries -/

namespace FileTree

variable {t : FileTree} {workingDirectory : Location} {path text : String}

/-- Whether and where a file can be written does not depend on its text. -/
theorem writeFile_cases (t : FileTree) (workingDirectory : Location) (p : Path) :
    (∃ kind, ∀ text, t.writeFile workingDirectory p text = .error kind) ∨
      ∃ place, ∀ text, t.writeFile workingDirectory p text = .ok (t.put place (.file text)) := by
  unfold writeFile
  cases t.locate workingDirectory p with
  | error kind => exact Or.inl ⟨kind, fun _ => rfl⟩
  | ok place =>
    cases hnode : t.node? place with
    | none => exact Or.inr ⟨place, fun _ => by simp [hnode]⟩
    | some node =>
      cases node with
      | directory => exact Or.inl ⟨.isDirectory, fun _ => by simp [hnode]⟩
      | file old => exact Or.inr ⟨place, fun _ => by simp [hnode]⟩

/-- Whether a delivery goes well does not depend on the text. -/
theorem error_deliver_eq (text other : String) :
    (t.deliver workingDirectory path text).2 = (t.deliver workingDirectory path other).2 := by
  unfold deliver
  simp only
  split_ifs with hparent hdeep hnull
  · rfl
  · rfl
  · rfl
  · cases t.makeParent workingDirectory (Path.ofText path) with
    | mk reached error =>
      cases error with
      | some error => rfl
      | none =>
        rcases reached.writeFile_cases workingDirectory (Path.ofText path) with
          ⟨kind, hkind⟩ | ⟨place, hplace⟩
        · simp only [hkind]
        · simp only [hplace]

/-- **A delivery is left to the file system** unless the null character or the number of missing
directories ends it. -/
theorem deliver_isTried_iff :
    ((t.deliver workingDirectory path text).2 ≠ some .nullCharacter ∧
        (t.deliver workingDirectory path text).2 ≠ some .tooDeep) ↔
      (Path.ofText path).parent.hasNull = false ∧
        t.isTooDeep workingDirectory (Path.ofText path) = false ∧
        ((t.makeParent workingDirectory (Path.ofText path)).2 = none →
          (Path.ofText path).hasNull = false) := by
  unfold deliver
  by_cases hparent : (Path.ofText path).parent.hasNull = true
  · simp [hparent]
  · by_cases hdeep : t.isTooDeep workingDirectory (Path.ofText path) = true
    · simp [hparent, hdeep]
    · simp only [hparent, hdeep]
      cases t.makeParent workingDirectory (Path.ofText path) with
      | mk reached error =>
        cases error with
        | some error => simp
        | none =>
          by_cases hnull : (Path.ofText path).hasNull = true
          · simp [hnull]
          · simp only [hnull]
            cases reached.writeFile workingDirectory (Path.ofText path) text <;> simp

end FileTree

namespace Site

variable {site : Site} {tokens : List String} {c : Command} {s : Selection} {source path : String}
  {d : Draft}

/-- **A source can be delivered to a file**, or fail to with an error of the file system. -/
structure CanDeliver (site : Site) (path source : String) : Prop where
  /-- no directory of the path has the null character -/
  directories_without_null : (Path.ofText path).parent.hasNull = false
  /-- not too many directories are missing -/
  not_too_deep : site.tree.isTooDeep site.workingDirectory (Path.ofText path) = false
  /-- if the directories are there or can be made, the path does not have the null character -/
  without_null : (site.tree.makeParent site.workingDirectory (Path.ofText path)).2 = none →
    Char.ofNat 0 ∉ path.toList
  /-- if a file can be written there, the source has no halves of surrogate pairs -/
  without_halves : (site.tree.deliver site.workingDirectory path "").2 = none →
    site.halves? source = none

theorem canDeliver_iff :
    site.CanDeliver path source ↔
      ((site.tree.deliver site.workingDirectory path "").2 ≠ some .nullCharacter ∧
        (site.tree.deliver site.workingDirectory path "").2 ≠ some .tooDeep) ∧
      ((site.tree.deliver site.workingDirectory path "").2 = none →
        site.halves? source = none) := by
  rw [FileTree.deliver_isTried_iff, ← Bool.not_eq_true (Path.ofText path).hasNull,
    Path.hasNull_ofText_iff]
  constructor
  · exact fun h => ⟨⟨h.1, h.2, h.3⟩, h.4⟩
  · exact fun h => ⟨h.1.1, h.1.2.1, h.1.2.2, h.2⟩

/-- **A delivery ends with a report** exactly if it goes to standard output or can be tried. -/
theorem deliver_returns_iff :
    (∃ report, (site.deliver d).result = .ok report) ↔
      ∀ path, d.command.destination = some path → site.CanDeliver path d.source := by
  unfold deliver
  cases hpath : d.command.destination with
  | none => simp [finishOnStream]
  | some path =>
    simp only [Option.some.injEq, forall_eq']
    rw [canDeliver_iff]
    -- a source with halves is tried as the empty text, which goes as well or badly as any other
    rw [FileTree.error_deliver_eq "" (if (site.halves? d.source).isSome then "" else d.source)]
    cases site.tree.deliver site.workingDirectory path
        (if (site.halves? d.source).isSome then "" else d.source) with
    | mk tree error =>
      cases error with
      | some error => cases error <;> simp [abandon, finishOnFile]
      | none =>
        cases site.halves? d.source with
        | none => simp [finishOnFile]
        | some run => simp [abandon]

/-! ### Builds -/

/-- **A command that is read has a draft** exactly if what its script emits is text and the version
can be looked for where it has to be. -/
theorem draft_returns_iff (h : site.registry.Accepted)
    (hread : site.readCommand tokens = .ok (c, s)) :
    (∃ d, site.draft tokens = .ok d) ↔
      Script.Emittable site.registry c s.names ∧
        ∀ source, (Script.generate site.registry c s.names).outcome = .ok source →
          site.Checkable c source := by
  have hs := (readCommand_eq_ok_iff.1 hread).2
  rw [Script.emittable_iff h fun _ ha => Registry.mem_order_of_mem_names h hs ha]
  unfold draft
  simp only [hread]
  cases houtcome : (Script.generate site.registry c s.names).outcome with
  | error error => cases error <;> simp
  | ok source =>
    simp only [Except.ok.injEq, forall_eq', exists_eq', true_or, true_and]
    rw [checkable_iff]
    cases site.reduce c source <;> simp

/-- **When a build ends with a report.**  Of the commands that are read, those do whose script is
made of texts, whose version is one where the contract of a reducer needs it, and whose source can
be delivered where it is to go.  All others do. -/
theorem build_returns_iff {entries : List Entry} {header : RegistryHeader}
    (hr : Registry.ofEntries entries header = .ok site.registry) :
    (∃ report, (site.build tokens).result = .ok report) ↔
      ∀ c s, Command.ofTokens tokens = .ok c → site.registry.select c = .ok s →
        Script.Emittable site.registry c s.names ∧
          (∀ source, (Script.generate site.registry c s.names).outcome = .ok source →
            site.Checkable c source) ∧
          ∀ d path, site.draft tokens = .ok d → c.destination = some path →
            site.CanDeliver path d.source := by
  obtain ⟨h, -, -⟩ := Registry.accepted_of_ofEntries hr
  cases hread : site.readCommand tokens with
  | error diagnostic =>
    -- a refusal is a report of its own
    refine iff_of_true ⟨_, by rw [build_of_readCommand_error hread]; rfl⟩ fun c s hc hs => ?_
    rw [readCommand_eq_ok_iff.2 ⟨hc, hs⟩] at hread
    cases hread
  | ok pair =>
    obtain ⟨c, s⟩ := pair
    obtain ⟨hc, hs⟩ := readCommand_eq_ok_iff.1 hread
    have hreturns := draft_returns_iff h hread
    constructor
    · rintro ⟨report, hreport⟩ c' s' hc' hs'
      obtain rfl := Except.ok.inj (hc.symm.trans hc')
      obtain rfl := Except.ok.inj (hs.symm.trans hs')
      obtain ⟨d, hdraft, hbuild⟩ := exists_draft_of_result hread hreport
      obtain ⟨hemit, hcheck⟩ := hreturns.1 ⟨d, hdraft⟩
      refine ⟨hemit, hcheck, fun d' path hd hpath => ?_⟩
      obtain rfl := Except.ok.inj (hdraft.symm.trans hd)
      obtain ⟨rfl, -⟩ := command_of_draft hread hdraft
      rw [hbuild] at hreport
      exact deliver_returns_iff.1 ⟨report, hreport⟩ path hpath
    · intro hall
      obtain ⟨hemit, hcheck, hdeliver⟩ := hall c s hc hs
      obtain ⟨d, hdraft⟩ := hreturns.2 ⟨hemit, hcheck⟩
      obtain ⟨rfl, -⟩ := command_of_draft hread hdraft
      rw [build, hdraft]
      exact deliver_returns_iff.2 fun path hpath => hdeliver d path hdraft hpath

/-! ### One path with the null character, and one without -/

/-- A build from the small registry, in an empty directory. -/
def sampleSite : Site where
  registry := Registry.sample

/-- The command of `include=isArray -o`, with the given path. -/
def fileCommand (path : String) : Command where
  included := some ["isArray"]
  outputPath := some path
  tokens := ["include=\"isArray\""]

theorem select_fileCommand :
    sampleSite.registry.select (fileCommand path) =
      .ok { names := ["isArray"], requested := ["isArray"] } := by
  cbv

theorem planFor_isArray :
    Script.planFor sampleSite.registry ∅ ["isArray"] = .ok
      { helpers := Registry.sample.emittedOf ∅ ["lodash"]
        functions := Registry.sample.emittedOf ∅ ["isArray"]
        omissions := [] } := by
  cbv

theorem emittable_fileCommand :
    Script.Emittable sampleSite.registry (fileCommand path) ["isArray"] := by
  intro p _ hp _
  obtain rfl := Except.ok.inj (planFor_isArray.symm.trans hp)
  decide

theorem checkable_fileCommand : sampleSite.Checkable (fileCommand path) source := by
  intro hminify
  cases hminify

theorem ofTokens_null :
    Command.ofTokens ["include=isArray", "-o", "a\x00b.js"] = .ok (fileCommand "a\x00b.js") := by
  decide

/-- **A path with the null character** ends a build without a report. -/
theorem null_in_path_breaks_off :
    Registry.ofEntries Registry.sampleEntries Registry.sampleHeader = .ok sampleSite.registry ∧
      (sampleSite.build ["include=isArray", "-o", "a\x00b.js"]).result = .error .nullInPath := by
  refine ⟨Registry.ofEntries_sampleEntries, ?_⟩
  obtain ⟨h, -, -⟩ := Registry.accepted_of_ofEntries Registry.ofEntries_sampleEntries
  have hread := readCommand_eq_ok_iff.2 ⟨ofTokens_null, select_fileCommand⟩
  obtain ⟨d, hdraft⟩ := (draft_returns_iff h hread).2
    ⟨emittable_fileCommand, fun _ _ => checkable_fileCommand⟩
  have hpath : d.command.destination = some "a\x00b.js" := by
    rw [(command_of_draft hread hdraft).1]
    rfl
  rw [build, hdraft]
  simp only [deliver, hpath]
  rfl

/-- A path without it does not. -/
theorem build_returns_sample :
    Registry.ofEntries Registry.sampleEntries Registry.sampleHeader = .ok sampleSite.registry ∧
      ∃ report, (sampleSite.build ["include=isArray", "-o", "out/b.js"]).result = .ok report := by
  have hc : Command.ofTokens ["include=isArray", "-o", "out/b.js"] =
      .ok (fileCommand "out/b.js") := by
    decide +kernel
  refine ⟨Registry.ofEntries_sampleEntries, ?_⟩
  refine (build_returns_iff Registry.ofEntries_sampleEntries).2 fun c s hc' hs => ?_
  obtain rfl := Except.ok.inj (hc.symm.trans hc')
  obtain rfl := Except.ok.inj (select_fileCommand.symm.trans hs)
  refine ⟨emittable_fileCommand, fun _ _ => checkable_fileCommand, fun d path _ hpath => ?_⟩
  obtain rfl := Option.some.inj hpath
  have hhalves : sampleSite.registry.hasHalves = false := by decide +kernel
  exact
    { directories_without_null := by decide +kernel
      not_too_deep := by decide +kernel
      without_null := fun _ => by decide
      without_halves := fun _ => by rw [halves?, hhalves]; rfl }

end Site

end CustomBuild
