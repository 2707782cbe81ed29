import CustomBuild.Proofs.Build.Stripped
import CustomBuild.Proofs.Command.Leftover
import CustomBuild.Proofs.Script.Core

/-!
# What builds make

Two builds from one registry make the same if their tokens are the same without those of the
delivery: both are refused for the same reason, or they have the same source and the same faults
(`Site.build_makes_alike`).  The surroundings may differ as they like, as long as no module is
reduced.

The selection and the script do not look at the delivery of a command at all, so that all comes down
to what is left of the tokens (`Command.map_withoutDelivery_ofTokens`).  What can keep a build from
ending with a report is its delivery alone (`Site.Makes`), or a value of the registry that is no
text (`Registry.HasTexts`).
-/

namespace CustomBuild

/-! ### Registries of texts -/

namespace Registry

variable {r : Registry} {c : Command} {names : List String}

/-- The variants and tails of the entries are texts, as far as they are there. -/
def HasTexts (r : Registry) : Prop :=
  ∀ e ∈ r.entries, e.tail.value.isText = true ∧
    ∀ value ∈ e.variants.values, value = .null ∨ value.isText = true

instance (r : Registry) : Decidable r.HasTexts :=
  inferInstanceAs (Decidable (∀ e ∈ r.entries, _ ∧ _))

/-- **What a script emits of a registry of texts** is text. -/
theorem HasTexts.emittable (htexts : r.HasTexts) (h : r.Accepted) :
    Script.Emittable r c names := by
  intro p hnames hplan _ value hvalue
  have hp := Script.plan_of_planFor hplan
  rw [h.plan_eq (mem_order_of_plan_eq h hp)] at hp
  cases hp
  rcases List.mem_append.1 hvalue with hvalue | hvalue
  · obtain ⟨m, hm, rfl⟩ := List.mem_map.1 hvalue
    obtain ⟨hentry, hfragment⟩ := (List.mem_append.1 hm).elim mem_emittedOf mem_emittedOf
    have hne : m.fragment ≠ .null := by
      have hfilter := (Option.filter_eq_some_iff.1 hfragment).2
      simpa using hfilter
    exact ((htexts _ hentry).2 _ (source_of_fragment? hfragment)).resolve_left hne
  · obtain ⟨m, hm, rfl⟩ := List.mem_map.1 (List.mem_filter.1 hvalue).1
    exact (htexts _ (mem_emittedOf hm).1).1

end Registry

/-! ### Commands with one module -/

/-- The selection does not look at the delivery. -/
theorem Registry.select_withoutDelivery (r : Registry) (c : Command) :
    r.select c.withoutDelivery = r.select c := rfl

/-- Nor does the script. -/
theorem Script.generate_withoutDelivery (r : Registry) (c : Command) (names : List String) :
    generate r c.withoutDelivery names = generate r c names := rfl

/-- The source of a script before any reduction.  Without the core helper it is empty. -/
def Script.Generated.source? (g : Script.Generated) : Except Abort String :=
  match g.outcome with
  | .ok source => .ok source
  | .error (.core _) => .ok ""
  | .error (.unknownName name) => .error (.unknownName name)
  | .error (.misuse misuse) => .error (.misuse misuse)

/-- The faults of generation and reduction in a report. -/
def Report.generationFaults (report : Report) : List Diagnostic :=
  report.diagnostics.filter fun d => d.kind == generationKind

namespace Site

variable {site other : Site} {tokens others : List String} {c : Command} {s : Selection}
  {d : Draft} {report : Report}

/-- **The draft of a command that asks for no reduction.** -/
theorem draft_of_not_minify (hread : site.readCommand tokens = .ok (c, s))
    (hminify : c.minify = false) :
    site.draft tokens = match (Script.generate site.registry c s.names).source? with
      | .error abort => .error (.aborted abort)
      | .ok source => .ok
          { command := c, selection := s, source,
            diagnostics :=
              (Script.generate site.registry c s.names).allFaults.map Fault.diagnostic,
            reducerCalls := [], launched := [] } := by
  have hreduce : ∀ source, site.reduce c source = .ok { source } := by
    intro source
    simp [reduce, hminify]
  unfold draft Script.Generated.source? Script.Generated.allFaults
  cases houtcome : (Script.generate site.registry c s.names).outcome with
  | error error => cases error <;> simp only [hread, houtcome]
  | ok source => simp only [hread, houtcome, hreduce, List.append_nil]

/-! ### The source and the faults of a build -/

/-- **What a build makes**: the source and the faults of its report.  There is one if the source can
be delivered, to standard output in any case. -/
structure Makes (site : Site) (tokens : List String) (source : String) (faults : List Fault) :
    Prop where
  /-- the build ends with a report if the source can be delivered where it is to go -/
  returns : (∀ c path, Command.ofTokens tokens = .ok c → c.destination = some path →
    site.CanDeliver path source) → ∃ report, (site.build tokens).result = .ok report
  /-- the report has this source -/
  source_eq : ∀ report, (site.build tokens).result = .ok report → report.source = source
  /-- and these faults -/
  faults_eq : ∀ report, (site.build tokens).result = .ok report →
    report.generationFaults = faults.map Fault.diagnostic

/-- A build with a draft makes the source and the faults of the draft. -/
theorem makes_of_draft {faults : List Fault} (hdraft : site.draft tokens = .ok d)
    (hdiagnostics : d.diagnostics = faults.map Fault.diagnostic) :
    site.Makes tokens d.source faults := by
  have hbuild : site.build tokens = site.deliver d := by
    rw [build, hdraft]
  have hcommand := (readCommand_eq_ok_iff.1 (draft_eq_ok hdraft).1).1
  constructor
  · intro hdeliver
    rw [hbuild]
    exact deliver_returns_iff.2 fun path => hdeliver d.command path hcommand
  · intro report h
    rw [hbuild] at h
    exact source_of_deliver h
  · intro report h
    rw [hbuild] at h
    obtain ⟨failures, hreport, -, hfailures⟩ := (deliver_eq_ok h).diagnostics_eq
    -- faults of generation are of their kind, and a failed delivery is not
    have hfaults : (faults.map Fault.diagnostic).filter (fun x => x.kind == generationKind) =
        faults.map Fault.diagnostic := by
      rw [List.filter_eq_self]
      intro x hx
      obtain ⟨fault, -, rfl⟩ := List.mem_map.1 hx
      exact beq_self_eq_true _
    have hnone : failures.filter (fun x => x.kind == generationKind) = [] := by
      rw [List.filter_eq_nil_iff]
      intro x hx
      rw [hfailures x hx]
      decide
    rw [Report.generationFaults, hreport, hdiagnostics, List.filter_append, hfaults, hnone,
      List.append_nil]

/-- Commands that are the same without their delivery are read alike: both are refused for one
reason, or they select the same. -/
theorem readCommand_cases (hregistry : other.registry = site.registry)
    (hleft : withoutDelivery (fun _ => true) tokens = withoutDelivery (fun _ => true) others) :
    (∃ diagnostic, site.readCommand tokens = .error diagnostic ∧
        other.readCommand others = .error diagnostic) ∨
      ∃ c c' s, c.withoutDelivery = c'.withoutDelivery ∧
        site.readCommand tokens = .ok (c, s) ∧ other.readCommand others = .ok (c', s) := by
  -- without their delivery both are read to the same command, or to the same error
  have hmap : (Command.ofTokens tokens).map Command.withoutDelivery =
      (Command.ofTokens others).map Command.withoutDelivery := by
    rw [Command.map_withoutDelivery_ofTokens, hleft, Command.map_withoutDelivery_ofTokens]
  unfold readCommand
  rw [hregistry]
  cases hc : Command.ofTokens tokens with
  | error error =>
    cases hc' : Command.ofTokens others with
    | error error' =>
      rw [hc, hc'] at hmap
      cases hmap
      exact Or.inl ⟨_, rfl, rfl⟩
    | ok c' =>
      rw [hc, hc'] at hmap
      cases hmap
  | ok c =>
    cases hc' : Command.ofTokens others with
    | error error' =>
      rw [hc, hc'] at hmap
      cases hmap
    | ok c' =>
      rw [hc, hc'] at hmap
      have hsame : c.withoutDelivery = c'.withoutDelivery := Except.ok.inj hmap
      have hselect : site.registry.select c = site.registry.select c' := by
        rw [← Registry.select_withoutDelivery, hsame, Registry.select_withoutDelivery]
      simp only [hselect]
      cases site.registry.select c' with
      | error error => exact Or.inl ⟨_, rfl, rfl⟩
      | ok s => exact Or.inr ⟨c, c', s, hsame, rfl, rfl⟩

/-- A refused command is the whole of the report. -/
theorem result_of_readCommand_error {diagnostic : Diagnostic}
    (hread : site.readCommand tokens = .error diagnostic) :
    (site.build tokens).result = .ok { diagnostics := [diagnostic] } := by
  rw [build_of_readCommand_error hread]
  rfl

/-- A command that asks for no reduction does so with its flags alone. -/
theorem minify_eq_false (hread : site.readCommand tokens = .ok (c, s))
    (hminify : "-m" ∉ tokens ∧ "--minify" ∉ tokens) : c.minify = false := by
  rw [← Bool.not_eq_true, Command.minify_iff (readCommand_eq_ok_iff.1 hread).1, not_or]
  exact hminify

/-- **Builds that differ in their delivery only** make the same.  Either both are refused with one
diagnostic; or both end without a report, which takes a registry with other values than texts; or
there are one source and one list of faults that both builds make. -/
theorem build_makes_alike {entries : List Entry} {header : RegistryHeader}
    (hr : Registry.ofEntries entries header = .ok site.registry)
    (hregistry : other.registry = site.registry)
    (hminify : "-m" ∉ tokens ∧ "--minify" ∉ tokens)
    (hminify' : "-m" ∉ others ∧ "--minify" ∉ others)
    (hleft : withoutDelivery (fun _ => true) tokens = withoutDelivery (fun _ => true) others) :
    (∃ diagnostic, (site.build tokens).result = .ok { diagnostics := [diagnostic] } ∧
        (other.build others).result = .ok { diagnostics := [diagnostic] } ∧
        site.readCommand tokens = .error diagnostic ∧
        other.readCommand others = .error diagnostic) ∨
      (∃ abort, (site.build tokens).result = .error abort ∧
        (other.build others).result = .error abort ∧ ¬ site.registry.HasTexts) ∨
      ∃ source faults, site.Makes tokens source faults ∧ other.Makes others source faults := by
  obtain ⟨h, -, -⟩ := Registry.accepted_of_ofEntries hr
  rcases readCommand_cases hregistry hleft with
    ⟨diagnostic, hread, hread'⟩ | ⟨c, c', s, hsame, hread, hread'⟩
  · exact Or.inl ⟨diagnostic, result_of_readCommand_error hread,
      result_of_readCommand_error hread', hread, hread'⟩
  right
  -- the script is that of the command without its delivery, on both sides
  have hgenerate : Script.generate other.registry c' s.names =
      Script.generate site.registry c s.names := by
    rw [hregistry, ← Script.generate_withoutDelivery, ← hsame, Script.generate_withoutDelivery]
  have hdraft := draft_of_not_minify hread (minify_eq_false hread hminify)
  have hdraft' := draft_of_not_minify hread' (minify_eq_false hread' hminify')
  rw [hgenerate] at hdraft'
  cases hsource : (Script.generate site.registry c s.names).source? with
  | ok source =>
    rw [hsource] at hdraft hdraft'
    exact Or.inr ⟨source, _, makes_of_draft hdraft rfl, makes_of_draft hdraft' rfl⟩
  | error abort =>
    rw [hsource] at hdraft hdraft'
    refine Or.inl ⟨abort, by rw [build, hdraft], by rw [build, hdraft'], fun htexts => ?_⟩
    -- texts are emitted, so that there is a source or the core helper is missing
    have hs := (readCommand_eq_ok_iff.1 hread).2
    have hemittable : Script.Emittable site.registry c s.names := htexts.emittable h
    rw [Script.emittable_iff h fun _ ha => Registry.mem_order_of_mem_names h hs ha] at hemittable
    unfold Script.Generated.source? at hsource
    obtain ⟨source, houtcome⟩ | ⟨fault, houtcome⟩ := hemittable
    · rw [houtcome] at hsource
      cases hsource
    · rw [houtcome] at hsource
      cases hsource

/-! ### One module, delivered in two ways -/

/-- The small registry, where standard output cannot be written to. -/
def mutedSite : Site where
  registry := Registry.sample
  stream := .broken "closed"

/-- The command of `include=isArray -c`. -/
def streamCommand : Command where
  included := some ["isArray"]
  stdout := true
  tokens := ["include=\"isArray\""]

theorem readCommand_file :
    sampleSite.readCommand ["-o", "b.js", "include=isArray"] =
      .ok (fileCommand "b.js", { names := ["isArray"], requested := ["isArray"] }) := by
  rw [readCommand_eq_ok_iff]
  exact ⟨by decide, select_fileCommand⟩

theorem readCommand_stream :
    mutedSite.readCommand ["include=isArray", "--stdout"] =
      .ok (streamCommand, { names := ["isArray"], requested := ["isArray"] }) := by
  rw [readCommand_eq_ok_iff]
  exact ⟨by decide, by cbv⟩

theorem canDeliver_file {source : String} : sampleSite.CanDeliver "b.js" source where
  directories_without_null := by decide
  not_too_deep := by decide
  without_null := fun _ => by decide
  without_halves := fun _ => by
    have hhalves : sampleSite.registry.hasHalves = false := by decide
    rw [halves?, hhalves]
    rfl

/-- A file and standard output are given the same source, although only one of the deliveries goes
well. -/
theorem muted_makes_alike :
    Registry.ofEntries Registry.sampleEntries Registry.sampleHeader = .ok sampleSite.registry ∧
      mutedSite.registry = sampleSite.registry ∧
      withoutDelivery (fun _ => true) ["-o", "b.js", "include=isArray"] =
        withoutDelivery (fun _ => true) ["include=isArray", "--stdout"] ∧
      ∃ report report',
        (sampleSite.build ["-o", "b.js", "include=isArray"]).result = .ok report ∧
        (mutedSite.build ["include=isArray", "--stdout"]).result = .ok report' ∧
        report.source = report'.source ∧ report.generationFaults = report'.generationFaults := by
  have hleft : withoutDelivery (fun _ => true) ["-o", "b.js", "include=isArray"] =
      withoutDelivery (fun _ => true) ["include=isArray", "--stdout"] := by
    decide +kernel
  refine ⟨Registry.ofEntries_sampleEntries, rfl, hleft, ?_⟩
  have hregistry : mutedSite.registry = sampleSite.registry := rfl
  rcases build_makes_alike Registry.ofEntries_sampleEntries hregistry (by decide) (by decide)
      hleft with
    ⟨diagnostic, -, -, hrefused, -⟩ | ⟨abort, -, -, hnot⟩ | ⟨source, faults, hfile, hstream⟩
  · rw [readCommand_file] at hrefused
    cases hrefused
  · exact absurd (by decide +kernel) hnot
  obtain ⟨report, hreport⟩ := hfile.returns fun c path hc hpath => by
    obtain rfl := Except.ok.inj ((readCommand_eq_ok_iff.1 readCommand_file).1.symm.trans hc)
    cases hpath
    exact canDeliver_file
  obtain ⟨report', hreport'⟩ := hstream.returns fun c path hc hpath => by
    obtain rfl := Except.ok.inj ((readCommand_eq_ok_iff.1 readCommand_stream).1.symm.trans hc)
    cases hpath
  refine ⟨report, report', hreport, hreport', ?_, ?_⟩
  · rw [hfile.source_eq report hreport, hstream.source_eq report' hreport']
  · rw [hfile.faults_eq report hreport, hstream.faults_eq report' hreport']

/-- The command of `include=isArray -c -o`, with a path that has the null character. -/
def sparedCommand : Command :=
  { fileCommand "a\x00b.js" with stdout := true }

/-- The source that it asks for. -/
def sparedSource : String :=
  Script.text Registry.sampleHeader sparedCommand
    { helpers := Registry.sample.emittedOf ∅ ["lodash"]
      functions := Registry.sample.emittedOf ∅ ["isArray"]
      omissions := [] }

theorem generate_spared :
    Script.generate sampleSite.registry sparedCommand ["isArray"] =
      { faults := [], outcome := .ok sparedSource } := by
  have hplan : Script.planFor sampleSite.registry sparedCommand.modes ["isArray"] = _ :=
    planFor_isArray
  rw [Script.generate, if_neg (by decide), hplan]
  rfl

theorem result_spared :
    (sampleSite.build ["include=isArray", "-c", "-o", "a\x00b.js"]).result =
      .ok { source := sparedSource, stdout := true } := by
  have hread : sampleSite.readCommand ["include=isArray", "-c", "-o", "a\x00b.js"] =
      .ok (sparedCommand, { names := ["isArray"], requested := ["isArray"] }) := by
    rw [readCommand_eq_ok_iff]
    exact ⟨by decide, by cbv⟩
  have hdraft := draft_of_not_minify hread rfl
  simp only [generate_spared] at hdraft
  rw [build, hdraft]
  rfl

/-- **A path that stays can come to stand behind an output option.**  If paths with the null
character are not deleted, the same tokens are left of a command without a path, which is refused,
and of one that goes to standard output. -/
theorem spared_path_changes_command :
    Registry.ofEntries Registry.sampleEntries Registry.sampleHeader = .ok sampleSite.registry ∧
      withoutDelivery (fun path => !path.toList.contains (Char.ofNat 0))
          ["include=isArray", "-o", "-c", "a\x00b.js"] =
        withoutDelivery (fun path => !path.toList.contains (Char.ofNat 0))
          ["include=isArray", "-c", "-o", "a\x00b.js"] ∧
      (sampleSite.build ["include=isArray", "-o", "-c", "a\x00b.js"]).result = .ok
        { diagnostics :=
          [{ kind := "ConfigurationError", message := "'-o' requires a file path" }] } ∧
      (sampleSite.build ["include=isArray", "-c", "-o", "a\x00b.js"]).result = .ok
        { source := sparedSource, stdout := true } ∧
      sparedSource ≠ "" := by
  refine ⟨Registry.ofEntries_sampleEntries, by decide +kernel, ?_, result_spared,
    Script.text_ne_empty⟩
  refine result_of_readCommand_error ?_
  decide +kernel

end Site

end CustomBuild
