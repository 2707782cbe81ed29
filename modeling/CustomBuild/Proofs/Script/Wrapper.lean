import CustomBuild.Proofs.Command.Folding
import CustomBuild.Proofs.Script.Emission

/-!
# Scripts in wrappers

A directive for a wrapper is a term exactly if its template has one output mark, wherever it stands
among tokens, and then the script is the body between the two parts of the template.
`wrapper_token_renders` has all that holds of the directive, in any list of tokens.
-/

namespace CustomBuild

namespace Term

variable {value : String} {front rest : List String} {terms : List Term}

/-- **The directive for a wrapper** is a term if its template has one output mark. -/
theorem readOne_wrapper (value : String) :
    readOne ("iife=" ++ value) =
      if Text.occurrences outputMark value = 1 then .ok (.wrapper ⟨value⟩)
      else .error (.markCount (Text.occurrences outputMark value) ("iife=" ++ value)) :=
  readOne_directive (show "iife" ∈ keys by decide) value

/-- The directive is not taken for an output option, as it has no dash at its front. -/
theorem not_takesPath_wrapper (value : String) :
    ¬ ("iife=" ++ value == "-o" || "iife=" ++ value == "--output") = true := by
  have hplain : Text.beginsWith ("iife=" ++ value) "-" = false :=
    Text.beginsWith_singleton_append '-' (by decide) value
  generalize "iife=" ++ value = word at hplain
  intro htakes
  rw [Bool.or_eq_true, beq_iff_eq, beq_iff_eq] at htakes
  rcases htakes with rfl | rfl <;> exact absurd hplain (by decide)

/-- **A template with one output mark** is a term, behind terms and in front of others. -/
theorem readAll_wrapper (hfront : readAll front = .ok terms)
    (hone : Text.occurrences outputMark value = 1) :
    readAll (front ++ ("iife=" ++ value) :: rest) =
      (readAll rest).map fun more => terms ++ .wrapper ⟨value⟩ :: more := by
  have hmark : WrapperTemplate.HasOneMark ⟨value⟩ := WrapperTemplate.hasOneMark_iff.2 hone
  rw [readAll_append_of_ok hfront, ← List.singleton_append,
    (Writes.wrapper hmark).readAll_append rest]
  cases readAll rest <;> rfl

/-- **Any other template** is at fault itself, whatever comes behind it. -/
theorem readAll_wrapper_error (hfront : readAll front = .ok terms)
    (hne : Text.occurrences outputMark value ≠ 1) :
    readAll (front ++ ("iife=" ++ value) :: rest) =
      .error (.markCount (Text.occurrences outputMark value) ("iife=" ++ value)) := by
  have hword := readOne_wrapper value
  rw [if_neg hne] at hword
  have hplain := not_takesPath_wrapper value
  generalize "iife=" ++ value = word at hword hplain ⊢
  rw [readAll_append_of_ok hfront, readAll.eq_def]
  simp only [if_neg hplain, hword]
  rfl

end Term

namespace Command

variable {value : String} {front rest : List String} {terms : List Term} {c : Command}

/-- **A command with a directive for a wrapper**: the template has one output mark, and the command
is that of the terms before, the wrapper and the terms behind. -/
theorem exists_of_ofTokens_wrapper (hfront : Term.readAll front = .ok terms)
    (hc : ofTokens (front ++ ("iife=" ++ value) :: rest) = .ok c) :
    Text.occurrences outputMark value = 1 ∧
      ∃ more, Term.readAll rest = .ok more ∧ ofTerms (terms ++ .wrapper ⟨value⟩ :: more) = c := by
  rw [ofTokens] at hc
  by_cases hone : Text.occurrences outputMark value = 1
  · rw [Term.readAll_wrapper hfront hone] at hc
    obtain ⟨all, hall, hterms⟩ := exists_of_map_eq_ok hc
    obtain ⟨more, hmore, hsplit⟩ := exists_of_map_eq_ok hall
    exact ⟨hone, more, hmore, by rw [hsplit, hterms]⟩
  · rw [Term.readAll_wrapper_error hfront hone] at hc
    cases hc

/-- A template without one output mark is no part of a command. -/
theorem ofTokens_wrapper_error (hfront : Term.readAll front = .ok terms)
    (hne : Text.occurrences outputMark value ≠ 1) :
    ofTokens (front ++ ("iife=" ++ value) :: rest) =
      .error (.markCount (Text.occurrences outputMark value) ("iife=" ++ value)) := by
  rw [ofTokens, Term.readAll_wrapper_error hfront hne]
  rfl

/-- **The last wrapper** is that of the command. -/
theorem wrapper_ofTerms (template : WrapperTemplate) {more : List Term}
    (hlast : ∀ other, .wrapper other ∉ more) :
    (ofTerms (terms ++ .wrapper template :: more)).wrapper = some template :=
  wrapper_ofTerms_eq_some_iff.2 ⟨terms, more, rfl, hlast⟩

end Command

namespace Script

variable {c : Command} {template : WrapperTemplate} {r : Registry} {names : List String}
  {source : String}

/-- **A script in a wrapper**: the banner, and the rendered body on lines of its own.  Without names
there is no script. -/
theorem generate_wrapped (hwrapper : c.wrapper = some template)
    (hg : (generate r c names).outcome = .ok source) :
    (names = [] ∧ source = "") ∨ ∃ p, planFor r c.modes names = .ok p ∧
      source = banner r.header c.tokens ++ "\n" ++ template.render (body r.header c p) ++ "\n" := by
  by_cases hnames : names = []
  · rw [hnames] at hg
    exact Or.inl ⟨hnames, (Except.ok.inj hg).symm⟩
  · obtain ⟨p, hplan, -, hsource, -⟩ := generate_eq_ok hnames hg
    refine Or.inr ⟨p, hplan, hsource.trans ?_⟩
    rw [text, hwrapper]

end Script

/-- **A directive for a wrapper**, wherever it stands among tokens.  If the tokens are a command,
the template has one output mark and wraps what it is rendered with; and if no other wrapper
follows, a script for the command is the banner and the rendered body, each with a line feed behind
it (without names there is no script).  A template without a mark, or with another one behind the
first, is at fault itself, and every other one is a term. -/
theorem wrapper_token_renders (value : String) :
    (∀ (front rest : List String) (terms : List Term) (c : Command),
      Term.readAll front = .ok terms →
      Command.ofTokens (front ++ ("iife=" ++ value) :: rest) = .ok c →
      ∃ before after more, WrapperTemplate.Wraps ⟨value⟩ before after ∧
        Term.readAll rest = .ok more ∧
        ((∀ other, .wrapper other ∉ more) → c.wrapper = some ⟨value⟩ ∧
          ∀ (r : Registry) (names : List String) (source : String),
            (Script.generate r c names).outcome = .ok source →
            (names = [] ∧ source = "") ∨ ∃ p, Script.planFor r c.modes names = .ok p ∧
              source = Script.banner r.header c.tokens ++ "\n"
                ++ (before ++ "\n" ++ Script.body r.header c p ++ "\n" ++ after) ++ "\n")) ∧
    (∀ (front rest : List String) (terms : List Term), Term.readAll front = .ok terms →
      (Text.contains value outputMark = false ∨ ∃ before after,
        WrapperTemplate.CutAt ⟨value⟩ before after ∧ Text.contains after outputMark = true) →
      Command.ofTokens (front ++ ("iife=" ++ value) :: rest) =
        .error (.markCount (Text.occurrences outputMark value) ("iife=" ++ value))) ∧
    ((∃ before after, WrapperTemplate.CutAt ⟨value⟩ before after ∧
        Text.contains after outputMark = false) →
      Term.readOne ("iife=" ++ value) = .ok (.wrapper ⟨value⟩)) := by
  have hcount : Text.occurrences outputMark value = 1 ↔ ∃ before after,
      WrapperTemplate.CutAt ⟨value⟩ before after ∧ Text.contains after outputMark = false :=
    WrapperTemplate.occurrences_eq_one_iff
  refine ⟨fun front rest terms c hfront hc => ?_, fun front rest terms hfront hvalue => ?_,
    fun hparts => ?_⟩
  · obtain ⟨hone, more, hmore, hterms⟩ := Command.exists_of_ofTokens_wrapper hfront hc
    obtain ⟨before, after, hcut, hafter⟩ := hcount.1 hone
    refine ⟨before, after, more, hcut.wraps hafter, hmore, fun hlast => ?_⟩
    have hwrapper : c.wrapper = some ⟨value⟩ := by
      rw [← hterms]
      exact Command.wrapper_ofTerms ⟨value⟩ hlast
    refine ⟨hwrapper, fun r names source hg => ?_⟩
    obtain hnone | ⟨p, hplan, hsource⟩ := Script.generate_wrapped hwrapper hg
    · exact Or.inl hnone
    · rw [hcut.render_eq] at hsource
      exact Or.inr ⟨p, hplan, hsource⟩
  · exact Command.ofTokens_wrapper_error hfront (WrapperTemplate.occurrences_ne_one hvalue)
  · rw [Term.readOne_wrapper, if_pos (hcount.2 hparts)]

/-- A command with two marks in its template that share a character. -/
def overlappingCommand : Command where
  included := some ["each"]
  exports := ["amd"]
  wrapper := some ⟨"%output%output%"⟩
  tokens := ["include=\"each\"", "iife=\"%output%output%\"", "exports=\"amd\""]

/-- The first of the two marks is that of the body; marks side by side are refused. -/
theorem overlappingCommand_renders :
    Command.ofTokens (["include=each"] ++ ("iife=" ++ "%output%output%") :: ["exports=amd"]) =
        .ok overlappingCommand ∧
      WrapperTemplate.Wraps ⟨"%output%output%"⟩ "" "output%" ∧
      (Script.generate Registry.sample overlappingCommand Registry.sampleSelection.names).outcome =
        .ok (Script.banner Registry.sample.header overlappingCommand.tokens ++ "\n"
          ++ ("" ++ "\n" ++ Script.body Registry.sample.header overlappingCommand
            Registry.samplePlan ++ "\n" ++ "output%") ++ "\n") ∧
      Command.ofTokens (["include=each"] ++ ("iife=" ++ "%output%%output%") :: []) =
        .error (.markCount 2 "iife=%output%%output%") ∧
      Term.readOne ("iife=" ++ "%output%output%") = .ok (.wrapper ⟨"%output%output%"⟩) := by
  have hcut : WrapperTemplate.CutAt ⟨"%output%output%"⟩ "" "output%" :=
    WrapperTemplate.cutAt_iff.2 (by decide)
  have hadjacent : WrapperTemplate.CutAt ⟨"%output%%output%"⟩ "" "%output%" :=
    WrapperTemplate.cutAt_iff.2 (by decide)
  have hc : Command.ofTokens
      (["include=each"] ++ ("iife=" ++ "%output%output%") :: ["exports=amd"]) =
        .ok overlappingCommand := by
    decide
  have hfront : Term.readAll ["include=each"] = .ok [.names .included "each"] := by decide
  have hrest : Term.readAll ["exports=amd"] = .ok [.exports "amd"] := by decide
  have houtcome : (Script.generate Registry.sample overlappingCommand
      Registry.sampleSelection.names).outcome =
        .ok (Script.text Registry.sample.header overlappingCommand Registry.samplePlan) :=
    Registry.outcome_samplePlan rfl
  obtain ⟨haccepted, -, hterm⟩ := wrapper_token_renders "%output%output%"
  obtain ⟨before, after, more, hwraps, hmore, hscript⟩ := haccepted _ _ _ _ hfront hc
  -- a template is cut in one way only
  obtain ⟨rfl, rfl⟩ := hwraps.cut.unique hcut
  obtain rfl : more = [.exports "amd"] := Except.ok.inj (hmore.symm.trans hrest)
  obtain ⟨-, hall⟩ := hscript (by simp)
  obtain ⟨p, hp, hsource⟩ := (hall _ _ _ houtcome).resolve_left fun h => absurd h.1 (by decide)
  obtain rfl : p = Registry.samplePlan := Except.ok.inj (hp.symm.trans Registry.planFor_sample)
  refine ⟨hc, hwraps, ?_, ?_, hterm ⟨_, _, hcut, by decide⟩⟩
  · rw [houtcome, hsource]
  · exact (wrapper_token_renders "%output%%output%").2.1 _ _ _ hfront
      (Or.inr ⟨_, _, hadjacent, by decide⟩)

end CustomBuild
