import CustomBuild.CommandLine.Program
import CustomBuild.Proofs.Build.Printing
import CustomBuild.Proofs.Command.Leftover
import CustomBuild.Proofs.Command.Rearrangement
import CustomBuild.Proofs.CommandLine.Reading

/-!
# The command line and the language of commands

Directives, flags and `--output=path` can be given to the program, which writes what it has read as
tokens again, or be read as tokens themselves.  The two agree exactly if the path can stand behind a
short output option, or the directives are no command anyway (`run_agrees`).  The program writes
every path behind `-o`, where it may neither be empty nor begin with a dash.

Options of one command can be written in several ways, and what a command is does not depend on
that (`Command.ofTerms_append_options`): it has a flag if some token spells it, wherever it stands.
-/

namespace CustomBuild

/-! ### Options among terms -/

/-- A term that is a flag or names the file to write. -/
def Term.IsOption (term : Term) : Prop :=
  term.spellings ≠ [] ∨ ∃ path, term = .output path

section Options

variable {α : Type} {terms options options' : List Term}

theorem filterMap_append_options {f : Term → Option α} (h : ∀ term ∈ options, term.IsOption)
    (hf : ∀ term, term.IsOption → f term = none) :
    (terms ++ options).filterMap f = terms.filterMap f := by
  rw [List.filterMap_append, List.filterMap_eq_nil_iff.2 fun term hterm => hf term (h term hterm),
    List.append_nil]

theorem flatMap_append_options {f : Term → List α} (h : ∀ term ∈ options, term.IsOption)
    (hf : ∀ term, term.IsOption → f term = []) :
    (terms ++ options).flatMap f = terms.flatMap f := by
  rw [List.flatMap_append, List.flatMap_eq_nil_iff.2 fun term hterm => hf term (h term hterm),
    List.append_nil]

theorem any_append_options {p : Term → Bool} (h : ∀ term ∈ options, term.IsOption)
    (hp : ∀ term, term.IsOption → p term = false) : (terms ++ options).any p = terms.any p := by
  have hnone : options.any p = false :=
    List.any_eq_false.2 fun term hterm => Bool.eq_false_iff.1 (hp term (h term hterm))
  rw [List.any_append, hnone, Bool.or_false]

/-- What is true of the flags and of paths is true of every option. -/
theorem Term.IsOption.elim {p : Term → Prop} (hflags : p .stdout ∧ p .silent ∧ p .minify ∧
    p .strictNames) (hpath : ∀ path, p (.output path)) (term : Term) (h : term.IsOption) :
    p term := by
  obtain ⟨hstdout, hsilent, hminify, hstrict⟩ := hflags
  rcases h with h | ⟨path, rfl⟩
  · cases term <;> first | assumption | exact absurd rfl h
  · exact hpath path

/-- **Options of a command.**  The command does not depend on how they are written, but on the
flags and the paths among them. -/
theorem Command.ofTerms_append_options (h : ∀ term ∈ options, term.IsOption)
    (h' : ∀ term ∈ options', term.IsOption)
    (hpaths : options.filterMap Term.path? = options'.filterMap Term.path?)
    (hflags : ∀ flag : Term, flag.spellings ≠ [] →
      options.contains flag = options'.contains flag) :
    ofTerms (terms ++ options) = ofTerms (terms ++ options') := by
  -- options are no names, keywords, formats or wrappers, and no words of the banner
  have hnames : ∀ (list : NameList) (term : Term), term.IsOption → term.namesFor list = [] :=
    fun list => Term.IsOption.elim ⟨rfl, rfl, rfl, rfl⟩ fun _ => rfl
  have hgiven : ∀ term : Term, term.IsOption → term.isFor .included = false :=
    Term.IsOption.elim ⟨rfl, rfl, rfl, rfl⟩ fun _ => rfl
  have hkeyword : ∀ term : Term, term.IsOption → term.keyword? = none :=
    Term.IsOption.elim ⟨rfl, rfl, rfl, rfl⟩ fun _ => rfl
  have hformats : ∀ term : Term, term.IsOption → term.formats? = none :=
    Term.IsOption.elim ⟨rfl, rfl, rfl, rfl⟩ fun _ => rfl
  have hwrapper : ∀ term : Term, term.IsOption → term.wrapper? = none :=
    Term.IsOption.elim ⟨rfl, rfl, rfl, rfl⟩ fun _ => rfl
  have hword : ∀ term : Term, term.IsOption → term.bannerWord? = none :=
    Term.IsOption.elim ⟨rfl, rfl, rfl, rfl⟩ fun _ => rfl
  have hcontains : ∀ flag : Term, flag.spellings ≠ [] →
      (terms ++ options).contains flag = (terms ++ options').contains flag := by
    intro flag hflag
    rw [List.contains_eq_any_beq, List.contains_eq_any_beq, List.any_append, List.any_append,
      ← List.contains_eq_any_beq, ← List.contains_eq_any_beq, ← List.contains_eq_any_beq,
      hflags flag hflag]
  unfold ofTerms exportsOf
  rw [any_append_options h hgiven, any_append_options h' hgiven]
  simp only [flatMap_append_options h (hnames _), flatMap_append_options h' (hnames _),
    filterMap_append_options h hkeyword, filterMap_append_options h' hkeyword,
    filterMap_append_options h hformats, filterMap_append_options h' hformats,
    filterMap_append_options h hwrapper, filterMap_append_options h' hwrapper,
    filterMap_append_options h hword, filterMap_append_options h' hword,
    hcontains .stdout (List.cons_ne_nil _ _), hcontains .silent (List.cons_ne_nil _ _),
    hcontains .minify (List.cons_ne_nil _ _), hcontains .strictNames (List.cons_ne_nil _ _),
    List.filterMap_append, hpaths]

end Options

/-! ### Reading parts of a command -/

namespace Term

variable {tokens rest : List String} {terms more : List Term} {path : String}

theorem readAll_cons {token : String} (h : takesPath token = false) (rest : List String) :
    readAll (token :: rest) =
      match readOne token with
      | .ok term => (readAll rest).map (term :: ·)
      | .error error => .error error := by
  have hnot : ¬ (token == "-o" || token == "--output") = true := Bool.eq_false_iff.1 h
  rw [readAll.eq_def]
  cases hone : readOne token with
  | ok term | error error => simp only [if_neg hnot, hone]

/-- **Tokens in two parts** are read one part after the other, unless the first part ends with an
output option that has no path yet. -/
theorem readAll_append (h : ∀ token ∈ tokens, takesPath token = false) (rest : List String) :
    readAll (tokens ++ rest) =
      match readAll tokens with
      | .ok terms => (readAll rest).map (terms ++ ·)
      | .error error => .error error := by
  induction tokens with
  | nil =>
    rw [List.nil_append]
    simp only [readAll]
    cases readAll rest <;> rfl
  | cons token tokens ih =>
    obtain ⟨htoken, htokens⟩ := List.forall_mem_cons.1 h
    rw [List.cons_append, readAll_cons htoken, readAll_cons htoken, ih htokens]
    cases readOne token with
    | error error => rfl
    | ok term =>
      cases readAll tokens with
      | error error => rfl
      | ok terms => cases readAll rest <;> rfl

/-- Tokens that are terms for themselves are read to these terms. -/
theorem exists_readAll {p : Term → Prop} (h : ∀ token ∈ tokens, takesPath token = false ∧
      ∃ term, readOne token = .ok term ∧ p term) :
    ∃ terms, readAll tokens = .ok terms ∧ ∀ term ∈ terms, p term := by
  induction tokens with
  | nil => exact ⟨[], rfl, by simp⟩
  | cons token tokens ih =>
    obtain ⟨⟨htoken, term, hterm, hp⟩, htokens⟩ := List.forall_mem_cons.1 h
    obtain ⟨terms, hterms, hall⟩ := ih htokens
    refine ⟨term :: terms, ?_, List.forall_mem_cons.2 ⟨hp, hall⟩⟩
    rw [readAll_cons htoken, hterm, hterms]
    rfl

end Term

namespace CommandLine

variable {ds flags tokens : List String} {path : String} {terms : List Term} {term : Term}

/-! ### Flags among tokens -/

theorem spells_iff : spells tokens term = true ↔ ∃ token ∈ tokens, token ∈ term.spellings := by
  simp [spells]

theorem spells_append (tokens rest : List String) (term : Term) :
    spells (tokens ++ rest) term = (spells tokens term || spells rest term) :=
  List.any_append

/-- A flag is among terms if it is spelled among their tokens. -/
theorem contains_eq_spells (hflag : term.spellings ≠ [])
    (hread : Term.readAll tokens = .ok terms) : terms.contains term = spells tokens term := by
  rw [Bool.eq_iff_iff, List.contains_iff_mem, Term.mem_iff_of_readAll hflag hread, spells_iff]

theorem asksForSilence_eq_spells (tokens : List String) :
    Site.asksForSilence tokens = spells tokens .silent := by
  rw [Bool.eq_iff_iff, Site.asksForSilence_iff, spells_iff]
  simp [Term.spellings, and_or_left, exists_or]

/-- Every spelling of a flag begins with a dash. -/
theorem beginsWith_of_mem_spellings {token : String} (h : token ∈ term.spellings) :
    Text.beginsWith token "-" = true :=
  Term.forall_spellings (p := fun token => Text.beginsWith token "-" = true) (by decide) h

theorem spells_of_not_beginsWith (h : ∀ token ∈ tokens, Text.beginsWith token "-" = false)
    (term : Term) : spells tokens term = false := by
  rw [← Bool.not_eq_true, spells_iff]
  rintro ⟨token, htoken, hspelled⟩
  have hdash := beginsWith_of_mem_spellings hspelled
  rw [h token htoken] at hdash
  cases hdash

theorem takesPath_of_not_beginsWith {token : String} (h : Text.beginsWith token "-" = false) :
    takesPath token = false := by
  rw [takesPath, Bool.or_eq_false_iff, beq_eq_false_iff_ne, beq_eq_false_iff_ne]
  constructor
  all_goals
    rintro rfl
    exact absurd h (by decide)

/-! ### What is written back -/

/-- The tokens that the flags of a command line are written back as. -/
def switchTokens (flags : List String) : List String :=
  (if spells flags .silent then ["-s"] else [])
  ++ (if spells flags .minify then ["-m"] else [])
  ++ (if spells flags .strictNames then ["--strict-names"] else [])

theorem mem_switches_of_mem_switchTokens {text : String} (h : text ∈ switchTokens flags) :
    text ∈ switches := by
  have heq : ∀ (b : Bool) (token : String), text ∈ (if b then [token] else []) → text = token := by
    intro b token h
    cases b with
    | false => cases h
    | true => exact List.mem_singleton.1 h
  rw [switchTokens, List.mem_append, List.mem_append] at h
  rcases h with (h | h) | h
  all_goals
    rw [heq _ _ h]
    decide

/-- **Flags that are written back** are those that were spelled. -/
theorem spells_switchTokens (hflags : ∀ text ∈ flags, text ∈ switches) (term : Term) :
    spells (switchTokens flags) term = spells flags term := by
  have hstdout : ∀ l : List String, (∀ text ∈ l, text ∈ switches) → spells l .stdout = false := by
    intro l hl
    rw [← Bool.not_eq_true, spells_iff]
    rintro ⟨text, htext, hspelled⟩
    have hall : ∀ text ∈ switches, text ∉ Term.stdout.spellings := by decide
    exact hall text (hl text htext) hspelled
  have hnone : ∀ l : List String, term.spellings = [] → spells l term = false := by
    intro l h
    simp [spells, h]
  cases term
  case stdout => rw [hstdout _ hflags, hstdout _ fun _ => mem_switches_of_mem_switchTokens]
  case silent | minify | strictNames =>
    unfold switchTokens
    cases spells flags .silent <;> cases spells flags .minify <;>
      cases spells flags .strictNames <;> rfl
  all_goals rw [hnone _ rfl, hnone _ rfl]

/-- **The tokens of a command line.**  The path is written behind `-o`, and left out if it is empty;
two dashes never get that far. -/
theorem tokens_after (ds flags : List String) (path : String) :
    (({ directives := ds } : Settled).after flags path).tokens =
      ds ++ ((if path = "" ∨ path = "--" then [] else ["-o", path]) ++ switchTokens flags) := by
  by_cases hmark : path = "--"
  · simp [Settled.tokens, Settled.after, pathOf, switchTokens, hmark]
  · by_cases hempty : path = ""
    · simp [Settled.tokens, Settled.after, pathOf, switchTokens, hempty]
    · simp [Settled.tokens, Settled.after, pathOf, switchTokens, hmark, hempty]

/-- What can stand behind `-o` is neither empty nor two dashes. -/
theorem ne_of_isPath (h : Term.isPath path = true) : ¬ (path = "" ∨ path = "--") := by
  rintro (rfl | rfl)
  · exact absurd h (by decide)
  · exact absurd h (by decide)

/-! ### Reading both -/

/-- What terms amount to as options: the paths that they give, and the flags that texts spell. -/
structure Amounts (options : List Term) (paths flags : List String) : Prop where
  /-- they are options -/
  isOption : ∀ term ∈ options, term.IsOption
  /-- these are their paths -/
  paths : options.filterMap Term.path? = paths
  /-- their flags are spelled by the texts -/
  flags : ∀ flag : Term, flag.spellings ≠ [] → options.contains flag = spells flags flag

/-- **Options that amount to the same** make the same command. -/
theorem Amounts.ofTerms_eq {options options' : List Term} {paths : List String}
    (h : Amounts options paths flags) (h' : Amounts options' paths flags) (terms : List Term) :
    Command.ofTerms (terms ++ options) = Command.ofTerms (terms ++ options') :=
  Command.ofTerms_append_options h.isOption h'.isOption (h.paths.trans h'.paths.symm)
    fun flag hflag => (h.flags flag hflag).trans (h'.flags flag hflag).symm

theorem Amounts.cons_output {options : List Term} (h : Amounts options [] flags) (path : String) :
    Amounts (.output path :: options) [path] flags where
  isOption := List.forall_mem_cons.2 ⟨Or.inr ⟨path, rfl⟩, h.isOption⟩
  paths := by
    have hpath : (Term.output path).path? = some path := rfl
    rw [List.filterMap_cons_some hpath, h.paths]
  flags := by
    intro flag hflag
    rw [← h.flags flag hflag, List.contains_cons, beq_false_of_ne, Bool.false_or]
    rintro rfl
    exact hflag rfl

theorem Amounts.append_output {options : List Term} (h : Amounts options [] flags)
    (path : String) : Amounts (options ++ [.output path]) [path] flags where
  isOption := by
    intro term hterm
    rcases List.mem_append.1 hterm with hterm | hterm
    · exact h.isOption term hterm
    · exact Or.inr ⟨path, List.mem_singleton.1 hterm⟩
  paths := by rw [List.filterMap_append, h.paths]; rfl
  flags := by
    intro flag hflag
    rw [← h.flags flag hflag, Bool.eq_iff_iff, List.contains_iff_mem, List.contains_iff_mem,
      List.mem_append, or_iff_left]
    rw [List.mem_singleton]
    rintro rfl
    exact hflag rfl

/-- **Switches** are read to the flags that they spell. -/
theorem exists_amounts (h : ∀ text ∈ flags, text ∈ switches) :
    ∃ options, Term.readAll flags = .ok options ∧ Amounts options [] flags := by
  obtain ⟨options, hread, hall⟩ : ∃ terms, Term.readAll flags = .ok terms ∧
      ∀ term ∈ terms, term.spellings ≠ [] := by
    refine Term.exists_readAll fun text htext => ?_
    have hcases : text = "-s" ∨ text = "--silent" ∨ text = "-m" ∨ text = "--minify" ∨
        text = "--strict-names" := by simpa [switches, Term.spellings] using h text htext
    rcases hcases with rfl | rfl | rfl | rfl | rfl
    all_goals exact ⟨by decide, _, rfl, List.cons_ne_nil _ _⟩
  refine ⟨options, hread, fun term hterm => Or.inl (hall term hterm), ?_,
    fun flag hflag => contains_eq_spells hflag hread⟩
  rw [List.filterMap_eq_nil_iff]
  intro term hterm
  have hflag := hall term hterm
  cases term <;> first | rfl | exact absurd rfl hflag

/-- Directives give no path. -/
theorem path?_of_readAll (hds : ∀ d ∈ ds, Text.beginsWith d "-" = false)
    (hread : Term.readAll ds = .ok terms) : terms.filterMap Term.path? = [] := by
  induction ds generalizing terms with
  | nil =>
    cases hread
    rfl
  | cons d rest ih =>
    obtain ⟨hd, hrest⟩ := List.forall_mem_cons.1 hds
    rw [Term.readAll_cons (takesPath_of_not_beginsWith hd)] at hread
    cases hone : Term.readOne d with
    | error error =>
      rw [hone] at hread
      cases hread
    | ok term =>
      rw [hone] at hread
      obtain ⟨more, hmore, rfl⟩ := exists_of_map_eq_ok hread
      have hpath : term.path? = none := by
        cases term with
        | output path =>
          have hbegins : Text.beginsWith d "-" = true :=
            Text.beginsWith_of_beginsWith (Term.readOne_eq_output_iff.1 hone).1 (by decide)
          rw [hd] at hbegins
          cases hbegins
        | _ => rfl
      rw [List.filterMap_cons_none hpath, ih hrest hmore]

/-- The texts of a command line: directives, flags, and an output option. -/
def written (ds flags : List String) (path : String) : List String :=
  ds ++ flags ++ ["--output=" ++ path]

/-- The tokens that the program makes of them. -/
def rewritten (ds flags : List String) (path : String) : List String :=
  ds ++ ((if path = "" ∨ path = "--" then [] else ["-o", path]) ++ switchTokens flags)

/-- Directives with options behind them. -/
theorem ofTokens_append {rest : List String} {options : List Term}
    (hread : Term.readAll ds = .ok terms) (hrest : Term.readAll rest = .ok options) :
    Command.ofTokens (ds ++ rest) = .ok (Command.ofTerms (terms ++ options)) := by
  rw [Command.ofTokens, Term.readAll_append_of_ok hread, hrest]
  rfl

section Written

variable (hds : ∀ d ∈ ds, Text.beginsWith d "-" = false)
  (hflags : ∀ text ∈ flags, text ∈ switches)

include hflags

/-- **The texts as tokens** are a command with the path, if there is one. -/
theorem ofTokens_written (hread : Term.readAll ds = .ok terms) (path : String) :
    (path = "" ∧ Command.ofTokens (written ds flags path) = .error (.missingPath "--output=")) ∨
      path ≠ "" ∧ ∃ options, Amounts options [path] flags ∧
        Command.ofTokens (written ds flags path) = .ok (Command.ofTerms (terms ++ options)) := by
  obtain ⟨options, hoptions, hamounts⟩ := exists_amounts hflags
  by_cases hpath : path = ""
  · subst hpath
    refine Or.inl ⟨rfl, ?_⟩
    have hlast : Term.readAll ["--output=" ++ ""] = .error (.missingPath "--output=") := by decide
    rw [Command.ofTokens, written, List.append_assoc, Term.readAll_append_of_ok hread,
      Term.readAll_append_of_ok hoptions, hlast]
    rfl
  · refine Or.inr ⟨hpath, options ++ [.output path], hamounts.append_output path, ?_⟩
    have hlast : Term.readAll ["--output=" ++ path] = .ok [.output path] :=
      Term.readAll_eq_ok_iff.2 (.cons (.pathWithin hpath) .nil)
    rw [Command.ofTokens, written, List.append_assoc, Term.readAll_append_of_ok hread,
      Term.readAll_append_of_ok hoptions, hlast]
    rfl

/-- **The tokens of the program** are a command with the path, if it can stand behind `-o`; without
any path if it is empty or two dashes; and no command otherwise. -/
theorem ofTokens_rewritten (hread : Term.readAll ds = .ok terms) (path : String) :
    (Term.isPath path = true ∧ ∃ options, Amounts options [path] flags ∧
        Command.ofTokens (rewritten ds flags path) = .ok (Command.ofTerms (terms ++ options))) ∨
      ((path = "" ∨ path = "--") ∧ ∃ options, Amounts options [] flags ∧
        Command.ofTokens (rewritten ds flags path) = .ok (Command.ofTerms (terms ++ options))) ∨
      Term.isPath path = false ∧ path ≠ "" ∧
        Command.ofTokens (rewritten ds flags path) = .error (.missingPath "-o") := by
  -- the flags are read alike, whatever becomes of the path
  obtain ⟨options, hoptions, hamounts⟩ : ∃ options,
      Term.readAll (switchTokens flags) = .ok options ∧ Amounts options [] flags := by
    have hback : ∀ text ∈ switchTokens flags, text ∈ switches :=
      fun _ => mem_switches_of_mem_switchTokens
    obtain ⟨options, hoptions, hamounts⟩ := exists_amounts hback
    refine ⟨options, hoptions, hamounts.isOption, hamounts.paths, fun flag hflag => ?_⟩
    rw [hamounts.flags flag hflag, spells_switchTokens hflags]
  unfold rewritten
  by_cases hnone : path = "" ∨ path = "--"
  · rw [if_pos hnone]
    exact Or.inr (Or.inl ⟨hnone, options, hamounts, ofTokens_append hread hoptions⟩)
  rw [if_neg hnone]
  have hread' : Term.readAll (["-o", path] ++ switchTokens flags) =
      if Term.isPath path then (Term.readAll (switchTokens flags)).map (.output path :: ·)
      else .error (.missingPath "-o") := by
    rw [List.cons_append, List.cons_append, List.nil_append, Term.readAll, if_pos (by decide)]
  cases hpath : Term.isPath path with
  | true =>
    rw [hpath, if_pos rfl, hoptions] at hread'
    exact Or.inl ⟨rfl, _, hamounts.cons_output path, ofTokens_append hread hread'⟩
  | false =>
    rw [hpath, if_neg Bool.false_ne_true] at hread'
    refine Or.inr (Or.inr ⟨rfl, fun h => hnone (Or.inl h), ?_⟩)
    rw [Command.ofTokens, Term.readAll_append_of_ok hread, hread']
    rfl

include hds

omit hflags in
/-- Directives that are no command fail in the same way, whatever follows them. -/
theorem ofTokens_append_of_error {error : CommandError} (hread : Term.readAll ds = .error error)
    (rest : List String) : Command.ofTokens (ds ++ rest) = .error error := by
  rw [Command.ofTokens, Term.readAll_append fun d hd => takesPath_of_not_beginsWith (hds d hd),
    hread]
  rfl

/-- **With a path that can stand behind `-o`** both are read alike, and also if the directives are
no command. -/
theorem ofTokens_rewritten_eq
    (h : Term.isPath path = true ∨ ∃ error, Term.readAll ds = .error error) :
    Command.ofTokens (rewritten ds flags path) = Command.ofTokens (written ds flags path) := by
  cases hread : Term.readAll ds with
  | error error =>
    -- the first error is in the directives
    rw [rewritten, written, List.append_assoc, ofTokens_append_of_error hds hread,
      ofTokens_append_of_error hds hread]
  | ok terms =>
    have hpath : Term.isPath path = true := by
      refine h.resolve_right ?_
      rintro ⟨error, herror⟩
      rw [hread] at herror
      cases herror
    rcases ofTokens_written hflags hread path with ⟨rfl, -⟩ | ⟨-, options, hamounts, hwritten⟩
    · exact absurd hpath (by decide)
    rcases ofTokens_rewritten hflags hread path with
      ⟨-, options', hamounts', hrewritten⟩ | ⟨rfl | rfl, -⟩ | ⟨hfalse, -⟩
    · rw [hrewritten, hwritten, hamounts'.ofTerms_eq hamounts]
    · exact absurd hpath (by decide)
    · exact absurd hpath (by decide)
    · rw [hpath] at hfalse
      cases hfalse

/-- Both ask for silence, or neither does. -/
theorem asksForSilence_rewritten (hpath : Term.isPath path = true) :
    Site.asksForSilence (rewritten ds flags path) =
      Site.asksForSilence (written ds flags path) := by
  have hdash : Text.beginsWith path "-" = false := by
    rw [Term.isPath, Bool.and_eq_true, Bool.not_eq_true'] at hpath
    simpa using hpath.2
  have hnone := ne_of_isPath hpath
  have hdirectives := spells_of_not_beginsWith hds .silent
  -- an output option of one token has an equals sign, and no spelling of a flag has one
  have hwritten : spells ["--output=" ++ path] .silent = false := by
    rw [← Bool.not_eq_true, spells_iff]
    rintro ⟨token, htoken, hspelled⟩
    rw [List.mem_singleton] at htoken
    subst htoken
    have hall : ∀ text ∈ Term.silent.spellings, '=' ∉ text.toList := by decide
    exact output_ne (hall _ hspelled) path rfl
  have hrewritten : spells ["-o", path] .silent = false := by
    have hpath := spells_of_not_beginsWith (List.forall_mem_singleton.2 hdash) .silent
    have hoption : spells ["-o"] .silent = false := by decide
    rw [← List.singleton_append, spells_append, hoption, hpath, Bool.or_self]
  rw [asksForSilence_eq_spells, asksForSilence_eq_spells, rewritten, written, if_neg hnone,
    spells_append, spells_append, spells_append, spells_append, spells_switchTokens hflags,
    hdirectives, hwritten, hrewritten, Bool.false_or, Bool.false_or, Bool.or_false]

/-- **Where a path cannot stand behind `-o`**, both read different commands, or only one of them
reads a command. -/
theorem exists_disagreement (hread : Term.readAll ds = .ok terms)
    (hpath : Term.isPath path = false) :
    ¬ ∀ c, Command.ofTokens (rewritten ds flags path) = .ok c ↔
      Command.ofTokens (written ds flags path) = .ok c := by
  intro hagree
  rcases ofTokens_written hflags hread path with
    ⟨rfl, hwritten⟩ | ⟨hne, options, hamounts, hwritten⟩
  · -- the empty path is refused by one and dropped by the other
    rcases ofTokens_rewritten hflags hread "" with
      ⟨hpath, -⟩ | ⟨-, options, -, hrewritten⟩ | ⟨-, hne, -⟩
    · exact absurd hpath (by decide)
    · have hboth := (hagree _).1 hrewritten
      rw [hwritten] at hboth
      cases hboth
    · exact hne rfl
  · have hboth := (hagree _).2 hwritten
    rcases ofTokens_rewritten hflags hread path with
      ⟨htrue, -⟩ | ⟨-, options', hamounts', hrewritten⟩ | ⟨-, -, hrewritten⟩
    · rw [hpath] at htrue
      cases htrue
    · -- the directives give no path, so only one of the commands has any
      rw [hrewritten, Except.ok.injEq] at hboth
      have houtput := congrArg Command.outputPath hboth
      simp only [Command.ofTerms, List.filterMap_append, path?_of_readAll hds hread,
        hamounts.paths, hamounts'.paths] at houtput
      cases houtput
    · rw [hrewritten] at hboth
      cases hboth

end Written

/-! ### Agreement -/

/-- Tokens that are read to one command make one build, as long as they ask for silence alike. -/
theorem build_congr (site : Site) {tokens tokens' : List String}
    (hcommand : Command.ofTokens tokens = Command.ofTokens tokens')
    (hsilence : Site.asksForSilence tokens = Site.asksForSilence tokens') :
    site.build tokens = site.build tokens' := by
  unfold Site.build Site.draft Site.readCommand Site.refuse
  rw [hcommand, hsilence]

/-- **The program and the language of commands agree** on directives, flags and a path exactly if
the path is neither empty nor begins with a dash, or the directives are no command.  With such a
path the program runs the build of the tokens as they are given. -/
theorem run_agrees {ds flags : List String}
    (hds : ∀ d ∈ ds, Text.beginsWith d "-" = false)
    (hflags : ∀ text ∈ flags, text ∈ ["-s", "--silent", "-m", "--minify", "--strict-names"])
    (path : String) :
    ∃ settled, read (ds ++ flags ++ ["--output=" ++ path]) = .ok settled ∧
      settled.directives = ds ∧ settled.output = pathOf path ∧
      ((∀ c, Command.ofTokens settled.tokens = .ok c ↔
          Command.ofTokens (ds ++ flags ++ ["--output=" ++ path]) = .ok c) ↔
        (path ≠ "" ∧ Text.beginsWith path "-" = false) ∨
          ∃ error, Command.ofTokens ds = .error error) ∧
      (path ≠ "" ∧ Text.beginsWith path "-" = false →
        Command.ofTokens settled.tokens =
            Command.ofTokens (ds ++ flags ++ ["--output=" ++ path]) ∧
          ∀ site : Site, run site (ds ++ flags ++ ["--output=" ++ path]) =
            endingOf site.stream (site.build (ds ++ flags ++ ["--output=" ++ path]))) := by
  have hisPath : Term.isPath path = true ↔ path ≠ "" ∧ Text.beginsWith path "-" = false := by
    simp [Term.isPath]
  have hrefused : (∃ error, Command.ofTokens ds = .error error) ↔
      ∃ error, Term.readAll ds = .error error := by
    rw [Command.ofTokens]
    cases Term.readAll ds <;> simp [Except.map]
  have hsettled : (({ directives := ds } : Settled).after flags path).tokens =
      rewritten ds flags path := tokens_after ds flags path
  refine ⟨_, read_written hds hflags path, rfl, rfl, ?_, ?_⟩
  · rw [hsettled, ← hisPath, hrefused, ← written]
    constructor
    · intro hagree
      -- directives that are a command, with another path, are a command in one of the two ways only
      cases hread : Term.readAll ds with
      | error error => exact Or.inr ⟨error, rfl⟩
      | ok terms =>
        refine Or.inl (by_contra fun hpath => ?_)
        exact exists_disagreement hds hflags hread (Bool.eq_false_iff.2 hpath) hagree
    · intro h c
      rw [ofTokens_rewritten_eq hds hflags h]
  · intro hpath
    rw [← hisPath] at hpath
    have hequal := ofTokens_rewritten_eq hds hflags (Or.inl hpath)
    rw [hsettled]
    refine ⟨hequal, fun site => ?_⟩
    rw [run, read_written hds hflags path]
    simp only
    rw [hsettled, build_congr site hequal (asksForSilence_rewritten hds hflags hpath), written]

/-- A usual command line is read alike. -/
theorem run_agrees_usual :
    (∀ d ∈ ["include=each", "strict"], Text.beginsWith d "-" = false) ∧
      (∀ text ∈ ["-m", "--silent"],
        text ∈ ["-s", "--silent", "-m", "--minify", "--strict-names"]) ∧
      ("out.js" ≠ "" ∧ Text.beginsWith "out.js" "-" = false) ∧
      ∃ settled,
        read (["include=each", "strict"] ++ ["-m", "--silent"] ++ ["--output=" ++ "out.js"]) =
          .ok settled ∧
        Command.ofTokens settled.tokens = Command.ofTokens
          (["include=each", "strict"] ++ ["-m", "--silent"] ++ ["--output=" ++ "out.js"]) := by
  have hds : ∀ d ∈ ["include=each", "strict"], Text.beginsWith d "-" = false := by decide
  have hflags : ∀ text ∈ ["-m", "--silent"],
      text ∈ ["-s", "--silent", "-m", "--minify", "--strict-names"] := by decide
  have hpath : "out.js" ≠ "" ∧ Text.beginsWith "out.js" "-" = false := by decide
  obtain ⟨settled, hread, -, -, -, hequal⟩ := run_agrees hds hflags "out.js"
  exact ⟨hds, hflags, hpath, settled, hread, (hequal hpath).1⟩

/-- **A path that begins with a dash** can be written behind an equals sign, but the program refuses
it; and the empty path, which no command can have, it takes for none. -/
theorem run_disagrees :
    read ["include=", "--output=-x.js"] =
        .ok { directives := ["include="], output := some "-x.js" } ∧
      Command.ofTokens ({ directives := ["include="], output := some "-x.js" } : Settled).tokens =
        .error (.missingPath "-o") ∧
      Command.ofTokens ["include=", "--output=-x.js"] =
        .ok { included := some [], outputPath := some "-x.js", tokens := ["include=\"\""] } ∧
      read ["include=", "--output="] = .ok { directives := ["include="], output := some "" } ∧
      Command.ofTokens ({ directives := ["include="], output := some "" } : Settled).tokens =
        .ok { included := some [], tokens := ["include=\"\""] } ∧
      Command.ofTokens ["include=", "--output="] = .error (.missingPath "--output=") := by
  decide +kernel

end CommandLine

end CustomBuild
