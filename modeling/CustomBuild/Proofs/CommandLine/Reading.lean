import CustomBuild.CommandLine.Options
import CustomBuild.Proofs.Command.Grammar

/-!
# Reading directives and options

A command line of directives, flags and an output option at the end is read to exactly these
(`read_written`).  The first pass sets the directives aside and acts on one option after the other
(`run_switches`), and the second pass takes what was set aside.
-/

namespace CustomBuild.CommandLine

variable {text spelling path : String} {texts ds flags : List String} {flag : Flag}
  {value : Option String} {p p' : Pass} {steps : ℕ} {takesDirectives : Bool}

/-! ### Arguments -/

/-- What does not begin with a dash is a directive. -/
theorem classify_of_not_beginsWith (h : Text.beginsWith text "-" = false) :
    classify text = .ok .plain := by
  have hmark : ¬ (text == "--") = true := by
    rw [beq_iff_eq]
    rintro rfl
    exact absurd h (by decide)
  rw [classify, if_neg hmark, if_pos (by rw [h]; rfl)]

/-- No option is spelled with an equals sign. -/
theorem ofSpelling?_eq_none (h : '=' ∈ text.toList) : Flag.ofSpelling? text = none := by
  have hspellings : ∀ row ∈ Flag.spellings, '=' ∉ row.1.toList := by decide
  rw [Flag.ofSpelling?, List.lookup_eq_none_iff]
  intro row hrow
  rw [bne_iff_ne]
  rintro rfl
  exact hspellings row hrow h

/-- An output option with its path in it is no text without an equals sign. -/
theorem output_ne {other : String} (h : '=' ∉ other.toList) (path : String) :
    "--output=" ++ path ≠ other := by
  rintro rfl
  rw [String.toList_append] at h
  exact h (List.mem_append_left _ (by decide))

/-- **The output option** takes all that follows the equals sign for its value. -/
theorem classify_output (path : String) :
    classify ("--output=" ++ path) = .ok (.option "--output" .output (some path)) := by
  have hequals : '=' ∈ ("--output=" ++ path).toList := by
    rw [String.toList_append]
    exact List.mem_append_left _ (by decide)
  have hdash : Text.beginsWith ("--output=" ++ path) "-" = true :=
    Text.beginsWith_of_beginsWith (Text.beginsWith_append _ path) (by decide)
  have hmark : ("--output=" ++ path == "--") = false :=
    beq_false_of_ne (output_ne (by decide) path)
  have hsingle : ("--output=" ++ path == "-") = false :=
    beq_false_of_ne (output_ne (by decide) path)
  rw [classify, hmark, hdash, ofSpelling?_eq_none hequals, hsingle, Term.cut_output]
  rfl

/-- **Arguments before an end mark** are classified one by one. -/
theorem classifyAll_map_fst {arguments : List (String × Argument)}
    (h : ∀ a ∈ arguments, classify a.1 = .ok a.2 ∧ a.2 ≠ .endMark) :
    classifyAll (arguments.map Prod.fst) = .ok arguments := by
  induction arguments with
  | nil => rfl
  | cons a rest ih =>
    obtain ⟨ha, hrest⟩ := List.forall_mem_cons.1 h
    rw [List.map_cons, classifyAll, ha.1, ih hrest]
    simp only [bind, Except.bind, if_neg ha.2]
    rfl

/-! ### Steps of a pass -/

/-- At the end of its arguments the first pass keeps what it has. -/
theorem run_nil (steps : ℕ) (p : Pass) :
    ∃ p', Pass.run false steps p [] = .ok p' ∧ p'.settled = p.settled ∧ p'.left = p.left := by
  cases steps with
  | zero => exact ⟨_, rfl, rfl, List.append_nil _⟩
  | succ steps =>
    rw [Pass.run, List.any_nil, if_neg Bool.false_ne_true]
    simp only [Pass.takeRun, Bool.false_eq_true, if_false]
    split_ifs <;> exact ⟨_, rfl, rfl, List.append_nil _⟩

/-- **An option at the front** is acted on at once if its value is not the next argument. -/
theorem run_cons_option {use : Use} {rest : List (String × Argument)}
    (huses : usesOf spelling flag value = .ok { uses := [use] }) (hact : p.act use = .ok p') :
    Pass.run takesDirectives (steps + 1) p ((text, .option spelling flag value) :: rest) =
      Pass.run takesDirectives steps p' rest := by
  have htake : p.takeOption ((text, .option spelling flag value) :: rest) = .ok (p', rest) := by
    simp only [Pass.takeOption, huses]
    simp [hact, Except.map]
  rw [Pass.run, List.any_cons]
  simp [Argument.isOption, htake]

/-! ### Flags and the path -/

/-- The texts that ask for silence, for reduction, or for strict names. -/
def switches : List String :=
  Term.silent.spellings ++ Term.minify.spellings ++ Term.strictNames.spellings

/-- A switch as an argument. -/
def switchArgument (text : String) : String × Argument :=
  (text, .option text ((Flag.ofSpelling? text).getD .help) none)

/-- The output option as an argument. -/
def outputArgument (path : String) : String × Argument :=
  ("--output=" ++ path, .option "--output" .output (some path))

/-- Whether one of the texts spells the flag. -/
def spells (flags : List String) (term : Term) : Bool :=
  flags.any fun text => term.spellings.contains text

/-- What is settled by flags and the path of an output option. -/
def Settled.after (s : Settled) (flags : List String) (path : String) : Settled :=
  { s with output := pathOf path,
           silent := s.silent || spells flags .silent,
           minify := s.minify || spells flags .minify,
           strictNames := s.strictNames || spells flags .strictNames }

theorem classify_switch (h : text ∈ switches) : classify text = .ok (switchArgument text).2 := by
  have hall : ∀ text ∈ switches, classify text = .ok (switchArgument text).2 := by decide
  exact hall text h

/-- **A switch** settles what it stands for, and nothing else. -/
theorem run_cons_switch {rest : List (String × Argument)} (h : text ∈ switches) :
    ∃ p', Pass.run takesDirectives (steps + 1) p (switchArgument text :: rest) =
        Pass.run takesDirectives steps p' rest ∧
      p'.left = p.left ∧ (p'.seen.contains .stdout = p.seen.contains .stdout) ∧
      ∀ flags path, p'.settled.after flags path = p.settled.after (text :: flags) path := by
  have hcases : text = "-s" ∨ text = "--silent" ∨ text = "-m" ∨ text = "--minify" ∨
      text = "--strict-names" := by simpa [switches, Term.spellings] using h
  rcases hcases with rfl | rfl | rfl | rfl | rfl
  all_goals
    refine ⟨_, run_cons_option rfl rfl, rfl, rfl, fun flags path => ?_⟩
    simp [Settled.after, spells, Term.spellings]

/-- **The options of the first pass**: what they settle is what they stand for. -/
theorem run_switches (hflags : ∀ text ∈ flags, text ∈ switches)
    (hseen : p.seen.contains .stdout = false) (path : String)
    (hsteps : flags.length < steps) :
    ∃ p', Pass.run false steps p (flags.map switchArgument ++ [outputArgument path]) = .ok p' ∧
      p'.settled = p.settled.after flags path ∧ p'.left = p.left := by
  induction flags generalizing p steps with
  | nil =>
    obtain ⟨steps, rfl⟩ := Nat.exists_eq_succ_of_ne_zero (Nat.ne_of_gt hsteps)
    have hact : p.act { flag := .output, value := path } =
        .ok { p with seen := .output :: p.seen,
                     settled := { p.settled with output := pathOf path } } := by
      simp only [Pass.act, Flag.conflicts, List.find?_cons, hseen, List.find?_nil]
    rw [List.map_nil, List.nil_append, outputArgument, run_cons_option rfl hact]
    obtain ⟨p', hrun, hsettled, hleft⟩ := run_nil steps
      { p with seen := .output :: p.seen, settled := { p.settled with output := pathOf path } }
    refine ⟨p', hrun, ?_, hleft⟩
    rw [hsettled]
    simp [Settled.after, spells]
  | cons text rest ih =>
    obtain ⟨steps, rfl⟩ := Nat.exists_eq_succ_of_ne_zero (Nat.ne_zero_of_lt hsteps)
    obtain ⟨htext, hrest⟩ := List.forall_mem_cons.1 hflags
    rw [List.map_cons, List.cons_append]
    obtain ⟨q, hstep, hleft, hq, hafter⟩ := run_cons_switch htext
    obtain ⟨p', hrun, hsettled, hleft'⟩ := ih hrest (hq.trans hseen) (Nat.lt_of_succ_lt_succ hsteps)
    exact ⟨p', hstep.trans hrun, hsettled.trans (hafter rest path), hleft'.trans hleft⟩

/-! ### Directives -/

/-- Directives as arguments. -/
def plainArguments (ds : List String) : List (String × Argument) :=
  ds.map fun text => (text, .plain)

theorem map_fst_plainArguments (ds : List String) : (plainArguments ds).map Prod.fst = ds := by
  rw [plainArguments, List.map_map]
  exact List.map_id' ds

theorem takeWhile_plainArguments (ds : List String) (rest : List (String × Argument)) :
    (plainArguments ds ++ rest).takeWhile (fun a => !a.2.isOption) =
      plainArguments ds ++ rest.takeWhile fun a => !a.2.isOption := by
  refine List.takeWhile_append_of_pos fun a ha => ?_
  obtain ⟨text, -, rfl⟩ := List.mem_map.1 ha
  rfl

/-- **The first pass sets directives aside** that stand before an option. -/
theorem run_plainArguments {d : String} {rest : List (String × Argument)}
    {option : String × Argument} (hoption : option.2.isOption = true) (hopen : p.isOpen = true) :
    Pass.run false (steps + 1) p (plainArguments (d :: ds) ++ option :: rest) =
      Pass.run false steps { p with isOpen := false, left := p.left ++ d :: ds }
        (option :: rest) := by
  have hany : (plainArguments (d :: ds) ++ option :: rest).any (fun a => a.2.isOption) = true := by
    simp [hoption]
  have htake : (plainArguments (d :: ds) ++ option :: rest).takeWhile (fun a => !a.2.isOption) =
      plainArguments (d :: ds) := by
    rw [takeWhile_plainArguments, List.takeWhile_cons_of_neg (by simp [hoption]), List.append_nil]
  have hleave : Pass.leaveRun { p with isOpen := false }
        (plainArguments (d :: ds) ++ option :: rest) =
      ({ p with isOpen := false, left := p.left ++ d :: ds }, option :: rest) := by
    rw [Pass.leaveRun, htake, map_fst_plainArguments, List.drop_left]
  have htakeRun : Pass.takeRun p false (plainArguments (d :: ds) ++ option :: rest) =
      ({ p with isOpen := false }, plainArguments (d :: ds) ++ option :: rest) := by
    simp only [Pass.takeRun, hopen]
    rfl
  rw [Pass.run.eq_def]
  simp only [hany, if_true, htakeRun, hleave]
  rfl

/-- **The second pass takes directives** where it finds nothing else. -/
theorem pass_plain (s : Settled) (hds : ∀ d ∈ ds, Text.beginsWith d "-" = false) :
    ∃ p', pass true s ds = .ok p' ∧ p'.settled = { s with directives := ds } ∧ p'.left = [] := by
  have hclassify : classifyAll ds = .ok (plainArguments ds) := by
    have hall : ∀ a ∈ plainArguments ds, classify a.1 = .ok a.2 ∧ a.2 ≠ .endMark := by
      intro a ha
      obtain ⟨d, hd, rfl⟩ := List.mem_map.1 ha
      exact ⟨classify_of_not_beginsWith (hds d hd), nofun⟩
    rw [← classifyAll_map_fst hall, map_fst_plainArguments]
  have hany : (plainArguments ds).any (fun a => a.2.isOption) = false := by
    simp [plainArguments, Argument.isOption]
  have htake : (plainArguments ds).takeWhile (fun a => !a.2.isOption) = plainArguments ds := by
    have h := takeWhile_plainArguments ds []
    rwa [List.append_nil, List.takeWhile_nil, List.append_nil] at h
  -- the mark of the end of options is the only argument that is dropped
  have hmark : "--" ∉ ds := fun hmem => absurd (hds "--" hmem) (by decide)
  have hdirectives : directivesOf (plainArguments ds) = ds := by
    rw [directivesOf, map_fst_plainArguments, List.erase_of_not_mem hmark]
  rw [pass, hclassify]
  simp only [Pass.run, hany, Bool.false_eq_true, if_false, Pass.takeRun, htake, Bool.not_true,
    if_true, hdirectives, List.drop_length, List.map_nil, List.append_nil]
  exact ⟨_, rfl, rfl, rfl⟩

/-! ### Whole command lines -/

/-- Directives, switches and an output option are what they are meant to be. -/
theorem classifyAll_written (hds : ∀ d ∈ ds, Text.beginsWith d "-" = false)
    (hflags : ∀ text ∈ flags, text ∈ switches) (path : String) :
    classifyAll (ds ++ flags ++ ["--output=" ++ path]) =
      .ok (plainArguments ds ++ (flags.map switchArgument ++ [outputArgument path])) := by
  have htexts : ds ++ flags ++ ["--output=" ++ path] =
      (plainArguments ds ++ (flags.map switchArgument ++ [outputArgument path])).map Prod.fst := by
    have hswitches : (flags.map switchArgument).map Prod.fst = flags := by
      rw [List.map_map]
      exact List.map_id' flags
    rw [List.map_append, List.map_append, map_fst_plainArguments, hswitches, List.append_assoc]
    rfl
  rw [htexts, classifyAll_map_fst]
  intro a ha
  rw [List.mem_append, List.mem_append, List.mem_singleton] at ha
  rcases ha with ha | ha | rfl
  · obtain ⟨d, hd, rfl⟩ := List.mem_map.1 ha
    exact ⟨classify_of_not_beginsWith (hds d hd), nofun⟩
  · obtain ⟨text, htext, rfl⟩ := List.mem_map.1 ha
    exact ⟨classify_switch (hflags text htext), nofun⟩
  · exact ⟨classify_output path, nofun⟩

/-- The first pass leaves the directives and settles the rest. -/
theorem pass_written (hds : ∀ d ∈ ds, Text.beginsWith d "-" = false)
    (hflags : ∀ text ∈ flags, text ∈ switches) (path : String) :
    ∃ p', pass false {} (ds ++ flags ++ ["--output=" ++ path]) = .ok p' ∧
      p'.settled = ({} : Settled).after flags path ∧ p'.left = ds := by
  have hlength : flags.length <
      (plainArguments ds ++ (flags.map switchArgument ++ [outputArgument path])).length := by
    simp only [List.length_append, List.length_map, List.length_singleton]
    omega
  rw [pass, classifyAll_written hds hflags path]
  simp only
  cases ds with
  | nil => exact run_switches hflags rfl path (Nat.lt_succ_of_lt hlength)
  | cons d rest =>
    obtain ⟨option, more, hoptions, hoption⟩ : ∃ option more,
        flags.map switchArgument ++ [outputArgument path] = option :: more ∧
          option.2.isOption = true := by
      cases flags with
      | nil => exact ⟨_, _, rfl, rfl⟩
      | cons text flags => exact ⟨_, _, rfl, rfl⟩
    rw [hoptions, run_plainArguments hoption rfl, ← hoptions]
    exact run_switches hflags rfl path hlength

/-- **Reading directives, switches and an output option**, in this order: the first pass settles the
options, and the second one takes the directives that are left. -/
theorem read_written (hds : ∀ d ∈ ds, Text.beginsWith d "-" = false)
    (hflags : ∀ text ∈ flags, text ∈ switches) (path : String) :
    read (ds ++ flags ++ ["--output=" ++ path]) =
      .ok (({ directives := ds } : Settled).after flags path) := by
  obtain ⟨first, hfirst, hsettled, hleft⟩ := pass_written hds hflags path
  obtain ⟨second, hsecond, hsettled', hleft'⟩ := pass_plain first.settled hds
  rw [read, hfirst]
  simp only [bind, Except.bind]
  rw [hleft, hsecond]
  simp only [hleft', List.isEmpty_nil, if_true, hsettled', hsettled]
  rfl

end CustomBuild.CommandLine
