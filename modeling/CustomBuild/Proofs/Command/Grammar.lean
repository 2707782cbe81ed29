import CustomBuild.Command.Grammar
import CustomBuild.Proofs.Command.Template
import CustomBuild.Proofs.Steps

/-!
# The grammar of commands

A command is written in groups of words, each of which stands for a term (`Writes`, `Spells`): an
output option with a path behind it is a group of two words, every other group is one word.  Reading
tests words in a fixed order, with many beginnings in common, but this is all it amounts to.  Words
are read to the terms that they spell (`readAll_eq_ok_iff`), and if they spell none, the error has
the first word that begins no group where one should begin (`readAll_eq_error_iff`).
-/

namespace CustomBuild

namespace Term

variable {word token : String} {group words rest : List String} {term : Term} {terms : List Term}

/-! ### Spellings -/

/-- The tokens that spell a flag; a term of another kind is no flag. -/
def spellings : Term → List String
  | .stdout => ["-c", "--stdout"]
  | .silent => ["-s", "--silent"]
  | .minify => ["-m", "--minify"]
  | .strictNames => ["--strict-names"]
  | _ => []

/-- **A token is a flag** exactly if it is one of the spellings of the flag. -/
theorem flag?_eq_some_iff : flag? token = some term ↔ token ∈ term.spellings := by
  unfold flag?
  constructor
  · intro h
    split_ifs at h with hstdout hsilent hminify hstrict
    · cases h
      simpa [spellings] using hstdout
    · cases h
      simpa [spellings] using hsilent
    · cases h
      simpa [spellings] using hminify
    · cases h
      simpa [spellings] using hstrict
  · intro h
    cases term <;> simp only [spellings, List.mem_cons, List.not_mem_nil, or_false] at h
    case strictNames =>
      subst h
      rfl
    all_goals rcases h with rfl | rfl <;> rfl

/-- What holds of all seven spellings holds of every spelling of a flag. -/
theorem forall_spellings {p : String → Prop}
    (h : ∀ token ∈ ["-c", "--stdout", "-s", "--silent", "-m", "--minify", "--strict-names"],
      p token) (htoken : token ∈ term.spellings) : p token := by
  refine h token ?_
  cases term <;> simp only [spellings, List.mem_cons, List.not_mem_nil, or_false] at htoken <;>
    simp only [List.mem_cons, htoken, true_or, or_true]
  all_goals rcases htoken with rfl | rfl <;> simp

/-- **A flag is not taken for a path**, as it begins with a dash. -/
theorem isPath_of_mem_spellings (h : token ∈ term.spellings) : isPath token = false :=
  forall_spellings (p := fun token => isPath token = false) (by decide) h

/-- A flag is no output option with a path behind it. -/
theorem not_takesPath_of_mem_spellings (h : token ∈ term.spellings) :
    ¬ (token == "-o" || token == "--output") = true :=
  forall_spellings (p := fun token => ¬ (token == "-o" || token == "--output") = true)
    (by decide) h

/-- A flag is no output option with a path in it. -/
theorem beginsWith_of_mem_spellings (h : token ∈ term.spellings) :
    Text.beginsWith token "--output=" = false :=
  forall_spellings (p := fun token => Text.beginsWith token "--output=" = false) (by decide) h

/-! ### Words -/

/-- **How a term is written**: the words of a group, and the term that it stands for. -/
inductive Writes : List String → Term → Prop where
  /-- an output option with a path behind it -/
  | pathBehind {option path : String} (hoption : option = "-o" ∨ option = "--output")
    (hne : path ≠ "") (hdash : ∀ rest, path ≠ "-" ++ rest) :
    Writes [option, path] (.output path)
  /-- an output option with a path in it -/
  | pathWithin {path : String} (hne : path ≠ "") : Writes ["--output=" ++ path] (.output path)
  /-- a flag, in any of its spellings -/
  | flag {word : String} {flag : Term} (h : word ∈ flag.spellings) : Writes [word] flag
  /-- a list of names -/
  | names (list : NameList) (value : String) : Writes [list.key ++ "=" ++ value] (.names list value)
  /-- the export formats -/
  | exports (value : String) : Writes ["exports=" ++ value] (.exports value)
  /-- a template with exactly one output mark -/
  | wrapper {template : WrapperTemplate} (h : template.HasOneMark) :
    Writes ["iife=" ++ template.text] (.wrapper template)
  /-- a bundle or a mode -/
  | keyword {word : String} (h : word ∈ bundleKeywords ∨ word ∈ modeTags) :
    Writes [word] (.keyword word)

/-- The keys of the lists are different, and each list is found by its key. -/
theorem find?_key (list : NameList) :
    (NameList.all.find? fun other => other.key == list.key) = some list := by
  cases list <;> rfl

/-- **The terms that directives are**, by their keys. -/
theorem directive_eq_ok_iff {key value : String} :
    directive key value word = .ok term ↔
      (∃ list : NameList, key = list.key ∧ term = .names list value) ∨
        (key = "exports" ∧ term = .exports value) ∨
        (key = "iife" ∧ WrapperTemplate.HasOneMark ⟨value⟩ ∧ term = .wrapper ⟨value⟩) := by
  rw [WrapperTemplate.hasOneMark_iff]
  constructor
  · intro h
    unfold directive at h
    cases hfind : NameList.all.find? fun list => list.key == key with
    | some list =>
      simp only [hfind] at h
      have hkey : list.key = key := by simpa using List.find?_some hfind
      cases h
      exact Or.inl ⟨list, hkey.symm, rfl⟩
    | none =>
      simp only [hfind, beq_iff_eq] at h
      split_ifs at h with hexports hwrapper hcount
      · cases h
        exact Or.inr (Or.inl ⟨hexports, rfl⟩)
      · cases h
        exact Or.inr (Or.inr ⟨hwrapper, hcount, rfl⟩)
  · rintro (⟨list, rfl, rfl⟩ | ⟨rfl, rfl⟩ | ⟨rfl, hcount, rfl⟩)
    · rw [directive, find?_key]
    · rfl
    · exact if_pos hcount

/-- A key has neither a dash at its front nor an equals sign in it. -/
theorem key_plain {key : String} (h : key ∈ keys) :
    Text.beginsWith key "-" = false ∧ key ≠ "" ∧ '=' ∉ key.toList := by
  have hall : ∀ key ∈ keys, Text.beginsWith key "-" = false ∧ key ≠ "" ∧ '=' ∉ key.toList := by
    decide
  exact hall key h

theorem cut_output (path : String) :
    Text.cut '=' ("--output=" ++ path) = ("--output", true, path) := by
  have htext : "--output" ++ String.singleton '=' = "--output=" := by decide
  rw [← htext]
  exact Text.cut_append path (by decide)

/-- **A word without a dash at its front** is a directive if it has an equals sign, and a bundle or
a mode otherwise. -/
theorem readOne_of_plain (h : Text.beginsWith word "-" = false) :
    readOne word =
      match Text.cut '=' word with
      | (key, true, value) => directive key value word
      | (_, false, _) =>
        if keys.contains word then .error (.missingValue word)
        else if bundleKeywords.contains word || modeTags.contains word then .ok (.keyword word)
        else .error (.unknownWord word) := by
  have hpath : ¬ Text.beginsWith word "--output=" = true := by
    intro hpath
    rw [Text.beginsWith_of_beginsWith hpath (by decide)] at h
    cases h
  have hflag : flag? word = none := by
    rw [Option.eq_none_iff_forall_not_mem]
    intro flag hflag
    have hdash : Text.beginsWith word "-" = true :=
      forall_spellings (p := fun word => Text.beginsWith word "-" = true) (by decide)
        (flag?_eq_some_iff.1 hflag)
    rw [h] at hdash
    cases hdash
  rw [readOne, if_neg hpath, hflag]
  exact if_neg (Bool.eq_false_iff.1 h)

/-- A directive has no dash at its front. -/
theorem beginsWith_directive {key : String} (hkey : key ∈ keys) (value : String) :
    Text.beginsWith (key ++ "=" ++ value) "-" = false := by
  obtain ⟨hdash, hne, -⟩ := key_plain hkey
  rw [String.append_assoc]
  exact (Text.beginsWith_singleton_append '-' hne _).trans hdash

/-- **A directive** is read by its key and its value. -/
theorem readOne_directive {key : String} (hkey : key ∈ keys) (value : String) :
    readOne (key ++ "=" ++ value) = directive key value (key ++ "=" ++ value) := by
  obtain ⟨-, -, hequals⟩ := key_plain hkey
  have hplain := beginsWith_directive hkey value
  have hcut : Text.cut '=' (key ++ "=" ++ value) = (key, true, value) :=
    Text.cut_append value hequals
  rw [readOne_of_plain hplain, hcut]

theorem key_mem_keys (list : NameList) : list.key ∈ keys :=
  List.mem_append_left _ (List.mem_map_of_mem (by cases list <;> decide))

/-- A word that is a term for itself is written as the grammar says: with a path in it, as a flag,
as a directive, or as a bundle or a mode. -/
theorem writes_of_readOne (h : readOne word = .ok term) : Writes [word] term := by
  by_cases hpath : Text.beginsWith word "--output=" = true
  · obtain ⟨path, rfl⟩ := Text.exists_of_beginsWith hpath
    rw [readOne, if_pos hpath, cut_output] at h
    simp only [String.isEmpty_iff] at h
    split_ifs at h with hne
    cases h
    exact .pathWithin hne
  cases hflag : flag? word with
  | some flag =>
    rw [readOne, if_neg hpath, hflag] at h
    cases h
    exact .flag (flag?_eq_some_iff.1 hflag)
  | none =>
    by_cases hdash : Text.beginsWith word "-" = true
    · rw [readOne, if_neg hpath, hflag] at h
      simp only [if_pos hdash] at h
      cases h
    rw [readOne_of_plain (Bool.eq_false_iff.2 hdash)] at h
    split at h
    · next key value hcut =>
      have hword : word = key ++ "=" ++ value := Text.eq_of_cut hcut
      obtain ⟨list, rfl, rfl⟩ | ⟨rfl, rfl⟩ | ⟨rfl, hcount, rfl⟩ := directive_eq_ok_iff.1 h
      · exact hword ▸ .names list value
      · exact hword ▸ .exports value
      · exact hword ▸ .wrapper hcount
    · split_ifs at h with hkey hkeyword
      cases h
      exact .keyword (by simpa using hkeyword)

/-- A word that the grammar writes alone is read to its term. -/
theorem Writes.readOne_eq_ok (h : Writes [word] term) : readOne word = .ok term := by
  cases h with
  | pathWithin hne =>
    rw [readOne, if_pos (Text.beginsWith_append _ _), cut_output]
    exact if_neg (by simpa using hne)
  | flag h =>
    rw [readOne, beginsWith_of_mem_spellings h, if_neg Bool.false_ne_true, flag?_eq_some_iff.2 h]
  | names list value =>
    rw [readOne_directive (key_mem_keys list)]
    exact directive_eq_ok_iff.2 (Or.inl ⟨list, rfl, rfl⟩)
  | exports value =>
    have hkey : "exports" ∈ keys := by decide
    exact (readOne_directive hkey value).trans
      (directive_eq_ok_iff.2 (Or.inr (Or.inl ⟨rfl, rfl⟩)))
  | wrapper h =>
    have hkey : "iife" ∈ keys := by decide
    exact (readOne_directive hkey _).trans
      (directive_eq_ok_iff.2 (Or.inr (Or.inr ⟨rfl, h, rfl⟩)))
  | keyword h =>
    have hall : ∀ word ∈ bundleKeywords ++ modeTags, readOne word = .ok (.keyword word) := by
      decide
    exact hall word (List.mem_append.2 h)

/-- **The words that are terms** for themselves are those that the grammar writes alone. -/
theorem readOne_eq_ok_iff : readOne word = .ok term ↔ Writes [word] term :=
  ⟨writes_of_readOne, Writes.readOne_eq_ok⟩

theorem token_of_directive {key value : String} {error : CommandError}
    (h : directive key value word = .error error) : error.token = word := by
  unfold directive at h
  split at h
  · cases h
  · simp only at h
    split_ifs at h <;> cases h <;> rfl

/-- A word that is no term is at fault itself. -/
theorem token_of_readOne {error : CommandError} (h : readOne word = .error error) :
    error.token = word := by
  by_cases hdash : Text.beginsWith word "-" = true
  · rw [readOne] at h
    by_cases hpath : Text.beginsWith word "--output=" = true
    · rw [if_pos hpath] at h
      simp only at h
      split_ifs at h
      cases h
      rfl
    rw [if_neg hpath] at h
    cases hflag : flag? word with
    | some flag =>
      rw [hflag] at h
      cases h
    | none =>
      simp only [hflag, if_pos hdash] at h
      cases h
      rfl
  · rw [readOne_of_plain (Bool.eq_false_iff.2 hdash)] at h
    split at h
    · exact token_of_directive h
    · split_ifs at h <;> cases h <;> rfl

/-! ### Lists of words -/

/-- **How terms are written**: as words in groups, one group after the other. -/
inductive Spells : List String → List Term → Prop where
  /-- no words at all are no terms -/
  | nil : Spells [] []
  /-- a group in front of other groups -/
  | cons {group words : List String} {term : Term} {terms : List Term} (hgroup : Writes group term)
    (hwords : Spells words terms) : Spells (group ++ words) (term :: terms)

/-- Each of the terms is written by a group. -/
theorem Spells.exists_writes (h : Spells words terms) (hterm : term ∈ terms) :
    ∃ group, Writes group term := by
  induction h with
  | nil => cases hterm
  | cons hgroup _ ih =>
    rcases List.mem_cons.1 hterm with rfl | hterm
    · exact ⟨_, hgroup⟩
    · exact ih hterm

/-- An output option without a path in it is no term for itself. -/
theorem not_takesPath_of_readOne (h : readOne word = .ok term) :
    ¬ (word == "-o" || word == "--output") = true := by
  intro htakes
  rw [Bool.or_eq_true, beq_iff_eq, beq_iff_eq] at htakes
  rcases htakes with rfl | rfl
  · have hshort : readOne "-o" = .error (.unknownOption "-o") := by decide
    rw [hshort] at h
    cases h
  · have hlong : readOne "--output" = .error (.unknownOption "--output") := by decide
    rw [hlong] at h
    cases h

theorem isPath_iff {path : String} :
    isPath path = true ↔ path ≠ "" ∧ ∀ rest, path ≠ "-" ++ rest := by
  rw [← Text.beginsWith_eq_false_iff]
  simp [isPath]

/-- **Groups** are an output option with a path behind it, and the words that are terms for
themselves. -/
theorem writes_iff :
    Writes group term ↔
      (∃ option path, group = [option, path] ∧ (option == "-o" || option == "--output") = true ∧
        isPath path = true ∧ term = .output path) ∨
      ∃ word, group = [word] ∧ readOne word = .ok term := by
  constructor
  · intro h
    match group, h with
    | [], h => cases h
    | [word], h => exact Or.inr ⟨word, rfl, readOne_eq_ok_iff.2 h⟩
    | option :: path :: _, .pathBehind hoption hne hdash =>
      exact Or.inl ⟨option, path, rfl, by simpa using hoption, isPath_iff.2 ⟨hne, hdash⟩, rfl⟩
  · rintro (⟨option, path, rfl, hoption, hpath, rfl⟩ | ⟨word, rfl, hword⟩)
    · exact .pathBehind (by simpa using hoption) (isPath_iff.1 hpath).1 (isPath_iff.1 hpath).2
    · exact readOne_eq_ok_iff.1 hword

/-- **A group is read** to its term, whatever stands behind it. -/
theorem Writes.readAll_append (h : Writes group term) (rest : List String) :
    readAll (group ++ rest) = (readAll rest).map (term :: ·) := by
  obtain ⟨option, path, rfl, hoption, hpath, rfl⟩ | ⟨word, rfl, hword⟩ := writes_iff.1 h
  · rw [List.cons_append, List.singleton_append, readAll, if_pos hoption, if_pos hpath]
  · rw [List.singleton_append, readAll.eq_def]
    simp only [if_neg (not_takesPath_of_readOne hword), hword]

/-- **Groups are read** to their terms, whatever stands behind them. -/
theorem Spells.readAll_append (h : Spells words terms) (rest : List String) :
    readAll (words ++ rest) = (readAll rest).map (terms ++ ·) := by
  induction h with
  | nil =>
    rw [List.nil_append]
    cases readAll rest <;> rfl
  | cons hgroup _ ih =>
    rw [List.append_assoc, hgroup.readAll_append, ih]
    cases readAll rest <;> rfl

/-- **Reading decides the grammar.**  Words are read to the terms that they spell. -/
theorem readAll_eq_ok_iff : readAll words = .ok terms ↔ Spells words terms := by
  constructor
  · intro h
    -- the induction follows the reading, two words at a time behind an output option
    induction words using readAll.induct generalizing terms with
    | case1 =>
      cases h
      exact .nil
    | case2 token htakes path rest hpath ih =>
      rw [readAll, if_pos htakes, if_pos hpath] at h
      obtain ⟨more, hrest, rfl⟩ := exists_of_map_eq_ok h
      have hgroup : Writes [token, path] (.output path) :=
        writes_iff.2 (Or.inl ⟨token, path, rfl, htakes, hpath, rfl⟩)
      exact .cons hgroup (ih hrest)
    | case3 token htakes path rest hpath =>
      rw [readAll, if_pos htakes, if_neg hpath] at h
      cases h
    | case4 token htakes =>
      rw [readAll, if_pos htakes] at h
      cases h
    | case5 token rest htakes first hfirst ih =>
      rw [readAll.eq_def] at h
      simp only [if_neg htakes, hfirst] at h
      obtain ⟨more, hrest, rfl⟩ := exists_of_map_eq_ok h
      exact .cons (readOne_eq_ok_iff.1 hfirst) (ih hrest)
    | case6 token rest htakes error herror =>
      rw [readAll.eq_def] at h
      simp only [if_neg htakes, herror] at h
      cases h
  · intro h
    have hread := h.readAll_append []
    rw [List.append_nil, readAll] at hread
    rw [hread]
    exact congrArg Except.ok (List.append_nil terms)

/-- **The grammar is unambiguous.** -/
theorem Spells.unique {terms' : List Term} (h : Spells words terms) (h' : Spells words terms') :
    terms = terms' :=
  Except.ok.inj ((readAll_eq_ok_iff.2 h).symm.trans (readAll_eq_ok_iff.2 h'))

/-- **Words behind words** that are read are read for themselves. -/
theorem readAll_append_of_ok (hwords : readAll words = .ok terms) (rest : List String) :
    readAll (words ++ rest) = (readAll rest).map (terms ++ ·) :=
  (readAll_eq_ok_iff.1 hwords).readAll_append rest

/-! ### Words that fit nowhere -/

/-- **Words get stuck** at a word if it stands behind groups and begins no group itself. -/
def StuckAt (token : String) (words : List String) : Prop :=
  ∃ front terms rest, words = front ++ token :: rest ∧ Spells front terms ∧
    ∀ group term, group <+: token :: rest → ¬ Writes group term

theorem StuckAt.append (hgroup : Writes group term) (h : StuckAt token words) :
    StuckAt token (group ++ words) := by
  obtain ⟨front, terms, rest, rfl, hfront, hstuck⟩ := h
  exact ⟨group ++ front, term :: terms, rest, (List.append_assoc ..).symm, .cons hgroup hfront,
    hstuck⟩

/-- No group begins with a word that is no term, unless it is an output option with a path. -/
theorem not_writes_of_prefix (hone : ∀ term, readOne token ≠ .ok term)
    (hpath : (token == "-o" || token == "--output") = true →
      ∀ path ∈ rest.head?, isPath path = false)
    (hgroup : group <+: token :: rest) : ¬ Writes group term := by
  intro h
  obtain ⟨option, path, rfl, hoption, hok, -⟩ | ⟨word, rfl, hword⟩ := writes_iff.1 h
  · obtain ⟨rfl, hrest⟩ := List.cons_prefix_cons.1 hgroup
    obtain ⟨more, rfl⟩ := hrest
    rw [hpath hoption path rfl] at hok
    cases hok
  · obtain ⟨rfl, -⟩ := List.cons_prefix_cons.1 hgroup
    exact hone term hword

/-- **The error of words that cannot be read** has the word at which they get stuck. -/
theorem stuckAt_of_readAll {error : CommandError} (h : readAll words = .error error) :
    StuckAt error.token words := by
  -- an output option that has no path behind it begins no group
  have hoption : ∀ {token : String}, (token == "-o" || token == "--output") = true →
      ∀ term, readOne token ≠ .ok term :=
    fun htakes term hterm => not_takesPath_of_readOne hterm htakes
  induction words using readAll.induct with
  | case1 => cases h
  | case2 token htakes path rest hpath ih =>
    rw [readAll, if_pos htakes, if_pos hpath] at h
    have hgroup : Writes [token, path] (.output path) :=
      writes_iff.2 (Or.inl ⟨token, path, rfl, htakes, hpath, rfl⟩)
    exact (ih (eq_error_of_map_eq_error h)).append hgroup
  | case3 token htakes path rest hpath =>
    rw [readAll, if_pos htakes, if_neg hpath] at h
    cases h
    refine ⟨[], [], path :: rest, rfl, .nil, fun group term => ?_⟩
    refine not_writes_of_prefix (hoption htakes) fun _ other hother => ?_
    cases hother
    exact Bool.eq_false_iff.2 hpath
  | case4 token htakes =>
    rw [readAll, if_pos htakes] at h
    cases h
    refine ⟨[], [], [], rfl, .nil, fun group term => ?_⟩
    refine not_writes_of_prefix (hoption htakes) fun _ path hpath => ?_
    rw [List.head?_nil] at hpath
    cases hpath
  | case5 token rest htakes first hfirst ih =>
    rw [readAll.eq_def] at h
    simp only [if_neg htakes, hfirst] at h
    exact (ih (eq_error_of_map_eq_error h)).append (readOne_eq_ok_iff.1 hfirst)
  | case6 token rest htakes error herror =>
    rw [readAll.eq_def] at h
    simp only [if_neg htakes, herror] at h
    cases h
    rw [token_of_readOne herror]
    refine ⟨[], [], rest, rfl, .nil, fun group term => ?_⟩
    refine not_writes_of_prefix (fun term hterm => ?_) fun hpath => absurd hpath htakes
    rw [herror] at hterm
    cases hterm

/-- Only no words at all can be groups where no group fits. -/
theorem Spells.eq_nil {front : List String} (h : Spells front terms) (hfront : front <+: words)
    (hnone : ∀ group term, group <+: words → ¬ Writes group term) : front = [] := by
  cases h with
  | nil => rfl
  | cons hgroup _ => exact absurd hgroup (hnone _ _ ((List.prefix_append _ _).trans hfront))

/-- **Reading fails where words get stuck**, and the word there is at fault. -/
theorem readAll_eq_error_iff :
    (∃ error, readAll words = .error error ∧ error.token = token) ↔ StuckAt token words := by
  constructor
  · rintro ⟨error, herror, rfl⟩
    exact stuckAt_of_readAll herror
  · rintro ⟨front, terms, rest, rfl, hfront, hnone⟩
    rw [hfront.readAll_append]
    cases hread : readAll (token :: rest) with
    | ok more =>
      have hspells : Spells (token :: rest) more := readAll_eq_ok_iff.1 hread
      exact absurd (hspells.eq_nil List.prefix_rfl hnone) (List.cons_ne_nil _ _)
    | error error =>
      refine ⟨error, rfl, ?_⟩
      -- the words at which reading fails are these, as no group stands in front of them
      obtain ⟨front', terms', rest', heq, hfront', -⟩ := stuckAt_of_readAll hread
      obtain rfl := hfront'.eq_nil ⟨_, heq.symm⟩ hnone
      exact (List.cons.inj heq).1.symm

/-- Words that look like groups and are none. -/
example :
    readAll ["underscore", ""] = .error (.unknownWord "") ∧
      readAll ["-c", "=x"] = .error (.unknownKey "" "=x") ∧
      readAll ["-o", "p", "-o=p"] = .error (.unknownOption "-o=p") ∧
      readAll ["-o", "-c"] = .error (.missingPath "-o") := by decide

end Term

end CustomBuild
