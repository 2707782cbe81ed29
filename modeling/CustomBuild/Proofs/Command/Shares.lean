import CustomBuild.Proofs.Command.Grammar
import CustomBuild.Proofs.Related
import CustomBuild.Proofs.Text.Commas

/-!
# What terms give to a command

Some fields of a command are collected from its terms: each term gives some words, perhaps none, and
the field has them one after the other (`Command.Collects`).  A directive for a list gives the parts
of its comma list (`Term.Gives`), and the banner shows a directive as it is written, with its value
in quotes (`Term.ShownAs`).

Two kinds of words may be written in any letter case.  A category has a usual spelling
(`Category.IsUsualSpelling`), an export format is written in lower case (`mem_formats_iff`).
-/

namespace CustomBuild

variable {word name format value : String} {terms : List Term} {term : Term} {list : NameList}
  {parts words group : List String}

/-! ### Letter case -/

/-- **The same word in any letter case**: the letters from A to Z count as the small ones. -/
def Text.IsSameWord (first second : String) : Prop :=
  List.Forall₂ (fun c d => c.toLower = d.toLower) first.toList second.toList

theorem Text.isSameWord_iff {first second : String} :
    Text.IsSameWord first second ↔ Text.lowered first = Text.lowered second := by
  have hlists : Text.IsSameWord first second ↔
      first.toList.map Char.toLower = second.toList.map Char.toLower := by
    rw [← List.forall₂_eq_eq_eq, List.forall₂_map_left_iff, List.forall₂_map_right_iff]
    rfl
  rw [hlists, Text.lowered, Text.lowered, ← String.toList_inj, String.toList_ofList,
    String.toList_ofList]

namespace Category

/-- **The usual spelling of a word**: that of the category which it names in some letter case.  A
word that names no category is spelled as it is. -/
inductive IsUsualSpelling (word : String) : String → Prop where
  /-- the word names a category -/
  | category (category : Category) (h : Text.IsSameWord word category.name) :
    IsUsualSpelling word category.name
  /-- the word names no category -/
  | other (h : ∀ category : Category, ¬ Text.IsSameWord word category.name) :
    IsUsualSpelling word word

/-- A category is found by its name in any letter case. -/
theorem ofAnyCase?_eq_some {category : Category} (h : Text.IsSameWord word category.name) :
    ofAnyCase? word = some category := by
  have hfound : ∀ category : Category,
      (all.find? fun other => Text.lowered other.name == Text.lowered category.name) =
        some category := by
    intro category
    cases category <;> decide
  rw [ofAnyCase?, Text.isSameWord_iff.1 h]
  exact hfound category

/-- **The usual spelling** is the one that a command has. -/
theorem isUsualSpelling_iff :
    IsUsualSpelling word name ↔ name = Command.normalizedCategory word := by
  unfold Command.normalizedCategory
  constructor
  · intro h
    cases h with
    | category category hsame => rw [ofAnyCase?_eq_some hsame]
    | other hnone =>
      cases hfind : ofAnyCase? word with
      | some category =>
        have hsame : Text.lowered category.name = Text.lowered word := by
          simpa using List.find?_some hfind
        exact absurd (Text.isSameWord_iff.2 hsame.symm) (hnone category)
      | none => rfl
  · rintro rfl
    cases hfind : ofAnyCase? word with
    | some category =>
      have hsame : Text.lowered category.name = Text.lowered word := by
        simpa using List.find?_some hfind
      exact .category category (Text.isSameWord_iff.2 hsame.symm)
    | none =>
      refine .other fun category hsame => ?_
      rw [ofAnyCase?_eq_some hsame] at hfind
      cases hfind

end Category

/-- The export formats are written in lower case. -/
theorem isSameWord_iff_of_mem_exportFormats (h : format ∈ exportFormats) :
    Text.IsSameWord word format ↔ Text.lowered word = format := by
  have hall : ∀ format ∈ exportFormats, Text.lowered format = format := by decide
  rw [Text.isSameWord_iff, hall format h]

/-! ### Shares -/

/-- **Words that are collected** from terms: each term gives its share, and the shares stand one
after the other. -/
def Command.Collects (share : Term → List String → Prop) (terms : List Term)
    (words : List String) : Prop :=
  ∃ shares : List (List String), List.Forall₂ share terms shares ∧ words = shares.flatten

/-- Shares that are computed term by term are collected. -/
theorem Command.collects_flatMap {share : Term → List String → Prop} {f : Term → List String}
    (h : ∀ term ∈ terms, share term (f term)) : Command.Collects share terms (terms.flatMap f) := by
  refine ⟨terms.map f, ?_, rfl⟩
  rw [List.forall₂_map_right_iff, List.forall₂_same]
  exact h

/-- Shares that are computed term by term are the only ones. -/
theorem Command.Collects.eq_flatMap {share : Term → List String → Prop} {f : Term → List String}
    (hshare : ∀ term words, share term words → words = f term)
    (h : Command.Collects share terms words) : words = terms.flatMap f := by
  obtain ⟨shares, hshares, rfl⟩ := h
  rw [eq_map_of_forall₂ hshare hshares]
  rfl

namespace Term

/-- **What a term gives to a list of names**: the parts of the comma list of its directive. -/
inductive Gives (list : NameList) : Term → List String → Prop where
  /-- the directive for the list -/
  | directive {value : String} {parts : List String} (h : Text.IsCommaList value parts) :
    Gives list (.names list value) parts
  /-- any other term -/
  | other {term : Term} (h : ∀ value, term ≠ .names list value) : Gives list term []

/-- **What a term gives to a list** are the names that are read from it. -/
theorem gives_iff : term.Gives list parts ↔ parts = term.namesFor list := by
  constructor
  · intro h
    cases h with
    | directive hparts => rw [namesFor, if_pos rfl, Text.isCommaList_iff.1 hparts]
    | other hother =>
      cases term with
      | names other value =>
        have hlist : other ≠ list := fun heq => hother value (heq ▸ rfl)
        rw [namesFor, if_neg hlist]
      | _ => rfl
  · rintro rfl
    cases term with
    | names other value =>
      by_cases hlist : other = list
      · subst hlist
        rw [namesFor, if_pos rfl]
        exact .directive (Text.isCommaList_iff.2 rfl)
      · rw [namesFor, if_neg hlist]
        exact .other fun _ heq => hlist (Term.names.inj heq).1
    | _ => exact .other nofun

/-- The names of a list are collected from the terms. -/
theorem collects_gives_iff : Command.Collects (Gives list) terms words ↔
    words = terms.flatMap (namesFor list) := by
  constructor
  · exact Command.Collects.eq_flatMap fun _ _ => gives_iff.1
  · rintro rfl
    exact Command.collects_flatMap fun _ _ => gives_iff.2 rfl

/-- The names of a list are collected in one way. -/
theorem eq_of_collects_gives {others : List String} (h : Command.Collects (Gives list) terms words)
    (hothers : Command.Collects (Gives list) terms others) : words = others :=
  (collects_gives_iff.1 h).trans (collects_gives_iff.1 hothers).symm

/-- **The word that the banner shows for a term**: a directive is shown as it is written, with its
value in quotes, and a keyword as it is.  What is written with a dash at its front is not shown. -/
inductive ShownAs : Term → List String → Prop where
  /-- a directive, which is cut at its first equals sign -/
  | directive {key value : String} {term : Term} (hequals : '=' ∉ key.toList)
    (hdash : ∀ rest, key ≠ "-" ++ rest) (h : Writes [key ++ "=" ++ value] term) :
    ShownAs term [key ++ "=\"" ++ value ++ "\""]
  /-- a keyword -/
  | keyword (word : String) : ShownAs (.keyword word) [word]
  /-- an option -/
  | option {rest : String} {group : List String} {term : Term}
    (h : Writes (("-" ++ rest) :: group) term) : ShownAs term []

theorem shownAs_of_key {key : String} (hkey : key ∈ keys)
    (h : Writes [key ++ "=" ++ value] term) :
    ShownAs term [key ++ "=\"" ++ value ++ "\""] :=
  .directive (key_plain hkey).2.2 (Text.beginsWith_eq_false_iff.1 (key_plain hkey).1) h

theorem shownAs_of_dash (hdash : Text.beginsWith word "-" = true)
    (h : Writes (word :: group) term) : ShownAs term [] := by
  obtain ⟨rest, rfl⟩ := Text.exists_of_beginsWith hdash
  exact .option h

/-- **A term that is written** has the word in the banner that the grammar says. -/
theorem Writes.shownAs (h : Writes group term) : ShownAs term term.bannerWord?.toList := by
  cases h with
  | pathBehind hoption hne hdash =>
    refine shownAs_of_dash ?_ (.pathBehind hoption hne hdash)
    rcases hoption with rfl | rfl <;> decide
  | @pathWithin path hne =>
    have hoption : Text.beginsWith ("--output=" ++ path) "-" = true :=
      Text.beginsWith_of_beginsWith (Text.beginsWith_append _ _) (by decide)
    exact shownAs_of_dash hoption (.pathWithin hne)
  | flag h =>
    have hdash := forall_spellings (p := fun word => Text.beginsWith word "-" = true) (by decide) h
    have hnone : term.bannerWord? = none := by
      cases term <;> first | rfl | cases h
    rw [hnone]
    exact shownAs_of_dash hdash (.flag h)
  | names list value => exact shownAs_of_key (key_mem_keys list) (.names list value)
  | exports value =>
    have hkey : "exports" ∈ keys := by decide
    exact shownAs_of_key hkey (.exports value)
  | wrapper h =>
    have hkey : "iife" ∈ keys := by decide
    exact shownAs_of_key hkey (.wrapper h)
  | keyword h => exact .keyword _

/-- A directive that is cut at its first equals sign is read by its key. -/
theorem bannerWord?_of_directive {key : String} (hequals : '=' ∉ key.toList)
    (hdash : ∀ rest, key ≠ "-" ++ rest) (h : Writes [key ++ "=" ++ value] term) :
    term.bannerWord? = some (key ++ "=\"" ++ value ++ "\"") := by
  have hplain : Text.beginsWith (key ++ "=" ++ value) "-" = false := by
    by_cases hkey : key = ""
    · rw [hkey]
      exact Text.beginsWith_singleton_append '-' (show "" ++ "=" ≠ "" by decide) value
    · rw [String.append_assoc]
      exact (Text.beginsWith_singleton_append '-' hkey _).trans
        (Text.beginsWith_eq_false_iff.2 hdash)
  have hcut : Text.cut '=' (key ++ "=" ++ value) = (key, true, value) :=
    Text.cut_append value hequals
  have hread := readOne_eq_ok_iff.2 h
  rw [readOne_of_plain hplain, hcut] at hread
  obtain ⟨list, rfl, rfl⟩ | ⟨rfl, rfl⟩ | ⟨rfl, -, rfl⟩ := directive_eq_ok_iff.1 hread <;> rfl

/-- An option has no word in the banner. -/
theorem bannerWord?_of_option {rest : String} (h : Writes (("-" ++ rest) :: group) term) :
    term.bannerWord? = none := by
  have hdash : Text.beginsWith ("-" ++ rest) "-" = true := Text.beginsWith_append _ _
  generalize "-" ++ rest = word at h hdash
  have hdirective {key value : String} (hkey : key ∈ keys)
      (hword : word = key ++ "=" ++ value) : False := by
    rw [hword, beginsWith_directive hkey value] at hdash
    cases hdash
  -- neither directives nor keywords begin with a dash
  cases h with
  | pathBehind | pathWithin => rfl
  | flag h => cases term <;> first | rfl | cases h
  | names list value => exact (hdirective (key_mem_keys list) rfl).elim
  | exports value => exact (hdirective (show "exports" ∈ keys by decide) rfl).elim
  | wrapper h => exact (hdirective (show "iife" ∈ keys by decide) rfl).elim
  | keyword h =>
    have hall : ∀ word ∈ bundleKeywords ++ modeTags, Text.beginsWith word "-" = false := by decide
    rw [hall word (List.mem_append.2 h)] at hdash
    cases hdash

/-- **The word in the banner** is the one that the grammar says. -/
theorem ShownAs.eq_bannerWord? {words : List String} (h : ShownAs term words) :
    words = term.bannerWord?.toList := by
  cases h with
  | directive hequals hdash h => rw [bannerWord?_of_directive hequals hdash h]; rfl
  | keyword word => rfl
  | option h => rw [bannerWord?_of_option h]; rfl

/-- The words in the banner are collected from terms that are written. -/
theorem collects_shownAs (h : ∀ term ∈ terms, ∃ group, Writes group term) :
    Command.Collects ShownAs terms (terms.filterMap bannerWord?) := by
  rw [List.filterMap_eq_flatMap_toList]
  refine Command.collects_flatMap fun term hterm => ?_
  obtain ⟨group, hwrites⟩ := h term hterm
  exact hwrites.shownAs

/-- No other words are. -/
theorem eq_of_collects_shownAs (h : Command.Collects ShownAs terms words) :
    words = terms.filterMap bannerWord? := by
  rw [List.filterMap_eq_flatMap_toList]
  exact h.eq_flatMap fun _ _ => ShownAs.eq_bannerWord?

end Term

end CustomBuild
