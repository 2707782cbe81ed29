import CustomBuild.Proofs.Command.Flags
import CustomBuild.Proofs.Command.Shares

/-!
# The fields of a command

What each field of a command is, said by the terms of the command and the order in which they stand
(`Command.IsFoldOf`): lists are joined, a bundle counts at its first place, a path or a wrapper at
its last, and a flag at any.  Together with the grammar this settles what a list of words means, and
which word is at fault if it means nothing (`Command.ofTokens_grammar`).
-/

namespace CustomBuild

/-- **The last value** that a list has is the one behind which there is no other. -/
theorem getLast?_filterMap_eq_some_iff {α β : Type} {f : α → Option β} {make : β → α}
    (hf : ∀ a b, f a = some b ↔ a = make b) {l : List α} {b : β} :
    (l.filterMap f).getLast? = some b ↔
      ∃ front back, l = front ++ make b :: back ∧ ∀ other, make other ∉ back := by
  rw [List.getLast?_filterMap, List.findSome?_eq_some_iff]
  constructor
  · rintro ⟨back, a, front, hl, ha, hback⟩
    obtain rfl := (hf a b).1 ha
    refine ⟨front.reverse, back.reverse, ?_, fun other hother => ?_⟩
    · rw [List.reverse_eq_iff.1 hl, List.reverse_append, List.reverse_cons,
        List.append_assoc, List.singleton_append]
    · have hnone := hback _ (List.mem_reverse.1 hother)
      rw [(hf _ other).2 rfl] at hnone
      cases hnone
  · rintro ⟨front, back, rfl, hback⟩
    refine ⟨back.reverse, make b, front.reverse, ?_, (hf _ b).2 rfl, fun x hx => ?_⟩
    · rw [List.reverse_append, List.reverse_cons, List.append_assoc, List.singleton_append]
    · refine Option.eq_none_iff_forall_ne_some.2 fun other hother => hback other ?_
      rw [← (hf x other).1 hother]
      exact List.mem_reverse.1 hx

/-- One more value is added to the end of the distinct values of a list if it is new. -/
theorem eraseDups_append_singleton (l : List String) (x : String) :
    (l ++ [x]).eraseDups = if x ∈ l then l.eraseDups else l.eraseDups ++ [x] := by
  rw [List.eraseDups_append, List.removeAll, List.filter_singleton]
  split_ifs with hx <;> simp [hx, List.eraseDups_cons]

namespace Command

variable {terms : List Term} {term : Term} {word : String}

/-- **A command as the sum of its terms.** -/
structure IsFoldOf (terms : List Term) (c : Command) : Prop where
  /-- names to start from are given by their directive alone, even without values -/
  included_eq_none_iff : c.included = none ↔ ∀ value, .names .included value ∉ terms
  /-- the names to start from are those of the directives in order -/
  included : ∀ names, c.included = some names → Collects (Term.Gives .included) terms names
  /-- the names to add are those of the directives in order -/
  plus : Collects (Term.Gives .plus) terms c.plus
  /-- the names to take away are those of the directives in order -/
  minus : Collects (Term.Gives .minus) terms c.minus
  /-- the further names to take away are those of the directives in order -/
  excluded : Collects (Term.Gives .excluded) terms c.excluded
  /-- the categories are those of the directives in order, in their usual spelling -/
  categories : ∃ words, Collects (Term.Gives .category) terms words ∧
    List.Forall₂ Category.IsUsualSpelling words c.categories
  /-- the bundles are the keywords among the terms that are bundles -/
  mem_bundles_iff : ∀ word, word ∈ c.bundles ↔ word ∈ bundleKeywords ∧ .keyword word ∈ terms
  /-- the bundles are in the order of their first places, so none is repeated -/
  pairwise_bundles : c.bundles.Pairwise fun word word' =>
    terms.idxOf (.keyword word) < terms.idxOf (.keyword word')
  /-- the modes are the keywords among the terms that are modes -/
  mem_modes_iff : ∀ word, word ∈ c.modes ↔ word ∈ modeTags ∧ .keyword word ∈ terms
  /-- without a directive for them all export formats are chosen -/
  exports_of_none : (∀ value, .exports value ∉ terms) → c.exports = exportFormats
  /-- the export formats are in the order of the exposure chain -/
  exports_sublist : c.exports.Sublist exportFormats
  /-- with directives for them the export formats are those that are listed, in any letter case -/
  mem_exports_iff : ∀ value, .exports value ∈ terms → ∀ format, format ∈ c.exports ↔
    format ∈ exportFormats ∧ ∃ value parts, .exports value ∈ terms ∧
      Text.IsCommaList value parts ∧ ∃ part ∈ parts, Text.IsSameWord part format
  /-- the wrapper is the last one -/
  wrapper : ∀ template, c.wrapper = some template ↔
    ∃ front back, terms = front ++ .wrapper template :: back ∧ ∀ other, .wrapper other ∉ back
  /-- the path is the last one -/
  outputPath : ∀ path, c.outputPath = some path ↔
    ∃ front back, terms = front ++ .output path :: back ∧ ∀ other, .output other ∉ back
  /-- standard output is asked for by its flag -/
  stdout : c.stdout = true ↔ .stdout ∈ terms
  /-- silence is asked for by its flag -/
  silent : c.silent = true ↔ .silent ∈ terms
  /-- reduction is asked for by its flag -/
  minify : c.minify = true ↔ .minify ∈ terms
  /-- unknown names are made an error by the flag for it -/
  strictNames : c.strictNames = true ↔ .strictNames ∈ terms
  /-- the banner shows directives and keywords, in order -/
  tokens : Collects Term.ShownAs terms c.tokens

/-! ### Keywords -/

/-- The keywords among terms that are given words, in order. -/
def keywordsAmong (words : List String) (terms : List Term) : List String :=
  (terms.filterMap Term.keyword?).filter fun word => words.contains word

theorem mem_keywordsAmong_iff {words : List String} :
    word ∈ keywordsAmong words terms ↔ word ∈ words ∧ .keyword word ∈ terms := by
  have hkeyword : ∀ term : Term, term.keyword? = some word ↔ term = .keyword word := by
    intro term
    cases term <;> simp [Term.keyword?]
  rw [keywordsAmong, List.mem_filter, List.mem_filterMap, List.contains_iff_mem, and_comm]
  simp only [hkeyword, exists_eq_right]

theorem keywordsAmong_append (words : List String) (front back : List Term) :
    keywordsAmong words (front ++ back) =
      keywordsAmong words front ++ keywordsAmong words back := by
  rw [keywordsAmong, List.filterMap_append, List.filter_append]
  rfl

theorem mem_bundles_iff :
    word ∈ (ofTerms terms).bundles ↔ word ∈ bundleKeywords ∧ .keyword word ∈ terms :=
  List.mem_eraseDups.trans mem_keywordsAmong_iff

/-- **One more term** adds a bundle to the end if it is one that has not been there. -/
theorem bundles_append_singleton (terms : List Term) (term : Term) :
    (ofTerms (terms ++ [term])).bundles = (ofTerms terms).bundles ∨
      ∃ word, term = .keyword word ∧ .keyword word ∉ terms ∧
        (ofTerms (terms ++ [term])).bundles = (ofTerms terms).bundles ++ [word] := by
  have hsplit : (ofTerms (terms ++ [term])).bundles =
      (keywordsAmong bundleKeywords terms ++ keywordsAmong bundleKeywords [term]).eraseDups :=
    congrArg List.eraseDups (keywordsAmong_append _ _ _)
  by_cases hterm : ∃ word, term = .keyword word ∧ word ∈ bundleKeywords
  · obtain ⟨word, rfl, hbundle⟩ := hterm
    have hnew : keywordsAmong bundleKeywords [.keyword word] = [word] :=
      List.filter_cons_of_pos (List.contains_iff_mem.2 hbundle)
    rw [hnew, eraseDups_append_singleton] at hsplit
    split_ifs at hsplit with hword
    · exact Or.inl hsplit
    · have hmem : .keyword word ∉ terms := fun h => hword (mem_keywordsAmong_iff.2 ⟨hbundle, h⟩)
      exact Or.inr ⟨word, rfl, hmem, hsplit⟩
  · have hnew : keywordsAmong bundleKeywords [term] = [] := by
      refine List.eq_nil_iff_forall_not_mem.2 fun word hword => hterm ⟨word, ?_⟩
      obtain ⟨hbundle, hmem⟩ := mem_keywordsAmong_iff.1 hword
      exact ⟨(List.mem_singleton.1 hmem).symm, hbundle⟩
    rw [hnew, List.append_nil] at hsplit
    exact Or.inl hsplit

/-- **Bundles are in the order of their first places.** -/
theorem pairwise_bundles (terms : List Term) :
    (ofTerms terms).bundles.Pairwise fun word word' =>
      terms.idxOf (.keyword word) < terms.idxOf (.keyword word') := by
  induction terms using List.reverseRecOn with
  | nil => exact List.Pairwise.nil
  | append_singleton terms term ih =>
    -- the places of the bundles that have been there do not change
    have hplace : ∀ word ∈ (ofTerms terms).bundles,
        (terms ++ [term]).idxOf (.keyword word) = terms.idxOf (.keyword word) := by
      intro word hword
      exact List.idxOf_append_of_mem (mem_bundles_iff.1 hword).2
    have hold : (ofTerms terms).bundles.Pairwise fun word word' =>
        (terms ++ [term]).idxOf (.keyword word) < (terms ++ [term]).idxOf (.keyword word') := by
      refine ih.imp_of_mem fun {word word'} hword hword' hlt => ?_
      rwa [hplace word hword, hplace word' hword']
    obtain hsame | ⟨new, rfl, hnew, hadd⟩ := bundles_append_singleton terms term
    · rw [hsame]
      exact hold
    · rw [hadd, List.pairwise_append]
      refine ⟨hold, List.pairwise_singleton _ _, fun word hword other hother => ?_⟩
      obtain rfl := List.mem_singleton.1 hother
      rw [hplace word hword, List.idxOf_append_of_notMem hnew]
      exact Nat.lt_add_right _ (List.idxOf_lt_length_of_mem (mem_bundles_iff.1 hword).2)

/-! ### Formats -/

theorem isEmpty_formats_iff_not_mem :
    (terms.filterMap Term.formats?).isEmpty = true ↔ ∀ value, .exports value ∉ terms := by
  rw [List.isEmpty_iff, List.filterMap_eq_nil_iff]
  constructor
  · intro h value hvalue
    cases h _ hvalue
  · intro h term hterm
    cases term with
    | exports value => exact absurd hterm (h value)
    | _ => rfl

theorem mem_formats_iff_exists {format : String} :
    format ∈ (terms.filterMap Term.formats?).flatten ↔
      format ∈ exportFormats ∧ ∃ value parts, .exports value ∈ terms ∧
        Text.IsCommaList value parts ∧ ∃ part ∈ parts, Text.IsSameWord part format := by
  rw [List.mem_flatten]
  constructor
  · rintro ⟨formats, hformats, hformat⟩
    obtain ⟨term, hterm, hvalue⟩ := List.mem_filterMap.1 hformats
    cases term with
    | exports value =>
      cases hvalue
      obtain ⟨hlisted, hknown⟩ := List.mem_filter.1 hformat
      rw [List.contains_iff_mem] at hknown
      obtain ⟨part, hpart, hlowered⟩ := List.mem_map.1 hlisted
      exact ⟨hknown, value, _, hterm, Text.isCommaList_iff.2 rfl, part, hpart,
        (isSameWord_iff_of_mem_exportFormats hknown).2 hlowered⟩
    | _ => cases hvalue
  · rintro ⟨hknown, value, parts, hterm, hparts, part, hpart, hsame⟩
    rw [Text.isCommaList_iff] at hparts
    subst hparts
    rw [isSameWord_iff_of_mem_exportFormats hknown] at hsame
    exact ⟨_, List.mem_filterMap.2 ⟨_, hterm, rfl⟩, List.mem_filter.2
      ⟨List.mem_map.2 ⟨part, hpart, hsame⟩, List.contains_iff_mem.2 hknown⟩⟩

/-- The export formats stay in the order of the exposure chain. -/
theorem exports_sublist (terms : List Term) : (ofTerms terms).exports.Sublist exportFormats := by
  unfold ofTerms exportsOf
  simp only
  split_ifs
  · exact List.Sublist.refl _
  · exact List.filter_sublist

/-- With a directive for them the export formats are those that are listed. -/
theorem mem_exports_iff_of_mem {value : String} (hvalue : .exports value ∈ terms)
    (format : String) :
    format ∈ (ofTerms terms).exports ↔
      format ∈ exportFormats ∧ ∃ value parts, .exports value ∈ terms ∧
        Text.IsCommaList value parts ∧ ∃ part ∈ parts, Text.IsSameWord part format := by
  have hsome : ¬ (terms.filterMap Term.formats?).isEmpty = true :=
    fun hnone => isEmpty_formats_iff_not_mem.1 hnone value hvalue
  have hexports : (ofTerms terms).exports = exportFormats.filter fun f =>
      (terms.filterMap Term.formats?).flatten.contains f := if_neg hsome
  rw [hexports, List.mem_filter, List.contains_iff_mem, mem_formats_iff_exists]
  exact and_iff_right_of_imp And.left

/-! ### Names to start from -/

theorem any_isFor_included_iff :
    terms.any (Term.isFor .included) = true ↔ ∃ value, .names .included value ∈ terms := by
  rw [List.any_eq_true]
  constructor
  · rintro ⟨term, hterm, hfor⟩
    cases term with
    | names list value =>
      obtain rfl : list = .included := by simpa [Term.isFor] using hfor
      exact ⟨value, hterm⟩
    | _ => cases hfor
  · rintro ⟨value, hvalue⟩
    exact ⟨_, hvalue, rfl⟩

/-- **Names to start from** are given by their directive alone, even without values. -/
theorem included_ofTerms (terms : List Term) :
    (ofTerms terms).included = none ∧ (∀ value, .names .included value ∉ terms) ∨
      (ofTerms terms).included = some (terms.flatMap (Term.namesFor .included)) ∧
        ∃ value, .names .included value ∈ terms := by
  by_cases hany : terms.any (Term.isFor .included) = true
  · exact Or.inr ⟨if_pos hany, any_isFor_included_iff.1 hany⟩
  · exact Or.inl ⟨if_neg hany, not_exists.1 (mt any_isFor_included_iff.2 hany)⟩

/-! ### The command -/

/-- **The last wrapper** of terms is that of their command. -/
theorem wrapper_ofTerms_eq_some_iff {template : WrapperTemplate} :
    (ofTerms terms).wrapper = some template ↔
      ∃ front back, terms = front ++ .wrapper template :: back ∧
        ∀ other, .wrapper other ∉ back := by
  refine getLast?_filterMap_eq_some_iff fun term template => ?_
  cases term <;> simp [Term.wrapper?]

/-- **The command of terms** that are written is the sum of the terms. -/
theorem isFoldOf_ofTerms (h : ∀ term ∈ terms, ∃ group, Term.Writes group term) :
    (ofTerms terms).IsFoldOf terms := by
  have hflag : ∀ flag : Term, terms.contains flag = true ↔ flag ∈ terms :=
    fun _ => List.contains_iff_mem
  constructor
  case included_eq_none_iff =>
    rcases included_ofTerms terms with ⟨hnone, hnot⟩ | ⟨hsome, value, hvalue⟩
    · exact iff_of_true hnone hnot
    · exact iff_of_false (by rw [hsome]; exact nofun) fun hnone => hnone value hvalue
  case included =>
    intro names hnames
    rcases included_ofTerms terms with ⟨hnone, -⟩ | ⟨hsome, -⟩
    · cases hnone.symm.trans hnames
    · rw [← Option.some.inj (hsome.symm.trans hnames)]
      exact Term.collects_gives_iff.2 rfl
  case plus => exact Term.collects_gives_iff.2 rfl
  case minus => exact Term.collects_gives_iff.2 rfl
  case excluded => exact Term.collects_gives_iff.2 rfl
  case categories =>
    refine ⟨_, Term.collects_gives_iff.2 rfl, ?_⟩
    show List.Forall₂ _ _ (List.map normalizedCategory _)
    rw [List.forall₂_map_right_iff, List.forall₂_same]
    exact fun _ _ => Category.isUsualSpelling_iff.2 rfl
  case mem_bundles_iff => exact fun word => mem_bundles_iff
  case pairwise_bundles => exact pairwise_bundles terms
  case mem_modes_iff => exact fun word => NameSet.mem_ofList.trans mem_keywordsAmong_iff
  case exports_of_none => exact fun hnone => if_pos (isEmpty_formats_iff_not_mem.2 hnone)
  case exports_sublist => exact exports_sublist terms
  case mem_exports_iff => exact fun value hvalue format => mem_exports_iff_of_mem hvalue format
  case wrapper => exact fun template => wrapper_ofTerms_eq_some_iff
  case outputPath =>
    refine fun path => getLast?_filterMap_eq_some_iff fun term path => ?_
    cases term <;> simp [Term.path?]
  case stdout => exact hflag .stdout
  case silent => exact hflag .silent
  case minify => exact hflag .minify
  case strictNames => exact hflag .strictNames
  case tokens => exact Term.collects_shownAs h

/-- **Lists with the same members** are equal if both stand in the order of some places. -/
theorem eq_of_pairwise_place {place : String → Nat} {l l' : List String}
    (hl : l.Pairwise fun x y => place x < place y) (hl' : l'.Pairwise fun x y => place x < place y)
    (hmem : ∀ x, x ∈ l ↔ x ∈ l') : l = l' := by
  have hnodup {l : List String} (h : l.Pairwise fun x y => place x < place y) : l.Nodup := by
    refine h.imp fun {x y} hlt => ?_
    rintro rfl
    exact Nat.lt_irrefl _ hlt
  have hperm : l.Perm l' := (List.perm_ext_iff_of_nodup (hnodup hl) (hnodup hl')).2 hmem
  exact hperm.eq_of_pairwise (fun _ _ _ _ hlt hgt => absurd hgt (Nat.lt_asymm hlt)) hl hl'

namespace IsFoldOf

variable {c c' : Command}

theorem included_eq (h : c.IsFoldOf terms) (h' : c'.IsFoldOf terms) : c.included = c'.included := by
  cases hc : c.included with
  | none => exact (h'.included_eq_none_iff.2 (h.included_eq_none_iff.1 hc)).symm
  | some names =>
    cases hc' : c'.included with
    | none =>
      rw [h.included_eq_none_iff.2 (h'.included_eq_none_iff.1 hc')] at hc
      cases hc
    | some others =>
      rw [Term.eq_of_collects_gives (h.included _ hc) (h'.included _ hc')]

theorem categories_eq (h : c.IsFoldOf terms) (h' : c'.IsFoldOf terms) :
    c.categories = c'.categories := by
  have hmap {words categories : List String}
      (hwords : Collects (Term.Gives .category) terms words)
      (hspelled : List.Forall₂ Category.IsUsualSpelling words categories) :
      categories = (terms.flatMap (Term.namesFor .category)).map normalizedCategory := by
    rw [← Term.collects_gives_iff.1 hwords]
    exact eq_map_of_forall₂ (fun _ _ => Category.isUsualSpelling_iff.1) hspelled
  obtain ⟨words, hwords, hspelled⟩ := h.categories
  obtain ⟨others, hothers, hothersspelled⟩ := h'.categories
  rw [hmap hwords hspelled, hmap hothers hothersspelled]

theorem exports_eq (h : c.IsFoldOf terms) (h' : c'.IsFoldOf terms) : c.exports = c'.exports := by
  by_cases hnone : ∀ value, .exports value ∉ terms
  · rw [h.exports_of_none hnone, h'.exports_of_none hnone]
  · push Not at hnone
    obtain ⟨value, hvalue⟩ := hnone
    -- both are picked from the formats, which stand in one order
    have horder : exportFormats.Pairwise fun x y =>
        exportFormats.idxOf x < exportFormats.idxOf y := by
      decide
    refine eq_of_pairwise_place (horder.sublist h.exports_sublist)
      (horder.sublist h'.exports_sublist) fun format => ?_
    rw [h.mem_exports_iff value hvalue, h'.mem_exports_iff value hvalue]

/-- **There is one command** that is the sum of given terms. -/
theorem unique (h : c.IsFoldOf terms) (h' : c'.IsFoldOf terms) : c = c' := by
  have hbundles : c.bundles = c'.bundles :=
    eq_of_pairwise_place h.pairwise_bundles h'.pairwise_bundles fun word => by
      rw [h.mem_bundles_iff, h'.mem_bundles_iff]
  have hmodes : c.modes = c'.modes :=
    NameSet.ext fun word => by rw [h.mem_modes_iff, h'.mem_modes_iff]
  have hwrapper : c.wrapper = c'.wrapper :=
    Option.ext fun template => (h.wrapper template).trans (h'.wrapper template).symm
  have hpath : c.outputPath = c'.outputPath :=
    Option.ext fun path => (h.outputPath path).trans (h'.outputPath path).symm
  have htokens : c.tokens = c'.tokens := by
    rw [Term.eq_of_collects_shownAs h.tokens, Term.eq_of_collects_shownAs h'.tokens]
  have hincluded := h.included_eq h'
  have hcategories := h.categories_eq h'
  have hexports := h.exports_eq h'
  have hflags : c.stdout = c'.stdout ∧ c.silent = c'.silent ∧ c.minify = c'.minify ∧
      c.strictNames = c'.strictNames := by
    simp only [Bool.eq_iff_iff, h.stdout, h'.stdout, h.silent, h'.silent, h.minify, h'.minify,
      h.strictNames, h'.strictNames, and_self]
  obtain ⟨hstdout, hsilent, hminify, hstrict⟩ := hflags
  have hplus := Term.eq_of_collects_gives h.plus h'.plus
  have hminus := Term.eq_of_collects_gives h.minus h'.minus
  have hexcluded := Term.eq_of_collects_gives h.excluded h'.excluded
  cases c
  cases c'
  rw [mk.injEq]
  exact ⟨hincluded, hbundles, hcategories, hplus, hminus, hexcluded, hmodes, hexports, hwrapper,
    hpath, hstdout, hsilent, hminify, hstrict, htokens⟩

end IsFoldOf

/-- **The language of commands.**  Words are a command exactly if they are groups, one after the
other; the command is the sum of the terms of the groups, which no other command is; and words that
are no command fail with the word that fits in no group. -/
theorem ofTokens_grammar (words : List String) :
    ((∃ c, ofTokens words = .ok c) ↔ ∃ terms, Term.Spells words terms) ∧
      (∀ terms, Term.Spells words terms →
        ∃ c, ofTokens words = .ok c ∧ c.IsFoldOf terms ∧
          ∀ other, other.IsFoldOf terms → other = c) ∧
      ∀ token, (∃ error, ofTokens words = .error error ∧ error.token = token) ↔
        Term.StuckAt token words := by
  have hok : ∀ terms, Term.Spells words terms → ofTokens words = .ok (ofTerms terms) := by
    intro terms hterms
    rw [ofTokens, Term.readAll_eq_ok_iff.2 hterms]
    rfl
  have herror : ∀ error, ofTokens words = .error error ↔ Term.readAll words = .error error := by
    intro error
    rw [ofTokens]
    cases Term.readAll words <;> simp [Except.map]
  refine ⟨⟨?_, ?_⟩, ?_, ?_⟩
  · rintro ⟨c, hc⟩
    obtain ⟨terms, hread, -⟩ := exists_terms_of_ofTokens hc
    exact ⟨terms, Term.readAll_eq_ok_iff.1 hread⟩
  · rintro ⟨terms, hterms⟩
    exact ⟨_, hok terms hterms⟩
  · intro terms hterms
    have hfold := isFoldOf_ofTerms fun term hterm => hterms.exists_writes hterm
    exact ⟨_, hok terms hterms, hfold, fun other hother => hother.unique hfold⟩
  · intro token
    simp only [herror]
    exact Term.readAll_eq_error_iff

/-- Words with every directive, keyword and flag, some of them more than once. -/
def longWords : List String :=
  ["include= each ,, map\t", "-o", "first.js", "backbone", "category=ARRAYS, nothing", "plus=keys",
    "minus=each,forEach", "exclude=,", "legacy", "underscore", "backbone", "csp", "include=keys",
    "mobile", "strict", "exports=Node, AMD,none", "exports=commonjs,global,node",
    "iife=(%output%)", "iife=[%output%]", "-c", "--silent", "-m", "--strict-names",
    "--output=last.js"]

/-- The command of these words. -/
def longCommand : Command where
  included := some ["each", "map", "keys"]
  bundles := ["backbone", "underscore"]
  categories := ["Arrays", "nothing"]
  plus := ["keys"]
  minus := ["each", "forEach"]
  excluded := []
  modes := NameSet.ofList ["legacy", "underscore", "csp", "mobile", "strict"]
  exports := ["amd", "commonjs", "node", "global"]
  wrapper := some ⟨"[%output%]"⟩
  outputPath := some "last.js"
  stdout := true
  silent := true
  minify := true
  strictNames := true
  tokens :=
    ["include=\" each ,, map\t\"", "backbone", "category=\"ARRAYS, nothing\"", "plus=\"keys\"",
      "minus=\"each,forEach\"", "exclude=\",\"", "legacy", "underscore", "backbone", "csp",
      "include=\"keys\"", "mobile", "strict", "exports=\"Node, AMD,none\"",
      "exports=\"commonjs,global,node\"", "iife=\"(%output%)\"", "iife=\"[%output%]\""]

/-- The words are read to the sum of their terms.  With a flag behind one more output option, they
get stuck at the option. -/
theorem longWords_folded :
    ofTokens longWords = .ok longCommand ∧
      (∃ terms, Term.Spells longWords terms ∧ longCommand.IsFoldOf terms) ∧
      Term.StuckAt "-o" (longWords ++ ["-o", "-c"]) := by
  have hc : ofTokens longWords = .ok longCommand := by decide +kernel
  have herror : ofTokens (longWords ++ ["-o", "-c"]) = .error (.missingPath "-o") := by
    decide +kernel
  obtain ⟨haccepts, hfold, -⟩ := ofTokens_grammar longWords
  obtain ⟨terms, hterms⟩ := haccepts.1 ⟨_, hc⟩
  obtain ⟨c, hok, hfolded, -⟩ := hfold terms hterms
  obtain rfl : longCommand = c := Except.ok.inj (hc.symm.trans hok)
  refine ⟨hc, ⟨terms, hterms, hfolded⟩, ?_⟩
  exact ((ofTokens_grammar (longWords ++ ["-o", "-c"])).2.2 "-o").1 ⟨_, herror, rfl⟩

end Command

end CustomBuild
