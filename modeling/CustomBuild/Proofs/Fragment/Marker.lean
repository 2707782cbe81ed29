import CustomBuild.Fragment
import CustomBuild.Proofs.Text.Breaks

/-!
# Marker lines

A marker line is a mark and a naming: the mark is `//@`, or `//@tail` for a tail, and a naming is a
name, perhaps followed by a tag, with blanks before both and perhaps after them (`Naming`).  Lines
are read as markers exactly if they are of this form (`marker?_eq_some_iff`), and then in one way.

The proof cuts a text into a gap, a word and a rest that begins with a blank (`exists_gap_word`).
Gap by gap and word by word this gives the words of the text (`words_gap_append`,
`words_word_append`).
-/

namespace CustomBuild.Fragment

variable {cs gap word rest name : List Char} {tag? : Option (List Char)} {line : String} {key : Key}

/-! ### Gaps and words -/

/-- **A word**: word characters, and at least one. -/
def IsWord (word : List Char) : Prop :=
  word ≠ [] ∧ ∀ c ∈ word, Text.isWordChar c = true

/-- Only blanks, and perhaps none. -/
def AllBlank (cs : List Char) : Prop :=
  ∀ c ∈ cs, Text.isBlank c = true

/-- **A gap**: blanks, and at least one. -/
def IsGap (gap : List Char) : Prop :=
  gap ≠ [] ∧ AllBlank gap

/-- The text is empty or begins with a blank. -/
def StartsBlank (rest : List Char) : Prop :=
  ∀ c ∈ rest.head?, Text.isBlank c = true

theorem allBlank_nil : AllBlank [] := fun _ hc => absurd hc List.not_mem_nil

theorem allBlank_singleton {c : Char} (h : Text.isBlank c = true) : AllBlank [c] := by
  intro d hd
  rwa [List.mem_singleton.1 hd]

/-- A space is a gap. -/
theorem isGap_space : IsGap [' '] :=
  ⟨List.cons_ne_nil _ _, allBlank_singleton rfl⟩

theorem AllBlank.startsBlank (h : AllBlank cs) : StartsBlank cs := fun c hc =>
  h c (List.mem_of_mem_head? hc)

theorem IsGap.startsBlank_append (h : IsGap gap) (rest : List Char) :
    StartsBlank (gap ++ rest) := by
  obtain ⟨c, more, rfl⟩ := List.exists_cons_of_ne_nil h.1
  intro first hfirst
  cases hfirst
  exact h.2 c List.mem_cons_self

theorem IsWord.not_isBlank (h : IsWord word) : ∀ c ∈ word, Text.isBlank c = false := fun c hc =>
  Text.isBlank_of_isWordChar (h.2 c hc)

/-- Where a text begins with a blank, there is a gap before its first word. -/
theorem IsWord.gap_ne_nil (h : IsWord word) (hstart : StartsBlank (gap ++ (word ++ rest))) :
    gap ≠ [] := by
  rintro rfl
  obtain ⟨c, more, rfl⟩ := List.exists_cons_of_ne_nil h.1
  have hblank : Text.isBlank c = true := hstart c rfl
  rw [h.not_isBlank c List.mem_cons_self] at hblank
  cases hblank

/-! ### The words of a text -/

theorem words_nil : words [] = [] := rfl

/-- Blanks before a text are in no word. -/
theorem words_gap_append (h : AllBlank gap) : words (gap ++ cs) = words cs := by
  induction gap with
  | nil => rfl
  | cons c rest ih =>
    obtain ⟨hc, hrest⟩ := List.forall_mem_cons.1 h
    rw [← ih hrest]
    unfold words
    rw [List.cons_append, Text.splitWhere_cons, if_pos hc]
    rfl

theorem words_eq_nil_of_allBlank (h : AllBlank cs) : words cs = [] := by
  rw [← List.append_nil cs, words_gap_append h, words_nil]

/-- **The first word of a text** goes up to a blank. -/
theorem words_word_append (hne : word ≠ []) (hword : ∀ c ∈ word, Text.isBlank c = false)
    (hrest : StartsBlank rest) : words (word ++ rest) = word :: words rest := by
  have hsingle : (Text.splitWhere Text.isBlank word).filter (fun piece => !piece.isEmpty) =
      [word] := by
    rw [Text.splitWhere_of_forall hword]
    simp [hne]
  cases rest with
  | nil =>
    rw [List.append_nil, words_nil]
    exact hsingle
  | cons c more =>
    have hc : Text.isBlank c = true := hrest c rfl
    -- the blank behind the word is the one that separates it from the others
    have hmore : words (c :: more) = words more := words_gap_append (allBlank_singleton hc)
    rw [hmore]
    unfold words
    rw [Text.splitWhere_append_cons _ _ hc, List.filter_append, hsingle]
    rfl

/-- A text has blanks only, or it is a gap that may be empty, a first word, and a rest. -/
theorem allBlank_or_exists_word (cs : List Char) :
    AllBlank cs ∨ ∃ gap word rest, cs = gap ++ (word ++ rest) ∧ AllBlank gap ∧ word ≠ [] ∧
      (∀ c ∈ word, Text.isBlank c = false) ∧ StartsBlank rest := by
  induction cs with
  | nil => exact Or.inl allBlank_nil
  | cons c cs ih =>
    -- a blank joins the gap, any other character the word, if they begin the rest
    cases hc : Text.isBlank c with
    | true =>
      rcases ih with hblank | ⟨gap, word, rest, rfl, hgap, hword⟩
      · exact Or.inl (List.forall_mem_cons.2 ⟨hc, hblank⟩)
      · exact Or.inr ⟨c :: gap, word, rest, rfl, List.forall_mem_cons.2 ⟨hc, hgap⟩, hword⟩
    | false =>
      have hone : ∀ d ∈ [c], Text.isBlank d = false := fun d hd => List.mem_singleton.1 hd ▸ hc
      refine Or.inr ?_
      rcases ih with hblank | ⟨gap, word, rest, rfl, hgap, hne, hword, hrest⟩
      · exact ⟨[], [c], cs, rfl, allBlank_nil, List.cons_ne_nil _ _, hone, hblank.startsBlank⟩
      · cases gap with
        | nil =>
          exact ⟨[], c :: word, rest, rfl, allBlank_nil, List.cons_ne_nil _ _,
            List.forall_mem_cons.2 ⟨hc, hword⟩, hrest⟩
        | cons d gap =>
          have hstart := IsGap.startsBlank_append ⟨List.cons_ne_nil d gap, hgap⟩ (word ++ rest)
          exact ⟨[], [c], _, rfl, allBlank_nil, List.cons_ne_nil _ _, hone, hstart⟩

/-- **A text that has words** is a gap, the first word, and a rest with the other words. -/
theorem exists_gap_word {others : List (List Char)} (h : words cs = word :: others) :
    ∃ gap rest, cs = gap ++ (word ++ rest) ∧ AllBlank gap ∧ word ≠ [] ∧ StartsBlank rest ∧
      words rest = others := by
  rcases allBlank_or_exists_word cs with hblank | ⟨gap, found, rest, rfl, hgap, hne, hfound, hrest⟩
  · rw [words_eq_nil_of_allBlank hblank] at h
    cases h
  · rw [words_gap_append hgap, words_word_append hne hfound hrest] at h
    obtain ⟨rfl, rfl⟩ := List.cons.inj h
    exact ⟨gap, rest, rfl, hgap, hne, hrest, rfl⟩

/-- A text without words has blanks only. -/
theorem allBlank_of_words_eq_nil (h : words cs = []) : AllBlank cs := by
  rcases allBlank_or_exists_word cs with hblank | ⟨gap, found, rest, rfl, hgap, hne, hfound, hrest⟩
  · exact hblank
  · rw [words_gap_append hgap, words_word_append hne hfound hrest] at h
    cases h

/-! ### Namings -/

/-- **A naming**: a name behind a gap, and perhaps a tag behind another one.  Blanks may follow. -/
inductive Naming : List Char → List Char → Option (List Char) → Prop
  /-- a name alone -/
  | name {gap name blanks : List Char} (hgap : IsGap gap) (hname : IsWord name)
      (hblanks : AllBlank blanks) : Naming (gap ++ (name ++ blanks)) name none
  /-- a name and a tag -/
  | tagged {gap name between tag blanks : List Char} (hgap : IsGap gap) (hname : IsWord name)
      (hbetween : IsGap between) (htag : IsWord tag) (hblanks : AllBlank blanks) :
      Naming (gap ++ (name ++ (between ++ (tag ++ blanks)))) name (some tag)

/-- The key that a naming stands for.  The tag of a tail means nothing. -/
def keyOf (isTail : Bool) (name : List Char) (tag? : Option (List Char)) : Key :=
  if isTail then .tail (String.ofList name)
  else .variant (String.ofList name) ((tag?.map String.ofList).getD defaultTag)

/-- The words of a naming are words. -/
theorem Naming.words_eq (h : Naming cs name tag?) :
    StartsBlank cs ∧ cs ≠ [] ∧ words cs = name :: tag?.toList ∧ IsWord name ∧
      ∀ tag ∈ tag?, IsWord tag := by
  cases h with
  | name hgap hname hblanks =>
    refine ⟨hgap.startsBlank_append _, by simp [hgap.1], ?_, hname, by simp⟩
    rw [words_gap_append hgap.2, words_word_append hname.1 hname.not_isBlank hblanks.startsBlank,
      words_eq_nil_of_allBlank hblanks]
    rfl
  | tagged hgap hname hbetween htag hblanks =>
    refine ⟨hgap.startsBlank_append _, by simp [hgap.1], ?_, hname, by simpa using htag⟩
    rw [words_gap_append hgap.2,
      words_word_append hname.1 hname.not_isBlank (hbetween.startsBlank_append _),
      words_gap_append hbetween.2,
      words_word_append htag.1 htag.not_isBlank hblanks.startsBlank,
      words_eq_nil_of_allBlank hblanks]
    rfl

/-- A text with one or two words, which begins with a blank, is a naming. -/
theorem naming_of_words_eq (hstart : StartsBlank cs) (hwords : words cs = name :: tag?.toList)
    (hword : ∀ word ∈ words cs, ∀ c ∈ word, Text.isWordChar c = true) : Naming cs name tag? := by
  rw [hwords] at hword
  obtain ⟨hnamechars, htagchars⟩ := List.forall_mem_cons.1 hword
  obtain ⟨gap, rest, rfl, hgap, hne, hrest, hothers⟩ := exists_gap_word hwords
  have hname : IsWord name := ⟨hne, hnamechars⟩
  have hgapne := hname.gap_ne_nil hstart
  cases tag? with
  | none => exact .name ⟨hgapne, hgap⟩ hname (allBlank_of_words_eq_nil hothers)
  | some tag =>
    obtain ⟨between, blanks, rfl, hbetween, htagne, -, hnone⟩ := exists_gap_word hothers
    have htag : IsWord tag := ⟨htagne, htagchars tag List.mem_cons_self⟩
    have hbetweenne := htag.gap_ne_nil hrest
    exact .tagged ⟨hgapne, hgap⟩ hname ⟨hbetweenne, hbetween⟩ htag (allBlank_of_words_eq_nil hnone)

/-- **A text is read as a naming** exactly if it is one. -/
theorem keyAfter?_eq_some_iff {isTail : Bool} :
    keyAfter? isTail cs = some key ↔
      ∃ name tag?, Naming cs name tag? ∧ keyOf isTail name tag? = key := by
  constructor
  · intro h
    cases cs with
    | nil => cases h
    | cons c rest =>
      unfold keyAfter? at h
      dsimp only at h
      -- what follows the mark is refused unless it begins with a blank and all of its words are
      -- plain
      by_cases hrefused : (!Text.isBlank c ||
          !(words (c :: rest)).all fun word => word.all Text.isWordChar) = true
      · rw [if_pos hrefused] at h
        cases h
      rw [if_neg hrefused] at h
      obtain ⟨hc, hwords⟩ : Text.isBlank c = true ∧
          ∀ word ∈ words (c :: rest), ∀ d ∈ word, Text.isWordChar d = true := by
        simpa using hrefused
      have hstart : StartsBlank (c :: rest) := fun d hd => Option.some.inj hd ▸ hc
      split at h
      · next name hname =>
        exact ⟨name, none, naming_of_words_eq hstart hname hwords, Option.some.inj h⟩
      · next name tag htag =>
        exact ⟨name, some tag, naming_of_words_eq hstart htag hwords, Option.some.inj h⟩
      · cases h
  · rintro ⟨name, tag?, hnaming, rfl⟩
    obtain ⟨hstart, hne, hwords, hname, htag⟩ := hnaming.words_eq
    obtain ⟨c, rest, rfl⟩ := List.exists_cons_of_ne_nil hne
    have hc : Text.isBlank c = true := hstart c rfl
    have hall : ∀ word ∈ words (c :: rest), ∀ d ∈ word, Text.isWordChar d = true := by
      rw [hwords]
      refine List.forall_mem_cons.2 ⟨hname.2, fun word hword => (htag word ?_).2⟩
      exact Option.mem_toList.1 hword
    have haccepted : ¬ (!Text.isBlank c ||
        !(words (c :: rest)).all fun word => word.all Text.isWordChar) = true := by
      simpa [hc] using hall
    unfold keyAfter?
    dsimp only
    rw [if_neg haccepted, hwords]
    cases tag? <;> rfl

/-- **A marker line**: the mark and a naming behind it.  Between `//@tail` and the name of a tail
there is a gap, so a line is not a marker in two ways. -/
inductive IsMarker : String → Key → Prop
  /-- the marker of a variant -/
  | variant {line : String} {naming name : List Char} {tag? : Option (List Char)}
      (hline : line.toList = '/' :: '/' :: '@' :: naming) (h : Naming naming name tag?) :
      IsMarker line (keyOf false name tag?)
  /-- the marker of a tail -/
  | tail {line : String} {naming name : List Char} {tag? : Option (List Char)}
      (hline : line.toList = '/' :: '/' :: '@' :: 't' :: 'a' :: 'i' :: 'l' :: naming)
      (h : Naming naming name tag?) : IsMarker line (keyOf true name tag?)

/-- **A line is read as a marker** exactly if it is one. -/
theorem marker?_eq_some_iff : marker? line = some key ↔ IsMarker line key := by
  unfold marker?
  constructor
  · intro h
    split at h
    · next naming hline =>
      obtain ⟨name, tag?, hnaming, rfl⟩ := keyAfter?_eq_some_iff.1 h
      exact .tail hline hnaming
    · next naming _ hline =>
      obtain ⟨name, tag?, hnaming, rfl⟩ := keyAfter?_eq_some_iff.1 h
      exact .variant hline hnaming
    · cases h
  · intro h
    cases h with
    | variant hline hnaming =>
      -- the naming begins with a blank and not like `tail`
      obtain ⟨hstart, -⟩ := hnaming.words_eq
      rw [hline]
      split
      · next rest hrest =>
        obtain rfl : _ = 't' :: 'a' :: 'i' :: 'l' :: rest := by simpa using hrest
        exact absurd (hstart 't' rfl) (by decide)
      · next rest _ hrest =>
        obtain rfl : _ = rest := by simpa using hrest
        exact keyAfter?_eq_some_iff.2 ⟨_, _, hnaming, rfl⟩
      · next hnone => exact absurd rfl (hnone _)
    | tail hline hnaming =>
      rw [hline]
      exact keyAfter?_eq_some_iff.2 ⟨_, _, hnaming, rfl⟩

/-- A line without a key is no marker. -/
theorem marker?_eq_none_iff : marker? line = none ↔ ∀ key, ¬ IsMarker line key := by
  rw [Option.eq_none_iff_forall_ne_some]
  exact forall_congr' fun key => not_congr marker?_eq_some_iff

end CustomBuild.Fragment
