import CustomBuild.Proofs.Text.Lines
import CustomBuild.Text.LineBreak
import CustomBuild.Text.WordChar

/-!
# Blanks, words and line boundaries

Every line boundary is a blank (`isBlank_of_isLineBreak`), and no blank is a word character
(`isWordChar_of_isBlank`).

Lines without boundaries that are made into a text come out again when the text is cut at every
boundary, except for an empty one at the end (`breakLines_unlines`).  The other way round, no line
that a text is cut into has a boundary (`not_isLineBreak_of_mem_breakLines`).

A line of a text begins with a mark exactly if the mark stands at the start of the text or behind a
line feed (`HasLine`), so line feeds before the text and blanks after it make no difference
(`hasLine_feeds_append`, `hasLine_append_blanks`).
-/

namespace CustomBuild.Text

variable {isSeparator : Char → Bool} {separator c : Char} {cs mark line : List Char}
  {pieces : List (List Char)} {lines : List String} {text : String}

/-! ### Classes of characters -/

/-- The code points of the blanks. -/
def blankCodes : List Nat :=
  [9, 10, 11, 12, 13, 28, 29, 30, 31, 32, 0x85, 0xA0, 0x1680, 0x2000, 0x2001, 0x2002, 0x2003,
    0x2004, 0x2005, 0x2006, 0x2007, 0x2008, 0x2009, 0x200A, 0x2028, 0x2029, 0x202F, 0x205F, 0x3000]

/-- **Blanks** are told by their code points. -/
theorem mem_blankCodes_iff : c.toNat ∈ blankCodes ↔ isBlank c = true := by
  unfold isBlank
  simp only [blankCodes, List.mem_cons, List.not_mem_nil, or_false, Bool.or_eq_true,
    Bool.and_eq_true, decide_eq_true_eq, beq_iff_eq]
  omega

/-- **A blank is no word character.** -/
theorem isWordChar_of_isBlank (h : isBlank c = true) : isWordChar c = false := by
  have hcodes : ∀ code ∈ blankCodes, isWordChar (Char.ofNat code) = false := by decide +kernel
  have hc := hcodes c.toNat (mem_blankCodes_iff.2 h)
  rwa [Char.ofNat_toNat] at hc

theorem isBlank_of_isWordChar (h : isWordChar c = true) : isBlank c = false := by
  cases hblank : isBlank c with
  | false => rfl
  | true =>
    rw [isWordChar_of_isBlank hblank] at h
    cases h

/-- **A line boundary is a blank.** -/
theorem isBlank_of_isLineBreak (h : isLineBreak c = true) : isBlank c = true := by
  unfold isLineBreak at h
  unfold isBlank
  simp only [Bool.or_eq_true, Bool.and_eq_true, decide_eq_true_eq, beq_iff_eq] at h ⊢
  omega

/-! ### Joined texts -/

/-- What a joined text has is in a piece or in the separator. -/
theorem mem_of_mem_intercalate {separators : List Char}
    (h : c ∈ List.intercalate separators pieces) :
    c ∈ separators ∨ ∃ piece ∈ pieces, c ∈ piece := by
  induction pieces with
  | nil => cases h
  | cons piece rest ih =>
    cases rest with
    | nil =>
      rw [List.intercalate_singleton] at h
      exact Or.inr ⟨piece, List.mem_cons_self, h⟩
    | cons other rest =>
      rw [List.intercalate_cons_cons] at h
      rcases List.mem_append.1 h with h | h
      · rcases List.mem_append.1 h with h | h
        · exact Or.inr ⟨piece, List.mem_cons_self, h⟩
        · exact Or.inl h
      · rcases ih h with h | ⟨found, hfound, h⟩
        · exact Or.inl h
        · exact Or.inr ⟨found, List.mem_cons_of_mem _ hfound, h⟩

/-! ### Lines at every boundary -/

theorem not_mem_uniformNewlines (cs : List Char) : '\r' ∉ uniformNewlines cs := by
  fun_induction uniformNewlines cs with
  | case1 cs ih => simpa using ih
  | case2 cs hfeed ih => simpa using ih
  | case3 c cs hfeed hreturn ih =>
    rw [List.mem_cons, not_or]
    exact ⟨fun heq => hreturn heq.symm, ih⟩
  | case4 => exact List.not_mem_nil

theorem joinReturns_of_not_mem (h : '\r' ∉ cs) : joinReturns cs = cs := by
  induction cs with
  | nil => rfl
  | cons c rest ih =>
    rw [List.mem_cons, not_or] at h
    rw [joinReturns, ih h.2]
    rintro more rfl
    exact absurd rfl h.1

/-- **Lines without boundaries** come out again, except for an empty one at the end. -/
theorem breakLines_unlines (h : ∀ line ∈ lines, ∀ c ∈ line.toList, isLineBreak c = false) :
    breakLines (unlines lines) = if lines.getLast? = some "" then lines.dropLast else lines := by
  by_cases hne : lines = []
  · rw [hne]
    rfl
  have hpieces : ∀ piece ∈ lines.map String.toList, ∀ c ∈ piece, isLineBreak c = false := by
    intro piece hpiece
    obtain ⟨line, hline, rfl⟩ := List.mem_map.1 hpiece
    exact h line hline
  -- no line has a boundary, so the text is split where the lines were joined
  have hsplit : splitWhere isLineBreak (unlines lines).toList = lines.map String.toList := by
    rw [unlines, String.toList_intercalate]
    exact splitWhere_intercalate rfl (mt List.map_eq_nil_iff.1 hne) hpieces
  have hreturn : '\r' ∉ (unlines lines).toList := by
    intro hmem
    rw [unlines, String.toList_intercalate] at hmem
    rcases mem_of_mem_intercalate hmem with hfeed | ⟨piece, hpiece, hmem⟩
    · exact absurd hfeed (by decide)
    · exact absurd (hpieces piece hpiece _ hmem) (by decide)
  have hlast : (lines.map String.toList).getLast? = some [] ↔ lines.getLast? = some "" := by
    rw [List.getLast?_map, Option.map_eq_some_iff]
    constructor
    · rintro ⟨line, hline, hempty⟩
      rwa [String.toList_eq_nil_iff.1 hempty] at hline
    · exact fun hline => ⟨"", hline, rfl⟩
  unfold breakLines
  rw [joinReturns_of_not_mem hreturn, hsplit]
  simp only [hlast]
  split_ifs
  · rw [← List.map_dropLast, List.map_map]
    simp
  · rw [List.map_map]
    simp

/-- **A line that a text is cut into** has no line boundary. -/
theorem not_isLineBreak_of_mem_breakLines {line : String} (h : line ∈ breakLines text) :
    ∀ c ∈ line.toList, isLineBreak c = false := by
  unfold breakLines at h
  obtain ⟨piece, hpiece, rfl⟩ := List.mem_map.1 h
  rw [String.toList_ofList]
  have hmem : piece ∈ splitWhere isLineBreak (joinReturns text.toList) := by
    split_ifs at hpiece
    · exact List.mem_of_mem_dropLast hpiece
    · exact hpiece
  exact not_separator_of_mem_splitWhere hmem

/-! ### Lines with a mark -/

/-- **A line of the text begins with the mark**: the mark stands at the start of the text or behind
a line feed. -/
def HasLine (mark cs : List Char) : Prop :=
  mark <+: cs ∨ '\n' :: mark <:+: cs

/-- What is behind the first line feed is a text of its own. -/
theorem feed_isInfix_append (hline : '\n' ∉ line) :
    '\n' :: mark <:+: line ++ '\n' :: cs ↔ HasLine mark cs := by
  induction line with
  | nil =>
    rw [List.nil_append, List.infix_cons_iff, List.cons_prefix_cons]
    exact or_congr_left (and_iff_right rfl)
  | cons c rest ih =>
    rw [List.mem_cons, not_or] at hline
    rw [List.cons_append, List.infix_cons_iff, List.cons_prefix_cons, ih hline.2]
    exact or_iff_right fun h => hline.1 h.1

/-- A text of one line. -/
theorem hasLine_of_not_mem (hline : '\n' ∉ line) : HasLine mark line ↔ mark <+: line :=
  or_iff_left fun h => hline (h.subset List.mem_cons_self)

section Mark

variable (hmark : ∀ c ∈ mark, isBlank c = false) (hne : mark ≠ [])

include hmark hne

/-- A mark does not reach into blanks. -/
theorem prefix_append_blank_iff {rest : List Char} (hrest : ∀ c ∈ rest.head?, isBlank c = true) :
    mark <+: line ++ rest ↔ mark <+: line := by
  refine ⟨fun h => ?_, fun h => h.trans (List.prefix_append _ _)⟩
  rcases List.prefix_or_prefix_of_prefix h (List.prefix_append line _) with h | ⟨more, rfl⟩
  · exact h
  · have hmore := (List.prefix_append_right_inj line).1 h
    cases more with
    | nil => rw [List.append_nil]
    | cons first more =>
      -- otherwise the mark would have the first of the blanks
      obtain ⟨tail, rfl⟩ := hmore
      have hblank := hrest first rfl
      rw [hmark first (List.mem_append_right _ List.mem_cons_self)] at hblank
      cases hblank

/-- The first line of a text, and the others. -/
theorem hasLine_append_feed (hline : '\n' ∉ line) :
    HasLine mark (line ++ '\n' :: cs) ↔ mark <+: line ∨ HasLine mark cs := by
  have hfeed : ∀ c ∈ ('\n' :: cs).head?, isBlank c = true := by
    rintro c hc
    cases hc
    rfl
  have hstart : mark <+: line ++ '\n' :: cs ↔ mark <+: line :=
    prefix_append_blank_iff hmark hne hfeed
  exact or_congr hstart (feed_isInfix_append hline)

/-- **A line of a joined text begins with the mark** if one of the lines does. -/
theorem hasLine_intercalate (hpieces : ∀ piece ∈ pieces, '\n' ∉ piece) :
    HasLine mark (List.intercalate ['\n'] pieces) ↔ ∃ piece ∈ pieces, mark <+: piece := by
  induction pieces with
  | nil =>
    have hempty : HasLine mark [] ↔ mark <+: [] := hasLine_of_not_mem List.not_mem_nil
    rw [List.intercalate_nil, hempty, List.prefix_nil]
    simp [hne]
  | cons piece rest ih =>
    obtain ⟨hpiece, hrest⟩ := List.forall_mem_cons.1 hpieces
    cases rest with
    | nil =>
      rw [List.intercalate_singleton, hasLine_of_not_mem hpiece]
      simp
    | cons other rest =>
      rw [List.intercalate_cons_cons, List.append_assoc, List.singleton_append,
        hasLine_append_feed hmark hne hpiece, ih hrest]
      exact (List.exists_mem_cons_iff _ _ _).symm

/-- Line feeds before a text make no difference. -/
theorem hasLine_feeds_append {feeds : List Char} (hfeeds : ∀ c ∈ feeds, c = '\n') :
    HasLine mark (feeds ++ cs) ↔ HasLine mark cs := by
  induction feeds with
  | nil => rfl
  | cons c rest ih =>
    obtain ⟨rfl, hrest⟩ := List.forall_mem_cons.1 hfeeds
    have hfirst : HasLine mark ([] ++ '\n' :: (rest ++ cs)) ↔
        mark <+: [] ∨ HasLine mark (rest ++ cs) :=
      hasLine_append_feed hmark hne List.not_mem_nil
    rw [List.cons_append, ← List.nil_append ('\n' :: (rest ++ cs)), hfirst, ih hrest,
      List.prefix_nil]
    exact or_iff_right hne

/-- Blanks behind a text make no difference. -/
theorem hasLine_append_blanks {blanks : List Char} (hblanks : ∀ c ∈ blanks, isBlank c = true) :
    HasLine mark (cs ++ blanks) ↔ HasLine mark cs := by
  have hhead : ∀ c ∈ blanks.head?, isBlank c = true := fun c hc =>
    hblanks c (List.mem_of_mem_head? hc)
  -- a mark in the blanks would be made of blanks
  have hnone : ¬ '\n' :: mark <:+: blanks := by
    intro h
    obtain ⟨c, hc⟩ := List.exists_mem_of_ne_nil mark hne
    have hblank := hblanks c (h.subset (List.mem_cons_of_mem _ hc))
    rw [hmark c hc] at hblank
    cases hblank
  have hinfix : '\n' :: mark <:+: cs ++ blanks ↔ '\n' :: mark <:+: cs := by
    induction cs with
    | nil => simp [hnone]
    | cons c rest ih =>
      rw [List.cons_append, List.infix_cons_iff, List.infix_cons_iff, ih, List.cons_prefix_cons,
        List.cons_prefix_cons, prefix_append_blank_iff hmark hne hhead]
  exact or_congr (prefix_append_blank_iff hmark hne hhead) hinfix

end Mark

end CustomBuild.Text
