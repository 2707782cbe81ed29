import CustomBuild.Proofs.Text.Basic
import CustomBuild.Text.Blank
import Mathlib.Data.List.DropRight

/-!
# Lines of a text

A line feed between two texts keeps their lines apart (`charLines_append`), so the lines of a text
that is put together from pieces are those of the pieces, one after the other
(`charLines_unlines`), with an empty one between any two that an empty line separates
(`charLines_intercalate`).  There is one line more than there are line feeds
(`length_charLines`).

Lines are lists of characters here, as the scanners have them; `mem_lines_iff` leads back to texts.
-/

namespace CustomBuild.Text

variable {text line : String} {chars blanks : List Char} {texts : List String}

/-- **The lines of a text** as lists of characters. -/
def charLines (text : String) : List (List Char) :=
  splitWhere (· == '\n') text.toList

theorem charLines_ne_nil (text : String) : charLines text ≠ [] :=
  splitWhere_ne_nil _ _

theorem mem_lines_iff : line ∈ lines text ↔ line.toList ∈ charLines text := by
  unfold lines charLines
  rw [List.mem_map]
  constructor
  · rintro ⟨chars, hchars, rfl⟩
    rwa [String.toList_ofList]
  · exact fun h => ⟨line.toList, h, String.ofList_toList⟩

/-- A text is known by its lines. -/
theorem charLines_injective {first second : String} (h : charLines first = charLines second) :
    first = second := by
  apply String.toList_inj.1
  unfold charLines at h
  rw [← intercalate_splitWhere '\n' first.toList, h, intercalate_splitWhere]

/-! ### Joined texts -/

/-- **A line feed** keeps the lines of two texts apart. -/
theorem charLines_append (before after : String) :
    charLines (before ++ "\n" ++ after) = charLines before ++ charLines after := by
  have hlist : (before ++ "\n" ++ after).toList = before.toList ++ '\n' :: after.toList := by
    rw [String.toList_append, String.toList_append, List.append_assoc]
    rfl
  unfold charLines
  rw [hlist]
  exact splitWhere_append_cons _ _ rfl

theorem charLines_empty : charLines "" = [[]] := rfl

/-- **The lines of texts** that are made the lines of one are their lines one after the other. -/
theorem charLines_unlines (h : texts ≠ []) :
    charLines (unlines texts) = texts.flatMap charLines := by
  unfold unlines
  induction texts with
  | nil => exact absurd rfl h
  | cons first rest ih =>
    cases rest with
    | nil => rw [String.intercalate_singleton, List.flatMap_singleton]
    | cons second rest =>
      rw [String.intercalate_cons_cons, charLines_append, ih (List.cons_ne_nil _ _)]
      rfl

/-- **Texts with an empty line between them** have their lines, and the empty ones. -/
theorem charLines_intercalate (h : texts ≠ []) :
    charLines ("\n\n".intercalate texts) = List.intercalate [[]] (texts.map charLines) := by
  induction texts with
  | nil => exact absurd rfl h
  | cons first rest ih =>
    cases rest with
    | nil =>
      rw [String.intercalate_singleton]
      simp [List.intercalate]
    | cons second rest =>
      have hsplit : first ++ "\n\n" ++ "\n\n".intercalate (second :: rest) =
          first ++ "\n" ++ "" ++ "\n" ++ "\n\n".intercalate (second :: rest) := by
        simp only [String.append_empty, String.append_assoc]
        rfl
      have ih := ih (List.cons_ne_nil _ _)
      rw [List.map_cons] at ih
      rw [String.intercalate_cons_cons, hsplit, charLines_append, charLines_append,
        charLines_empty, ih, List.map_cons, List.map_cons, List.intercalate_cons_cons]

/-! ### Line feeds -/

theorem charLines_of_not_mem (h : '\n' ∉ text.toList) : charLines text = [text.toList] :=
  splitWhere_of_forall fun _ hc => beq_eq_false_iff_ne.2 (ne_of_mem_of_not_mem hc h)

/-- A text without line feeds is a line of the text that it is made a line of. -/
theorem mem_lines_unlines (hline : line ∈ texts) (hfeed : '\n' ∉ line.toList) :
    line ∈ lines (unlines texts) := by
  rw [mem_lines_iff, charLines_unlines (List.ne_nil_of_mem hline)]
  refine List.mem_flatMap.2 ⟨line, hline, ?_⟩
  rw [charLines_of_not_mem hfeed]
  exact List.mem_singleton_self _

/-- A line has no line feed. -/
theorem not_mem_of_mem_charLines (h : chars ∈ charLines text) : '\n' ∉ chars :=
  fun hfeed => by cases not_separator_of_mem_splitWhere h _ hfeed

/-- Lines without line feeds are the lines of the text that is made of them. -/
theorem charLines_unlines_ofList {pieces : List (List Char)} (h : pieces ≠ [])
    (hfeed : ∀ piece ∈ pieces, '\n' ∉ piece) :
    charLines (unlines (pieces.map String.ofList)) = pieces := by
  have hpieces : (pieces.map String.ofList).map String.toList = pieces := by simp
  rw [charLines, unlines, String.toList_intercalate, hpieces]
  refine splitWhere_intercalate rfl h fun piece hpiece c hc => ?_
  exact beq_eq_false_iff_ne.2 (ne_of_mem_of_not_mem hc (hfeed piece hpiece))

/-- **Lines without line feeds** come out of the text that is made of them. -/
theorem lines_unlines (h : texts ≠ []) (hfeed : ∀ line ∈ texts, '\n' ∉ line.toList) :
    lines (unlines texts) = texts := by
  have htexts : (texts.map String.toList).map String.ofList = texts := by simp
  have hlines := charLines_unlines_ofList (mt List.map_eq_nil_iff.1 h) (List.forall_mem_map.2 hfeed)
  rw [htexts] at hlines
  exact (congrArg (List.map String.ofList) hlines).trans htexts

/-- **There is one line more** than there are line feeds. -/
theorem length_charLines (text : String) : (charLines text).length = lineFeeds text + 1 := by
  unfold charLines lineFeeds
  induction text.toList with
  | nil => rfl
  | cons c rest ih =>
    rw [splitWhere_cons]
    split_ifs with hc
    · rw [List.length_cons, ih, beq_iff_eq.1 hc, List.count_cons_self]
    · have hne : c ≠ '\n' := fun heq => hc (beq_iff_eq.2 heq)
      cases hpieces : splitWhere (· == '\n') rest with
      | nil => exact absurd hpieces (splitWhere_ne_nil _ rest)
      | cons piece more =>
        rw [hpieces, List.length_cons] at ih
        rw [List.length_cons, ih, List.count_cons_of_ne hne]

/-! ### Trimming -/

/-- Trimming leaves a first character that is no blank. -/
theorem trimChars_cons {first : Char} (hfirst : isBlank first = false) (rest : List Char) :
    ∃ trimmed, trimChars (first :: rest) = first :: trimmed := by
  have hdrop : (first :: rest).dropWhile isBlank = first :: rest :=
    List.dropWhile_cons_of_neg (by simp [hfirst])
  have htrimmed : trimChars (first :: rest) = (first :: rest).rdropWhile isBlank := by
    unfold trimChars
    rw [hdrop]
    rfl
  rw [htrimmed]
  cases hkept : (first :: rest).rdropWhile isBlank with
  | nil =>
    have hblank := List.rdropWhile_eq_nil_iff.1 hkept first List.mem_cons_self
    rw [hfirst] at hblank
    cases hblank
  | cons head trimmed =>
    have hfront : head :: trimmed <+: first :: rest := hkept ▸ List.rdropWhile_prefix _ _
    exact ⟨trimmed, by rw [(List.cons_prefix_cons.1 hfront).1]⟩

/-- Trimming leaves nothing of blanks. -/
theorem trimChars_eq_nil (h : ∀ c ∈ chars, isBlank c = true) : trimChars chars = [] := by
  unfold trimChars
  rw [List.dropWhile_eq_nil_iff.2 h]
  rfl

/-- Blanks behind a text are all that trimming takes off, if the text has none at its ends. -/
theorem trimChars_append_blank (hblanks : ∀ c ∈ blanks, isBlank c = true)
    (hfront : ∀ c ∈ chars.head?, isBlank c = false)
    (hback : ∀ c ∈ chars.getLast?, isBlank c = false) : trimChars (chars ++ blanks) = chars := by
  cases chars with
  | nil => exact trimChars_eq_nil hblanks
  | cons first rest =>
    have hstart : (first :: rest ++ blanks).dropWhile isBlank = first :: rest ++ blanks :=
      List.dropWhile_cons_of_neg (by simp [hfront first rfl])
    have hreversed : ∀ c ∈ blanks.reverse, isBlank c = true :=
      fun c hc => hblanks c (List.mem_reverse.1 hc)
    have hend : (first :: rest).reverse.dropWhile isBlank = (first :: rest).reverse := by
      cases hcs : (first :: rest).reverse with
      | nil => rfl
      | cons last more =>
        have hlast : isBlank last = false := hback last (by
          rw [Option.mem_def, ← List.head?_reverse, hcs, List.head?_cons])
        exact List.dropWhile_cons_of_neg (by simp [hlast])
    unfold trimChars dropEndWhile
    rw [hstart, List.reverse_append, List.dropWhile_append,
      List.dropWhile_eq_nil_iff.2 hreversed, List.isEmpty_nil, if_pos rfl, hend,
      List.reverse_reverse]

/-- A text without blanks at its ends is trimmed already. -/
theorem trimChars_eq_self (hfront : ∀ c ∈ chars.head?, isBlank c = false)
    (hback : ∀ c ∈ chars.getLast?, isBlank c = false) : trimChars chars = chars := by
  have h := @trimChars_append_blank chars [] (List.forall_mem_nil _) hfront hback
  rwa [List.append_nil] at h

/-- A text between two characters that are no blanks is trimmed already. -/
theorem trimChars_between {first last : Char} (inner : List Char) (hfirst : isBlank first = false)
    (hlast : isBlank last = false) :
    trimChars (first :: (inner ++ [last])) = first :: (inner ++ [last]) := by
  refine trimChars_eq_self (fun c hc => ?_) fun c hc => ?_
  · cases hc
    exact hfirst
  · rw [← List.cons_append, List.getLast?_append, List.getLast?_singleton] at hc
    cases hc
    exact hlast

/-- Trimming leaves no blank at the ends. -/
theorem isBlank_ends_trimChars (chars : List Char) :
    (∀ c ∈ (trimChars chars).head?, isBlank c = false) ∧
      ∀ c ∈ (trimChars chars).getLast?, isBlank c = false := by
  have htrimmed : trimChars chars = (chars.dropWhile isBlank).rdropWhile isBlank := rfl
  constructor
  · intro c hc
    obtain ⟨trail, htrail⟩ : trimChars chars <+: chars.dropWhile isBlank := by
      rw [htrimmed]
      exact List.rdropWhile_prefix _ _
    have hstart := List.head?_dropWhile_not isBlank chars
    rw [← htrail, List.head?_append, Option.mem_def.1 hc] at hstart
    simpa using hstart
  · intro c hc
    have hne : (chars.dropWhile isBlank).rdropWhile isBlank ≠ [] := by
      rw [← htrimmed]
      exact List.ne_nil_of_mem (List.mem_of_getLast? hc)
    have hend := List.rdropWhile_last_not _ _ hne
    rw [Option.mem_def, htrimmed, List.getLast?_eq_some_getLast hne, Option.some.injEq] at hc
    rw [← hc]
    simpa using hend

/-- Blanks before a text make no difference to trimming. -/
theorem trimChars_blank_append (h : ∀ c ∈ blanks, isBlank c = true) :
    trimChars (blanks ++ chars) = trimChars chars := by
  have hdrop : (blanks ++ chars).dropWhile isBlank = chars.dropWhile isBlank := by
    rw [List.dropWhile_append, List.dropWhile_eq_nil_iff.2 h]
    simp
  unfold trimChars
  rw [hdrop]

/-- Trimming takes blanks off both ends. -/
theorem exists_trimChars_eq (chars : List Char) :
    ∃ lead trail, chars = lead ++ (trimChars chars ++ trail) ∧
      (∀ c ∈ lead, isBlank c = true) ∧ ∀ c ∈ trail, isBlank c = true := by
  have htrimmed : trimChars chars = (chars.dropWhile isBlank).rdropWhile isBlank := rfl
  refine ⟨chars.takeWhile isBlank, (chars.dropWhile isBlank).rtakeWhile isBlank, ?_,
    fun c hc => List.mem_takeWhile_imp hc, fun c hc => List.mem_rtakeWhile_imp hc⟩
  rw [htrimmed, List.rdropWhile_append_rtakeWhile, List.takeWhile_append_dropWhile]

/-- What is left of a text after trimming occurs in it. -/
theorem trimChars_isInfix (chars : List Char) : trimChars chars <:+: chars :=
  (List.rdropWhile_prefix isBlank _).isInfix.trans (List.dropWhile_suffix isBlank).isInfix

/-- A trimmed text has nothing more to trim. -/
theorem trimChars_trimChars (chars : List Char) : trimChars (trimChars chars) = trimChars chars :=
  trimChars_eq_self (isBlank_ends_trimChars chars).1 (isBlank_ends_trimChars chars).2

end CustomBuild.Text
