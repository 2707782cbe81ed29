import CustomBuild.Text.Blank
import Mathlib.Data.List.Infix
import Mathlib.Tactic.Common
import Mathlib.Tactic.SplitIfs

/-!
# Laws of texts

A mark occurs in a text exactly if the text has it as an infix (`contains_iff_isInfix`), and a text
has all of its lines (`isInfix_unlines`).  A separator cuts the pieces of a text in two
(`splitWhere_append_cons`), so a comma does so with the parts of a list (`commaParts_append`), and
the first equals sign with a directive (`cut_append`, `eq_of_cut`).  Pieces without separators that
are joined by one come out again (`splitWhere_intercalate`), and there are no others
(`not_separator_of_mem_splitWhere`).

Texts have an order, and what is sorted by a text stands in it (`pairwise_mergeSort_le`).
-/

namespace CustomBuild.Text

/-! ### Occurrences -/

theorem occurs_iff_isInfix {mark cs : List Char} : occurs mark cs = true ↔ mark <:+: cs := by
  induction cs with
  | nil => rw [occurs, List.isEmpty_iff, List.infix_nil]
  | cons c rest ih =>
    rw [occurs, Bool.or_eq_true, List.isPrefixOf_iff_prefix, ih, List.infix_cons_iff]

/-- **A mark occurs in a text** as consecutive characters. -/
theorem contains_iff_isInfix {text mark : String} :
    contains text mark = true ↔ mark.toList <:+: text.toList :=
  occurs_iff_isInfix

theorem contains_iff_exists {text mark : String} :
    contains text mark = true ↔ ∃ front back, text = front ++ mark ++ back := by
  rw [contains_iff_isInfix]
  constructor
  · rintro ⟨front, back, heq⟩
    refine ⟨String.ofList front, String.ofList back, String.toList_inj.1 ?_⟩
    simp [← heq]
  · rintro ⟨front, back, rfl⟩
    exact ⟨front.toList, back.toList, by simp⟩

/-- **A text that is cut at a mark** is what stands before, the mark, and what stands after. -/
theorem eq_of_cut?_eq_some {mark before after cs : List Char}
    (h : cut? mark cs = some (before, after)) : cs = before ++ (mark ++ after) := by
  induction cs generalizing before with
  | nil =>
    rw [cut?] at h
    split_ifs at h with hmark
    cases h
    rw [List.isEmpty_iff.1 hmark]
    rfl
  | cons c rest ih =>
    rw [cut?] at h
    split_ifs at h with hmark
    · cases h
      exact List.prefix_append_drop (List.isPrefixOf_iff_prefix.1 hmark)
    · obtain ⟨⟨front, back⟩, hrest, heq⟩ := Option.map_eq_some_iff.1 h
      cases heq
      rw [List.cons_append, ← ih hrest]

/-- What stands after a mark ends the text. -/
theorem suffix_of_cut? {mark before after cs : List Char}
    (h : cut? mark cs = some (before, after)) : after <:+ cs :=
  ⟨before ++ mark, by rw [eq_of_cut?_eq_some h, List.append_assoc]⟩

/-- A text is cut at a mark unless the mark does not occur. -/
theorem cut?_eq_none_iff {mark cs : List Char} : cut? mark cs = none ↔ ¬ mark <:+: cs := by
  rw [← occurs_iff_isInfix]
  induction cs with
  | nil =>
    rw [cut?, occurs]
    split_ifs with h <;> simp [h]
  | cons c rest ih =>
    rw [cut?, occurs]
    split_ifs with h
    · simp [h]
    · rw [Option.map_eq_none_iff, ih, Bool.eq_false_iff.2 h, Bool.false_or]

theorem isInfix_intercalate {α : Type} {separator piece : List α} {pieces : List (List α)}
    (h : piece ∈ pieces) : piece <:+: List.intercalate separator pieces := by
  induction pieces with
  | nil => cases h
  | cons first rest ih =>
    cases rest with
    | nil =>
      obtain rfl := List.mem_singleton.1 h
      simp [List.intercalate]
    | cons second rest =>
      rw [List.intercalate_cons_cons]
      rcases List.mem_cons.1 h with rfl | hrest
      · exact ⟨[], separator ++ List.intercalate separator (second :: rest), by simp⟩
      · exact (ih hrest).trans ⟨first ++ separator, [], by simp⟩

/-- What stands between two texts occurs in the whole. -/
theorem isInfix_between (before inner after : String) :
    inner.toList <:+: (before ++ inner ++ after).toList := by
  refine ⟨before.toList, after.toList, ?_⟩
  rw [String.toList_append, String.toList_append]

/-- **Lines** occur in the text that is made of them. -/
theorem isInfix_unlines {line : String} {lines : List String} (h : line ∈ lines) :
    line.toList <:+: (unlines lines).toList := by
  rw [unlines, String.toList_intercalate]
  exact isInfix_intercalate (List.mem_map.2 ⟨line, h, rfl⟩)

/-! ### Beginnings -/

theorem beginsWith_append (start rest : String) : beginsWith (start ++ rest) start = true := by
  rw [beginsWith, List.isPrefixOf_iff_prefix, String.toList_append]
  exact List.prefix_append _ _

theorem beginsWith_of_beginsWith {text start front : String} (h : beginsWith text start = true)
    (hstart : beginsWith start front = true) : beginsWith text front = true := by
  rw [beginsWith, List.isPrefixOf_iff_prefix] at *
  exact hstart.trans h

/-- A text that begins with another goes on after it. -/
theorem exists_of_beginsWith {text start : String} (h : beginsWith text start = true) :
    ∃ rest, text = start ++ rest := by
  rw [beginsWith, List.isPrefixOf_iff_prefix] at h
  obtain ⟨rest, hrest⟩ := h
  refine ⟨String.ofList rest, String.toList_inj.1 ?_⟩
  rw [String.toList_append, String.toList_ofList, hrest]

theorem beginsWith_eq_false_iff {text start : String} :
    beginsWith text start = false ↔ ∀ rest, text ≠ start ++ rest := by
  rw [← Bool.not_eq_true]
  constructor
  · rintro h rest rfl
    exact h (beginsWith_append start rest)
  · intro h hbegins
    obtain ⟨rest, hrest⟩ := exists_of_beginsWith hbegins
    exact h rest hrest

/-- The first character of a text does not depend on what follows the text. -/
theorem beginsWith_singleton_append {text : String} (c : Char) (h : text ≠ "") (rest : String) :
    beginsWith (text ++ rest) (String.singleton c) = beginsWith text (String.singleton c) := by
  unfold beginsWith
  rw [String.toList_append, String.toList_singleton]
  cases hcs : text.toList with
  | nil => exact absurd (String.toList_eq_nil_iff.1 hcs) h
  | cons first more =>
    rw [List.cons_append, List.isPrefixOf_cons_cons, List.isPrefixOf_cons_cons]
    rfl

/-! ### Pieces -/

section Pieces

variable {isSeparator : Char → Bool} {separator : Char} {cs : List Char} {pieces : List (List Char)}

theorem splitWhere_cons (isSeparator : Char → Bool) (c : Char) (cs : List Char) :
    splitWhere isSeparator (c :: cs) =
      if isSeparator c then [] :: splitWhere isSeparator cs
      else match splitWhere isSeparator cs with
        | [] => [[c]]
        | piece :: rest => (c :: piece) :: rest := rfl

/-- **A separator** cuts the pieces of a text in two. -/
theorem splitWhere_append_cons (before after : List Char) (h : isSeparator separator = true) :
    splitWhere isSeparator (before ++ separator :: after) =
      splitWhere isSeparator before ++ splitWhere isSeparator after := by
  induction before with
  | nil =>
    rw [List.nil_append, splitWhere_cons, if_pos h]
    rfl
  | cons c rest ih =>
    rw [List.cons_append, splitWhere_cons, ih, splitWhere_cons]
    split_ifs with hc
    · rfl
    · cases hpieces : splitWhere isSeparator rest with
      | nil => exact absurd hpieces (splitWhere_ne_nil _ rest)
      | cons piece more => rfl

/-- A text without separators is one piece. -/
theorem splitWhere_of_forall (h : ∀ c ∈ cs, isSeparator c = false) :
    splitWhere isSeparator cs = [cs] := by
  induction cs with
  | nil => rfl
  | cons c rest ih =>
    obtain ⟨hc, hrest⟩ := List.forall_mem_cons.1 h
    rw [splitWhere_cons, ih hrest, if_neg (by simp [hc])]

/-- **Pieces without separators** that are joined by one come out again. -/
theorem splitWhere_intercalate (hseparator : isSeparator separator = true) (hne : pieces ≠ [])
    (h : ∀ piece ∈ pieces, ∀ c ∈ piece, isSeparator c = false) :
    splitWhere isSeparator (List.intercalate [separator] pieces) = pieces := by
  induction pieces with
  | nil => exact absurd rfl hne
  | cons piece rest ih =>
    obtain ⟨hpiece, hrest⟩ := List.forall_mem_cons.1 h
    cases rest with
    | nil => rw [List.intercalate_singleton, splitWhere_of_forall hpiece]
    | cons other rest =>
      rw [List.intercalate_cons_cons, List.append_assoc, List.singleton_append,
        splitWhere_append_cons _ _ hseparator, splitWhere_of_forall hpiece,
        ih (List.cons_ne_nil _ _) hrest]
      rfl

/-- No piece has a separator. -/
theorem not_separator_of_mem_splitWhere {piece : List Char}
    (h : piece ∈ splitWhere isSeparator cs) : ∀ c ∈ piece, isSeparator c = false := by
  -- a separator begins a new piece, any other character joins the piece that follows it
  induction cs generalizing piece with
  | nil =>
    rw [List.mem_singleton.1 h]
    exact fun c hc => absurd hc List.not_mem_nil
  | cons first rest ih =>
    rw [splitWhere_cons] at h
    split_ifs at h with hfirst
    · rcases List.mem_cons.1 h with rfl | h
      · exact fun c hc => absurd hc List.not_mem_nil
      · exact ih h
    · cases hpieces : splitWhere isSeparator rest with
      | nil => exact absurd hpieces (splitWhere_ne_nil _ rest)
      | cons head more =>
        rw [hpieces] at h ih
        rcases List.mem_cons.1 h with rfl | h
        · exact List.forall_mem_cons.2 ⟨by simpa using hfirst, ih List.mem_cons_self⟩
        · exact ih (List.mem_cons_of_mem _ h)

end Pieces

/-- **A comma** cuts the parts of a list in two. -/
theorem commaParts_append (first second : String) :
    commaParts (first ++ "," ++ second) = commaParts first ++ commaParts second := by
  unfold commaParts
  have htext : (first ++ "," ++ second).toList = first.toList ++ ',' :: second.toList := by
    rw [String.toList_append, String.toList_append, List.append_assoc]
    rfl
  rw [htext, splitWhere_append_cons _ _ (by rfl), List.map_append, List.filterMap_append]

theorem cut?_append_cons {mark : Char} {before : List Char} (after : List Char)
    (h : mark ∉ before) : cut? [mark] (before ++ mark :: after) = some (before, after) := by
  induction before with
  | nil => simp [cut?]
  | cons c rest ih =>
    obtain ⟨hne, hrest⟩ : mark ≠ c ∧ mark ∉ rest := by simpa using h
    have hprefix : [mark].isPrefixOf (c :: (rest ++ mark :: after)) = false := by
      rw [List.isPrefixOf_cons_cons, beq_false_of_ne hne, Bool.false_and]
    rw [List.cons_append, cut?, hprefix, if_neg Bool.false_ne_true, ih hrest]
    rfl

/-- **The first mark** in a text is where it is cut. -/
theorem cut_append {mark : Char} {before : String} (after : String)
    (h : mark ∉ before.toList) :
    cut mark (before ++ String.singleton mark ++ after) = (before, true, after) := by
  unfold cut
  have htext : (before ++ String.singleton mark ++ after).toList =
      before.toList ++ mark :: after.toList := by
    rw [String.toList_append, String.toList_append, List.append_assoc]
    simp
  rw [htext, cut?_append_cons _ h]
  simp

/-- **A text that is cut** is what stands before the mark, the mark, and what stands after it. -/
theorem eq_of_cut {mark : Char} {text before after : String}
    (h : cut mark text = (before, true, after)) :
    text = before ++ String.singleton mark ++ after := by
  unfold cut at h
  split at h
  · next front back hcut =>
    cases h
    apply String.toList_inj.1
    rw [String.toList_append, String.toList_append, String.toList_ofList, String.toList_ofList,
      eq_of_cut?_eq_some hcut, List.append_assoc]
    simp
  · cases h

/-! ### Order -/

/-- **Values that are sorted by a text** of theirs stand in the order of these texts. -/
theorem pairwise_mergeSort_le {α : Type} (text : α → String) (values : List α) :
    (values.mergeSort fun a b => decide (text a ≤ text b)).Pairwise fun a b => text a ≤ text b := by
  refine (List.pairwise_mergeSort ?_ ?_ values).imp of_decide_eq_true
  · intro a b c hab hbc
    exact decide_eq_true (String.le_trans (of_decide_eq_true hab) (of_decide_eq_true hbc))
  · intro a b
    rw [Bool.or_eq_true, decide_eq_true_eq, decide_eq_true_eq]
    exact String.le_total (text a) (text b)

end CustomBuild.Text
