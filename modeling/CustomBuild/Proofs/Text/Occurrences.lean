import CustomBuild.Proofs.Text.Basic

/-!
# Occurrences of a mark

A text is cut at the first place where the mark stands (`cut?_eq_some_iff`).  That is the end of a
text after which the mark is written, unless the mark has come before, be it with its last character
only (`cut?_append`).

Occurrences are counted from the left and without overlap: there is one more than behind the first
of them (`occurrencesAfter_of_cut?`), so there is exactly one if the mark does not come again behind
the first (`occurrencesAfter_eq_one_iff`).  A character that the mark does not have keeps apart what
stands on its two sides (`occurrencesAfter_append_cons`).
-/

namespace CustomBuild.Text

variable {mark before after cs : List Char}

/-- **A text is cut where a mark is written**, if nothing of the text before it ends the mark
earlier. -/
theorem cut?_append (hmark : mark ≠ []) (h : ¬ mark <:+: before ++ mark.dropLast)
    (after : List Char) : cut? mark (before ++ (mark ++ after)) = some (before, after) := by
  induction before with
  | nil =>
    obtain ⟨c, rest, rfl⟩ := List.exists_cons_of_ne_nil hmark
    have hbegins : (c :: rest).isPrefixOf (c :: (rest ++ after)) = true :=
      List.isPrefixOf_iff_prefix.2 ⟨after, rfl⟩
    rw [List.nil_append, List.cons_append, cut?, if_pos hbegins]
    simp
  | cons c rest ih =>
    have hrest : ¬ mark <:+: rest ++ mark.dropLast := fun hfound =>
      h (hfound.trans (List.suffix_cons c _).isInfix)
    -- a mark that begins here would end with the first characters of the written one, or before
    have hbegins : ¬ mark <+: c :: (rest ++ (mark ++ after)) := by
      intro hbegins
      have hfront : c :: (rest ++ mark.dropLast) <+: c :: (rest ++ (mark ++ after)) := by
        refine List.cons_prefix_cons.2 ⟨rfl, (List.prefix_append_right_inj rest).2 ?_⟩
        exact (List.dropLast_prefix mark).trans (List.prefix_append mark after)
      have hlength : mark.length ≤ (c :: (rest ++ mark.dropLast)).length := by
        rw [List.length_cons, List.length_append, List.length_dropLast]
        omega
      exact h (List.prefix_of_prefix_length_le hbegins hfront hlength).isInfix
    rw [List.cons_append, cut?, if_neg (mt List.isPrefixOf_iff_prefix.1 hbegins), ih hrest]
    rfl

/-- No mark begins before the one at which a text is cut. -/
theorem length_le_of_cut? {front back : List Char} (h : cut? mark cs = some (before, after))
    (hcs : cs = front ++ (mark ++ back)) : before.length ≤ front.length := by
  induction cs generalizing before front with
  | nil =>
    rw [cut?] at h
    split_ifs at h
    cases h
    exact Nat.zero_le _
  | cons c rest ih =>
    rw [cut?] at h
    split_ifs at h with hbegins
    · cases h
      exact Nat.zero_le _
    · obtain ⟨⟨first, second⟩, hrest, heq⟩ := Option.map_eq_some_iff.1 h
      cases heq
      cases front with
      | nil => exact absurd (List.isPrefixOf_iff_prefix.2 ⟨back, hcs.symm⟩) hbegins
      | cons d front => exact Nat.succ_le_succ (ih hrest (List.cons.inj hcs).2)

/-- **A text is cut at its first mark.** -/
theorem cut?_eq_some_iff :
    cut? mark cs = some (before, after) ↔
      cs = before ++ (mark ++ after) ∧
        ∀ front back, cs = front ++ (mark ++ back) → before.length ≤ front.length := by
  constructor
  · exact fun h => ⟨eq_of_cut?_eq_some h, fun _ _ => length_le_of_cut? h⟩
  · rintro ⟨hcs, hfirst⟩
    have hmark : mark <:+: cs := ⟨before, after, by rw [hcs, List.append_assoc]⟩
    cases hcut : cut? mark cs with
    | none => exact absurd hmark (cut?_eq_none_iff.1 hcut)
    | some parts =>
      obtain ⟨front, back⟩ := parts
      -- both begin first, so they begin at one place
      have hparts : cs = front ++ (mark ++ back) := eq_of_cut?_eq_some hcut
      have hlength : front.length = before.length :=
        Nat.le_antisymm (length_le_of_cut? hcut hcs) (hfirst _ _ hparts)
      obtain ⟨hbefore, hrest⟩ := List.append_inj (hparts.symm.trans hcs) hlength
      rw [← hbefore, ← (List.append_right_inj mark).1 hrest]

/-- The mark is not in what stands before its first place. -/
theorem not_isInfix_of_cut? (hmark : mark ≠ []) (h : cut? mark cs = some (before, after)) :
    ¬ mark <:+: before := by
  rintro ⟨front, back, rfl⟩
  have hcs := eq_of_cut?_eq_some h
  rw [List.append_assoc, List.append_assoc] at hcs
  have hle := length_le_of_cut? h hcs
  have hpos : 0 < mark.length := List.length_pos_iff.2 hmark
  rw [List.length_append, List.length_append] at hle
  omega

/-! ### Counting -/

theorem occurrencesAfter_eq_drop (mark : List Char) (skip : ℕ) (cs : List Char) :
    occurrencesAfter mark skip cs = occurrencesAfter mark 0 (cs.drop skip) := by
  induction cs generalizing skip with
  | nil => cases skip <;> rfl
  | cons c rest ih =>
    cases skip with
    | zero => rfl
    | succ skip => exact ih skip

/-- **There is one occurrence more** than behind the first one. -/
theorem occurrencesAfter_of_cut? (hmark : mark ≠ []) (h : cut? mark cs = some (before, after)) :
    occurrencesAfter mark 0 cs = 1 + occurrencesAfter mark 0 after := by
  induction cs generalizing before with
  | nil =>
    rw [cut?, if_neg (mt List.isEmpty_iff.1 hmark)] at h
    cases h
  | cons c rest ih =>
    -- both look for the mark at each place from the first one on
    rw [cut?] at h
    rw [occurrencesAfter]
    split_ifs at h ⊢ with hbegins
    · -- the mark begins here, and its other characters are used up
      have hdrop : after = rest.drop (mark.length - 1) := by
        have hlength : mark.length = mark.length - 1 + 1 :=
          (Nat.succ_pred_eq_of_pos (List.length_pos_iff.2 hmark)).symm
        have hafter : (c :: rest).drop mark.length = after := (Prod.mk.inj (Option.some.inj h)).2
        rw [← hafter, hlength]
        rfl
      rw [occurrencesAfter_eq_drop, hdrop]
    · obtain ⟨⟨front, back⟩, hrest, heq⟩ := Option.map_eq_some_iff.1 h
      have hback : back = after := (Prod.mk.inj heq).2
      exact ih (hback ▸ hrest)

/-- There is no occurrence in a text that is not cut. -/
theorem occurrencesAfter_of_cut?_eq_none (h : cut? mark cs = none) :
    occurrencesAfter mark 0 cs = 0 := by
  induction cs with
  | nil => rfl
  | cons c rest ih =>
    rw [cut?] at h
    rw [occurrencesAfter]
    split_ifs at h ⊢ with hbegins
    exact ih (Option.map_eq_none_iff.1 h)

/-- **There is no occurrence** exactly if the text does not have the mark. -/
theorem occurrencesAfter_eq_zero_iff (hmark : mark ≠ []) :
    occurrencesAfter mark 0 cs = 0 ↔ ¬ mark <:+: cs := by
  rw [← cut?_eq_none_iff]
  cases hcut : cut? mark cs with
  | none => exact iff_of_true (occurrencesAfter_of_cut?_eq_none hcut) rfl
  | some parts =>
    obtain ⟨front, back⟩ := parts
    rw [occurrencesAfter_of_cut? hmark hcut]
    exact iff_of_false (by omega) (Option.some_ne_none _)

/-- **There is one occurrence** exactly if the mark does not come again behind the first. -/
theorem occurrencesAfter_eq_one_iff (hmark : mark ≠ []) :
    occurrencesAfter mark 0 cs = 1 ↔
      ∃ before after, cut? mark cs = some (before, after) ∧ ¬ mark <:+: after := by
  cases hcut : cut? mark cs with
  | none =>
    rw [occurrencesAfter_of_cut?_eq_none hcut]
    exact iff_of_false Nat.zero_ne_one fun ⟨_, _, hsome, _⟩ => nomatch hsome
  | some parts =>
    obtain ⟨front, back⟩ := parts
    have hone : occurrencesAfter mark 0 cs = 1 ↔ ¬ mark <:+: back := by
      rw [occurrencesAfter_of_cut? hmark hcut, ← occurrencesAfter_eq_zero_iff hmark]
      omega
    rw [hone]
    constructor
    · exact fun h => ⟨front, back, rfl, h⟩
    · rintro ⟨before, after, heq, h⟩
      cases heq
      exact h

/-- A mark that begins a text ends before a character that it does not have. -/
theorem prefix_append_cons_iff {c : Char} (hc : c ∉ mark) (front rest : List Char) :
    mark <+: front ++ c :: rest ↔ mark <+: front := by
  refine ⟨fun h => ?_, fun h => h.trans (List.prefix_append _ _)⟩
  rcases List.prefix_or_prefix_of_prefix h (List.prefix_append front _) with h | ⟨more, rfl⟩
  · exact h
  · cases more with
    | nil => rw [List.append_nil]
    | cons other more =>
      obtain ⟨rfl, -⟩ := List.cons_prefix_cons.1 ((List.prefix_append_right_inj front).1 h)
      exact absurd (List.mem_append_right _ List.mem_cons_self) hc

/-- **A character that the mark does not have** keeps the occurrences on its two sides apart. -/
theorem occurrencesAfter_append_cons {c : Char} (hmark : mark ≠ []) (hc : c ∉ mark)
    {skip : ℕ} {front : List Char} (hskip : skip ≤ front.length) (rest : List Char) :
    occurrencesAfter mark skip (front ++ c :: rest) =
      occurrencesAfter mark skip front + occurrencesAfter mark 0 rest := by
  -- a mark that begins in the front ends there, as it does not have the character
  have hprefix (front : List Char) :
      mark.isPrefixOf (front ++ c :: rest) = mark.isPrefixOf front := by
    rw [Bool.eq_iff_iff, List.isPrefixOf_iff_prefix, List.isPrefixOf_iff_prefix]
    exact prefix_append_cons_iff hc front rest
  induction front generalizing skip with
  | nil =>
    obtain rfl : skip = 0 := Nat.le_zero.1 hskip
    have hnot : ¬ mark.isPrefixOf (c :: rest) = true := by
      rw [← List.nil_append (c :: rest), hprefix, List.isPrefixOf_iff_prefix, List.prefix_nil]
      exact hmark
    have hskipped : occurrencesAfter mark 0 (c :: rest) = occurrencesAfter mark 0 rest :=
      if_neg hnot
    rw [List.nil_append, hskipped, occurrencesAfter, Nat.zero_add]
  | cons d front ih =>
    cases skip with
    | succ skip => exact ih (Nat.le_of_succ_le_succ hskip)
    | zero =>
      have hbegins := hprefix (d :: front)
      rw [List.cons_append] at hbegins ⊢
      rw [occurrencesAfter, occurrencesAfter, hbegins]
      split_ifs with h
      · -- the mark ends within the front, and so does what it uses up
        have hlength := (List.isPrefixOf_iff_prefix.1 h).length_le
        rw [List.length_cons] at hlength
        rw [ih (by omega), Nat.add_assoc]
      · exact ih (Nat.zero_le _)

/-! ### Occurrences in texts -/

section Texts

variable {m : String}

/-- The mark does not occur exactly if the text does not have it. -/
theorem occurrences_eq_zero_iff (hmark : m ≠ "") {text : String} :
    occurrences m text = 0 ↔ contains text m = false := by
  rw [occurrences, occurrencesAfter_eq_zero_iff (mt String.toList_eq_nil_iff.1 hmark),
    ← contains_iff_isInfix, Bool.not_eq_true]

/-- **A line feed** that the mark does not have keeps the occurrences on its two sides apart. -/
theorem occurrences_append_feed (hmark : m ≠ "") (hfeed : '\n' ∉ m.toList) (front rest : String) :
    occurrences m (front ++ "\n" ++ rest) = occurrences m front + occurrences m rest := by
  have htext : (front ++ "\n" ++ rest).toList = front.toList ++ '\n' :: rest.toList := by
    rw [String.toList_append, String.toList_append, List.append_assoc]
    rfl
  rw [occurrences, htext, occurrencesAfter_append_cons (mt String.toList_eq_nil_iff.1 hmark) hfeed
    (Nat.zero_le _)]
  rfl

end Texts

end CustomBuild.Text
