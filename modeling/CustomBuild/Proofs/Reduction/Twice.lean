import CustomBuild.Proofs.Reduction.LineCount
import CustomBuild.Proofs.Reduction.Normal
import CustomBuild.Proofs.Reduction.Program

/-!
# Stripping twice

When a stripped text is stripped once more, a second scanner goes over the lines that the first one
has kept.  While the first one is in a banner the second one is not outside comments
(`second_ne_code`), so each line of a banner is kept again; of the other lines, only uncovered texts
may be lost.  So the kept lines are in normal form exactly if no line leaves a comment
(`isNormal_keptOf_iff`).

The final line feed is a case of its own.  Inside a banner the empty line behind it is kept, and the
text grows each time it is stripped (`strip_eq_self_iff`).  This happens to texts that end inside a
banner, or where a banner was uncovered (`eq_banner_of_second`).

Together this says which texts need no second stripping (`strip_strip_eq_iff`).
-/

namespace CustomBuild.Strip

variable {state : State} {line : List Char} {lines : List (List Char)} {source : String}

/-! ### The second scanner -/

/-- A line without the end of a comment leads nowhere, in a comment or a banner. -/
theorem scanLine_fst_of_not_isInfix (hend : ¬ commentEnd <:+: Text.trimChars line)
    (hstate : state ≠ .code) : (scanLine state line).1 = state := by
  unfold scanLine
  cases state with
  | code => exact absurd rfl hstate
  | comment =>
    simp only
    rw [Text.cut?_eq_none_iff.2 hend]
  | banner =>
    simp only
    rw [if_neg (mt Text.occurs_iff_isInfix.1 hend)]

/-- Where a banner begins, the second scanner does not stand outside comments after it. -/
theorem Outcome.second_ne_code {scanned : State × Option (List Char)} {text? : Option (List Char)}
    (h : Outcome scanned text?) (hnext : scanned.1 = .banner) (state : State) :
    (scanLines state scanned.2.toList).2 ≠ .code := by
  cases h with
  | dropped hne => exact absurd hnext hne
  | uncovered htrimmed => cases hnext
  | plain htrimmed hne hline hblock => cases hnext
  | @banner rest htrimmed =>
    -- a banner that is open after its line does not end in it
    have hopen : ¬ Text.occurs commentEnd rest = true := by
      intro hend
      simp only [if_pos hend] at hnext
      cases hnext
    have hend : ¬ commentEnd <:+: Text.trimChars ('/' :: '*' :: '!' :: rest) := by
      rw [htrimmed]
      simpa [commentEnd, List.infix_cons_iff, ← Text.occurs_iff_isInfix] using hopen
    have hlast : (scanLines state (some ('/' :: '*' :: '!' :: rest)).toList).2 =
        (scanLine state ('/' :: '*' :: '!' :: rest)).1 := rfl
    rw [hlast]
    by_cases hstate : state = .code
    · rw [hstate]
      unfold scanLine scanCode
      simp only [htrimmed]
      simp [hopen]
    · rw [scanLine_fst_of_not_isInfix hend hstate]
      exact hstate

/-- **In a banner the second scanner is not outside comments.** -/
theorem second_ne_code (lines : List (List Char)) (h : (scanLines .code lines).2 = .banner) :
    (scanLines .code (keptOf lines)).2 ≠ .code := by
  induction lines using List.reverseRecOn with
  | nil => cases h
  | append_singleton lines line ih =>
    rw [scanLines_concat_snd] at h
    rw [keptOf_concat, scanLines_append]
    -- the banner was there before the last line, or begins with it
    by_cases hstate : (scanLines .code lines).2 = .banner
    · -- a line of the banner, which does not end in it
      rw [hstate] at h ⊢
      have hend : ¬ commentEnd <:+: Text.trimChars (Text.trimChars line) := by
        intro hend
        rw [Text.trimChars_trimChars] at hend
        unfold scanLine at h
        simp only [if_pos (Text.occurs_iff_isInfix.2 hend)] at h
        cases h
      have hlast := scanLine_fst_of_not_isInfix hend (ih hstate)
      exact fun heq => ih hstate (hlast.symm.trans heq)
    · exact (outcome_scanLine hstate line).second_ne_code h _

theorem State.eq_banner (hcode : state ≠ .code) (hcomment : state ≠ .comment) :
    state = .banner := by
  cases state with
  | code => exact absurd rfl hcode
  | comment => exact absurd rfl hcomment
  | banner => rfl

/-- **Over normal lines the second scanner is in a banner with the first one.** -/
theorem second_eq_banner (hnormal : IsNormal .code (keptOf lines))
    (h : (scanLines .code lines).2 = .banner) : (scanLines .code (keptOf lines)).2 = .banner :=
  State.eq_banner (second_ne_code lines h) (hnormal.ne_comment (by decide))

/-- A kept line at the end is empty in a banner only. -/
theorem eq_banner_of_getLast? (h : (keptOf lines).getLast? = some []) :
    (scanLines .code lines).2 = .banner := by
  induction lines using List.reverseRecOn with
  | nil => cases h
  | append_singleton lines line ih =>
    rw [keptOf_concat] at h
    rw [scanLines_concat_snd]
    by_cases hstate : (scanLines .code lines).2 = .banner
    · rw [hstate] at h ⊢
      have hempty : Text.trimChars line = [] := by
        have hlast : (keptOf lines ++ [Text.trimChars line]).getLast? = some [] := h
        rw [List.getLast?_concat] at hlast
        exact Option.some.inj hlast
      unfold scanLine
      simp only [hempty]
      rfl
    · -- outside a banner no empty line is kept
      have hkept := (outcome_scanLine hstate line).kept_ne_nil
      cases hline : (scanLine (scanLines .code lines).2 line).2 with
      | none =>
        rw [hline, Option.toList_none, List.append_nil] at h
        exact absurd (ih h) hstate
      | some kept =>
        rw [hline, Option.toList_some, List.getLast?_concat] at h
        rw [hline, h] at hkept
        exact absurd rfl hkept

/-- The first kept line is not empty, outside banners. -/
theorem head?_scanLines_ne (hstate : state ≠ .banner) (lines : List (List Char)) :
    (scanLines state lines).1.head? ≠ some [] := by
  induction lines generalizing state with
  | nil => nofun
  | cons line rest ih =>
    have houtcome := outcome_scanLine hstate line
    have hkept := houtcome.kept_ne_nil
    rw [scanLines_cons]
    cases hline : (scanLine state line).2 with
    | none =>
      rw [Option.toList_none, List.nil_append]
      exact ih (houtcome.next_ne_banner hline)
    | some kept =>
      rw [hline] at hkept
      exact hkept

/-- What is kept has no more characters than there were. -/
theorem length_flatten_scanLines_le (state : State) (lines : List (List Char)) :
    (scanLines state lines).1.flatten.length ≤ lines.flatten.length := by
  induction lines generalizing state with
  | nil => exact Nat.le_refl 0
  | cons line rest ih =>
    have hrest := ih (scanLine state line).1
    rw [scanLines_cons, List.flatten_append, List.flatten_cons, List.length_append,
      List.length_append]
    cases hline : (scanLine state line).2 with
    | none =>
      rw [Option.toList_none, List.flatten_nil, List.length_nil]
      omega
    | some kept =>
      have hkept := (isInfix_of_scanLine hline).length_le
      rw [Option.toList_some, List.flatten_singleton]
      omega

/-- **No line is lost and replaced by an empty one** at the end, in a banner. -/
theorem ne_banner_of_append_eq (h : (scanLines state lines).1 ++ [[]] = lines) :
    (scanLines state lines).2 ≠ .banner := by
  induction lines generalizing state with
  | nil => cases h
  | cons line rest ih =>
    rw [scanLines_cons] at h ⊢
    cases hline : (scanLine state line).2 with
    | some kept =>
      rw [hline, Option.toList_some, List.singleton_append, List.cons_append] at h
      exact ih (List.cons.inj h).2
    | none =>
      have hstate : state ≠ .banner := by
        rintro rfl
        cases hline
      have hnext := (outcome_scanLine hstate line).next_ne_banner hline
      rw [hline, Option.toList_none, List.nil_append] at h
      -- the line is lost, so it is the first of the others, or the empty one at the end
      cases hkept : (scanLines (scanLine state line).1 rest).1 with
      | nil =>
        rw [hkept, List.nil_append] at h
        rw [← (List.cons.inj h).2]
        exact hnext
      | cons first more =>
        have hfirst := head?_scanLines_ne hnext rest
        have hlength := length_flatten_scanLines_le (scanLine state line).1 rest
        have hcount := congrArg (fun lines => lines.flatten.length) h
        rw [hkept, List.cons_append] at h
        obtain ⟨rfl, -⟩ := List.cons.inj h
        simp only [List.flatten_append, List.flatten_cons, List.flatten_nil, List.length_append,
          List.length_nil] at hcount
        have hempty : first = [] := List.length_eq_zero_iff.1 (by omega)
        rw [hkept, hempty] at hfirst
        exact absurd rfl hfirst

/-! ### Uncovered comments -/

/-- Some line of a list is of a kind, which may depend on the lines before it. -/
def HasLineWith (p : List (List Char) → List Char → Prop) (lines : List (List Char)) : Prop :=
  ∃ n, ∃ h : n < lines.length, p (lines.take n) lines[n]

theorem hasLineWith_concat {p : List (List Char) → List Char → Prop} :
    HasLineWith p (lines ++ [line]) ↔ HasLineWith p lines ∨ p lines line := by
  constructor
  · rintro ⟨n, hn, hp⟩
    rcases Nat.lt_or_ge n lines.length with hlt | hge
    · rw [List.take_append_of_le_length hlt.le, List.getElem_append_left hlt] at hp
      exact Or.inl ⟨n, hlt, hp⟩
    · have hlength : n = lines.length := by
        rw [List.length_append, List.length_singleton] at hn
        omega
      subst hlength
      rw [List.take_left, List.getElem_concat_length rfl] at hp
      exact Or.inr hp
  · rintro (⟨n, hn, hp⟩ | hp)
    · refine ⟨n, by rw [List.length_append]; omega, ?_⟩
      rwa [List.take_append_of_le_length hn.le, List.getElem_append_left hn]
    · refine ⟨lines.length, by simp, ?_⟩
      rwa [List.take_left, List.getElem_concat_length rfl]

/-- **A line leaves a comment**: the scanner uncovers a text that begins like a comment that is
dropped, and the second scanner does not stand in a banner there. -/
def LeavesComment (front : List (List Char)) (line : List Char) : Prop :=
  (scanLines .code (keptOf front)).2 ≠ .banner ∧
    ∃ rest ∈ uncovered? (scanLines .code front).2 line, BeginsDropped rest

/-- **What is kept of lines is in normal form** exactly if none of them leaves a comment. -/
theorem isNormal_keptOf_iff (lines : List (List Char)) :
    IsNormal .code (keptOf lines) ↔ ¬ HasLineWith LeavesComment lines := by
  induction lines using List.reverseRecOn with
  | nil => exact iff_of_true trivial fun h => nomatch h.choose_spec.choose
  | append_singleton lines line ih =>
    rw [keptOf_concat, isNormal_append, hasLineWith_concat, not_or, ih]
    refine and_congr_right fun hnone => ?_
    have hcomment := (ih.2 hnone).ne_comment (by decide)
    unfold LeavesComment
    by_cases hstate : (scanLines .code lines).2 = .banner
    · -- a line of a banner is kept trimmed, and the second scanner keeps it for the same reason
      rw [hstate, second_eq_banner (ih.2 hnone) hstate]
      refine iff_of_true (isNormal_singleton.2 ?_) fun h => h.1 rfl
      exact congrArg some (Text.trimChars_trimChars line)
    · have hkept := (outcome_scanLine hstate line).isNormal_iff hcomment
      refine hkept.trans ?_
      simp only [not_and, not_exists]

/-- **A line uncovers a comment**, or a banner. -/
def UncoversComment (front : List (List Char)) (line : List Char) : Prop :=
  ∃ rest ∈ uncovered? (scanLines .code front).2 line, ['/', '/'] <+: rest ∨ ['/', '*'] <+: rest

/-- What is left of a comment was uncovered. -/
theorem UncoversComment.of_leaves {front : List (List Char)} (h : LeavesComment front line) :
    UncoversComment front line := by
  obtain ⟨-, rest, hrest, hdropped⟩ := h
  exact ⟨rest, hrest, hdropped.imp_right And.left⟩

/-- Only a line that begins like a block comment begins a banner. -/
theorem isPrefix_of_scanCode (h : (scanCode line).1 = .banner) : ['/', '*'] <+: line := by
  unfold scanCode at h
  split at h
  · cases h
  split at h
  · next hbanner =>
    obtain ⟨rest, rfl⟩ := List.isPrefixOf_iff_prefix.1 hbanner
    exact ⟨'!' :: rest, rfl⟩
  split at h
  · next hblock => exact List.isPrefixOf_iff_prefix.1 hblock
  · cases h

/-- Outside comments the second scanner comes to a banner with the first one, if no banner is
uncovered. -/
theorem Outcome.eq_banner {scanned : State × Option (List Char)} {text? : Option (List Char)}
    (h : Outcome scanned text?) (hnone : ∀ rest ∈ text?, ¬ ['/', '*'] <+: rest)
    (hsecond : (scanLines .code scanned.2.toList).2 = .banner) : scanned.1 = .banner := by
  have hstart : ∀ {line : List Char}, Text.trimChars line = line →
      (scanLines .code [line]).2 = .banner → (scanCode line).1 = .banner := by
    intro line htrimmed hbanner
    rw [← htrimmed]
    exact hbanner
  cases h with
  | dropped hnext => cases hsecond
  | @uncovered rest htrimmed =>
    by_cases hempty : rest.isEmpty = true
    · simp only [if_pos hempty] at hsecond
      cases hsecond
    · simp only [if_neg hempty] at hsecond
      exact absurd (isPrefix_of_scanCode (hstart htrimmed hsecond)) (hnone rest rfl)
  | plain htrimmed hne hline hblock =>
    exact absurd (isPrefix_of_scanCode (hstart htrimmed hsecond)) hblock
  | banner htrimmed => exact hstart htrimmed hsecond

/-- **The second scanner is in a banner with the first one**, if no comment is uncovered. -/
theorem eq_banner_of_second (hnone : ¬ HasLineWith UncoversComment lines)
    (h : (scanLines .code (keptOf lines)).2 = .banner) : (scanLines .code lines).2 = .banner := by
  induction lines using List.reverseRecOn with
  | nil => cases h
  | append_singleton lines line ih =>
    rw [hasLineWith_concat, not_or] at hnone
    have hnormal : IsNormal .code (keptOf lines) := by
      refine (isNormal_keptOf_iff lines).2 ?_
      rintro ⟨n, hn, hleaves⟩
      exact hnone.1 ⟨n, hn, .of_leaves hleaves⟩
    -- the first scanner has dropped the comments, so the second one is in none
    have hcomment := hnormal.ne_comment (by decide)
    rw [keptOf_concat, scanLines_append] at h
    rw [scanLines_concat_snd]
    by_cases hstate : (scanLines .code lines).2 = .banner
    · rw [hstate, second_eq_banner hnormal hstate] at h
      rw [hstate, ← scanLine_congr (Text.trimChars_trimChars line)]
      exact h
    · have hsecond : (scanLines .code (keptOf lines)).2 = .code := by
        cases hagain : (scanLines .code (keptOf lines)).2 with
        | code => rfl
        | comment => exact absurd hagain hcomment
        | banner => exact absurd (ih hnone.1 hagain) hstate
      rw [hsecond] at h
      refine (outcome_scanLine hstate line).eq_banner (fun rest hrest hblock => ?_) h
      exact hnone.2 ⟨rest, hrest, Or.inr hblock⟩

/-! ### Texts -/

/-- The second scanner stands at the end of the stripped text where it stands after the kept
lines. -/
theorem endsInBanner_strip_iff :
    EndsInBanner (strip source) ↔ (scanLines .code (keptLines source)).2 = .banner := by
  unfold EndsInBanner
  by_cases hkept : keptLines source = []
  · unfold strip
    rw [hkept]
    split_ifs <;> exact iff_of_false (by decide) (by decide)
  · by_cases hend : Text.endsWith source "\n" = true
    · rw [charLines_strip hkept hend, scanLines_concat_snd, scanLine_nil]
    · rw [charLines_strip_of_not hkept hend]

theorem endsWith_strip (h : Text.endsWith source "\n" = true) :
    Text.endsWith (strip source) "\n" = true := by
  unfold strip
  rw [if_pos h, Text.endsWith, List.isSuffixOf_iff_suffix, String.toList_append]
  exact List.suffix_append _ _

/-- The lines of a stripped text, of which there is always one. -/
theorem charLines_strip_eq (source : String) :
    Text.charLines (strip source) = (if keptLines source = [] then [[]] else keptLines source) ++
      if Text.endsWith source "\n" = true then [[]] else [] := by
  by_cases hkept : keptLines source = []
  · rw [if_pos hkept]
    unfold strip
    rw [hkept]
    split_ifs <;> rfl
  · rw [if_neg hkept]
    split_ifs with hend
    · exact charLines_strip hkept hend
    · rw [charLines_strip_of_not hkept hend, List.append_nil]

/-- Lines of which the first is not empty are left if they are kept. -/
theorem ite_nil_eq_iff (hhead : lines.head? ≠ some []) (hne : lines ≠ [])
    (front : List (List Char)) :
    (if front = [] then [[]] else front) = lines ↔ front = lines := by
  split_ifs with hempty
  · rw [hempty]
    refine iff_of_false ?_ (Ne.symm hne)
    rintro rfl
    exact hhead rfl
  · rfl

/-- **A text with a final line feed** is stripped already if the lines before it are in normal form
and do not lead into a banner. -/
theorem strip_eq_self_iff {text : String} (hlines : Text.charLines text = lines ++ [[]])
    (hend : Text.endsWith text "\n" = true) (hhead : lines.head? ≠ some []) (hne : lines ≠ []) :
    strip text = text ↔ IsNormal .code lines ∧ (scanLines .code lines).2 ≠ .banner := by
  have hkept : keptLines text =
      keptOf lines ++ if (scanLines .code lines).2 = .banner then [[]] else [] := by
    rw [keptLines_eq, hlines, keptOf_concat, scanLine_nil]
    split_ifs <;> rfl
  have htext : strip text = text ↔ keptLines text = lines := by
    rw [← ite_nil_eq_iff hhead hne, ← List.append_left_inj [[]], ← hlines]
    have hstrip := charLines_strip_eq text
    rw [if_pos hend] at hstrip
    rw [← hstrip]
    exact ⟨congrArg _, Text.charLines_injective⟩
  rw [htext, hkept, ← scanLines_eq_self_iff]
  split_ifs with hbanner
  · exact iff_of_false (fun h => ne_banner_of_append_eq h hbanner) fun h => h.2 hbanner
  · rw [List.append_nil]
    exact (and_iff_left hbanner).symm

/-- A text without one is stripped already if its lines are in normal form. -/
theorem strip_eq_self_iff_of_not {text : String} (hend : ¬ Text.endsWith text "\n" = true)
    (hhead : (Text.charLines text).head? ≠ some []) :
    strip text = text ↔ IsNormal .code (Text.charLines text) := by
  have hstrip := charLines_strip_eq text
  rw [if_neg hend, List.append_nil] at hstrip
  rw [← scanLines_eq_self_iff, ← ite_nil_eq_iff hhead (Text.charLines_ne_nil text)]
  have hkept : (scanLines .code (Text.charLines text)).1 = keptLines text := rfl
  rw [hkept, ← hstrip]
  exact ⟨congrArg _, Text.charLines_injective⟩

/-- If the kept lines end with an empty line, the second scanner stands in a banner before it, or
the lines before it are not in normal form. -/
theorem eq_banner_of_isNormal {front : List (List Char)} (hlines : keptOf lines = front ++ [[]])
    (hnormal : IsNormal .code front) : (scanLines .code front).2 = .banner := by
  have hcode : (scanLines .code (keptOf lines)).2 ≠ .code := by
    refine second_ne_code lines (eq_banner_of_getLast? ?_)
    rw [hlines, List.getLast?_concat]
  rw [hlines, scanLines_concat_snd, scanLine_nil] at hcode
  exact State.eq_banner hcode (hnormal.ne_comment (by decide))

/-- **Stripping a stripped text** changes nothing exactly if the kept lines are in normal form, and
the text does not end with a line feed inside a banner. -/
theorem strip_strip_eq_iff_isNormal :
    strip (strip source) = strip source ↔
      IsNormal .code (keptLines source) ∧
        ¬ (Text.endsWith (strip source) "\n" = true ∧ EndsInBanner (strip source)) := by
  rw [endsInBanner_strip_iff]
  by_cases hkept : keptLines source = []
  · -- nothing is left but a final line feed
    have hrest : strip source = "\n" ∨ strip source = "" := by
      unfold strip
      rw [hkept]
      split_ifs
      · exact Or.inl rfl
      · exact Or.inr rfl
    rw [hkept]
    refine iff_of_true ?_ ⟨trivial, fun h => nomatch h.2⟩
    rcases hrest with h | h <;> rw [h] <;> decide
  have hhead : (keptLines source).head? ≠ some [] :=
    head?_scanLines_ne (by decide) (Text.charLines source)
  by_cases hend : Text.endsWith source "\n" = true
  · rw [strip_eq_self_iff (charLines_strip hkept hend) (endsWith_strip hend) hhead hkept]
    exact and_congr_right fun _ => not_congr (and_iff_right (endsWith_strip hend)).symm
  have hlines := charLines_strip_of_not hkept hend
  by_cases hfinal : Text.endsWith (strip source) "\n" = true
  · -- the last kept line is empty
    obtain ⟨front, hne, hfront⟩ := exists_charLines_eq hfinal
    rw [hlines] at hfront
    have hstart : front.head? ≠ some [] := by
      rwa [hfront, List.head?_append_of_ne_nil front hne] at hhead
    rw [strip_eq_self_iff (hlines.trans hfront) hfinal hstart hne, hfront]
    refine iff_of_false (fun h => h.2 (eq_banner_of_isNormal hfront h.1)) fun h => h.2 ?_
    obtain ⟨hnormal, -⟩ := isNormal_append.1 h.1
    refine ⟨hfinal, ?_⟩
    rw [scanLines_concat_snd, scanLine_nil]
    exact eq_banner_of_isNormal hfront hnormal
  · rw [strip_eq_self_iff_of_not hfinal (hlines ▸ hhead), hlines]
    exact (and_iff_left fun h => hfinal h.1).symm

/-! ### Terminated comments -/

/-- **Every block comment is terminated**: the reader of the program does not stand inside one at
the end. -/
def IsTerminated (source : String) : Prop :=
  (readLines .code (Text.charLines source)).2 ≠ .block

/-- In a banner the reader of the text stands inside a block comment. -/
theorem Agrees.eq_block {place place' : Place} (h : Agrees .banner place place') :
    place = .block := by
  cases h
  rfl

/-- A text with terminated comments does not end inside a banner, unless it is misread. -/
theorem IsTerminated.not_endsInBanner (h : IsTerminated source) (hread : ¬ Misreads source) :
    ¬ EndsInBanner source := by
  intro hbanner
  have hfeed : ∀ line ∈ Text.charLines source, '\n' ∉ line := fun _ =>
    Text.not_mem_of_mem_charLines
  obtain ⟨-, hagrees⟩ := follows_scanLines (.code (by decide)) hfeed
    fun n hn hstate hplace hline => hread ⟨n, hn, ⟨hstate, hplace⟩, hline⟩
  rw [EndsInBanner] at hbanner
  rw [hbanner] at hagrees
  exact h hagrees.eq_block

/-! ### Stripping twice -/

instance {front : List (List Char)} : Decidable (LeavesComment front line) :=
  inferInstanceAs (Decidable (_ ∧ _))

instance {front : List (List Char)} : Decidable (UncoversComment front line) :=
  inferInstanceAs (Decidable (∃ rest ∈ uncovered? (scanLines .code front).2 line, _))

instance {p : List (List Char) → List Char → Prop} [∀ front line, Decidable (p front line)] :
    Decidable (HasLineWith p lines) :=
  inferInstanceAs (Decidable (∃ n, ∃ _ : n < lines.length, _))

instance : Decidable (IsTerminated source) :=
  inferInstanceAs (Decidable (_ ≠ _))

/-- **Stripping twice** is stripping once exactly if no line leaves a comment, and the stripped text
does not end with a line feed inside a banner.

For a text of which every block comment is terminated, and which is not misread, it is enough that
no line uncovers a comment. -/
theorem strip_strip_eq_iff (source : String) :
    (strip (strip source) = strip source ↔
        ¬ HasLineWith LeavesComment (Text.charLines source) ∧
          ¬ (Text.endsWith (strip source) "\n" = true ∧ EndsInBanner (strip source))) ∧
      (IsTerminated source → ¬ Misreads source →
        ¬ HasLineWith UncoversComment (Text.charLines source) →
          strip (strip source) = strip source) := by
  have hiff : strip (strip source) = strip source ↔ _ := strip_strip_eq_iff_isNormal
  rw [keptLines_eq, isNormal_keptOf_iff] at hiff
  refine ⟨hiff, fun hterminated hread hnone => hiff.2 ⟨?_, fun h => ?_⟩⟩
  · rintro ⟨n, hn, hleaves⟩
    exact hnone ⟨n, hn, .of_leaves hleaves⟩
  · have hsecond := endsInBanner_strip_iff.1 h.2
    rw [keptLines_eq] at hsecond
    exact hterminated.not_endsInBanner hread (eq_banner_of_second hnone hsecond)

/-- Every line of the sample is stripped once and for all. -/
theorem commentedSource_strip_strip :
    IsTerminated commentedSource ∧ ¬ Misreads commentedSource ∧
      ¬ HasLineWith UncoversComment (Text.charLines commentedSource) ∧
      strip (strip commentedSource) = strip commentedSource := by
  have hterminated : IsTerminated commentedSource := by decide +kernel
  have hread : ¬ Misreads commentedSource := by decide +kernel
  have hnone : ¬ HasLineWith UncoversComment (Text.charLines commentedSource) := by decide +kernel
  exact ⟨hterminated, hread, hnone, (strip_strip_eq_iff commentedSource).2 hterminated hread hnone⟩

/-- **A line with two comments leaves the second one**, although its block comment is terminated:
stripping once more drops the line. -/
theorem two_comments_strip_strip :
    IsTerminated "/* a */ // b\n" ∧ strip "/* a */ // b\n" = "// b\n" ∧
      strip (strip "/* a */ // b\n") = "\n" := by
  refine ⟨by decide +kernel, by decide +kernel, by decide +kernel⟩

end CustomBuild.Strip
