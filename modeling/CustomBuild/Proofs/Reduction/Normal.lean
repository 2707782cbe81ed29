import CustomBuild.Proofs.Reduction.Strip

/-!
# Lines that stripping leaves as they are

Lines are in normal form if the scanner keeps each of them as it is (`IsNormal`), which is so
exactly if scanning them changes nothing (`scanLines_eq_self_iff`).

Outside banners one of four things becomes of a line (`Outcome`, `outcome_scanLine`): it is dropped,
it is kept, it begins a banner, or it begins with a block comment and what stands behind that is
kept.  In the last case the scanner uncovers a text that it does not look at again (`uncovered?`).
What is kept is trimmed and not empty, so it is kept again, unless it is an uncovered text that
begins like a comment (`Outcome.isNormal_iff`).
-/

namespace CustomBuild.Strip

variable {state : State} {line kept : List Char} {lines : List (List Char)}

/-! ### Normal lines -/

/-- **Lines in normal form**, for a scanner that starts in a given state: each is kept as it is. -/
def IsNormal : State → List (List Char) → Prop
  | _, [] => True
  | state, line :: rest =>
    (scanLine state line).2 = some line ∧ IsNormal (scanLine state line).1 rest

/-- **Lines are in normal form** exactly if scanning changes nothing. -/
theorem scanLines_eq_self_iff : (scanLines state lines).1 = lines ↔ IsNormal state lines := by
  induction lines generalizing state with
  | nil => exact iff_of_true rfl trivial
  | cons line rest ih =>
    rw [scanLines_cons, IsNormal, ← ih]
    cases hkept : (scanLine state line).2 with
    | none =>
      -- the line is dropped, so there are fewer kept lines than lines
      refine iff_of_false (fun heq => ?_) (fun h => nomatch h.1)
      have hlength := length_scanLines_le (scanLine state line).1 rest
      rw [Option.toList_none, List.nil_append] at heq
      rw [heq, List.length_cons] at hlength
      omega
    | some kept =>
      rw [Option.toList_some, List.singleton_append, List.cons.injEq, Option.some.injEq]

theorem isNormal_append {first second : List (List Char)} :
    IsNormal state (first ++ second) ↔
      IsNormal state first ∧ IsNormal (scanLines state first).2 second := by
  induction first generalizing state with
  | nil => exact (and_iff_right trivial).symm
  | cons line rest ih =>
    rw [List.cons_append, IsNormal, IsNormal, ih, and_assoc]
    rfl

theorem isNormal_singleton : IsNormal state [line] ↔ (scanLine state line).2 = some line :=
  and_iff_left trivial

/-! ### Lines outside banners -/

/-- The text begins like a comment that is dropped. -/
def BeginsDropped (cs : List Char) : Prop :=
  ['/', '/'] <+: cs ∨ (['/', '*'] <+: cs ∧ ¬ ['/', '*', '!'] <+: cs)

instance (cs : List Char) : Decidable (BeginsDropped cs) :=
  inferInstanceAs (Decidable (_ ∨ _))

/-- What stands behind the block comment that a line begins with, if the comment is dropped and ends
in the line. -/
def behindComment? (line : List Char) : Option (List Char) :=
  if ['/', '*'].isPrefixOf line && !(['/', '*', '!'].isPrefixOf line) then
    (Text.cut? commentEnd (line.drop 2)).map fun parts => Text.trimChars parts.2
  else none

/-- **What the scanner uncovers of a line**: the text behind a block comment that begins the line,
or that begins behind the end of the comment before it. -/
def uncovered? (state : State) (line : List Char) : Option (List Char) :=
  match state with
  | .code => behindComment? (Text.trimChars line)
  | .comment =>
    (Text.cut? commentEnd (Text.trimChars line)).bind fun parts =>
      behindComment? (Text.trimChars parts.2)
  | .banner => none

/-- **What becomes of a line** that is no line of a banner before it: what the scanner makes of it,
and what it uncovers. -/
inductive Outcome : State × Option (List Char) → Option (List Char) → Prop
  /-- all of it is dropped -/
  | dropped {next : State} (hnext : next ≠ .banner) : Outcome (next, none) none
  /-- a block comment is dropped, and the text behind it is kept if there is any -/
  | uncovered {rest : List Char} (htrimmed : Text.trimChars rest = rest) :
      Outcome (.code, if rest.isEmpty then none else some rest) (some rest)
  /-- a line without a comment at its start -/
  | plain {line : List Char} (htrimmed : Text.trimChars line = line) (hne : line ≠ [])
      (hline : ¬ ['/', '/'] <+: line) (hblock : ¬ ['/', '*'] <+: line) :
      Outcome (.code, some line) none
  /-- the first line of a banner -/
  | banner {rest : List Char} (htrimmed : Text.trimChars ('/' :: '*' :: '!' :: rest) =
      '/' :: '*' :: '!' :: rest) :
      Outcome (if Text.occurs commentEnd rest then .code else .banner,
        some ('/' :: '*' :: '!' :: rest)) none

theorem outcome_scanCode (h : Text.trimChars line = line) :
    Outcome (scanCode line) (behindComment? line) := by
  unfold scanCode behindComment?
  -- the cases are those of the scanner, in its order: a dropped line, a banner, a comment, a plain
  -- line
  by_cases hdropped : (line.isEmpty || ['/', '/'].isPrefixOf line) = true
  · have hno : (['/', '*'].isPrefixOf line && !(['/', '*', '!'].isPrefixOf line)) = false := by
      rcases Bool.or_eq_true_iff.1 hdropped with hempty | hslashes
      · rw [List.isEmpty_iff.1 hempty]
        rfl
      · obtain ⟨rest, rfl⟩ := List.isPrefixOf_iff_prefix.1 hslashes
        rfl
    rw [if_pos hdropped, hno]
    exact .dropped (by decide)
  rw [if_neg hdropped]
  by_cases hbanner : ['/', '*', '!'].isPrefixOf line = true
  · rw [if_pos hbanner, hbanner, Bool.not_true, Bool.and_false]
    obtain ⟨rest, rfl⟩ := List.isPrefixOf_iff_prefix.1 hbanner
    exact .banner h
  rw [if_neg hbanner]
  by_cases hblock : ['/', '*'].isPrefixOf line = true
  · rw [if_pos hblock, if_pos (by simp [hblock, hbanner])]
    cases Text.cut? commentEnd (line.drop 2) with
    | none => exact .dropped (by decide)
    | some parts => exact .uncovered (Text.trimChars_trimChars parts.2)
  rw [if_neg hblock, if_neg (by simp [hblock])]
  have hne : line ≠ [] := by
    rintro rfl
    exact hdropped rfl
  refine .plain h hne (fun hslashes => hdropped ?_) (fun hstart => hblock ?_)
  · rw [List.isPrefixOf_iff_prefix.2 hslashes, Bool.or_true]
  · exact List.isPrefixOf_iff_prefix.2 hstart

/-- **Scanning a line** that is no line of a banner before it. -/
theorem outcome_scanLine (hstate : state ≠ .banner) (line : List Char) :
    Outcome (scanLine state line) (uncovered? state line) := by
  cases state with
  | code => exact outcome_scanCode (Text.trimChars_trimChars line)
  | comment =>
    unfold scanLine uncovered?
    simp only
    cases Text.cut? commentEnd (Text.trimChars line) with
    | none => exact .dropped (by decide)
    | some parts => exact outcome_scanCode (Text.trimChars_trimChars parts.2)
  | banner => exact absurd rfl hstate

/-! ### Kept lines once more -/

/-- A line is kept as it is, outside comments and if it is trimmed, unless it begins like a comment
that is dropped. -/
theorem scanCode_keeps_iff (hne : line ≠ []) :
    (scanCode line).2 = some line ↔ ¬ BeginsDropped line := by
  unfold scanCode
  by_cases hslashes : ['/', '/'].isPrefixOf line = true
  · have hdropped : BeginsDropped line := Or.inl (List.isPrefixOf_iff_prefix.1 hslashes)
    rw [if_pos (by simp [hslashes])]
    exact iff_of_false nofun fun h => h hdropped
  rw [if_neg (by simp [hne, hslashes])]
  have hnot : ¬ ['/', '/'] <+: line := mt List.isPrefixOf_iff_prefix.2 hslashes
  by_cases hbanner : ['/', '*', '!'].isPrefixOf line = true
  · rw [if_pos hbanner]
    refine iff_of_true rfl fun h => ?_
    exact h.elim hnot fun h => h.2 (List.isPrefixOf_iff_prefix.1 hbanner)
  rw [if_neg hbanner]
  by_cases hblock : ['/', '*'].isPrefixOf line = true
  · have hdropped : BeginsDropped line :=
      Or.inr ⟨List.isPrefixOf_iff_prefix.1 hblock, mt List.isPrefixOf_iff_prefix.2 hbanner⟩
    rw [if_pos hblock]
    refine iff_of_false (fun hkept => ?_) fun h => h hdropped
    -- what is kept is shorter than the line
    cases hcut : Text.cut? commentEnd (line.drop 2) with
    | none =>
      rw [hcut] at hkept
      cases hkept
    | some parts =>
      rw [hcut] at hkept
      simp only at hkept
      split_ifs at hkept
      have hinfix := (Text.trimChars_isInfix parts.2).trans (Text.suffix_of_cut? hcut).isInfix
      have hlength := hinfix.length_le
      have hpos : 0 < line.length := List.length_pos_iff.2 hne
      rw [Option.some.inj hkept, List.length_drop] at hlength
      omega
  rw [if_neg hblock]
  refine iff_of_true rfl fun h => ?_
  exact h.elim hnot fun h => hblock (List.isPrefixOf_iff_prefix.2 h.1)

/-- A trimmed line is kept as it is in a banner, too. -/
theorem scanLine_keeps_iff (htrimmed : Text.trimChars line = line) (hne : line ≠ [])
    (hstate : state ≠ .comment) :
    (scanLine state line).2 = some line ↔ (state ≠ .banner → ¬ BeginsDropped line) := by
  unfold scanLine
  rw [htrimmed]
  cases state with
  | code => exact (scanCode_keeps_iff hne).trans ⟨fun h _ => h, fun h => h (by decide)⟩
  | comment => exact absurd rfl hstate
  | banner => exact iff_of_true rfl fun h => absurd rfl h

/-- **What is kept of a line is kept again**, except in the case of an uncovered comment. -/
theorem Outcome.isNormal_iff {scanned : State × Option (List Char)} {text? : Option (List Char)}
    (h : Outcome scanned text?) (hstate : state ≠ .comment) :
    IsNormal state scanned.2.toList ↔
      (state ≠ .banner → ∀ rest ∈ text?, ¬ BeginsDropped rest) := by
  cases h with
  | dropped hnext => exact iff_of_true trivial fun _ _ h => nomatch h
  | uncovered htrimmed =>
    simp only [Option.mem_some_iff, forall_eq']
    split_ifs with hempty
    · rw [List.isEmpty_iff.1 hempty]
      exact iff_of_true trivial fun _ => by decide
    · have hne := mt List.isEmpty_iff.2 hempty
      exact isNormal_singleton.trans (scanLine_keeps_iff htrimmed hne hstate)
  | plain htrimmed hne hline hblock =>
    refine iff_of_true ?_ fun _ _ h => nomatch h
    refine isNormal_singleton.2 ((scanLine_keeps_iff htrimmed hne hstate).2 fun _ h => ?_)
    exact h.elim hline fun h => hblock h.1
  | banner htrimmed =>
    refine iff_of_true ?_ fun _ _ h => nomatch h
    refine isNormal_singleton.2 ((scanLine_keeps_iff htrimmed nofun hstate).2 fun _ h => ?_)
    rcases h with h | h
    · simp at h
    · exact h.2 ⟨_, rfl⟩

/-- What is kept of a line outside banners is not empty. -/
theorem Outcome.kept_ne_nil {scanned : State × Option (List Char)} {text? : Option (List Char)}
    (h : Outcome scanned text?) : scanned.2 ≠ some [] := by
  cases h with
  | dropped hnext => nofun
  | uncovered htrimmed =>
    simp only
    split_ifs with hempty
    · nofun
    · exact fun heq => hempty (List.isEmpty_iff.2 (Option.some.inj heq))
  | plain htrimmed hne hline hblock => exact fun heq => hne (Option.some.inj heq)
  | banner htrimmed => nofun

/-- A line of which nothing is kept does not begin a banner. -/
theorem Outcome.next_ne_banner {scanned : State × Option (List Char)} {text? : Option (List Char)}
    (h : Outcome scanned text?) (hnone : scanned.2 = none) : scanned.1 ≠ .banner := by
  cases h with
  | dropped hnext => exact hnext
  | uncovered htrimmed => nofun
  | plain htrimmed hne hline hblock => nofun
  | banner htrimmed => cases hnone

/-- A line of which something is kept does not begin a comment that goes on. -/
theorem Outcome.next_ne_comment {scanned : State × Option (List Char)} {text? : Option (List Char)}
    (h : Outcome scanned text?) (hkept : scanned.2 = some kept) : scanned.1 ≠ .comment := by
  cases h with
  | dropped hnext => cases hkept
  | uncovered htrimmed => nofun
  | plain htrimmed hne hline hblock => nofun
  | banner htrimmed =>
    simp only
    split_ifs <;> nofun

theorem scanLine_fst_ne_comment (h : (scanLine state line).2 = some kept) :
    (scanLine state line).1 ≠ .comment := by
  by_cases hstate : state = .banner
  · rw [hstate]
    unfold scanLine
    simp only
    split_ifs <;> nofun
  · exact (outcome_scanLine hstate line).next_ne_comment h

/-- **Normal lines** do not lead into a comment that is dropped. -/
theorem IsNormal.ne_comment (h : IsNormal state lines) (hstate : state ≠ .comment) :
    (scanLines state lines).2 ≠ .comment := by
  induction lines generalizing state with
  | nil => exact hstate
  | cons line rest ih => exact ih h.2 (scanLine_fst_ne_comment h.1)

end CustomBuild.Strip
