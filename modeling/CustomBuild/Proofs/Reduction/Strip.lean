import CustomBuild.Proofs.Text.Lines
import CustomBuild.Reduction.Strip
import CustomBuild.Script.Indent

/-!
# What stripping keeps

The scanner goes through the lines of a text one by one, and all that it carries from one line to
the next is where it stands (`scanLines_append`).  A list of lines is closed (`Closed`) if the
scanner comes out of it where it went in, outside comments; what is kept of closed lists that follow
each other is what is kept of each.  A list is neutral (`Neutral`) if this is so for each of its
lines.

Indentation makes no difference to the scanner, which trims every line first
(`scanLines_indent`).  What is kept of a line occurs in it (`isInfix_of_mem_scanLines`), so kept
lines are the lines of the stripped text (`charLines_strip`).
-/

namespace CustomBuild.Strip

variable {state : State} {line kept : List Char} {lines first second : List (List Char)}
  {texts : List (List (List Char))} {text source : String}

/-! ### Line by line -/

theorem scanLines_cons (state : State) (line : List Char) (rest : List (List Char)) :
    scanLines state (line :: rest) =
      ((scanLine state line).2.toList ++ (scanLines (scanLine state line).1 rest).1,
        (scanLines (scanLine state line).1 rest).2) := rfl

/-- **The scanner goes on** where it stands after the first lines. -/
theorem scanLines_append (state : State) (first second : List (List Char)) :
    scanLines state (first ++ second) =
      ((scanLines state first).1 ++ (scanLines (scanLines state first).2 second).1,
        (scanLines (scanLines state first).2 second).2) := by
  induction first generalizing state with
  | nil => rfl
  | cons line rest ih =>
    rw [List.cons_append, scanLines_cons, ih, scanLines_cons, List.append_assoc]

theorem scanLines_concat_snd (state : State) (lines : List (List Char)) (line : List Char) :
    (scanLines state (lines ++ [line])).2 = (scanLine (scanLines state lines).2 line).1 := by
  rw [scanLines_append]
  rfl

/-- A line is trimmed before anything else is done with it. -/
theorem scanLine_congr {other : List Char} (h : Text.trimChars line = Text.trimChars other)
    (state : State) : scanLine state line = scanLine state other := by
  unfold scanLine
  rw [h]

/-- What the scanner makes of lines depends on the trimmed lines. -/
theorem scanLines_map {f : List Char → List Char}
    (h : ∀ line ∈ lines, Text.trimChars (f line) = Text.trimChars line) (state : State) :
    scanLines state (lines.map f) = scanLines state lines := by
  induction lines generalizing state with
  | nil => rfl
  | cons line rest ih =>
    obtain ⟨hline, hrest⟩ := List.forall_mem_cons.1 h
    rw [List.map_cons, scanLines_cons, scanLines_cons, scanLine_congr hline, ih hrest]

/-- Outside comments a trimmed line that does not begin like a comment is kept. -/
theorem scanCode_cons {first : Char} (hslash : first ≠ '/') (rest : List Char) :
    scanCode (first :: rest) = (.code, some (first :: rest)) := by
  have hstart : ∀ mark : List Char, ('/' :: mark).isPrefixOf (first :: rest) = false := by
    intro mark
    rw [List.isPrefixOf_cons_cons, beq_false_of_ne hslash.symm, Bool.false_and]
  unfold scanCode
  rw [hstart, hstart, hstart]
  rfl

/-- A line between two characters that are no blanks is kept outside comments, unless it begins
like a comment. -/
theorem scanLine_between {first last : Char} (inner : List Char)
    (hfirst : Text.isBlank first = false) (hslash : first ≠ '/')
    (hlast : Text.isBlank last = false) :
    scanLine .code (first :: (inner ++ [last])) = (.code, some (first :: (inner ++ [last]))) := by
  unfold scanLine
  simp only [Text.trimChars_between inner hfirst hlast]
  exact scanCode_cons hslash _

/-- Outside comments a line that begins neither with a blank nor like a comment leads nowhere
else. -/
theorem scanLine_cons_fst {first : Char} (hfirst : Text.isBlank first = false)
    (hslash : first ≠ '/') (rest : List Char) : (scanLine .code (first :: rest)).1 = .code := by
  obtain ⟨trimmed, htrimmed⟩ := Text.trimChars_cons hfirst rest
  unfold scanLine
  simp only [htrimmed]
  rw [scanCode_cons hslash]

/-- A line with nothing but the end of a comment leads outside comments, wherever it stands. -/
theorem scanLine_commentEnd (state : State) : (scanLine state [' ', '*', '/']).1 = .code := by
  cases state <;> decide

/-! ### What is kept of a line -/

theorem isInfix_of_scanCode (h : (scanCode line).2 = some kept) : kept <:+: line := by
  unfold scanCode at h
  split at h
  · cases h
  split at h
  · rw [Option.some.inj h]
  split at h
  · split at h
    · cases h
    · next before after hcut =>
      -- the text after a block comment is trimmed once more
      have hafter : after <:+: line :=
        (Text.suffix_of_cut? hcut).isInfix.trans (List.drop_suffix 2 line).isInfix
      simp only at h
      split_ifs at h
      rw [← Option.some.inj h]
      exact (Text.trimChars_isInfix after).trans hafter
  · rw [Option.some.inj h]

theorem isInfix_of_scanLine (h : (scanLine state line).2 = some kept) : kept <:+: line := by
  have htrimmed := Text.trimChars_isInfix line
  unfold scanLine at h
  cases state with
  | code => exact (isInfix_of_scanCode h).trans htrimmed
  | comment =>
    simp only at h
    split at h
    · cases h
    · next before after hcut =>
      have hafter : after <:+: Text.trimChars line := (Text.suffix_of_cut? hcut).isInfix
      exact (isInfix_of_scanCode h).trans ((Text.trimChars_isInfix after).trans
        (hafter.trans htrimmed))
  | banner =>
    cases h
    exact htrimmed

/-- **A kept line** occurs in one of the lines. -/
theorem isInfix_of_mem_scanLines (h : kept ∈ (scanLines state lines).1) :
    ∃ line ∈ lines, kept <:+: line := by
  induction lines generalizing state with
  | nil => cases h
  | cons line rest ih =>
    rw [scanLines_cons] at h
    rcases List.mem_append.1 h with h | h
    · exact ⟨line, List.mem_cons_self, isInfix_of_scanLine (Option.mem_toList.1 h)⟩
    · obtain ⟨other, hother, hpart⟩ := ih h
      exact ⟨other, List.mem_cons_of_mem _ hother, hpart⟩

theorem length_scanLines_le (state : State) (lines : List (List Char)) :
    (scanLines state lines).1.length ≤ lines.length := by
  induction lines generalizing state with
  | nil => exact Nat.le_refl 0
  | cons line rest ih =>
    have hone : (scanLine state line).2.toList.length ≤ 1 := by
      cases (scanLine state line).2 <;> simp
    have hrest := ih (scanLine state line).1
    rw [scanLines_cons, List.length_append, List.length_cons]
    omega

/-! ### Closed and neutral lines -/

/-- **The lines that are kept** by a scanner that starts outside comments. -/
def keptOf (lines : List (List Char)) : List (List Char) :=
  (scanLines .code lines).1

/-- **Closed lines** lead the scanner from outside comments to outside comments. -/
def Closed (lines : List (List Char)) : Prop :=
  (scanLines .code lines).2 = .code

/-- Neutral lines do so one by one. -/
def Neutral (lines : List (List Char)) : Prop :=
  ∀ line ∈ lines, (scanLine .code line).1 = .code

instance : Decidable (Neutral lines) :=
  inferInstanceAs (Decidable (∀ line ∈ lines, (scanLine .code line).1 = .code))

/-- A text is comment-closed if its lines are closed. -/
def IsClosed (text : String) : Prop :=
  Closed (Text.charLines text)

instance : Decidable (IsClosed text) :=
  inferInstanceAs (Decidable ((scanLines .code (Text.charLines text)).2 = .code))

/-- A text is neutral if its lines are. -/
def IsNeutral (text : String) : Prop :=
  Neutral (Text.charLines text)

instance : Decidable (IsNeutral text) :=
  inferInstanceAs (Decidable (Neutral _))

theorem keptOf_append (h : Closed first) :
    keptOf (first ++ second) = keptOf first ++ keptOf second := by
  unfold keptOf
  rw [scanLines_append, h]

theorem keptOf_concat (lines : List (List Char)) (line : List Char) :
    keptOf (lines ++ [line]) =
      keptOf lines ++ (scanLine (scanLines .code lines).2 line).2.toList := by
  unfold keptOf
  rw [scanLines_append, scanLines_cons]
  exact congrArg _ (List.append_nil _)

theorem Closed.append (hfirst : Closed first) (hsecond : Closed second) :
    Closed (first ++ second) := by
  unfold Closed
  rw [scanLines_append, hfirst]
  exact hsecond

theorem Neutral.closed (h : Neutral lines) : Closed lines := by
  induction lines with
  | nil => rfl
  | cons line rest ih =>
    obtain ⟨hline, hrest⟩ := List.forall_mem_cons.1 h
    unfold Closed
    rw [scanLines_cons, hline]
    exact ih hrest

/-- Of neutral lines each is kept or dropped on its own. -/
theorem mem_keptOf_of_neutral (h : Neutral lines) (hline : line ∈ lines)
    (hkept : (scanLine .code line).2 = some kept) : kept ∈ keptOf lines := by
  obtain ⟨before, after, rfl⟩ := List.append_of_mem hline
  have hbefore : Closed before := Neutral.closed (List.forall_mem_append.1 h).1
  -- so the scanner comes to the line outside comments
  rw [keptOf_append hbefore]
  refine List.mem_append_right _ ?_
  unfold keptOf
  rw [scanLines_cons, hkept]
  exact List.mem_append_left _ List.mem_cons_self

theorem closed_nil_line : Closed [[]] := rfl

theorem length_keptOf_le (lines : List (List Char)) : (keptOf lines).length ≤ lines.length :=
  length_scanLines_le _ _

/-- **Closed lists with empty lines between them** are closed, and of each is kept what would be
kept of it alone. -/
theorem closed_intercalate (h : ∀ lines ∈ texts, Closed lines) :
    Closed (List.intercalate [[]] texts) ∧
      keptOf (List.intercalate [[]] texts) = texts.flatMap keptOf := by
  induction texts with
  | nil => exact ⟨rfl, rfl⟩
  | cons lines rest ih =>
    obtain ⟨hlines, hrest⟩ := List.forall_mem_cons.1 h
    obtain ⟨hclosed, hkept⟩ := ih hrest
    cases rest with
    | nil =>
      rw [List.intercalate_singleton, List.flatMap_singleton]
      exact ⟨hlines, rfl⟩
    | cons other rest =>
      rw [List.intercalate_cons_cons, List.flatMap_cons]
      refine ⟨(hlines.append closed_nil_line).append hclosed, ?_⟩
      rw [keptOf_append (hlines.append closed_nil_line), keptOf_append hlines, hkept]
      exact congrArg (· ++ _) (List.append_nil _)

/-- Neutral lists with empty lines between them are neutral. -/
theorem neutral_intercalate (h : ∀ lines ∈ texts, Neutral lines) :
    Neutral (List.intercalate [[]] texts) := by
  induction texts with
  | nil =>
    intro line hline
    cases hline
  | cons lines rest ih =>
    obtain ⟨hlines, hrest⟩ := List.forall_mem_cons.1 h
    cases rest with
    | nil =>
      rw [List.intercalate_singleton]
      exact hlines
    | cons other rest =>
      rw [List.intercalate_cons_cons]
      refine List.forall_mem_append.2 ⟨List.forall_mem_append.2 ⟨hlines, ?_⟩, ih hrest⟩
      intro line hline
      rw [List.mem_singleton.1 hline]
      rfl

/-- If something of one list is dropped, fewer lines are kept of all of them. -/
theorem length_keptOf_intercalate_lt (h : ∀ lines ∈ texts, Closed lines) (hlines : lines ∈ texts)
    (hlt : (keptOf lines).length < lines.length) :
    (keptOf (List.intercalate [[]] texts)).length < (List.intercalate [[]] texts).length := by
  cases texts with
  | nil => cases hlines
  | cons first rest =>
    cases rest with
    | nil =>
      rw [List.mem_singleton.1 hlines] at hlt
      rwa [List.intercalate_singleton]
    | cons second rest =>
      -- the empty line after the first list is dropped
      obtain ⟨hfirst, -⟩ := List.forall_mem_cons.1 h
      have hle := length_keptOf_le first
      have hrest := length_keptOf_le (List.intercalate [[]] (second :: rest))
      have hempty : keptOf [[]] = [] := rfl
      rw [List.intercalate_cons_cons, keptOf_append (hfirst.append closed_nil_line),
        keptOf_append hfirst, hempty, List.append_nil]
      simp only [List.length_append, List.length_singleton]
      omega

/-! ### Texts -/

theorem keptLines_eq (source : String) : keptLines source = keptOf (Text.charLines source) := rfl

/-- The lines of an indented text. -/
theorem charLines_indent (text : String) :
    Text.charLines (Script.indent text) =
      (Text.charLines text).map fun line => (Script.indentLine (String.ofList line)).toList := by
  have hne : (Text.lines text).map Script.indentLine ≠ [] := by
    unfold Text.lines
    rw [List.map_map]
    exact mt List.map_eq_nil_iff.1 (Text.charLines_ne_nil text)
  have hone : ∀ line ∈ Text.charLines text,
      Text.charLines (Script.indentLine (String.ofList line)) =
        [(Script.indentLine (String.ofList line)).toList] := by
    intro line hline
    refine Text.charLines_of_not_mem ?_
    have hfeed := Text.not_mem_of_mem_charLines hline
    unfold Script.indentLine
    split_ifs
    · exact List.not_mem_nil
    · rw [String.toList_append, List.mem_append, not_or]
      exact ⟨by decide, by rwa [String.toList_ofList]⟩
  have hflat := List.flatMap_congr hone
  rw [← List.map_eq_flatMap] at hflat
  rw [Script.indent, Text.charLines_unlines hne, Text.lines, List.map_map, List.flatMap_map]
  exact hflat

theorem trimChars_indentLine (line : List Char) :
    Text.trimChars (Script.indentLine (String.ofList line)).toList = Text.trimChars line := by
  unfold Script.indentLine
  split_ifs with hblank
  · have hall : ∀ c ∈ line, Text.isBlank c = true := by
      unfold Text.isAllBlank at hblank
      rwa [String.toList_ofList, List.all_eq_true] at hblank
    rw [Text.trimChars_eq_nil hall]
    rfl
  · have hplaces : ∀ c ∈ "  ".toList, Text.isBlank c = true :=
      List.all_eq_true.1 (by decide)
    rw [String.toList_append, Text.trimChars_blank_append hplaces, String.toList_ofList]

/-- **Indentation makes no difference** to the scanner. -/
theorem scanLines_indent (state : State) (text : String) :
    scanLines state (Text.charLines (Script.indent text)) =
      scanLines state (Text.charLines text) := by
  rw [charLines_indent]
  exact scanLines_map (fun line _ => trimChars_indentLine line) state

theorem isClosed_indent : IsClosed (Script.indent text) ↔ IsClosed text := by
  unfold IsClosed Closed
  rw [scanLines_indent]

theorem keptOf_indent (text : String) :
    keptOf (Text.charLines (Script.indent text)) = keptOf (Text.charLines text) := by
  unfold keptOf
  rw [scanLines_indent]

/-! ### Texts without comments -/

theorem IsNeutral.isClosed (h : IsNeutral text) : IsClosed text :=
  Neutral.closed h

theorem isNeutral_empty : IsNeutral "" := by
  intro line hline
  rw [List.mem_singleton.1 hline]
  rfl

/-- One line that begins neither with a blank nor like a comment is neutral. -/
theorem isNeutral_of_toList_eq {first : Char} {rest : List Char} (h : text.toList = first :: rest)
    (hfeed : '\n' ∉ text.toList) (hfirst : Text.isBlank first = false) (hslash : first ≠ '/') :
    IsNeutral text := by
  unfold IsNeutral
  rw [Text.charLines_of_not_mem hfeed, h]
  intro line hline
  rw [List.mem_singleton.1 hline]
  exact scanLine_cons_fst hfirst hslash rest

/-- **Neutral texts** that are made the lines of one make it neutral. -/
theorem isNeutral_unlines {texts : List String} (h : ∀ text ∈ texts, IsNeutral text) :
    IsNeutral (Text.unlines texts) := by
  cases texts with
  | nil => exact isNeutral_empty
  | cons first rest =>
    unfold IsNeutral
    rw [Text.charLines_unlines (List.cons_ne_nil _ _)]
    intro line hline
    obtain ⟨text, htext, hmem⟩ := List.mem_flatMap.1 hline
    exact h text htext line hmem

theorem isNeutral_intercalate {texts : List String} (h : ∀ text ∈ texts, IsNeutral text) :
    IsNeutral ("\n\n".intercalate texts) := by
  cases texts with
  | nil => exact isNeutral_empty
  | cons first rest =>
    unfold IsNeutral
    rw [Text.charLines_intercalate (List.cons_ne_nil _ _)]
    refine neutral_intercalate fun lines hlines => ?_
    obtain ⟨text, htext, rfl⟩ := List.mem_map.1 hlines
    exact h text htext

theorem IsNeutral.of_mem_lines {line : String} (h : IsNeutral text)
    (hline : line ∈ Text.lines text) : IsNeutral line := by
  have hmem := Text.mem_lines_iff.1 hline
  unfold IsNeutral
  rw [Text.charLines_of_not_mem (Text.not_mem_of_mem_charLines hmem)]
  intro other hother
  rw [List.mem_singleton.1 hother]
  exact h line.toList hmem

theorem IsNeutral.indent (h : IsNeutral text) : IsNeutral (Script.indent text) := by
  unfold IsNeutral
  rw [charLines_indent]
  intro line hline
  obtain ⟨other, hother, rfl⟩ := List.mem_map.1 hline
  rw [scanLine_congr (trimChars_indentLine other)]
  exact h other hother

/-- **Closed texts with empty lines between them** are closed, and of each is kept what would be
kept of it alone. -/
theorem isClosed_intercalate {texts : List String} (h : ∀ text ∈ texts, IsClosed text) :
    IsClosed ("\n\n".intercalate texts) ∧
      keptOf (Text.charLines ("\n\n".intercalate texts)) =
        texts.flatMap fun text => keptOf (Text.charLines text) := by
  cases texts with
  | nil => exact ⟨rfl, rfl⟩
  | cons first rest =>
    unfold IsClosed
    rw [Text.charLines_intercalate (List.cons_ne_nil _ _)]
    have hlines : ∀ lines ∈ (first :: rest).map Text.charLines, Closed lines := by
      intro lines hlines
      obtain ⟨text, htext, rfl⟩ := List.mem_map.1 hlines
      exact h text htext
    obtain ⟨hclosed, hkept⟩ := closed_intercalate hlines
    exact ⟨hclosed, hkept.trans (List.flatMap_map _ _ _)⟩

/-! ### Stripped texts -/

/-- A kept line has no line feed. -/
theorem not_mem_of_mem_keptLines (h : kept ∈ keptLines source) : '\n' ∉ kept := by
  obtain ⟨line, hline, hpart⟩ := isInfix_of_mem_scanLines h
  exact fun hfeed => Text.not_mem_of_mem_charLines hline (hpart.subset hfeed)

/-- **The lines of a stripped text** are the kept ones, and the empty one after a final line
feed. -/
theorem charLines_strip (hkept : keptLines source ≠ []) (hend : Text.endsWith source "\n" = true) :
    Text.charLines (strip source) = keptLines source ++ [[]] := by
  unfold strip
  rw [if_pos hend]
  have hempty : Text.unlines ((keptLines source).map String.ofList) ++ "\n" =
      Text.unlines ((keptLines source).map String.ofList) ++ "\n" ++ "" := by
    rw [String.append_empty]
  rw [hempty, Text.charLines_append,
    Text.charLines_unlines_ofList hkept fun _ h => not_mem_of_mem_keptLines h,
    Text.charLines_empty]

/-- Without a final line feed they are the kept ones. -/
theorem charLines_strip_of_not (hkept : keptLines source ≠ [])
    (hend : ¬ Text.endsWith source "\n" = true) :
    Text.charLines (strip source) = keptLines source := by
  unfold strip
  rw [if_neg hend, String.append_empty]
  exact Text.charLines_unlines_ofList hkept fun _ h => not_mem_of_mem_keptLines h

end CustomBuild.Strip
