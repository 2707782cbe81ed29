import CustomBuild.Proofs.Script.Emission
import CustomBuild.Proofs.Text.Occurrences
import CustomBuild.Reduction.Strip

/-!
# No way out of the banner

A script begins with its banner, a block comment that shows words of the command.  Whatever these
are, the comment ends where the banner does (`banner_is_first_comment`), provided the titles of the
library have no end of a comment.

A text is open if no comment ends in it (`IsOpen`).  Open texts can be joined unless the star of one
meets the slash of the next (`IsOpen.append`).  A comment end with a backslash inside is open, and
no new one comes about when all of them are broken up, because breaking up leaves the first
character of a text (`isOpen_escapeCommentEnd`).  So the banner up to its end is open, the star of
this end included (`isOpen_bannerFront`).
-/

namespace CustomBuild.Script

open Strip

variable {cs xs ys before after : List Char} {header : RegistryHeader} {lines : List String}

/-! ### Open texts -/

/-- **An open text** has no end of a comment. -/
def IsOpen (cs : List Char) : Prop :=
  ¬ commentEnd <:+: cs

instance : Decidable (IsOpen cs) :=
  decidable_of_iff (¬ Text.occurs commentEnd cs = true) (not_congr Text.occurs_iff_isInfix)

/-- **Open texts can be joined**, unless a star at the end of the first comes before a slash at the
beginning of the second. -/
theorem IsOpen.append (hxs : IsOpen xs) (hys : IsOpen ys)
    (h : xs.getLast? = some '*' → ys.head? ≠ some '/') : IsOpen (xs ++ ys) := by
  induction xs with
  | nil => exact hys
  | cons c rest ih =>
    unfold IsOpen at hxs
    rw [List.infix_cons_iff, not_or] at hxs
    have hrest : IsOpen (rest ++ ys) := by
      refine ih hxs.2 fun hlast => h ?_
      rw [List.getLast?_cons, hlast]
      rfl
    intro hfound
    rcases List.infix_cons_iff.1 hfound with hbegins | hfound
    · -- the star is the first character, so the slash is the second one, of whichever text
      obtain ⟨rfl, hslash⟩ := List.cons_prefix_cons.1 hbegins
      cases rest with
      | nil =>
        obtain ⟨more, hmore⟩ := hslash
        exact h rfl (List.head?_eq_some_iff.2 ⟨more, hmore.symm⟩)
      | cons d more =>
        obtain ⟨rfl, -⟩ := List.cons_prefix_cons.1 hslash
        exact hxs.1 ⟨more, rfl⟩
    · exact hrest hfound

/-- Behind another character than a star any open text can follow. -/
theorem IsOpen.append_of_last (hxs : IsOpen xs) (hys : IsOpen ys)
    (hlast : xs.getLast? ≠ some '*') : IsOpen (xs ++ ys) :=
  hxs.append hys fun h => absurd h hlast

/-- **Between other characters** an open text stays open. -/
theorem IsOpen.between (hcs : IsOpen cs) (hbefore : IsOpen before) (hafter : IsOpen after)
    (hlast : before.getLast? ≠ some '*') (hhead : after.head? ≠ some '/') :
    IsOpen (before ++ (cs ++ after)) :=
  hbefore.append_of_last (hcs.append hafter fun _ => hhead) hlast

/-- **Open lines** make an open text. -/
theorem isOpen_unlines (h : ∀ line ∈ lines, IsOpen line.toList) :
    IsOpen (Text.unlines lines).toList := by
  rw [Text.unlines, String.toList_intercalate]
  induction lines with
  | nil => decide
  | cons line rest ih =>
    obtain ⟨hline, hrest⟩ := List.forall_mem_cons.1 h
    cases rest with
    | nil => simpa using hline
    | cons next more =>
      have hfeed : IsOpen "\n".toList := by decide
      have hbehind := hfeed.append_of_last (ih hrest) (by decide)
      rw [List.map_cons, List.map_cons, List.intercalate_cons_cons, List.append_assoc]
      exact hline.append hbehind fun _ => by simp

/-! ### The words of a command -/

/-- Breaking up comment ends leaves the first character. -/
theorem head?_escapeCommentEnd (cs : List Char) : (escapeCommentEnd cs).head? = cs.head? := by
  fun_cases escapeCommentEnd cs <;> rfl

/-- **A text whose comment ends are broken up** is open. -/
theorem isOpen_escapeCommentEnd (cs : List Char) : IsOpen (escapeCommentEnd cs) := by
  fun_induction escapeCommentEnd cs with
  | case1 cs ih =>
    have hbroken : IsOpen ['*', '\\', '/'] := by decide
    exact hbroken.append_of_last ih (by decide)
  | case2 c cs hnot ih =>
    have hone : IsOpen [c] := by
      intro hfound
      have hlength : 2 ≤ 1 := hfound.length_le
      omega
    refine hone.append ih fun hstar hslash => ?_
    -- a star before a slash would have been broken up
    rw [head?_escapeCommentEnd] at hslash
    obtain ⟨rest, rfl⟩ := List.head?_eq_some_iff.1 hslash
    exact hnot rest (Option.some.inj hstar) rfl
  | case3 => decide

/-! ### The banner -/

/-- **Titles without an end of a comment**: library, version and licence as they are shown. -/
def PlainTitles (header : RegistryHeader) : Prop :=
  ∀ title ∈ [header.library, header.version, header.license], IsOpen title.display.toList

instance : Decidable (PlainTitles header) :=
  inferInstanceAs (Decidable (∀ title ∈ [header.library, header.version, header.license], _))

theorem isOpen_titleLine (h : PlainTitles header) :
    IsOpen (" * " ++ header.library.display ++ " " ++ header.version.display
      ++ " (Custom Build)").toList := by
  have hlibrary : IsOpen header.library.display.toList := h _ (by simp)
  have hversion : IsOpen header.version.display.toList := h _ (by simp)
  have hedge : IsOpen " * ".toList := by decide
  have hspace : IsOpen " ".toList := by decide
  have hnote : IsOpen " (Custom Build)".toList := by decide
  have hnumber := hversion.between hspace hnote (by decide) (by decide)
  have hname := hlibrary.between hedge hnumber (by decide) (by simp)
  simpa [List.append_assoc] using hname

theorem isOpen_commandLine (words : List String) :
    IsOpen (" * Build: `" ++ bannerCommand words ++ "`").toList := by
  have hedge : IsOpen " * Build: `".toList := by decide
  have hquote : IsOpen "`".toList := by decide
  have hshown := isOpen_escapeCommentEnd (" ".intercalate (coreName :: words)).toList
  have hline := hshown.between hedge hquote (by decide) (by decide)
  simpa [bannerCommand, List.append_assoc] using hline

theorem isOpen_licenseLine (h : PlainTitles header) :
    IsOpen (" * " ++ header.license.display).toList := by
  have hlicense : IsOpen header.license.display.toList := h _ (by simp)
  have hedge : IsOpen " * ".toList := by decide
  rw [String.toList_append]
  exact hedge.append_of_last hlicense (by decide)

/-- The lines of a banner before the one with its end. -/
def titleLines (header : RegistryHeader) (words : List String) : List String :=
  ["/*!",
    " * " ++ header.library.display ++ " " ++ header.version.display ++ " (Custom Build)",
    " * Build: `" ++ bannerCommand words ++ "`"]
  ++ (if header.license.isTruthy then [" * " ++ header.license.display] else [])

/-- The banner without its end. -/
def bannerFront (header : RegistryHeader) (words : List String) : String :=
  Text.unlines (titleLines header words) ++ "\n "

theorem banner_eq (header : RegistryHeader) (words : List String) :
    banner header words = bannerFront header words ++ "*/" := by
  have hlines : banner header words = Text.unlines (titleLines header words ++ [" */"]) := rfl
  have hne : titleLines header words ≠ [] := by simp [titleLines]
  have hjoin : Text.unlines (titleLines header words ++ [" */"]) =
      Text.unlines (titleLines header words) ++ "\n" ++ " */" :=
    String.intercalate_append_of_ne_nil hne (List.cons_ne_nil _ _)
  rw [hlines, hjoin, bannerFront, String.append_assoc, String.append_assoc]
  rfl

theorem isOpen_titleLines (h : PlainTitles header) (words : List String) :
    ∀ line ∈ titleLines header words, IsOpen line.toList := by
  intro line hline
  simp only [titleLines, List.mem_append, List.mem_cons, List.not_mem_nil, or_false,
    List.mem_ite_nil_right] at hline
  rcases hline with (rfl | rfl | rfl) | ⟨-, rfl⟩
  · decide
  · exact isOpen_titleLine h
  · exact isOpen_commandLine words
  · exact isOpen_licenseLine h

/-- **No comment ends before the end of the banner**, and none with the first character of this
end. -/
theorem isOpen_bannerFront (h : PlainTitles header) (words : List String) :
    IsOpen ((bannerFront header words).toList ++ ['*']) := by
  have hlast : IsOpen "\n *".toList := by decide
  have hopen := (isOpen_unlines (isOpen_titleLines h words)).append hlast fun _ => by decide
  rw [bannerFront, String.toList_append, List.append_assoc]
  exact hopen

/-- The banner begins with its mark. -/
theorem exists_bannerFront_eq (header : RegistryHeader) (words : List String) :
    ∃ inner, (bannerFront header words).toList = '/' :: '*' :: '!' :: inner := by
  obtain ⟨line, more, hlines⟩ : ∃ line more, titleLines header words = "/*!" :: line :: more :=
    ⟨_, _, rfl⟩
  rw [bannerFront, hlines, Text.unlines, String.toList_append, String.toList_intercalate,
    List.map_cons, List.map_cons, List.intercalate_cons_cons]
  exact ⟨_, rfl⟩

/-! ### The first comment of a script -/

/-- **The block comment that a text begins with**, and what stands behind it.  It ends at the first
comment end behind its opening mark. -/
def leadingComment? (text : String) : Option (String × String) :=
  match text.toList with
  | '/' :: '*' :: cs =>
    (Text.cut? commentEnd cs).map fun parts =>
      (String.ofList ('/' :: '*' :: (parts.1 ++ commentEnd)), String.ofList parts.2)
  | _ => none

/-- **A text that goes on behind a banner** begins with this comment. -/
theorem leadingComment?_banner (h : PlainTitles header) (words : List String) (rest : String) :
    leadingComment? (banner header words ++ rest) = some (banner header words, rest) := by
  obtain ⟨inner, hfront⟩ := exists_bannerFront_eq header words
  have hopen := isOpen_bannerFront h words
  rw [hfront] at hopen
  have hinner : ¬ commentEnd <:+: '!' :: inner ++ commentEnd.dropLast := fun hfound =>
    hopen (hfound.trans ⟨['/', '*'], [], by simp [commentEnd]⟩)
  have hcut := Text.cut?_append (by decide) hinner rest.toList
  have hbanner : (banner header words).toList = '/' :: '*' :: ('!' :: inner ++ commentEnd) := by
    rw [banner_eq, String.toList_append, hfront]
    rfl
  have htext : (banner header words ++ rest).toList =
      '/' :: '*' :: ('!' :: inner ++ (commentEnd ++ rest.toList)) := by
    rw [String.toList_append, hbanner]
    simp
  unfold leadingComment?
  rw [htext]
  simp only [hcut, Option.map_some, ← hbanner, String.ofList_toList]

/-- The banner has one end of a comment. -/
theorem occurrences_banner (h : PlainTitles header) (words : List String) :
    Text.occurrences "*/" (banner header words) = 1 := by
  have hcut : Text.cut? commentEnd (banner header words).toList =
      some ((bannerFront header words).toList, []) := by
    rw [banner_eq, String.toList_append]
    exact Text.cut?_append (by decide) (isOpen_bannerFront h words) []
  exact Text.occurrencesAfter_of_cut? (by decide) hcut

/-- **No command breaks out of the banner.**  The banner begins with its mark and has one comment
end, which is its own; so the first block comment of a script is the banner, and the script goes on
in the line below it. -/
theorem banner_is_first_comment (r : Registry) (h : PlainTitles r.header) :
    (∀ words, Text.beginsWith (banner r.header words) "/*!" = true ∧
      Text.endsWith (banner r.header words) "*/" = true ∧
      Text.occurrences "*/" (banner r.header words) = 1) ∧
    ∀ c names source, (generate r c names).outcome = .ok source → source ≠ "" →
      ∃ rest, source = banner r.header c.tokens ++ "\n" ++ rest ∧
        leadingComment? source = some (banner r.header c.tokens, "\n" ++ rest) := by
  refine ⟨fun words => ⟨?_, ?_, occurrences_banner h words⟩, fun c names source hg hsource => ?_⟩
  · obtain ⟨inner, hfront⟩ := exists_bannerFront_eq r.header words
    rw [Text.beginsWith, List.isPrefixOf_iff_prefix, banner_eq, String.toList_append, hfront]
    exact ⟨inner ++ commentEnd, rfl⟩
  · rw [Text.endsWith, List.isSuffixOf_iff_suffix, banner_eq, String.toList_append]
    exact List.suffix_append _ _
  · have hnames : names ≠ [] := by
      rintro rfl
      exact hsource (Except.ok.inj hg).symm
    obtain ⟨p, -, -, rfl, -⟩ := generate_eq_ok hnames hg
    unfold text
    simp only
    refine ⟨_, String.append_assoc, ?_⟩
    rw [String.append_assoc, String.append_assoc]
    exact leadingComment?_banner h c.tokens _

/-- A command whose words try to end the comment in every way. -/
def hostileCommand : Command :=
  { Registry.sampleCommand with tokens := ["include=\"**//\"", "*/", "*\n/", "`*/;alert(1)/*!"] }

/-- The banner of the small registry for it. -/
theorem banner_hostileCommand :
    banner Registry.sample.header hostileCommand.tokens =
      "/*!\n * Lo-Dash 2.4.1 (Custom Build)\n * Build: `lodash include=\"**\\//\" *\\/ *\n/ `*\\/;"
        ++ "alert(1)/*!`\n */" := by
  decide

/-- In its script the first comment ends where the banner does. -/
theorem hostileCommand_stays_in_banner :
    PlainTitles Registry.sample.header ∧
      (generate Registry.sample hostileCommand Registry.sampleSelection.names).outcome =
        .ok (text Registry.sample.header hostileCommand Registry.samplePlan) ∧
      Text.occurrences "*/" (banner Registry.sample.header hostileCommand.tokens) = 1 ∧
      ∃ rest, leadingComment? (text Registry.sample.header hostileCommand Registry.samplePlan) =
        some ("/*!\n * Lo-Dash 2.4.1 (Custom Build)\n * Build: `lodash include=\"**\\//\" *\\/ *\n/"
          ++ " `*\\/;alert(1)/*!`\n */", "\n" ++ rest) := by
  have htitles : PlainTitles Registry.sample.header := by decide
  have houtcome : (generate Registry.sample hostileCommand Registry.sampleSelection.names).outcome =
      .ok (text Registry.sample.header hostileCommand Registry.samplePlan) :=
    outcome_of_planFor (by decide) Registry.planFor_sample (by decide +kernel) (by decide +kernel)
  have hne : text Registry.sample.header hostileCommand Registry.samplePlan ≠ "" := by
    decide +kernel
  obtain ⟨hbanner, hscript⟩ := banner_is_first_comment Registry.sample htitles
  obtain ⟨rest, -, hcomment⟩ := hscript _ _ _ houtcome hne
  rw [banner_hostileCommand] at hcomment
  exact ⟨htitles, houtcome, (hbanner _).2.2, rest, hcomment⟩

end CustomBuild.Script
