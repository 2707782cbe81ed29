import CustomBuild.Proofs.Reduction.Strip
import CustomBuild.Script.Basic

/-!
# Comments of a script

The scanner that strips a source stands outside comments between any two blocks of a script
(`isClosed_block`): what the script adds of itself is neutral, apart from the comment over the
version, which ends before the version is stated, and the fragments and tails are taken to be
closed.  The banner is free text in part, but its last line ends every comment
(`closed_banner`).

So what is kept of a script is what is kept of its blocks, and of the version block this is the
version alone (`keptOf_versionBlock`).
-/

namespace CustomBuild.Script

open Strip

variable {header : RegistryHeader} {c : Command} {p : Plan} {block version line : String}
  {e : Entry}

/-! ### The banner -/

/-- **The banner** leads outside comments, whatever it shows. -/
theorem closed_banner (header : RegistryHeader) (words : List String) :
    Closed (Text.charLines (banner header words)) := by
  obtain ⟨front, hfront⟩ : ∃ front, banner header words = Text.unlines (front ++ [" */"]) :=
    ⟨_, rfl⟩
  have hlines : Text.charLines (banner header words) =
      front.flatMap Text.charLines ++ [[' ', '*', '/']] := by
    rw [hfront, Text.charLines_unlines (by simp), List.flatMap_append]
    rfl
  unfold Closed
  rw [hlines, scanLines_append]
  exact scanLine_commentEnd _

/-! ### Exposure -/

theorem isNeutral_detections :
    ∀ lines ∈ [detectExports, detectModule, detectGlobal], ∀ line ∈ lines, IsNeutral line := by
  decide +kernel

/-- **The detection of the surroundings** is neutral: each of its comments ends on its line. -/
theorem isNeutral_detection (exports : List String) : IsNeutral (detection exports) := by
  have hblocks : ∀ block ∈ (if exports.contains "commonjs" || exports.contains "node" then
        [detectExports] else [])
      ++ (if exports.contains "node" then [detectModule] else [])
      ++ (if exports.contains "global" then [detectGlobal] else []),
      block ∈ [detectExports, detectModule, detectGlobal] := by
    intro block hblock
    simp only [List.mem_append, List.mem_ite_nil_right, List.mem_singleton] at hblock
    rcases hblock with (⟨-, rfl⟩ | ⟨-, rfl⟩) | ⟨-, rfl⟩ <;> simp
  refine isNeutral_intercalate fun text htext => ?_
  obtain ⟨lines, hlines, rfl⟩ := List.mem_map.1 htext
  exact isNeutral_unlines (isNeutral_detections lines (hblocks lines hlines))

/-- A branch whose lines are neutral. -/
def Branch.IsNeutral (b : Branch) : Prop :=
  '\n' ∉ b.condition.toList ∧ ∀ line ∈ b.lines, Strip.IsNeutral line

instance (b : Branch) : Decidable b.IsNeutral :=
  inferInstanceAs (Decidable (_ ∧ _))

theorem isNeutral_allBranches :
    ∀ b ∈ [loaderBranch true, loaderBranch false, exportsOrModuleBranch, exportsBranch,
      moduleBranch], b.IsNeutral := by
  decide +kernel

theorem isNeutral_branches (formats : List String) : ∀ b ∈ branches formats, b.IsNeutral := by
  intro b hb
  refine isNeutral_allBranches b ?_
  unfold branches at hb
  rcases List.mem_append.1 hb with hb | hb
  · rw [List.mem_ite_nil_right, List.mem_singleton] at hb
    rw [hb.2]
    cases formats.contains "global" <;> simp only [List.mem_cons, true_or, or_true]
  · split_ifs at hb <;> simp_all

theorem isNeutral_indentLines {lines : List String} (h : ∀ line ∈ lines, IsNeutral line) :
    ∀ line ∈ indentLines lines, IsNeutral line :=
  fun _ hline => (isNeutral_unlines h).indent.of_mem_lines hline

/-- The lines of a branch are neutral: the first one begins with a letter. -/
theorem isNeutral_branchLines {first : Char} {rest : List Char} {word : String} {b : Branch}
    (hb : b.IsNeutral) (hword : word.toList = first :: rest) (hfeed : '\n' ∉ word.toList)
    (hfirst : Text.isBlank first = false) (hslash : first ≠ '/') :
    ∀ line ∈ branchLines word b, IsNeutral line := by
  intro line hline
  unfold branchLines at hline
  rcases List.mem_append.1 hline with hline | hline
  · rcases List.mem_cons.1 hline with rfl | hline
    · have hstart : (word ++ " (" ++ b.condition ++ ") \x7b").toList =
          first :: (rest ++ (" (" ++ b.condition ++ ") \x7b").toList) := by
        simp only [String.toList_append, hword, List.cons_append, List.append_assoc]
      refine isNeutral_of_toList_eq hstart ?_ hfirst hslash
      · simp only [String.toList_append, List.mem_append, not_or]
        exact ⟨⟨⟨hfeed, by decide⟩, hb.1⟩, by decide⟩
    · exact isNeutral_indentLines hb.2 line hline
  · rw [List.mem_singleton.1 hline]
    decide

theorem isNeutral_chainLines {chain : List Branch} (h : ∀ b ∈ chain, b.IsNeutral) :
    ∀ line ∈ chainLines chain, IsNeutral line := by
  cases chain with
  | nil =>
    intro line hline
    cases hline
  | cons b chain =>
    obtain ⟨hb, hchain⟩ := List.forall_mem_cons.1 h
    intro line hline
    rcases List.mem_append.1 hline with hline | hline
    · exact isNeutral_branchLines hb rfl (by decide) (by decide) (by decide) line hline
    · obtain ⟨other, hother, hmem⟩ := List.mem_flatMap.1 hline
      exact isNeutral_branchLines (hchain other hother) rfl (by decide) (by decide) (by decide)
        line hmem

theorem isNeutral_fallback (formats : List String) :
    ∀ line ∈ fallback formats, IsNeutral line := by
  intro line hline
  unfold fallback at hline
  rw [List.mem_ite_nil_right] at hline
  have hboth : ∀ line ∈ [r#"// in a browser or Rhino"#, r#"window._ = lodash;"#],
      IsNeutral line := by
    decide +kernel
  exact hboth line hline.2

/-- **The chain of exposure** is neutral. -/
theorem isNeutral_exposure (exports : List String) : IsNeutral (exposure exports) := by
  unfold exposure
  simp only
  generalize exportFormats.filter (fun f => exports.contains f) = formats
  split
  · exact isNeutral_unlines (isNeutral_fallback formats)
  · refine isNeutral_unlines (List.forall_mem_append.2 ⟨List.forall_mem_cons.2 ⟨?_, ?_⟩, ?_⟩)
    · decide +kernel
    · exact isNeutral_chainLines (isNeutral_branches formats)
    · split
      · intro line hline
        cases hline
      · -- after other branches the fallback is a branch of its own
        refine List.forall_mem_append.2 ⟨List.forall_mem_cons.2 ⟨by decide, ?_⟩, ?_⟩
        · exact isNeutral_indentLines (isNeutral_fallback formats)
        · intro line hline
          rw [List.mem_singleton.1 hline]
          decide

/-! ### Statements -/

/-- A line that states something: it begins with the name of the library object, and ends with a
semicolon. -/
def IsStatement (line : String) : Prop :=
  '\n' ∉ line.toList ∧ ∃ inner, line.toList = 'l' :: (inner ++ [';'])

/-- The scanner keeps a statement as it is. -/
theorem IsStatement.scanLine (h : IsStatement line) :
    scanLine .code line.toList = (.code, some line.toList) := by
  obtain ⟨-, inner, hline⟩ := h
  rw [hline]
  exact scanLine_between inner (by decide) (by decide) (by decide)

theorem IsStatement.charLines (h : IsStatement line) : Text.charLines line = [line.toList] :=
  Text.charLines_of_not_mem h.1

theorem IsStatement.isAllBlank (h : IsStatement line) : Text.isAllBlank line = false := by
  obtain ⟨-, inner, hline⟩ := h
  unfold Text.isAllBlank
  rw [hline]
  rfl

theorem IsStatement.isNeutral (h : IsStatement line) : IsNeutral line := by
  unfold IsNeutral
  rw [h.charLines]
  intro other hother
  rw [List.mem_singleton.1 hother, h.scanLine]

/-- **Statements among neutral texts** are kept. -/
theorem IsStatement.mem_keptOf_unlines (h : IsStatement line) {texts : List String}
    (htexts : ∀ text ∈ texts, IsNeutral text) (hline : line ∈ texts) :
    line.toList ∈ keptOf (Text.charLines (Text.unlines texts)) := by
  have hmem := Text.mem_lines_iff.1 (Text.mem_lines_unlines hline h.1)
  exact mem_keptOf_of_neutral (isNeutral_unlines htexts) hmem (congrArg Prod.snd h.scanLine)

/-- A property of the library object is stated. -/
theorem isStatement_of_parts {target value : String} (htarget : '\n' ∉ target.toList)
    (hvalue : '\n' ∉ value.toList) : IsStatement (coreName ++ target ++ value ++ ";") := by
  constructor
  · simp only [String.toList_append, List.mem_append, not_or]
    exact ⟨⟨⟨by decide, htarget⟩, hvalue⟩, by decide⟩
  · refine ⟨"odash".toList ++ target.toList ++ value.toList, ?_⟩
    simp only [String.toList_append, List.append_assoc]
    rfl

/-! ### Assignments -/

/-- The names of an entry are on one line each. -/
def HasPlainNames (e : Entry) : Prop :=
  '\n' ∉ e.name.toList ∧ ∀ otherName ∈ e.aliases, '\n' ∉ otherName.toList

theorem isStatement_assignmentLines (he : HasPlainNames e) :
    ∀ line ∈ assignmentLines e, IsStatement line := by
  have hassignment : ∀ name : String, '\n' ∉ name.toList →
      IsStatement (coreName ++ "." ++ name ++ " = " ++ e.name ++ ";") := by
    intro name hname
    have htarget : '\n' ∉ ("." ++ name ++ " = ").toList := by
      simp only [String.toList_append, List.mem_append, not_or]
      exact ⟨⟨by decide, hname⟩, by decide⟩
    have hstatement := isStatement_of_parts htarget he.1
    simp only [← String.append_assoc] at hstatement
    exact hstatement
  intro line hline
  unfold assignmentLines at hline
  split at hline
  · rcases List.mem_cons.1 hline with rfl | hline
    · exact hassignment e.name he.1
    · obtain ⟨otherName, hother, rfl⟩ := List.mem_map.1 hline
      exact hassignment otherName (he.2 otherName hother)
  · cases hline

/-- The block of the assignments has a comment on a line of its own, and the assignments. -/
theorem mem_assignmentBlocks_iff {functions : List Emitted} :
    block ∈ assignmentBlocks functions ↔
      (functions.flatMap fun m => assignmentLines m.entry) ≠ [] ∧
        block = Text.unlines ("// add functions to `lodash`" ::
          functions.flatMap fun m => assignmentLines m.entry) := by
  unfold assignmentBlocks
  simp only
  cases hlines : functions.flatMap fun m => assignmentLines m.entry with
  | nil => simp
  | cons first rest =>
    have hblock : "// add functions to `lodash`\n" ++ Text.unlines (first :: rest) =
        Text.unlines ("// add functions to `lodash`" :: first :: rest) := by
      unfold Text.unlines
      rw [String.intercalate_cons_cons]
      rfl
    rw [hblock]
    simp

/-! ### The version -/

/-- The line that states the version. -/
def versionLine (version : String) : String :=
  coreName ++ ".VERSION = '" ++ version ++ "';"

/-- The comment over the version. -/
def versionComment : List String :=
  ["/**", " * The semantic version number.", " *", " * @static", " * @memberOf _",
    " * @type String", " */"]

theorem isStatement_versionLine (h : '\n' ∉ version.toList) :
    IsStatement (versionLine version) := by
  have hvalue : '\n' ∉ (version ++ "'").toList := by
    rw [String.toList_append, List.mem_append, not_or]
    exact ⟨h, by decide⟩
  have hstatement : IsStatement (coreName ++ ".VERSION = '" ++ (version ++ "'") ++ ";") :=
    isStatement_of_parts (by decide) hvalue
  simp only [← String.append_assoc] at hstatement
  have hquote : "';" = "'" ++ ";" := rfl
  rw [versionLine, hquote, ← String.append_assoc]
  exact hstatement

/-- **The version block** is closed, and nothing but the version is kept of it. -/
theorem keptOf_versionBlock (h : '\n' ∉ version.toList) :
    IsClosed (versionBlock version) ∧
      keptOf (Text.charLines (versionBlock version)) = [(versionLine version).toList] ∧
      (Text.charLines (versionBlock version)).length = 8 := by
  have hlines : Text.charLines (versionBlock version) =
      versionComment.flatMap Text.charLines ++ [(versionLine version).toList] := by
    have hblock : versionBlock version = Text.unlines (versionComment ++ [versionLine version]) :=
      rfl
    rw [hblock, Text.charLines_unlines (by simp), List.flatMap_append, List.flatMap_singleton,
      (isStatement_versionLine h).charLines]
  have hcomment : scanLines .code (versionComment.flatMap Text.charLines) = ([], .code) := by
    decide +kernel
  have hlength : (versionComment.flatMap Text.charLines).length = 7 := by
    decide +kernel
  unfold Strip.IsClosed Closed keptOf
  rw [hlines, scanLines_append, hcomment, scanLines_cons, (isStatement_versionLine h).scanLine]
  refine ⟨rfl, rfl, ?_⟩
  rw [List.length_append, hlength]
  rfl

/-! ### Blocks -/

/-- **A plan whose fragments and tails are comment-closed**, and whose functions have plain
names. -/
structure ClosedPlan (p : Plan) : Prop where
  /-- every fragment is closed -/
  fragments : ∀ m ∈ p.helpers ++ p.functions, IsClosed m.source
  /-- every tail is closed -/
  tails : ∀ m ∈ p.functions, IsClosed m.entry.tail.value.display
  /-- every name is on one line -/
  names : ∀ m ∈ p.functions, HasPlainNames m.entry

theorem ClosedPlan.isStatement (h : ClosedPlan p) :
    ∀ line ∈ p.functions.flatMap fun m => assignmentLines m.entry, IsStatement line := by
  intro line hline
  obtain ⟨m, hm, hmem⟩ := List.mem_flatMap.1 hline
  exact isStatement_assignmentLines (h.names m hm) line hmem

theorem isNeutral_assignmentTexts (h : ClosedPlan p) :
    ∀ text ∈ "// add functions to `lodash`" :: p.functions.flatMap fun m => assignmentLines m.entry,
      IsNeutral text :=
  List.forall_mem_cons.2 ⟨by decide +kernel, fun line hline => (h.isStatement line hline).isNeutral⟩

theorem isClosed_of_mem_optionalBlock {text : String} (h : IsNeutral text)
    (hblock : block ∈ optionalBlock text) : IsClosed block := by
  unfold optionalBlock at hblock
  split at hblock
  · cases hblock
  · rw [List.mem_singleton.1 hblock]
    exact h.isClosed

/-- **Every block of a script is closed.** -/
theorem isClosed_block (h : ClosedPlan p) (hversion : '\n' ∉ header.version.display.toList) :
    ∀ block ∈ blocks header c p, IsClosed block := by
  unfold blocks
  simp only [List.forall_mem_append]
  -- the blocks in the order of the script
  refine ⟨⟨⟨⟨⟨⟨⟨?strict, ?detection⟩, ?helpers⟩, ?functions⟩, ?assignments⟩, ?tails⟩, ?version⟩,
    ?exposure⟩
  case strict =>
    intro block hblock
    rw [List.mem_ite_nil_right, List.mem_singleton] at hblock
    rw [hblock.2]
    exact rfl
  case detection =>
    intro block hblock
    rw [List.mem_ite_nil_right] at hblock
    exact isClosed_of_mem_optionalBlock (isNeutral_detection c.exports) hblock.2
  case helpers =>
    intro block hblock
    obtain ⟨m, hm, rfl⟩ := List.mem_map.1 hblock
    exact h.fragments m (List.mem_append_left _ hm)
  case functions =>
    intro block hblock
    obtain ⟨m, hm, rfl⟩ := List.mem_map.1 hblock
    exact h.fragments m (List.mem_append_right _ hm)
  case assignments =>
    intro block hblock
    rw [(mem_assignmentBlocks_iff.1 hblock).2]
    exact (isNeutral_unlines (isNeutral_assignmentTexts h)).isClosed
  case tails =>
    intro block hblock
    obtain ⟨tail, htail, rfl⟩ := List.mem_map.1 hblock
    obtain ⟨m, hm, rfl⟩ := List.mem_map.1 (List.mem_filter.1 htail).1
    exact h.tails m hm
  case version =>
    intro block hblock
    rw [List.mem_singleton.1 hblock]
    exact (keptOf_versionBlock hversion).1
  case exposure =>
    intro block hblock
    rw [List.mem_ite_nil_right] at hblock
    exact isClosed_of_mem_optionalBlock (isNeutral_exposure c.exports) hblock.2

theorem versionBlock_mem_blocks :
    versionBlock header.version.display ∈ blocks header c p := by
  unfold blocks
  simp only [List.mem_append, List.mem_singleton, true_or, or_true]

/-! ### The body and the text -/

/-- The blocks are closed as they stand in the body. -/
theorem isClosed_indented (h : ClosedPlan p) (hversion : '\n' ∉ header.version.display.toList) :
    ∀ text ∈ (blocks header c p).map indent, IsClosed text := by
  intro text htext
  obtain ⟨block, hblock, rfl⟩ := List.mem_map.1 htext
  exact isClosed_indent.2 (isClosed_block h hversion block hblock)

/-- What is kept of the body is what is kept of its blocks. -/
theorem keptOf_body (h : ClosedPlan p) (hversion : '\n' ∉ header.version.display.toList) :
    IsClosed (body header c p) ∧
      keptOf (Text.charLines (body header c p)) =
        (blocks header c p).flatMap fun block => keptOf (Text.charLines block) := by
  obtain ⟨hclosed, hkept⟩ := isClosed_intercalate (isClosed_indented (c := c) h hversion)
  refine ⟨hclosed, hkept.trans ?_⟩
  rw [List.flatMap_map]
  exact List.flatMap_congr fun block _ => keptOf_indent block

/-- Fewer lines are kept of the body than it has: the comment over the version is dropped. -/
theorem length_keptOf_body_lt (h : ClosedPlan p) (hversion : '\n' ∉ header.version.display.toList) :
    (keptOf (Text.charLines (body header c p))).length <
      (Text.charLines (body header c p)).length := by
  have hne : (blocks header c p).map indent ≠ [] :=
    mt List.map_eq_nil_iff.1 (List.ne_nil_of_mem versionBlock_mem_blocks)
  unfold body
  rw [Text.charLines_intercalate hne]
  have hmem : Text.charLines (indent (versionBlock header.version.display)) ∈
      ((blocks header c p).map indent).map Text.charLines :=
    List.mem_map_of_mem (List.mem_map_of_mem versionBlock_mem_blocks)
  refine length_keptOf_intercalate_lt ?_ hmem ?_
  · intro lines hlines
    obtain ⟨text, htext, rfl⟩ := List.mem_map.1 hlines
    exact isClosed_indented h hversion text htext
  · obtain ⟨-, hkept, hlength⟩ := keptOf_versionBlock hversion
    rw [keptOf_indent, hkept, charLines_indent, List.length_map, hlength, List.length_singleton]
    decide

/-- The first line of the usual wrapping. -/
def wrapperStart : String := ";(function(window, undefined) \x7b"

/-- The last line of the usual wrapping. -/
def wrapperEnd : String := "\x7d(this));"

/-- The lines of a script in its usual wrapping. -/
theorem charLines_text (hwrapper : c.wrapper = none) :
    Text.charLines (text header c p) = Text.charLines (banner header c.tokens) ++
      ([wrapperStart.toList] ++ Text.charLines (body header c p) ++ [wrapperEnd.toList] ++
        [[]]) := by
  have hstart : ";(function(window, undefined) \x7b\n" = wrapperStart ++ "\n" := by decide +kernel
  have hend : "\n\x7d(this));" = "\n" ++ wrapperEnd := by decide +kernel
  -- the text, put together from its parts at the line feeds
  have htext : text header c p = banner header c.tokens ++ "\n" ++
      (wrapperStart ++ "\n" ++ body header c p ++ "\n" ++ wrapperEnd ++ "\n" ++ "") := by
    unfold text
    rw [hwrapper]
    simp only [hstart, hend, String.append_assoc, String.append_empty]
  have hone : Text.charLines wrapperStart = [wrapperStart.toList] := by decide +kernel
  have hlast : Text.charLines wrapperEnd = [wrapperEnd.toList] := by decide +kernel
  rw [htext, Text.charLines_append, Text.charLines_append, Text.charLines_append,
    Text.charLines_append, hone, hlast, Text.charLines_empty]

/-- **What is kept of a script** in its usual wrapping. -/
theorem keptLines_text (hwrapper : c.wrapper = none) (h : ClosedPlan p)
    (hversion : '\n' ∉ header.version.display.toList) :
    keptLines (text header c p) = keptOf (Text.charLines (banner header c.tokens)) ++
      ([wrapperStart.toList] ++ keptOf (Text.charLines (body header c p)) ++
        [wrapperEnd.toList]) := by
  have hstart : scanLines .code [wrapperStart.toList] = ([wrapperStart.toList], .code) := by
    decide +kernel
  have hend : keptOf ([wrapperEnd.toList] ++ [[]]) = [wrapperEnd.toList] := by decide +kernel
  have hclosedStart : Closed [wrapperStart.toList] := congrArg Prod.snd hstart
  have hkeptStart : keptOf [wrapperStart.toList] = [wrapperStart.toList] := congrArg Prod.fst hstart
  have hbody : Closed (Text.charLines (body header c p)) := (keptOf_body h hversion).1
  rw [keptLines_eq, charLines_text hwrapper, keptOf_append (closed_banner header c.tokens),
    List.append_assoc _ [wrapperEnd.toList], keptOf_append (hclosedStart.append hbody),
    keptOf_append hclosedStart, hkeptStart, hend]

/-- **At least two lines of a script are dropped**, one of them after the final line feed. -/
theorem length_keptLines_text (hwrapper : c.wrapper = none) (h : ClosedPlan p)
    (hversion : '\n' ∉ header.version.display.toList) :
    (keptLines (text header c p)).length + 1 < (Text.charLines (text header c p)).length := by
  have hbanner := length_keptOf_le (Text.charLines (banner header c.tokens))
  have hbody := length_keptOf_body_lt (c := c) h hversion
  rw [keptLines_text hwrapper h hversion, charLines_text hwrapper]
  simp only [List.length_append, List.length_singleton]
  omega

/-- **What is kept of a block** is kept of the script. -/
theorem mem_keptLines_text (hwrapper : c.wrapper = none) (h : ClosedPlan p)
    (hversion : '\n' ∉ header.version.display.toList) (hblock : block ∈ blocks header c p)
    {kept : List Char} (hkept : kept ∈ keptOf (Text.charLines block)) :
    kept ∈ keptLines (text header c p) := by
  have hbody : kept ∈ keptOf (Text.charLines (body header c p)) := by
    rw [(keptOf_body h hversion).2]
    exact List.mem_flatMap.2 ⟨block, hblock, hkept⟩
  rw [keptLines_text hwrapper h hversion]
  simp [hbody]

/-- **A line of a block** that is not blank is a line of the script, two places further to the
right. -/
theorem indented_mem_lines_text (hwrapper : c.wrapper = none) (hblock : block ∈ blocks header c p)
    (hline : line ∈ Text.lines block) (hblank : Text.isAllBlank line = false) :
    "  " ++ line ∈ Text.lines (text header c p) := by
  have hindented : ("  " ++ line).toList ∈ Text.charLines (indent block) := by
    rw [charLines_indent]
    refine List.mem_map.2 ⟨line.toList, Text.mem_lines_iff.1 hline, ?_⟩
    rw [String.ofList_toList, indentLine, hblank]
    rfl
  have hbody : ("  " ++ line).toList ∈ Text.charLines (body header c p) := by
    have hmem := List.mem_map_of_mem (f := indent) hblock
    unfold body
    rw [Text.charLines_intercalate (List.ne_nil_of_mem hmem)]
    exact (Text.isInfix_intercalate (List.mem_map_of_mem hmem)).subset hindented
  rw [Text.mem_lines_iff, charLines_text hwrapper]
  simp only [List.mem_append, hbody, true_or, or_true]

end CustomBuild.Script
