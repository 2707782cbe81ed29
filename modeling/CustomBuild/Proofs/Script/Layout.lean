import CustomBuild.Proofs.Command.Template
import CustomBuild.Proofs.Related
import CustomBuild.Proofs.Text.Breaks
import CustomBuild.Script.Basic

/-!
# The layout of a script

What the text of a script holds is said here without the functions that write it.  It is the banner,
and then the blocks between the two parts of what surrounds them, with an empty line from one to the
next; every line of a block has two blanks in front of it, unless it is blank itself, and then it is
empty (`Script.HasBlocks`).

The blocks of a plan are its fragments, a line for each property of the library object, and the
tails, each as the entry has it, with what the command asks for before and behind them
(`Script.IsTextOf`).  There is one such text, and it is the one that is written
(`Script.isTextOf_iff`), so a script that is generated has the text of its plan in this sense
(`Script.exists_isTextOf`).
-/

namespace CustomBuild

/-! ### Properties -/

/-- The names of an entry: its own and its aliases. -/
def Entry.spellings (e : Entry) : List String :=
  e.name :: e.aliases

/-- **The properties** that a script gives the library object, each with its function. -/
def Plan.properties (p : Plan) : List (String × String) :=
  (p.functions.filter fun m => m.entry.isStatic).flatMap fun m =>
    m.entry.spellings.map fun property => (property, m.entry.name)

/-! ### Values -/

/-- **The text that a value is**, with or without halves of surrogate pairs. -/
inductive Json.HasText : Json → String → Prop where
  /-- a text -/
  | string (text : String) : HasText (.string text) text
  /-- a text with halves of surrogate pairs -/
  | broken (text : String) : HasText (.broken text) text

theorem Json.hasText_iff {value : Json} {text : String} :
    value.HasText text ↔ value.isText = true ∧ text = value.display := by
  constructor
  · intro h
    cases h <;> exact ⟨rfl, rfl⟩
  · rintro ⟨htext, rfl⟩
    cases value with
    | string text => exact .string text
    | broken text => exact .broken text
    | _ => cases htext

namespace Script

variable {r : Registry} {c : Command} {header : RegistryHeader} {names : List String} {p : Plan}
  {source block : String} {functions : List Emitted}

/-! ### Blocks -/

/-- **A line moved two places to the right**: a line of blanks becomes empty. -/
inductive IsMovedLine : String → String → Prop where
  /-- a line of blanks -/
  | blank {line : String} (h : ∀ c ∈ line.toList, c.toNat ∈ Text.blankCodes) : IsMovedLine line ""
  /-- a line with something else -/
  | filled {line : String} (h : ∃ c ∈ line.toList, c.toNat ∉ Text.blankCodes) :
    IsMovedLine line ("  " ++ line)

/-- **A block moved two places to the right**, line by line. -/
def IsMoved (block moved : String) : Prop :=
  ∃ lines movedLines : List String, (∀ line ∈ lines, '\n' ∉ line.toList) ∧
    block = "\n".intercalate lines ∧ List.Forall₂ IsMovedLine lines movedLines ∧
    moved = "\n".intercalate movedLines

/-- **What stands before and behind the blocks**: a function that is called at once, or the two
parts of a template.  A template without a mark stands before the blocks as a whole. -/
inductive Surrounds : Option WrapperTemplate → String → String → Prop where
  /-- the usual function -/
  | call : Surrounds none ";(function(window, undefined) \x7b" "\x7d(this));"
  /-- a template that is cut at its first mark -/
  | parts {template : WrapperTemplate} {before after : String} (h : template.CutAt before after) :
    Surrounds (some template) before after
  /-- a template without a mark -/
  | whole {template : WrapperTemplate}
    (h : ∀ front back, template.text ≠ front ++ outputMark ++ back) :
    Surrounds (some template) template.text ""

/-- **A source with the given blocks** below the banner of a command. -/
def HasBlocks (header : RegistryHeader) (c : Command) (blocks : List String) (source : String) :
    Prop :=
  ∃ (before after : String) (moved : List String), Surrounds c.wrapper before after ∧
    List.Forall₂ IsMoved blocks moved ∧
    source = banner header c.tokens ++ "\n" ++ before ++ "\n" ++ "\n\n".intercalate moved ++ "\n"
      ++ after ++ "\n"

/-- **Indenting** a line moves it to the right. -/
theorem isMovedLine_iff {line moved : String} :
    IsMovedLine line moved ↔ moved = indentLine line := by
  have hblank : Text.isAllBlank line = true ↔ ∀ c ∈ line.toList, c.toNat ∈ Text.blankCodes := by
    rw [Text.isAllBlank, List.all_eq_true]
    exact forall₂_congr fun _ _ => Text.mem_blankCodes_iff.symm
  rw [indentLine]
  split_ifs with h
  · have hall := hblank.1 h
    refine ⟨fun hmoved => ?_, fun heq => heq ▸ .blank hall⟩
    cases hmoved with
    | blank _ => rfl
    | filled hfilled =>
      obtain ⟨c, hc, hnot⟩ := hfilled
      exact absurd (hall c hc) hnot
  · have hsome : ∃ c ∈ line.toList, c.toNat ∉ Text.blankCodes := by simpa using mt hblank.2 h
    refine ⟨fun hmoved => ?_, fun heq => heq ▸ .filled hsome⟩
    cases hmoved with
    | blank hall => exact absurd (hblank.2 hall) h
    | filled _ => rfl

/-- **Indenting** a block moves it to the right. -/
theorem isMoved_iff {moved : String} : IsMoved block moved ↔ moved = indent block := by
  constructor
  · rintro ⟨lines, movedLines, hfeed, rfl, hmoved, rfl⟩
    obtain rfl : movedLines = lines.map indentLine :=
      eq_map_of_forall₂ (fun _ _ => isMovedLine_iff.1) hmoved
    cases lines with
    | nil => rfl
    | cons line rest =>
      have hlines := Text.lines_unlines (List.cons_ne_nil line rest) hfeed
      unfold Text.unlines at hlines
      rw [indent, hlines, Text.unlines]
  · rintro rfl
    refine ⟨Text.lines block, (Text.lines block).map indentLine, fun line hline => ?_,
      (Text.unlines_lines block).symm, ?_, rfl⟩
    · exact Text.not_mem_of_mem_charLines (Text.mem_lines_iff.1 hline)
    · rw [List.forall₂_map_right_iff, List.forall₂_same]
      exact fun line _ => isMovedLine_iff.2 rfl

/-- There is one way to surround blocks. -/
theorem Surrounds.unique {wrapper : Option WrapperTemplate} {before after front back : String}
    (h : Surrounds wrapper before after) (hother : Surrounds wrapper front back) :
    before = front ∧ after = back := by
  cases h with
  | call =>
    cases hother
    exact ⟨rfl, rfl⟩
  | parts hcut =>
    cases hother with
    | parts hcut' => exact hcut.unique hcut'
    | whole hnone => exact absurd hcut.text_eq (hnone _ _)
  | whole hnone =>
    cases hother with
    | parts hcut => exact absurd hcut.text_eq (hnone _ _)
    | whole _ => exact ⟨rfl, rfl⟩

/-- **There is one source** with given blocks. -/
theorem HasBlocks.unique {blocks : List String} {other : String}
    (h : HasBlocks header c blocks source) (hother : HasBlocks header c blocks other) :
    source = other := by
  obtain ⟨before, after, moved, hsurrounds, hmoved, rfl⟩ := h
  obtain ⟨front, back, others, hsurrounds', hothers, rfl⟩ := hother
  obtain ⟨rfl, rfl⟩ := hsurrounds.unique hsurrounds'
  have hindent {all : List String} (hall : List.Forall₂ IsMoved blocks all) :
      all = blocks.map indent :=
    eq_map_of_forall₂ (fun _ _ => isMoved_iff.1) hall
  rw [hindent hmoved, hindent hothers]

/-- Every template has a part before what it is rendered with, and one behind it. -/
theorem exists_surrounds_render (template : WrapperTemplate) :
    ∃ before after, Surrounds (some template) before after ∧
      ∀ body, template.render body = before ++ "\n" ++ body ++ "\n" ++ after := by
  cases hparts : Text.cut? outputMark.toList template.text.toList with
  | some parts =>
    have hcut : template.CutAt (String.ofList parts.1) (String.ofList parts.2) :=
      WrapperTemplate.cutAt_iff.2 (by simpa using hparts)
    exact ⟨_, _, .parts hcut, hcut.render_eq⟩
  | none =>
    have hmark := Text.cut?_eq_none_iff.1 hparts
    rw [← Text.contains_iff_isInfix, Text.contains_iff_exists] at hmark
    refine ⟨template.text, "", .whole (by simpa using hmark), fun body => ?_⟩
    rw [WrapperTemplate.render, hparts, String.append_empty]

/-- **The text of a script** has its blocks. -/
theorem hasBlocks_text : HasBlocks header c (blocks header c p) (text header c p) := by
  have hmoved : List.Forall₂ IsMoved (blocks header c p) ((blocks header c p).map indent) := by
    rw [List.forall₂_map_right_iff, List.forall₂_same]
    exact fun block _ => isMoved_iff.2 rfl
  unfold text HasBlocks
  cases c.wrapper with
  | none =>
    refine ⟨_, _, _, .call, hmoved, ?_⟩
    simp only [String.append_assoc]
    rfl
  | some template =>
    obtain ⟨before, after, hsurrounds, hrender⟩ := exists_surrounds_render template
    refine ⟨before, after, _, hsurrounds, hmoved, ?_⟩
    simp only [hrender, String.append_assoc]
    rfl

/-! ### The blocks of a plan -/

/-- The blocks before the fragments. -/
def opening (c : Command) : List String :=
  (if "strict" ∈ c.modes then ["'use strict';"] else [])
  ++ (if c.wrapper.isNone then optionalBlock (detection c.exports) else [])

/-- The line that gives the library object a property. -/
def assignmentLine (property : String × String) : String :=
  coreName ++ "." ++ property.1 ++ " = " ++ property.2 ++ ";"

/-- **The block of the properties**: a comment, and then a line for each of them.  Without any there
is no block. -/
def propertyBlocks (p : Plan) : List String :=
  if p.properties = [] then []
  else [Text.unlines ("// add functions to `lodash`" :: p.properties.map assignmentLine)]

/-- The assignments of functions are those of the functions that are assigned at all. -/
theorem flatMap_assignmentLines :
    (functions.flatMap fun m => assignmentLines m.entry) =
      (functions.filter fun m => m.entry.isStatic).flatMap fun m =>
        (m.entry.spellings.map fun property => (property, m.entry.name)).map assignmentLine := by
  induction functions with
  | nil => rfl
  | cons m rest ih =>
    rw [List.flatMap_cons, ih, List.filter_cons]
    cases hstatic : m.entry.isStatic with
    | false => simp [assignmentLines, hstatic]
    | true =>
      rw [if_pos rfl, List.flatMap_cons]
      congr 1
      simp [assignmentLines, hstatic, Entry.spellings, assignmentLine]

/-- **The assignments of a script** are the block of its properties. -/
theorem assignmentBlocks_eq : assignmentBlocks p.functions = propertyBlocks p := by
  have hlines : (p.functions.flatMap fun m => assignmentLines m.entry) =
      p.properties.map assignmentLine := by
    rw [flatMap_assignmentLines, Plan.properties, List.map_flatMap]
  unfold assignmentBlocks propertyBlocks
  simp only [hlines]
  cases p.properties with
  | nil => rfl
  | cons property rest =>
    rw [if_neg (by simp), if_neg (List.cons_ne_nil _ _), List.map_cons]
    -- the comment is the first line of the block
    have hcomment : "// add functions to `lodash`\n" = "// add functions to `lodash`" ++ "\n" := rfl
    rw [hcomment]
    unfold Text.unlines
    rw [String.intercalate_cons_cons]

/-- The blocks after the tails. -/
def closing (header : RegistryHeader) (c : Command) : List String :=
  versionBlock header.version.display
    :: (if c.wrapper.isNone then optionalBlock (exposure c.exports) else [])

/-- **The text of a plan**: the fragments of the helpers and of the functions, the block of the
properties, and the tails that there are. -/
def IsTextOf (header : RegistryHeader) (c : Command) (p : Plan) (source : String) : Prop :=
  ∃ fragments tails : List String,
    List.Forall₂ (fun m text => m.fragment.HasText text) (p.helpers ++ p.functions) fragments ∧
    List.Forall₂ Json.HasText
      ((p.functions.map fun m => m.entry.tail.value).filter Json.isTruthy) tails ∧
    HasBlocks header c
      (opening c ++ fragments ++ propertyBlocks p ++ tails ++ closing header c) source

/-! ### Generation -/

/-- **A script that is not empty** is the text of a plan. -/
theorem generate_eq_ok (hnames : names ≠ [])
    (hg : (generate r c names).outcome = .ok source) :
    ∃ p, planFor r c.modes names = .ok p ∧ (generate r c names).faults = p.faults ∧
      source = text r.header c p ∧ p.misuse? = none := by
  unfold generate at hg ⊢
  rw [if_neg (mt List.isEmpty_iff.1 hnames)] at hg ⊢
  cases hp : planFor r c.modes names with
  | error error =>
    rw [hp] at hg
    cases hg
  | ok p =>
    rw [hp] at hg
    simp only [ofPlan] at hg ⊢
    split_ifs at hg
    cases hmisuse : p.misuse? with
    | some misuse =>
      rw [hmisuse] at hg
      cases hg
    | none =>
      rw [hmisuse] at hg
      exact ⟨p, rfl, rfl, (Except.ok.inj hg).symm, hmisuse⟩

/-- A plan with texts and the core helper becomes a script. -/
theorem outcome_of_planFor (hnames : names ≠ []) (hplan : planFor r c.modes names = .ok p)
    (hcore : coreName ∉ p.omitted) (hmisuse : p.misuse? = none) :
    (generate r c names).outcome = .ok (text r.header c p) := by
  rw [generate, if_neg (mt List.isEmpty_iff.1 hnames), hplan]
  simp only [ofPlan]
  rw [if_neg (mt List.contains_iff_mem.1 hcore), hmisuse]

theorem plan_of_planFor (h : planFor r c.modes names = .ok p) : r.plan c.modes names = .ok p := by
  unfold planFor at h
  split_ifs at h
  cases hplan : r.plan c.modes names with
  | error name =>
    rw [hplan] at h
    cases h
  | ok q =>
    rw [hplan] at h
    exact congrArg Except.ok (Except.ok.inj h)

/-- Nothing keeps a plan from becoming a script if all of its values are texts. -/
theorem misuse?_eq_none_iff : p.misuse? = none ↔ ∀ value ∈ p.values, value.isText = true := by
  rw [Plan.misuse?, Option.map_eq_none_iff, List.find?_eq_none]
  exact forall₂_congr fun value _ => by simp

/-- The fragments of a plan are among its values. -/
theorem fragment_mem_values {m : Emitted} (hm : m ∈ p.helpers ++ p.functions) :
    m.fragment ∈ p.values :=
  List.mem_append_left _ (List.mem_map.2 ⟨m, hm, rfl⟩)

/-- The tails of a plan are among its values. -/
theorem tail_mem_values {value : Json}
    (h : value ∈ (p.functions.map fun m => m.entry.tail.value).filter Json.isTruthy) :
    value ∈ p.values :=
  List.mem_append_right _ h

theorem tailBlocks_eq : tailBlocks functions =
    ((functions.map fun m => m.entry.tail.value).filter Json.isTruthy).map Json.display := by
  rw [tailBlocks, List.filter_map, List.filter_map, List.map_map, List.map_map]
  rfl

/-- The blocks of a plan, the fragments together. -/
theorem blocks_eq : blocks header c p =
    opening c ++ (p.helpers ++ p.functions).map Emitted.source ++ propertyBlocks p
      ++ tailBlocks p.functions ++ closing header c := by
  unfold blocks opening closing
  simp only [assignmentBlocks_eq, List.map_append, List.append_assoc, List.singleton_append]

/-- **The text of a plan** whose values are texts is the one that is written. -/
theorem isTextOf_iff (h : p.misuse? = none) :
    IsTextOf header c p source ↔ source = text header c p := by
  have hblocks : HasBlocks header c (blocks header c p) (text header c p) := hasBlocks_text
  rw [blocks_eq] at hblocks
  constructor
  · rintro ⟨fragments, tails, hfragments, htails, hsource⟩
    have hdisplay : ∀ (value : Json) (text : String), value.HasText text → text = value.display :=
      fun _ _ htext => (Json.hasText_iff.1 htext).2
    obtain rfl : fragments = (p.helpers ++ p.functions).map Emitted.source :=
      eq_map_of_forall₂ (fun m => hdisplay m.fragment) hfragments
    obtain rfl : tails = tailBlocks p.functions :=
      (eq_map_of_forall₂ hdisplay htails).trans tailBlocks_eq.symm
    exact hsource.unique hblocks
  · rintro rfl
    rw [misuse?_eq_none_iff] at h
    refine ⟨(p.helpers ++ p.functions).map Emitted.source, tailBlocks p.functions, ?_, ?_, hblocks⟩
    · rw [List.forall₂_map_right_iff, List.forall₂_same]
      exact fun m hm => Json.hasText_iff.2 ⟨h _ (fragment_mem_values hm), rfl⟩
    · rw [tailBlocks_eq, List.forall₂_map_right_iff, List.forall₂_same]
      exact fun value hvalue => Json.hasText_iff.2 ⟨h _ (tail_mem_values hvalue), rfl⟩

/-- **A script that is not empty** has the text of its plan. -/
theorem exists_isTextOf (hnames : names ≠ []) (hg : (generate r c names).outcome = .ok source) :
    ∃ p, planFor r c.modes names = .ok p ∧ (generate r c names).faults = p.faults ∧
      IsTextOf r.header c p source := by
  obtain ⟨p, hplan, hfaults, rfl, hmisuse⟩ := generate_eq_ok hnames hg
  exact ⟨p, hplan, hfaults, (isTextOf_iff hmisuse).2 rfl⟩

/-! ### Blocks in a source -/

/-- **A source has its blocks**, each moved to the right. -/
theorem HasBlocks.exists_isMoved {blocks : List String} (h : HasBlocks header c blocks source)
    (hblock : block ∈ blocks) : ∃ moved, IsMoved block moved ∧ moved.toList <:+: source.toList := by
  obtain ⟨before, after, all, -, hall, rfl⟩ := h
  obtain ⟨moved, hmem, hmoved⟩ := exists_mem_of_forall₂ hall hblock
  refine ⟨moved, hmoved, ?_⟩
  have hbody : moved.toList <:+: ("\n\n".intercalate all).toList := by
    rw [String.toList_intercalate]
    exact Text.isInfix_intercalate (List.mem_map_of_mem hmem)
  have hbetween := Text.isInfix_between (banner header c.tokens ++ "\n" ++ before ++ "\n")
    ("\n\n".intercalate all) ("\n" ++ after ++ "\n")
  simp only [← String.append_assoc] at hbetween
  exact hbody.trans hbetween

/-- **A source has the fragments of its plan**, each moved to the right. -/
theorem IsTextOf.exists_isMoved {m : Emitted} (h : IsTextOf header c p source)
    (hm : m ∈ p.helpers ++ p.functions) : ∃ fragment moved, m.fragment.HasText fragment ∧
      IsMoved fragment moved ∧ moved.toList <:+: source.toList := by
  obtain ⟨fragments, tails, hfragments, -, hblocks⟩ := h
  obtain ⟨fragment, hmem, htext⟩ := exists_mem_of_forall₂ hfragments hm
  have hblock : fragment ∈
      opening c ++ fragments ++ propertyBlocks p ++ tails ++ closing header c := by
    simp only [List.mem_append, hmem, or_true, true_or]
  obtain ⟨moved, hmoved, hinfix⟩ := hblocks.exists_isMoved hblock
  exact ⟨fragment, moved, htext, hmoved, hinfix⟩

end Script

end CustomBuild
