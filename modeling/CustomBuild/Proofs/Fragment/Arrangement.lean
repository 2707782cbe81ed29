import CustomBuild.Proofs.Fragment.NearMiss

/-!
# The arrangement of sections

The sections of a file may come in any order.  Lines whose sections are moved around, each as a
whole (`Rearranged`), are laid out with the same preamble and with the same sections in another
order (`Rearranged.layout`).  What a file adds to a table of sections is a list of rows
(`storedRows`), and the table can be looked up the same way whichever order the rows come in
(`Sections.addFile_eq_none_iff_rows`, `Sections.get?_addFile_rows`).

A table is used in two ways: its rows are looked up, and the names that have some section are
listed.  The names can be told from look-ups, because no entry is ever given an empty table of
variants (`Sections.Filled`).  So tables with the same look-ups are as good as each other
(`Sections.Alike`).
-/

namespace CustomBuild.Fragment

variable {file text : String} {key : Key} {lines others block rest : List String}
  {blocks moved : List (List String)} {source name : String}

/-! ### Moving sections -/

/-- **The lines of a section**: a marker, and lines that are no markers. -/
def IsSection (block : List String) : Prop :=
  ∃ marker key inner, block = marker :: inner ∧ IsMarker marker key ∧
    ∀ line ∈ inner, ∀ key, ¬ IsMarker line key

/-- **Lines with their sections moved around.**  What stands before the first marker stays there. -/
def Rearranged (lines others : List String) : Prop :=
  ∃ front blocks moved,
    lines = front ++ List.flatten blocks ∧ others = front ++ List.flatten moved ∧
    blocks.Perm moved ∧ (∀ line ∈ front, ∀ key, ¬ IsMarker line key) ∧
    ∀ block ∈ blocks, IsSection block

theorem IsSection.of_marker? {marker : String} {inner : List String}
    (hmarker : marker? marker = some key) (hinner : ∀ line ∈ inner, marker? line = none) :
    IsSection (marker :: inner) :=
  ⟨marker, key, inner, rfl, marker?_eq_some_iff.1 hmarker, fun line hline =>
    marker?_eq_none_iff.1 (hinner line hline)⟩

/-- Any lines are sections, with what stands before the first of them. -/
theorem exists_blocks (lines : List String) :
    ∃ front blocks, lines = front ++ List.flatten blocks ∧
      (∀ line ∈ front, ∀ key, ¬ IsMarker line key) ∧ ∀ block ∈ blocks, IsSection block := by
  induction lines with
  | nil => exact ⟨[], [], rfl, List.forall_mem_nil _, List.forall_mem_nil _⟩
  | cons line rest ih =>
    obtain ⟨front, blocks, rfl, hfront, hblocks⟩ := ih
    cases hline : marker? line with
    | none =>
      exact ⟨line :: front, blocks, rfl,
        List.forall_mem_cons.2 ⟨marker?_eq_none_iff.1 hline, hfront⟩, hblocks⟩
    | some key =>
      -- the lines before the first section belong to the new one
      have hblock : IsSection (line :: front) :=
        ⟨line, key, front, rfl, marker?_eq_some_iff.1 hline, hfront⟩
      exact ⟨[], (line :: front) :: blocks, rfl, List.forall_mem_nil _,
        List.forall_mem_cons.2 ⟨hblock, hblocks⟩⟩

/-- Sections may stay where they are. -/
theorem Rearranged.refl (lines : List String) : Rearranged lines lines := by
  obtain ⟨front, blocks, hlines, hfront, hblocks⟩ := exists_blocks lines
  exact ⟨front, blocks, blocks, hlines, hlines, .refl blocks, hfront, hblocks⟩

/-- A section before other sections is laid out on its own. -/
theorem layout_section_append (hblock : IsSection block) (hrest : (layout rest).preamble = []) :
    (layout (block ++ rest)).preamble = [] ∧
      (layout (block ++ rest)).sections = (layout block).sections ++ (layout rest).sections := by
  obtain ⟨marker, key, inner, rfl, hmarker, hinner⟩ := hblock
  have hkey := marker?_eq_some_iff.2 hmarker
  have hplain : ∀ line ∈ inner, marker? line = none := fun line hline =>
    marker?_eq_none_iff.2 (hinner line hline)
  have halone := layout_append hplain []
  rw [List.append_nil] at halone
  rw [List.cons_append, layout_cons_marker hkey, layout_cons_marker hkey, layout_append hplain,
    halone, hrest]
  exact ⟨rfl, rfl⟩

/-- Lines that are sections one after the other have these sections. -/
theorem layout_flatten (h : ∀ block ∈ blocks, IsSection block) :
    (layout blocks.flatten).preamble = [] ∧
      (layout blocks.flatten).sections = blocks.flatMap fun block => (layout block).sections := by
  induction blocks with
  | nil => exact ⟨rfl, rfl⟩
  | cons block more ih =>
    obtain ⟨hblock, hmore⟩ := List.forall_mem_cons.1 h
    obtain ⟨hpreamble, hsections⟩ := ih hmore
    rw [List.flatten_cons, List.flatMap_cons, ← hsections]
    exact layout_section_append hblock hpreamble

/-- **Moved sections** are the same sections in another order. -/
theorem Rearranged.layout (h : Rearranged lines others) :
    (layout lines).preamble = (layout others).preamble ∧
      (layout lines).sections.Perm (layout others).sections := by
  obtain ⟨front, blocks, moved, rfl, rfl, hperm, hfront, hblocks⟩ := h
  have hplain : ∀ line ∈ front, marker? line = none := fun line hline =>
    marker?_eq_none_iff.2 (hfront line hline)
  have hmoved : ∀ block ∈ moved, IsSection block := fun block hblock =>
    hblocks block (hperm.mem_iff.2 hblock)
  obtain ⟨hpreamble, hsections⟩ := layout_flatten hblocks
  obtain ⟨hother, hothers⟩ := layout_flatten hmoved
  rw [layout_append hplain, layout_append hplain]
  dsimp only
  rw [hpreamble, hother, hsections, hothers]
  exact ⟨rfl, hperm.flatMap_right _⟩

/-! ### Rows of sections -/

/-- **What a file adds** to a table of sections. -/
def storedRows (text : String) : List (Key × String) :=
  (layout (Text.breakLines text)).sections.map stored

/-- Only blanks stand before the first marker of a text. -/
def BeginsBlank (text : String) : Prop :=
  ∀ line ∈ (layout (Text.breakLines text)).preamble, Text.isAllBlank line = true

/-- **Texts with their sections moved around** begin alike and add the same rows. -/
theorem Rearranged.storedRows {other : String}
    (h : Rearranged (Text.breakLines text) (Text.breakLines other)) :
    (BeginsBlank text ↔ BeginsBlank other) ∧ (storedRows text).Perm (storedRows other) := by
  obtain ⟨hpreamble, hsections⟩ := h.layout
  unfold BeginsBlank
  rw [hpreamble]
  exact ⟨Iff.rfl, hsections.map stored⟩

theorem map_fst_storedRows (text : String) :
    (storedRows text).map Prod.fst = (Text.breakLines text).filterMap marker? := by
  rw [← map_fst_sections, storedRows, List.map_map]
  rfl

theorem mem_storedRows_iff :
    (key, source) ∈ storedRows text ↔
      ∃ lines, (key, lines) ∈ (layout (Text.breakLines text)).sections ∧ source = body lines := by
  unfold storedRows
  rw [List.mem_map]
  constructor
  · rintro ⟨⟨other, lines⟩, hmem, heq⟩
    cases heq
    exact ⟨lines, hmem, rfl⟩
  · rintro ⟨lines, hmem, rfl⟩
    exact ⟨_, hmem, rfl⟩

instance : Decidable (BeginsBlank text) :=
  inferInstanceAs (Decidable (∀ line ∈ (layout (Text.breakLines text)).preamble, _))

/-- The piece of a text with the first character that is no blank: only blanks stand before it. -/
theorem exists_splitWhere_eq {blanks : List Char} {first : Char} (hblanks : AllBlank blanks)
    (hfirst : Text.isBlank first = false) (more : List Char) :
    ∃ before lead back after,
      Text.splitWhere Text.isLineBreak (blanks ++ first :: more) =
        before ++ (lead ++ first :: back) :: after ∧
      (∀ piece ∈ before, AllBlank piece) ∧ AllBlank lead := by
  induction blanks with
  | nil =>
    have hbreak : ¬ Text.isLineBreak first = true := fun h => by
      rw [Text.isBlank_of_isLineBreak h] at hfirst
      cases hfirst
    rw [List.nil_append, Text.splitWhere_cons, if_neg hbreak]
    cases Text.splitWhere Text.isLineBreak more with
    | nil => exact ⟨[], [], [], [], rfl, List.forall_mem_nil _, allBlank_nil⟩
    | cons piece rest => exact ⟨[], [], piece, rest, rfl, List.forall_mem_nil _, allBlank_nil⟩
  | cons c rest ih =>
    obtain ⟨hc, hrest⟩ := List.forall_mem_cons.1 hblanks
    obtain ⟨before, lead, back, after, hsplit, hbefore, hlead⟩ := ih hrest
    -- a break ends an empty piece here; another blank goes in front of the piece that is first so
    -- far
    rw [List.cons_append, Text.splitWhere_cons, hsplit]
    split_ifs
    · exact ⟨[] :: before, lead, back, after, rfl,
        List.forall_mem_cons.2 ⟨allBlank_nil, hbefore⟩, hlead⟩
    · cases before with
      | nil =>
        exact ⟨[], c :: lead, back, after, rfl, List.forall_mem_nil _,
          List.forall_mem_cons.2 ⟨hc, hlead⟩⟩
      | cons piece others =>
        obtain ⟨hpiece, hothers⟩ := List.forall_mem_cons.1 hbefore
        exact ⟨(c :: piece) :: others, lead, back, after, rfl,
          List.forall_mem_cons.2 ⟨List.forall_mem_cons.2 ⟨hc, hpiece⟩, hothers⟩, hlead⟩

/-- A marker begins with a slash, so blanks with something else behind them are none. -/
theorem not_isMarker_of_lead {lead back : List Char} (hlead : AllBlank lead)
    (hback : back.head? ≠ some '/') (hline : line.toList = lead ++ back) :
    ¬ IsMarker line key := by
  have hhead : (lead ++ back).head? ≠ some '/' := by
    cases lead with
    | nil => exact hback
    | cons c rest =>
      intro h
      have hblank := (List.forall_mem_cons.1 hlead).1
      rw [Option.some.inj h] at hblank
      exact absurd hblank (by decide)
  intro hmarker
  rw [← hline] at hhead
  cases hmarker with
  | variant hstart hnaming => exact hhead (by rw [hstart]; rfl)
  | tail hstart hnaming => exact hhead (by rw [hstart]; rfl)

/-- **A text that begins with something else** than blanks and a marker is refused. -/
theorem not_beginsBlank {blanks more : List Char} {first : Char} (hreturn : '\r' ∉ text.toList)
    (htext : text.toList = blanks ++ first :: more) (hblanks : AllBlank blanks)
    (hfirst : Text.isBlank first = false) (hslash : first ≠ '/') : ¬ BeginsBlank text := by
  obtain ⟨before, lead, back, after, hsplit, hbefore, hlead⟩ :=
    exists_splitWhere_eq hblanks hfirst more
  have hpieces : Text.splitWhere Text.isLineBreak (Text.joinReturns text.toList) =
      before ++ (lead ++ first :: back) :: after := by
    rw [Text.joinReturns_of_not_mem hreturn, htext, hsplit]
  -- an empty piece at the end is left out, but it is not this one
  obtain ⟨others, hlines⟩ : ∃ others, Text.breakLines text =
      (before.map String.ofList) ++ String.ofList (lead ++ first :: back) :: others := by
    unfold Text.breakLines
    dsimp only
    rw [hpieces]
    split_ifs with hlast
    · have hne : after ≠ [] := by
        rintro rfl
        rw [List.getLast?_concat] at hlast
        simp at hlast
      refine ⟨after.dropLast.map String.ofList, ?_⟩
      rw [List.dropLast_append_of_ne_nil (List.cons_ne_nil _ _), List.dropLast_cons_of_ne_nil hne,
        List.map_append, List.map_cons]
    · refine ⟨after.map String.ofList, ?_⟩
      rw [List.map_append, List.map_cons]
  intro hall
  have hmem : String.ofList (lead ++ first :: back) ∈ (layout (Text.breakLines text)).preamble := by
    refine mem_preamble_iff.2 ⟨_, _, hlines, ?_, ?_⟩
    · intro earlier hearlier key
      obtain ⟨piece, hpiece, rfl⟩ := List.mem_map.1 hearlier
      have hline : (String.ofList piece).toList = piece ++ [] := by
        rw [String.toList_ofList, List.append_nil]
      exact not_isMarker_of_lead (hbefore piece hpiece) (by simp) hline
    · intro key
      refine not_isMarker_of_lead hlead ?_ String.toList_ofList
      exact fun h => hslash (Option.some.inj h)
  have hblank := isAllBlank_eq_true_iff.1 (hall _ hmem)
  rw [String.toList_ofList] at hblank
  have hfirstBlank := hblank first (List.mem_append_right _ List.mem_cons_self)
  rw [hfirst] at hfirstBlank
  cases hfirstBlank

namespace Sections

variable {s t extended : Sections}

/-- **A file is accepted** if it begins blank, and its keys are distinct and new. -/
theorem addFile_eq_none_iff_rows :
    (s.addFile file text).2 = none ↔
      BeginsBlank text ∧ ((storedRows text).map Prod.fst).Nodup ∧
        ∀ key ∈ (storedRows text).map Prod.fst, s.get? key = none := by
  rw [map_fst_storedRows]
  exact addFile_eq_none_iff

/-- **The rows of an accepted file** are found with those that were there. -/
theorem get?_addFile_rows (h : (s.addFile file text).2 = none) :
    (s.addFile file text).1.get? key = some source ↔
      s.get? key = some source ∨ (key, source) ∈ storedRows text := by
  rw [mem_storedRows_iff]
  exact get?_addFile h

theorem get?_addFile_eq_none_iff_rows (h : (s.addFile file text).2 = none) :
    (s.addFile file text).1.get? key = none ↔
      s.get? key = none ∧ key ∉ (storedRows text).map Prod.fst := by
  simp only [Option.eq_none_iff_forall_ne_some, ne_eq, get?_addFile_rows h, not_or, forall_and,
    List.mem_map, not_exists, not_and, Prod.forall]
  refine and_congr_right fun _ => ⟨?_, fun hnot source hmem => hnot key source hmem rfl⟩
  rintro hnot other source hmem rfl
  exact hnot source hmem

/-! ### Names with sections -/

/-- **No entry has an empty table of variants.** -/
def Filled (s : Sections) : Prop :=
  ∀ name variants, s.variants.get? name = some variants → ∃ tag, variants.get? tag ≠ none

theorem filled_empty : Filled {} := fun name variants h => by cases h

theorem Filled.add (h : s.Filled) (hadd : s.add file key source = .ok extended) :
    extended.Filled := by
  unfold Sections.add at hadd
  cases key with
  | tail name =>
    simp only at hadd
    split_ifs at hadd
    cases hadd
    exact h
  | variant name tag =>
    simp only at hadd
    split_ifs at hadd
    cases hadd
    intro other variants hget
    rw [Table.get?_put] at hget
    split_ifs at hget
    · rw [← Option.some.inj hget]
      exact ⟨tag, by simp [Table.get?_put]⟩
    · exact h other variants hget

theorem Filled.addAll {sections : List (Key × List String)} (h : s.Filled) :
    (s.addAll file sections).1.Filled := by
  induction sections generalizing s with
  | nil => exact h
  | cons first more ih =>
    obtain ⟨key, source⟩ := first
    rw [Sections.addAll]
    cases hadd : s.add file key (body source) with
    | ok extended => exact ih (h.add hadd)
    | error error => exact h

theorem Filled.addFile (h : s.Filled) : (s.addFile file text).1.Filled := by
  unfold Sections.addFile
  dsimp only
  split_ifs
  · exact h.addAll
  · exact h

/-- **The names with sections** are those of the keys that are found. -/
theorem Filled.mem_names_iff (h : s.Filled) :
    name ∈ s.names ↔ (∃ tag, s.get? (.variant name tag) ≠ none) ∨ s.get? (.tail name) ≠ none := by
  unfold names
  rw [NameSet.mem_ofList, List.mem_append, Table.mem_names_iff_isSome, Table.mem_names_iff_isSome,
    ← get?_tail, Option.isSome_iff_ne_none, Option.isSome_iff_ne_none]
  refine or_congr_left ⟨fun hname => ?_, ?_⟩
  · obtain ⟨variants, hvariants⟩ := Option.ne_none_iff_exists'.1 hname
    obtain ⟨tag, htag⟩ := h name variants hvariants
    refine ⟨tag, ?_⟩
    rwa [get?_variant, hvariants]
  · rintro ⟨tag, htag⟩ hnone
    rw [get?_variant, hnone] at htag
    exact htag rfl

/-! ### Tables that are as good as each other -/

/-- **Tables of sections that are alike**: what is found is the same, and so are the names. -/
structure Alike (s t : Sections) : Prop where
  /-- every key is found with the same source, or not at all -/
  get? : ∀ key, s.get? key = t.get? key
  /-- the same names have sections -/
  names : s.names = t.names

/-- Filled tables with the same look-ups are alike. -/
theorem Filled.alike (hs : s.Filled) (ht : t.Filled) (h : ∀ key, s.get? key = t.get? key) :
    s.Alike t := by
  refine ⟨h, NameSet.ext fun name => ?_⟩
  rw [hs.mem_names_iff, ht.mem_names_iff]
  simp only [h]

end Sections

end CustomBuild.Fragment
