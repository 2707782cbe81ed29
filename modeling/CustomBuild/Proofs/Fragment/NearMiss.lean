import CustomBuild.Proofs.Fragment.Written

/-!
# Lines that are almost markers

A line can begin like a marker and still be none, for instance if its name has a hyphen or if it has
three words (`IsNearMiss`).  Such a line is no error: it belongs to the section before it, and the
section that it should have started is lost in the source of another one.

Files that are all accepted are stored in one table (`Accepted`), which has the sections of all of
them and nothing else (`Accepted.get?_eq_some_iff`).  A source has a line that begins like a marker
exactly if its section has one (`hasMarkLine_body`).  So the stored sources that have such lines are
those with a near miss behind their marker, and there are none exactly if no file has a near miss
(`hasMarkLine_iff_of_accepted`).
-/

namespace CustomBuild.Fragment

variable {file text source line : String} {key : Key} {lines : List String} {s : Sections}
  {files : List (String × String)}

/-! ### Lines that begin like markers -/

/-- The line begins like a marker. -/
def BeginsMarked (line : String) : Prop :=
  Text.beginsWith line "//@" = true

/-- **A near miss** begins like a marker but is none. -/
def IsNearMiss (line : String) : Prop :=
  BeginsMarked line ∧ ∀ key, ¬ IsMarker line key

instance (line : String) : Decidable (IsNearMiss line) :=
  decidable_of_iff (Text.beginsWith line "//@" = true ∧ marker? line = none)
    (and_congr_right fun _ => marker?_eq_none_iff)

/-- **The source has a line that begins like a marker.** -/
def HasMarkLine (source : String) : Prop :=
  ∃ line ∈ Text.lines source, BeginsMarked line

theorem beginsMarked_iff : BeginsMarked line ↔ "//@".toList <+: line.toList :=
  List.isPrefixOf_iff_prefix

theorem not_isBlank_mark : ∀ c ∈ "//@".toList, Text.isBlank c = false := by
  have hall : "//@".toList.all (fun c => !Text.isBlank c) = true := by decide
  simpa using List.all_eq_true.1 hall

theorem mark_ne_nil : "//@".toList ≠ [] := by
  decide

/-- A line that begins like a marker is not blank. -/
theorem BeginsMarked.not_allBlank (h : BeginsMarked line) : ¬ AllBlank line.toList := by
  intro hblank
  have hmark := (beginsMarked_iff.1 h).subset (List.mem_cons_self : '/' ∈ "//@".toList)
  exact absurd (hblank _ hmark) (by decide)

/-- The lines of a text that begin like markers stand where the mark stands. -/
theorem hasMarkLine_iff : HasMarkLine source ↔ Text.HasLine "//@".toList source.toList := by
  have hpieces : ∀ piece ∈ Text.splitWhere (· == '\n') source.toList, '\n' ∉ piece := by
    intro piece hpiece hmem
    have hnot := Text.not_separator_of_mem_splitWhere hpiece _ hmem
    cases hnot
  rw [← Text.intercalate_splitWhere '\n' source.toList,
    Text.hasLine_intercalate not_isBlank_mark mark_ne_nil hpieces]
  unfold HasMarkLine Text.lines
  simp [beginsMarked_iff]

/-- **The source of a section** has a line that begins like a marker if the section has one. -/
theorem hasMarkLine_body (hlines : ∀ line ∈ lines, ∀ c ∈ line.toList, Text.isLineBreak c = false) :
    HasMarkLine (body lines) ↔ ∃ line ∈ lines, BeginsMarked line := by
  obtain ⟨feeds, blanks, htext, hfeeds, hblanks⟩ := (isBody_body lines).exists_eq
  have hpieces : ∀ piece ∈ lines.map String.toList, '\n' ∉ piece := by
    intro piece hpiece hmem
    obtain ⟨line, hline, rfl⟩ := List.mem_map.1 hpiece
    have hnot := hlines line hline _ hmem
    cases hnot
  -- the line feeds before the source and the blanks behind it are put back
  rw [hasMarkLine_iff, ← Text.hasLine_append_blanks not_isBlank_mark mark_ne_nil hblanks,
    ← Text.hasLine_feeds_append not_isBlank_mark mark_ne_nil hfeeds, ← htext, Text.unlines,
    String.toList_intercalate]
  have hjoined := Text.hasLine_intercalate not_isBlank_mark mark_ne_nil hpieces
  refine hjoined.trans ?_
  simp [beginsMarked_iff]

/-! ### Sections of a file -/

/-- **The sections of a file**: each has the key of a marker and the lines from there up to the next
one. -/
theorem mem_sections_iff {source : List String} :
    (key, source) ∈ (layout lines).sections ↔
      ∃ front mark back, lines = front ++ mark :: back ∧ IsMarker mark key ∧
        source = (layout back).preamble := by
  constructor
  · intro hmem
    -- the induction follows the layout, line by line
    induction lines with
    | nil => cases hmem
    | cons line rest ih =>
      cases hline : marker? line with
      | none =>
        rw [layout_cons_plain hline] at hmem
        obtain ⟨front, mark, back, rfl, hmark, hsource⟩ := ih hmem
        exact ⟨line :: front, mark, back, rfl, hmark, hsource⟩
      | some first =>
        rw [layout_cons_marker hline] at hmem
        rcases List.mem_cons.1 hmem with heq | hmem
        · obtain ⟨rfl, rfl⟩ := Prod.mk.inj heq
          exact ⟨[], line, rest, rfl, marker?_eq_some_iff.1 hline, rfl⟩
        · obtain ⟨front, mark, back, rfl, hmark, hsource⟩ := ih hmem
          exact ⟨line :: front, mark, back, rfl, hmark, hsource⟩
  · rintro ⟨front, mark, back, rfl, hmark, rfl⟩
    induction front with
    | nil =>
      rw [List.nil_append, layout_cons_marker (marker?_eq_some_iff.2 hmark)]
      exact List.mem_cons_self
    | cons line rest ih =>
      rw [List.cons_append]
      cases hline : marker? line with
      | none =>
        rw [layout_cons_plain hline]
        exact ih
      | some first =>
        rw [layout_cons_marker hline]
        exact List.mem_cons_of_mem _ ih

/-- A line that is no marker stands before the first marker or in a section. -/
theorem mem_preamble_or_sections (hline : ∀ key, ¬ IsMarker line key) (hmem : line ∈ lines) :
    line ∈ (layout lines).preamble ∨ ∃ section_ ∈ (layout lines).sections, line ∈ section_.2 := by
  induction lines with
  | nil => cases hmem
  | cons first rest ih =>
    cases hfirst : marker? first with
    | none =>
      rw [layout_cons_plain hfirst]
      rcases List.mem_cons.1 hmem with rfl | hmem
      · exact Or.inl List.mem_cons_self
      · exact (ih hmem).imp_left (List.mem_cons_of_mem _)
    | some key =>
      rw [layout_cons_marker hfirst]
      rcases List.mem_cons.1 hmem with rfl | hmem
      · exact absurd (marker?_eq_some_iff.1 hfirst) (hline key)
      · rcases ih hmem with hmem | ⟨section_, hsection, hmem⟩
        · exact Or.inr ⟨_, List.mem_cons_self, hmem⟩
        · exact Or.inr ⟨section_, List.mem_cons_of_mem _ hsection, hmem⟩

/-! ### Accepted files -/

/-- **The table of files that are all accepted**, one after the other. -/
inductive Accepted : List (String × String) → Sections → Prop
  /-- no files -/
  | nil : Accepted [] {}
  /-- one more file -/
  | add {files : List (String × String)} {s : Sections} {file text : String}
      (h : Accepted files s) (hadd : (s.addFile file text).2 = none) :
      Accepted (files ++ [(file, text)]) (s.addFile file text).1

/-- Storing one more file: the table has what it had before, and the sections of the file. -/
theorem Sections.get?_addFile (hadd : (s.addFile file text).2 = none) :
    (s.addFile file text).1.get? key = some source ↔
      s.get? key = some source ∨
        ∃ lines, (key, lines) ∈ (layout (Text.breakLines text)).sections ∧ source = body lines := by
  set sections := (layout (Text.breakLines text)).sections
  have hstored : s.addFile file text = s.addAll file sections := addFile_eq_addAll hadd
  rw [hstored] at hadd ⊢
  obtain ⟨-, hnew⟩ := addAll_eq_none_iff.1 hadd
  obtain ⟨hfound, hkept⟩ := get?_addAll hadd
  by_cases hkey : key ∈ sections.map Prod.fst
  · -- a key of the file was not there before
    rw [hnew key hkey]
    constructor
    · intro hget
      obtain ⟨section_, hmem, rfl⟩ := List.mem_map.1 hkey
      rw [hfound section_ hmem] at hget
      exact Or.inr ⟨section_.2, hmem, (Option.some.inj hget).symm⟩
    · rintro (hget | ⟨lines, hmem, rfl⟩)
      · cases hget
      · exact hfound _ hmem
  · rw [hkept key hkey]
    refine (or_iff_left ?_).symm
    rintro ⟨lines, hmem, -⟩
    exact hkey (List.mem_map_of_mem hmem)

/-- **A section swallows a near miss**: it begins with a marker for the key, and before the next
marker comes a line that is almost one. -/
def Swallows (key : Key) (lines : List String) : Prop :=
  ∃ front mark between line back, lines = front ++ mark :: (between ++ line :: back) ∧
    IsMarker mark key ∧ (∀ other ∈ between, ∀ key, ¬ IsMarker other key) ∧ IsNearMiss line

/-- The sources with a line that begins like a marker are those that swallow a near miss. -/
theorem exists_section_hasMarkLine_iff :
    (∃ source, (key, source) ∈ (layout (Text.breakLines text)).sections ∧
        HasMarkLine (body source)) ↔ Swallows key (Text.breakLines text) := by
  -- the lines of a text have no breaks in them, so its bodies have these lines
  have hunbroken : ∀ {front mark back}, Text.breakLines text = front ++ mark :: back →
      ∀ line ∈ (layout back).preamble, ∀ c ∈ line.toList, Text.isLineBreak c = false := by
    intro front mark back hlines line hline
    obtain ⟨before, after, rfl, -⟩ := mem_preamble_iff.1 hline
    have hmem : line ∈ Text.breakLines text := by
      rw [hlines]
      simp
    exact Text.not_isLineBreak_of_mem_breakLines hmem
  constructor
  · rintro ⟨source, hmem, hbody⟩
    obtain ⟨front, mark, back, hlines, hmark, rfl⟩ := mem_sections_iff.1 hmem
    rw [hasMarkLine_body (hunbroken hlines)] at hbody
    obtain ⟨line, hline, hbegins⟩ := hbody
    obtain ⟨between, after, rfl, hbetween, hplain⟩ := mem_preamble_iff.1 hline
    exact ⟨front, mark, between, line, after, hlines, hmark, hbetween, hbegins, hplain⟩
  · rintro ⟨front, mark, between, line, back, hlines, hmark, hbetween, hbegins, hplain⟩
    refine ⟨_, mem_sections_iff.2 ⟨front, mark, _, hlines, hmark, rfl⟩, ?_⟩
    rw [hasMarkLine_body (hunbroken hlines)]
    exact ⟨line, mem_preamble_iff.2 ⟨between, back, rfl, hbetween, hplain⟩, hbegins⟩

namespace Accepted

/-- **The table has the sections of all files**, and nothing else. -/
theorem get?_eq_some_iff (h : Accepted files s) :
    s.get? key = some source ↔
      ∃ file ∈ files, ∃ lines,
        (key, lines) ∈ (layout (Text.breakLines file.2)).sections ∧ source = body lines := by
  induction h with
  | nil =>
    have hempty : ({} : Sections).get? key = none := by cases key <;> rfl
    rw [hempty]
    simp
  | add h hadd ih =>
    rw [Sections.get?_addFile hadd, ih]
    simp [or_and_right, exists_or]

/-- Before the first marker of an accepted file there are only blanks. -/
theorem allBlank_of_mem_preamble {file : String × String} (h : Accepted files s)
    (hfile : file ∈ files) (hline : line ∈ (layout (Text.breakLines file.2)).preamble) :
    AllBlank line.toList := by
  induction h with
  | nil => cases hfile
  | add h hadd ih =>
    rcases List.mem_append.1 hfile with hfile | hfile
    · exact ih hfile
    · obtain rfl := List.mem_singleton.1 hfile
      have hblank := (Sections.addFile_eq_none_iff.1 hadd).1
      exact isAllBlank_eq_true_iff.1 (hblank line hline)

/-- **A stored source has a line that begins like a marker** exactly if a section with its key
swallows a near miss. -/
theorem exists_hasMarkLine_iff (h : Accepted files s) :
    (∃ source, s.get? key = some source ∧ HasMarkLine source) ↔
      ∃ file ∈ files, Swallows key (Text.breakLines file.2) := by
  simp only [h.get?_eq_some_iff, ← exists_section_hasMarkLine_iff]
  constructor
  · rintro ⟨_, ⟨file, hfile, source, hmem, rfl⟩, hmark⟩
    exact ⟨file, hfile, source, hmem, hmark⟩
  · rintro ⟨file, hfile, source, hmem, hmark⟩
    exact ⟨_, ⟨file, hfile, source, hmem, rfl⟩, hmark⟩

/-- A near miss of an accepted file is swallowed by a section. -/
theorem exists_swallows {file : String × String} (h : Accepted files s) (hfile : file ∈ files)
    (hmem : line ∈ Text.breakLines file.2) (hline : IsNearMiss line) :
    ∃ key, Swallows key (Text.breakLines file.2) := by
  rcases mem_preamble_or_sections hline.2 hmem with hearly | ⟨section_, hsection, hmem⟩
  · exact absurd (h.allBlank_of_mem_preamble hfile hearly) hline.1.not_allBlank
  · obtain ⟨front, mark, back, hlines, hmark, hsource⟩ := mem_sections_iff.1 hsection
    rw [hsource] at hmem
    obtain ⟨between, after, rfl, hbetween, -⟩ := mem_preamble_iff.1 hmem
    exact ⟨section_.1, front, mark, between, line, after, hlines, hmark, hbetween, hline⟩

end Accepted

/-- **Lines that begin like markers in stored sources.**  There is one under a key exactly if a
section with this key swallows a near miss, so there is none at all exactly if no file has a near
miss. -/
theorem hasMarkLine_iff_of_accepted (h : Accepted files s) :
    (∀ key, (∃ source, s.get? key = some source ∧ HasMarkLine source) ↔
        ∃ file ∈ files, Swallows key (Text.breakLines file.2)) ∧
      ((∀ key source, s.get? key = some source → ¬ HasMarkLine source) ↔
        ∀ file ∈ files, ∀ line ∈ Text.breakLines file.2, ¬ IsNearMiss line) := by
  refine ⟨fun key => h.exists_hasMarkLine_iff, ?_, ?_⟩
  · intro hnone file hfile line hmem hline
    obtain ⟨key, hswallows⟩ := h.exists_swallows hfile hmem hline
    obtain ⟨source, hget, hmark⟩ := h.exists_hasMarkLine_iff.2 ⟨file, hfile, hswallows⟩
    exact hnone key source hget hmark
  · intro hnone key source hget hmark
    obtain ⟨file, hfile, front, mark, between, line, back, hlines, -, -, hline⟩ :=
      h.exists_hasMarkLine_iff.1 ⟨source, hget, hmark⟩
    refine hnone file hfile line ?_ hline
    rw [hlines]
    simp

/-- A file without near misses. -/
def eachText : String :=
  "//@ each\nvar each;\n//@ each fast\nvar fast;\n//@tail each\neach.done = 1;\n"

/-- Another file without near misses: the mark stands in its lines, but begins none of them. -/
def mapText : String := "\n//@ map  \nvar map; //@ map-key\n // @for-own\n"

/-- In the sources of files without near misses no line begins like a marker. -/
theorem each_map_stored_clean :
    ∃ s, Accepted [("each.js", eachText), ("map.js", mapText)] s ∧
      ∀ key source, s.get? key = some source → ¬ HasMarkLine source := by
  have heach : (({} : Sections).addFile "each.js" eachText).2 = none := by decide +kernel
  have hmap :
      ((({} : Sections).addFile "each.js" eachText).1.addFile "map.js" mapText).2 = none := by
    decide +kernel
  have haccepted := (Accepted.nil.add heach).add hmap
  refine ⟨_, haccepted, (hasMarkLine_iff_of_accepted haccepted).2.2 ?_⟩
  decide +kernel

/-- A file with a name that has a hyphen. -/
def forOwnText : String := "//@ each\nvar each;\n//@ for-own\nvar forOwn;\n"

/-- **A hyphen in a name hides a section**: the file is accepted, and the second marker and the
source behind it are stored with the first one. -/
theorem each_swallows_for_own :
    ∃ s source, Accepted [("a.js", forOwnText)] s ∧
      s.get? (.variant "each" defaultTag) = some source ∧
      source = "var each;\n//@ for-own\nvar forOwn;" ∧ HasMarkLine source := by
  have hfile : (({} : Sections).addFile "a.js" forOwnText).2 = none := by decide +kernel
  have haccepted := Accepted.nil.add hfile
  have hmark : "//@ for-own" ∈ Text.lines "var each;\n//@ for-own\nvar forOwn;" := by
    decide +kernel
  exact ⟨_, _, haccepted, by decide +kernel, rfl, _, hmark, rfl⟩

end CustomBuild.Fragment
