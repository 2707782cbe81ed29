import CustomBuild.Proofs.Fragment.Sections

/-!
# Written sections

A section is written as a heading and the lines of its source (`Passage`).  A heading is a marker
for one key (`Heading.isMarker`), so the lines of several sections, one after the other, are laid
out as these sections (`layout_passages`).

A file can be refused for three reasons (`IsRefused`), and no other one (`addFile_ne_none_iff`).
If the keys of the written sections are new and distinct, none of them applies, and the file is read
to the sections that were written (`addFile_reads`).
-/

namespace CustomBuild.Fragment

/-! ### Headings -/

/-- **What a section is written for.** -/
inductive Heading where
  /-- the default variant of an entry -/
  | standard (name : String)
  /-- the variant of an entry for a mode -/
  | mode (name tag : String)
  /-- the tail of an entry -/
  | tail (name : String)
deriving DecidableEq, Repr

namespace Heading

/-- The marker line of a heading. -/
def line : Heading → String
  | standard name => "//@ " ++ name
  | mode name tag => "//@ " ++ name ++ " " ++ tag
  | tail name => "//@tail " ++ name

/-- The key that a heading is for. -/
def key : Heading → Key
  | standard name => .variant name defaultTag
  | mode name tag => .variant name tag
  | tail name => .tail name

/-- The words that stand in a heading. -/
def texts : Heading → List String
  | standard name => [name]
  | mode name tag => [name, tag]
  | tail name => [name]

/-- **The heading has words** where words should stand. -/
def IsProper (h : Heading) : Prop :=
  ∀ text ∈ h.texts, IsWord text.toList

/-- **The line of a heading is a marker** for its key. -/
theorem isMarker {h : Heading} (hproper : h.IsProper) : IsMarker h.line h.key := by
  -- each heading is written with one blank where a marker may have any gap
  cases h with
  | standard name =>
    have hname : IsWord name.toList := hproper name List.mem_cons_self
    have hline : (standard name).line.toList =
        '/' :: '/' :: '@' :: ([' '] ++ (name.toList ++ [])) := by simp [line]
    have hmarker := IsMarker.variant hline (.name isGap_space hname allBlank_nil)
    simpa [keyOf, key] using hmarker
  | mode name tag =>
    have hname : IsWord name.toList := hproper name List.mem_cons_self
    have htag : IsWord tag.toList := hproper tag (List.mem_cons_of_mem _ List.mem_cons_self)
    have hline : (mode name tag).line.toList =
        '/' :: '/' :: '@' :: ([' '] ++ (name.toList ++ ([' '] ++ (tag.toList ++ [])))) := by
      simp [line]
    have hmarker := IsMarker.variant hline (.tagged isGap_space hname isGap_space htag allBlank_nil)
    simpa [keyOf, key] using hmarker
  | tail name =>
    have hname : IsWord name.toList := hproper name List.mem_cons_self
    have hline : (tail name).line.toList =
        '/' :: '/' :: '@' :: 't' :: 'a' :: 'i' :: 'l' :: ([' '] ++ (name.toList ++ [])) := by
      simp [line]
    have hmarker := IsMarker.tail hline (.name isGap_space hname allBlank_nil)
    simpa [keyOf, key] using hmarker

/-- A heading has its words, and otherwise only characters of the mark. -/
theorem mem_line {h : Heading} {c : Char} (hc : c ∈ h.line.toList) :
    c ∈ "//@tail ".toList ∨ ∃ text ∈ h.texts, c ∈ text.toList := by
  cases h <;> simp [line, texts] at hc ⊢ <;> tauto

/-- The line of a heading is one line. -/
theorem not_isLineBreak {h : Heading} (hproper : h.IsProper) :
    ∀ c ∈ h.line.toList, Text.isLineBreak c = false := by
  intro c hc
  rcases mem_line hc with hmark | ⟨text, htext, hc⟩
  · have hall : "//@tail ".toList.all (fun c => !Text.isLineBreak c) = true := by decide
    simpa using List.all_eq_true.1 hall c hmark
  · have hblank := (hproper text htext).not_isBlank c hc
    cases hbreak : Text.isLineBreak c with
    | false => rfl
    | true =>
      rw [Text.isBlank_of_isLineBreak hbreak] at hblank
      cases hblank

end Heading

/-! ### Passages -/

/-- **A section to be written.** -/
structure Passage where
  /-- what it is written for -/
  heading : Heading
  /-- the lines of its source -/
  source : List String
deriving DecidableEq, Repr

namespace Passage

variable {passage : Passage} {passages : List Passage}

/-- The lines that are written. -/
def lines (passage : Passage) : List String :=
  passage.heading.line :: passage.source

/-- **A section that can be read back**: its heading has words, and its source has lines that are
no markers. -/
structure IsProper (passage : Passage) : Prop where
  /-- the heading has words -/
  heading : passage.heading.IsProper
  /-- each line is one line -/
  unbroken : ∀ line ∈ passage.source, ∀ c ∈ line.toList, Text.isLineBreak c = false
  /-- no line starts a section -/
  unmarked : ∀ line ∈ passage.source, ∀ key, ¬ IsMarker line key

instance (passage : Passage) : Decidable passage.IsProper :=
  decidable_of_iff
    ((∀ text ∈ passage.heading.texts,
        text.toList ≠ [] ∧ text.toList.all Text.isWordChar = true) ∧
      (∀ line ∈ passage.source, line.toList.any Text.isLineBreak = false) ∧
      ∀ line ∈ passage.source, marker? line = none) (by
    simp only [List.all_eq_true, List.any_eq_false, Bool.not_eq_true, marker?_eq_none_iff]
    exact ⟨fun h => ⟨h.1, h.2.1, h.2.2⟩, fun h => ⟨h.heading, h.unbroken, h.unmarked⟩⟩)

/-- No written line has a line boundary. -/
theorem not_isLineBreak (hproper : ∀ passage ∈ passages, passage.IsProper) :
    ∀ line ∈ passages.flatMap lines, ∀ c ∈ line.toList, Text.isLineBreak c = false := by
  intro line hline
  obtain ⟨passage, hpassage, hline⟩ := List.mem_flatMap.1 hline
  rcases List.mem_cons.1 hline with rfl | hline
  · exact Heading.not_isLineBreak (hproper passage hpassage).heading
  · exact (hproper passage hpassage).unbroken line hline

end Passage

/-- **Written sections are laid out** as they were written. -/
theorem layout_passages {passages : List Passage} (h : ∀ passage ∈ passages, passage.IsProper) :
    layout (passages.flatMap Passage.lines) =
      { preamble := [],
        sections := passages.map fun passage => (passage.heading.key, passage.source) } := by
  induction passages with
  | nil => rfl
  | cons passage rest ih =>
    obtain ⟨hfirst, hrest⟩ := List.forall_mem_cons.1 h
    have hmarker := marker?_eq_some_iff.2 (Heading.isMarker hfirst.heading)
    have hplain : ∀ line ∈ passage.source, marker? line = none := fun line hline =>
      marker?_eq_none_iff.2 (hfirst.unmarked line hline)
    rw [List.flatMap_cons, Passage.lines, List.cons_append, layout_cons_marker hmarker,
      layout_append hplain, ih hrest, List.append_nil, List.map_cons]

/-! ### Refused files -/

variable {s : Sections} {lines : List String}

/-- **Why a file is refused.** -/
inductive IsRefused (s : Sections) (lines : List String) : Prop
  /-- a line that is not blank, before the first marker -/
  | early {front back : List String} {line : String} (hlines : lines = front ++ line :: back)
      (hfront : ∀ earlier ∈ front, ∀ key, ¬ IsMarker earlier key)
      (hline : ∀ key, ¬ IsMarker line key) (htext : ¬ AllBlank line.toList)
  /-- two markers for one key -/
  | repeated {line again : String} {key : Key} (hlines : [line, again].Sublist lines)
      (hline : IsMarker line key) (hagain : IsMarker again key)
  /-- a marker for a key that was there before -/
  | known {line : String} {key : Key} (hmem : line ∈ lines) (hline : IsMarker line key)
      (hknown : s.get? key ≠ none)

theorem isAllBlank_eq_true_iff {line : String} :
    Text.isAllBlank line = true ↔ AllBlank line.toList :=
  List.all_eq_true

/-- The lines before the first marker. -/
theorem mem_preamble_iff {line : String} :
    line ∈ (layout lines).preamble ↔ ∃ front back, lines = front ++ line :: back ∧
      (∀ earlier ∈ front, ∀ key, ¬ IsMarker earlier key) ∧ ∀ key, ¬ IsMarker line key := by
  simp only [← marker?_eq_none_iff]
  constructor
  · intro hmem
    rw [preamble_eq] at hmem
    obtain ⟨front, back, hsplit⟩ := List.append_of_mem hmem
    have hplain : ∀ earlier ∈ front ++ line :: back, marker? earlier = none := fun earlier h => by
      rw [← hsplit] at h
      simpa using List.mem_takeWhile_imp h
    have hlines := List.takeWhile_append_dropWhile (p := fun line => (marker? line).isNone)
      (l := lines)
    rw [hsplit, List.append_assoc, List.cons_append] at hlines
    exact ⟨front, _, hlines.symm, fun earlier h => hplain earlier (List.mem_append_left _ h),
      hplain line (List.mem_append_right _ List.mem_cons_self)⟩
  · rintro ⟨front, back, rfl, hfront, hline⟩
    rw [layout_append hfront, layout_cons_plain hline]
    exact List.mem_append_right _ List.mem_cons_self

/-- **A file is refused** for one of the reasons, and for no other. -/
theorem Sections.addFile_ne_none_iff (s : Sections) (file text : String) :
    (s.addFile file text).2 ≠ none ↔ IsRefused s (Text.breakLines text) := by
  constructor
  · intro hrefused
    by_contra hnot
    -- if no reason applies, the preamble is blank, and the keys are distinct and new
    refine hrefused (addFile_eq_none_iff.2 ⟨?_, ?_, ?_⟩)
    · intro line hline
      obtain ⟨front, back, hlines, hfront, hplain⟩ := mem_preamble_iff.1 hline
      rw [isAllBlank_eq_true_iff]
      by_contra htext
      exact hnot (.early hlines hfront hplain htext)
    · rw [List.Nodup, List.pairwise_filterMap, List.pairwise_iff_forall_sublist]
      intro line again hlines key hline other hagain heq
      subst heq
      exact hnot (.repeated hlines (marker?_eq_some_iff.1 hline) (marker?_eq_some_iff.1 hagain))
    · intro key hkey
      obtain ⟨line, hmem, hline⟩ := List.mem_filterMap.1 hkey
      by_contra hknown
      exact hnot (.known hmem (marker?_eq_some_iff.1 hline) hknown)
  · intro hrefused hnone
    obtain ⟨hblank, hnodup, hnew⟩ := addFile_eq_none_iff.1 hnone
    cases hrefused with
    | early hlines hfront hline htext =>
      have hmem := mem_preamble_iff.2 ⟨_, _, hlines, hfront, hline⟩
      exact htext (isAllBlank_eq_true_iff.1 (hblank _ hmem))
    | repeated hlines hline hagain =>
      rw [List.Nodup, List.pairwise_filterMap, List.pairwise_iff_forall_sublist] at hnodup
      exact hnodup hlines _ (marker?_eq_some_iff.2 hline) _ (marker?_eq_some_iff.2 hagain) rfl
    | known hmem hline hknown =>
      exact hknown (hnew _ (List.mem_filterMap.2 ⟨_, hmem, marker?_eq_some_iff.2 hline⟩))

/-! ### Reading back -/

/-- **Written sections are read back**, and files are refused for the reasons above only.

If the keys of the sections are distinct and new, their text is stored: the source of each section
is found under its key, and under any other key there is what was there before. -/
theorem Sections.addFile_reads (s : Sections) (file : String) :
    (∀ (passages : List Passage) (text : String),
      (∀ passage ∈ passages, passage.IsProper) →
      (passages.map fun passage => passage.heading.key).Nodup →
      (∀ passage ∈ passages, s.get? passage.heading.key = none) →
      (text = Text.unlines (passages.flatMap Passage.lines) ∨
        text = Text.unlines (passages.flatMap Passage.lines) ++ "\n") →
      ∃ extended, s.addFile file text = (extended, none) ∧
        (∀ passage ∈ passages, ∃ source,
          extended.get? passage.heading.key = some source ∧ IsBody source passage.source) ∧
        ∀ key ∉ passages.map (fun passage => passage.heading.key),
          extended.get? key = s.get? key) ∧
      ∀ text, (s.addFile file text).2 ≠ none ↔ IsRefused s (Text.breakLines text) := by
  refine ⟨fun passages text hproper hnodup hnew htext => ?_, addFile_ne_none_iff s file⟩
  have hlayout := layout_passages hproper
  set sections := passages.map fun passage => (passage.heading.key, passage.source)
  have hkeys : sections.map Prod.fst = passages.map fun passage => passage.heading.key :=
    List.map_map
  have hstored : s.addFile file text = s.addAll file sections := by
    have hpreamble := congrArg Layout.preamble hlayout
    rw [addFile_made s file (Passage.not_isLineBreak hproper) htext hpreamble, hlayout]
  have haccepted : (s.addAll file sections).2 = none := by
    rw [addAll_eq_none_iff, hkeys, List.forall_mem_map]
    exact ⟨hnodup, hnew⟩
  obtain ⟨hfound, hkept⟩ := get?_addAll haccepted
  refine ⟨(s.addAll file sections).1, ?_, ?_, ?_⟩
  · rw [hstored, ← haccepted]
  · intro passage hpassage
    exact ⟨_, hfound _ (List.mem_map_of_mem hpassage), isBody_body passage.source⟩
  · rw [← hkeys]
    exact hkept

/-- Sections to write, among them one without source and one for an entry called `tail`. -/
def samplePassages : List Passage :=
  [⟨.standard "each", ["", "var each;", "//@each", ""]⟩, ⟨.mode "each" "fast", ["var fast;"]⟩,
    ⟨.standard "tail", []⟩, ⟨.tail "each", ["each.done = 1;  "]⟩]

/-- What was stored before them. -/
def sampleSections : Sections :=
  { variants :=
      (∅ : Table (Table String)).put "map" ((∅ : Table String).put defaultTag "var map;") }

/-- The sections are read back and nothing is lost; a section that is there already is refused. -/
theorem sample_reads_back :
    (∀ passage ∈ samplePassages, passage.IsProper) ∧
      (∃ extended,
        sampleSections.addFile "each.js" (Text.unlines (samplePassages.flatMap Passage.lines)) =
          (extended, none) ∧
        (∀ passage ∈ samplePassages, ∃ source,
          extended.get? passage.heading.key = some source ∧ IsBody source passage.source) ∧
        extended.get? (.variant "map" defaultTag) = some "var map;") ∧
      (sampleSections.addFile "map.js" "//@ each\n//@ map default\n").2 ≠ none := by
  have hproper : ∀ passage ∈ samplePassages, passage.IsProper := by decide +kernel
  have hnodup : (samplePassages.map fun passage => passage.heading.key).Nodup := by decide +kernel
  have hnew : ∀ passage ∈ samplePassages, sampleSections.get? passage.heading.key = none := by
    decide +kernel
  obtain ⟨hreads, hrefused⟩ := Sections.addFile_reads sampleSections "each.js"
  obtain ⟨extended, hadd, hfound, hkept⟩ :=
    hreads samplePassages _ hproper hnodup hnew (Or.inl rfl)
  refine ⟨hproper, ⟨extended, hadd, hfound, ?_⟩, ?_⟩
  · rw [hkept _ (by decide +kernel)]
    decide +kernel
  · refine ((Sections.addFile_reads sampleSections "map.js").2 _).2 ?_
    have hmarker : marker? "//@ map default" = some (.variant "map" defaultTag) := by
      decide +kernel
    exact .known (by decide +kernel) (marker?_eq_some_iff.1 hmarker) (by decide +kernel)

end CustomBuild.Fragment
