import CustomBuild.Proofs.Fragment.Marker
import Mathlib.Data.List.DropRight

/-!
# Sections of fragment files

A fragment file is laid out line by line: a marker starts a section, and any other line joins the
section of the last marker before it (`layout_cons_marker`, `layout_append`).  So the keys of the
sections are those of the marker lines (`map_fst_sections`), and the lines before the first marker
are the preamble (`preamble_eq`).

The sections are stored one by one.  Storing one works exactly if its key is new, and changes the
look-up of this key alone (`add_of_new`); so all of them are stored exactly if their keys are new
and distinct (`addAll_eq_none_iff`), and each is found under its key afterwards (`get?_addAll`).
What is stored is the body of the section (`IsBody`), to which an empty line at the end adds nothing
(`body_append_empty`).  A text that is made of lines is therefore stored like the lines, although
such a line may be lost or come in when the text is cut (`addFile_made`).
-/

namespace CustomBuild.Fragment

variable {line file text : String} {key : Key} {lines front rest : List String}

/-! ### Layouts -/

theorem layout_cons_marker (h : marker? line = some key) (rest : List String) :
    layout (line :: rest) =
      { preamble := [], sections := (key, (layout rest).preamble) :: (layout rest).sections } := by
  unfold layout
  rw [List.foldr_cons, h]

theorem layout_cons_plain (h : marker? line = none) (rest : List String) :
    layout (line :: rest) = { layout rest with preamble := line :: (layout rest).preamble } := by
  unfold layout
  rw [List.foldr_cons, h]

/-- Lines that are no markers go to the section before them. -/
theorem layout_append (h : ∀ line ∈ front, marker? line = none) (rest : List String) :
    layout (front ++ rest) = { layout rest with preamble := front ++ (layout rest).preamble } := by
  induction front with
  | nil => rfl
  | cons line more ih =>
    obtain ⟨hline, hmore⟩ := List.forall_mem_cons.1 h
    rw [List.cons_append, layout_cons_plain hline, ih hmore]
    rfl

/-- **The keys of the sections** are those of the marker lines. -/
theorem map_fst_sections (lines : List String) :
    (layout lines).sections.map Prod.fst = lines.filterMap marker? := by
  induction lines with
  | nil => rfl
  | cons line rest ih =>
    cases hline : marker? line with
    | none => rw [layout_cons_plain hline, List.filterMap_cons_none hline, ih]
    | some key =>
      rw [layout_cons_marker hline, List.filterMap_cons_some hline, List.map_cons, ih]

/-- **The preamble** has the lines before the first marker. -/
theorem preamble_eq (lines : List String) :
    (layout lines).preamble = lines.takeWhile fun line => (marker? line).isNone := by
  induction lines with
  | nil => rfl
  | cons line rest ih =>
    cases hline : marker? line with
    | none => rw [layout_cons_plain hline, List.takeWhile_cons_of_pos (by simp [hline]), ih]
    | some key => rw [layout_cons_marker hline, List.takeWhile_cons_of_neg (by simp [hline])]

/-! ### Storing sections -/

/-- The key of a section and what is stored for it. -/
def stored (section_ : Key × List String) : Key × String :=
  (section_.1, body section_.2)

namespace Sections

variable {s extended : Sections} {sections : List (Key × List String)}

theorem contains_eq_isSome {β : Type} (t : Table β) (name : String) :
    t.contains name = (t.get? name).isSome := by
  unfold Table.contains
  rw [Bool.eq_iff_iff, decide_eq_true_iff, Table.mem_names_iff_isSome]

/-- The variants of an entry are found by their tags, if there are any. -/
theorem get?_variant (s : Sections) (name tag : String) :
    s.get? (.variant name tag) = ((s.variants.get? name).getD ∅).get? tag := by
  unfold get?
  dsimp only
  cases s.variants.get? name <;> rfl

theorem get?_tail (s : Sections) (name : String) : s.get? (.tail name) = s.tails.get? name := rfl

/-- **A section with a new key is stored**, and found under this key; nothing else changes. -/
theorem add_of_new (h : s.get? key = none) (file source : String) :
    ∃ extended, s.add file key source = .ok extended ∧
      ∀ other, extended.get? other = if other = key then some source else s.get? other := by
  cases key with
  | tail name =>
    have hnot : s.tails.contains name = false := by
      rw [contains_eq_isSome, ← get?_tail, h]
      rfl
    refine ⟨_, by rw [add, hnot]; rfl, fun other => ?_⟩
    cases other with
    | tail otherName => simp [get?_tail, Table.get?_put]
    | variant otherName tag => simp [get?_variant]
  | variant name tag =>
    have hnot : ((s.variants.get? name).getD ∅).contains tag = false := by
      rw [contains_eq_isSome, ← get?_variant, h]
      rfl
    refine ⟨_, by rw [add]; simp only [hnot]; rfl, fun other => ?_⟩
    cases other with
    | tail otherName => simp [get?_tail]
    | variant otherName otherTag =>
      simp only [get?_variant, Table.get?_put, Key.variant.injEq]
      by_cases hname : otherName = name
      · simp [hname, Table.get?_put]
      · simp [hname]

/-- A section whose key is there already is refused. -/
theorem add_of_known (h : s.get? key ≠ none) (file source : String) :
    ∃ error, s.add file key source = .error error := by
  cases key with
  | tail name =>
    have hknown : s.tails.contains name = true := by
      rw [contains_eq_isSome, ← get?_tail]
      exact Option.isSome_iff_ne_none.2 h
    exact ⟨_, by rw [add, hknown]; rfl⟩
  | variant name tag =>
    have hknown : ((s.variants.get? name).getD ∅).contains tag = true := by
      rw [contains_eq_isSome, ← get?_variant]
      exact Option.isSome_iff_ne_none.2 h
    exact ⟨_, by rw [add]; simp only [hknown]; rfl⟩

theorem addAll_cons_of_ok {source : List String} (h : s.add file key (body source) = .ok extended)
    (sections : List (Key × List String)) :
    s.addAll file ((key, source) :: sections) = extended.addAll file sections := by
  rw [addAll, h]

/-- **Sections are stored** exactly if their keys are distinct and none of them is there already. -/
theorem addAll_eq_none_iff :
    (s.addAll file sections).2 = none ↔
      (sections.map Prod.fst).Nodup ∧ ∀ key ∈ sections.map Prod.fst, s.get? key = none := by
  induction sections generalizing s with
  | nil => simp [addAll]
  | cons first rest ih =>
    obtain ⟨key, source⟩ := first
    rw [List.map_cons, List.nodup_cons, List.forall_mem_cons]
    by_cases hkey : s.get? key = none
    · obtain ⟨extended, hadd, hget⟩ := add_of_new hkey file (body source)
      rw [addAll_cons_of_ok hadd, ih]
      -- the first key is found now, so the others have to differ from it
      constructor
      · rintro ⟨hnodup, hrest⟩
        have hnot : key ∉ rest.map Prod.fst := by
          intro hmem
          have hnone := hrest key hmem
          rw [hget, if_pos rfl] at hnone
          cases hnone
        refine ⟨⟨hnot, hnodup⟩, hkey, fun other hother => ?_⟩
        have hne : other ≠ key := fun heq => hnot (heq ▸ hother)
        rw [← hrest other hother, hget, if_neg hne]
      · rintro ⟨⟨hnot, hnodup⟩, -, hrest⟩
        refine ⟨hnodup, fun other hother => ?_⟩
        have hne : other ≠ key := fun heq => hnot (heq ▸ hother)
        rw [hget, if_neg hne, hrest other hother]
    · obtain ⟨error, hadd⟩ := add_of_known hkey file (body source)
      rw [addAll, hadd]
      exact iff_of_false (by simp) fun h => hkey h.2.1

/-- **Stored sections are found** under their keys, and nothing else changes. -/
theorem get?_addAll (h : (s.addAll file sections).2 = none) :
    (∀ section_ ∈ sections,
        (s.addAll file sections).1.get? section_.1 = some (body section_.2)) ∧
      ∀ key ∉ sections.map Prod.fst, (s.addAll file sections).1.get? key = s.get? key := by
  induction sections generalizing s with
  | nil => exact ⟨fun _ h => absurd h List.not_mem_nil, fun _ _ => rfl⟩
  | cons first rest ih =>
    obtain ⟨key, source⟩ := first
    obtain ⟨hnodup, hnew⟩ := addAll_eq_none_iff.1 h
    rw [List.map_cons, List.nodup_cons] at hnodup
    obtain ⟨extended, hadd, hget⟩ := add_of_new (hnew key List.mem_cons_self) file (body source)
    rw [addAll_cons_of_ok hadd] at h ⊢
    -- none of the later sections has the key of the first one
    obtain ⟨hfound, hkept⟩ := ih h
    constructor
    · refine List.forall_mem_cons.2 ⟨?_, hfound⟩
      rw [hkept key hnodup.1, hget, if_pos rfl]
    · intro other hother
      rw [List.map_cons, List.mem_cons, not_or] at hother
      rw [hkept other hother.2, hget, if_neg hother.1]

/-- Only the keys and the bodies of sections are stored. -/
theorem addAll_congr {others : List (Key × List String)}
    (h : sections.map stored = others.map stored) :
    s.addAll file sections = s.addAll file others := by
  induction sections generalizing s others with
  | nil =>
    obtain rfl := List.map_eq_nil_iff.1 h.symm
    rfl
  | cons first rest ih =>
    cases others with
    | nil => cases h
    | cons other more =>
      obtain ⟨key, source⟩ := first
      obtain ⟨otherKey, otherSource⟩ := other
      rw [List.map_cons, List.map_cons] at h
      obtain ⟨hfirst, hmore⟩ := List.cons.inj h
      obtain ⟨rfl, hbody⟩ := Prod.mk.inj hfirst
      dsimp only at hbody
      rw [addAll, addAll, hbody]
      cases s.add file key (body otherSource) with
      | ok extended => exact ih hmore
      | error error => rfl

/-- **A text is stored** if only blanks stand before its first marker and its keys are new. -/
theorem addFile_eq_none_iff :
    (s.addFile file text).2 = none ↔
      (∀ line ∈ (layout (Text.breakLines text)).preamble, Text.isAllBlank line = true) ∧
        ((Text.breakLines text).filterMap marker?).Nodup ∧
        ∀ key ∈ (Text.breakLines text).filterMap marker?, s.get? key = none := by
  unfold addFile
  dsimp only
  rw [← map_fst_sections, ← List.all_eq_true]
  split_ifs with hpreamble
  · rw [addAll_eq_none_iff]
    exact (and_iff_right hpreamble).symm
  · exact iff_of_false (by simp) fun h => hpreamble h.1

/-- The sections of an accepted text are stored. -/
theorem addFile_eq_addAll (h : (s.addFile file text).2 = none) :
    s.addFile file text = s.addAll file (layout (Text.breakLines text)).sections := by
  obtain ⟨hpreamble, -⟩ := addFile_eq_none_iff.1 h
  unfold addFile
  dsimp only
  rw [if_pos (List.all_eq_true.2 hpreamble)]

end Sections

/-! ### Bodies -/

/-- **The body of a section**: its lines without line feeds before and blanks behind. -/
structure IsBody (source : String) (lines : List String) : Prop where
  /-- only line feeds and blanks are missing -/
  exists_eq : ∃ feeds blanks, (Text.unlines lines).toList = feeds ++ (source.toList ++ blanks) ∧
    (∀ c ∈ feeds, c = '\n') ∧ AllBlank blanks
  /-- no line feed is left before the source -/
  head : ∀ c ∈ source.toList.head?, c ≠ '\n'
  /-- no blank is left behind it -/
  last : ∀ c ∈ source.toList.getLast?, Text.isBlank c = false

theorem toList_body (lines : List String) :
    (body lines).toList =
      ((Text.unlines lines).toList.dropWhile (· == '\n')).rdropWhile Text.isBlank := by
  rw [body, String.toList_ofList]
  rfl

/-- **What is stored** is the body of the section. -/
theorem isBody_body (lines : List String) : IsBody (body lines) lines := by
  set behind := (Text.unlines lines).toList.dropWhile (· == '\n') with hbehind
  have hbody : (body lines).toList = behind.rdropWhile Text.isBlank := toList_body lines
  refine ⟨⟨(Text.unlines lines).toList.takeWhile (· == '\n'), behind.rtakeWhile Text.isBlank, ?_,
    fun c hc => by simpa using List.mem_takeWhile_imp hc, fun c hc => List.mem_rtakeWhile_imp hc⟩,
    ?_, ?_⟩
  · rw [hbody, List.rdropWhile_append_rtakeWhile, List.takeWhile_append_dropWhile]
  · intro c hc
    obtain ⟨more, hmore⟩ := List.head?_eq_some_iff.1 hc
    -- the source is what is left at the front, so it begins like the text behind the line feeds
    have hfront : c :: more <+: behind := by
      rw [← hmore, hbody]
      exact List.rdropWhile_prefix Text.isBlank _
    obtain ⟨rest, hrest⟩ := hfront
    have hnot := List.head?_dropWhile_not (· == '\n') (Text.unlines lines).toList
    rw [← hbehind, ← hrest] at hnot
    simpa using hnot
  · intro c hc
    rw [hbody] at hc
    obtain ⟨hne, rfl⟩ := List.mem_getLast?_eq_getLast hc
    simpa using List.rdropWhile_last_not Text.isBlank behind hne

/-- Another empty line gives a text another line feed. -/
theorem unlines_append_empty (hne : lines ≠ []) :
    Text.unlines (lines ++ [""]) = Text.unlines lines ++ "\n" := by
  have hjoin : Text.unlines (lines ++ [""]) = Text.unlines lines ++ "\n" ++ "" :=
    String.intercalate_append_of_ne_nil hne (List.cons_ne_nil _ _)
  rw [hjoin, String.append_empty]

/-- An empty line at the end is no part of the body. -/
theorem body_append_empty (lines : List String) : body (lines ++ [""]) = body lines := by
  by_cases hne : lines = []
  · rw [hne]
    rfl
  have htext : (Text.unlines (lines ++ [""])).toList = (Text.unlines lines).toList ++ ['\n'] := by
    rw [unlines_append_empty hne, String.toList_append]
    rfl
  apply String.toList_inj.1
  rw [toList_body, toList_body, htext, List.dropWhile_append]
  split_ifs with hempty
  · rw [List.isEmpty_iff.1 hempty]
    rfl
  · exact List.rdropWhile_concat_pos _ _ _ rfl

/-- **An empty line at the end of a file** goes to the last section, or to the preamble if there is
none, and changes nothing that is stored. -/
theorem layout_append_empty (lines : List String) :
    (layout (lines ++ [""])).sections.map stored = (layout lines).sections.map stored ∧
      ((layout (lines ++ [""])).preamble = (layout lines).preamble ∨
        (layout (lines ++ [""])).preamble = (layout lines).preamble ++ [""]) := by
  induction lines with
  | nil => exact ⟨rfl, Or.inr rfl⟩
  | cons line rest ih =>
    obtain ⟨hsections, hpreamble⟩ := ih
    cases hline : marker? line with
    | some key =>
      -- the empty line ends the body of this section, and is cut off there
      have hbody : body (layout (rest ++ [""])).preamble = body (layout rest).preamble := by
        rcases hpreamble with h | h
        · rw [h]
        · rw [h, body_append_empty]
      rw [List.cons_append, layout_cons_marker hline, layout_cons_marker hline, List.map_cons,
        List.map_cons, hsections, stored, stored, hbody]
      exact ⟨rfl, Or.inl rfl⟩
    | none =>
      rw [List.cons_append, layout_cons_plain hline, layout_cons_plain hline]
      refine ⟨hsections, ?_⟩
      rcases hpreamble with h | h
      · exact Or.inl (by rw [h])
      · exact Or.inr (by rw [h, List.cons_append])

/-- The lines of a text that is made of lines without boundaries: an empty line may be missing at
the end, or may come in if there are no lines. -/
theorem breakLines_made (hlines : ∀ line ∈ lines, ∀ c ∈ line.toList, Text.isLineBreak c = false)
    (htext : text = Text.unlines lines ∨ text = Text.unlines lines ++ "\n") :
    Text.breakLines text = lines ∨ Text.breakLines text = lines ++ [""] ∨
      lines = Text.breakLines text ++ [""] := by
  rcases htext with rfl | rfl
  · rw [Text.breakLines_unlines hlines]
    split_ifs with hlast
    · exact Or.inr (Or.inr (List.dropLast_append_getLast? "" hlast).symm)
    · exact Or.inl rfl
  · by_cases hne : lines = []
    · subst hne
      exact Or.inr (Or.inl rfl)
    have hmore : ∀ line ∈ lines ++ [""], ∀ c ∈ line.toList, Text.isLineBreak c = false := by
      intro line hline
      rcases List.mem_append.1 hline with hline | hline
      · exact hlines line hline
      · rw [List.mem_singleton.1 hline]
        exact fun c hc => absurd hc List.not_mem_nil
    rw [← unlines_append_empty hne, Text.breakLines_unlines hmore, List.getLast?_concat, if_pos rfl,
      List.dropLast_concat]
    exact Or.inl rfl

/-- **A text that is made of lines** is stored like the lines. -/
theorem Sections.addFile_made (s : Sections) (file : String)
    (hlines : ∀ line ∈ lines, ∀ c ∈ line.toList, Text.isLineBreak c = false)
    (htext : text = Text.unlines lines ∨ text = Text.unlines lines ++ "\n")
    (hpreamble : (layout lines).preamble = []) :
    s.addFile file text = s.addAll file (layout lines).sections := by
  have hsame : (layout (Text.breakLines text)).sections.map stored =
        (layout lines).sections.map stored ∧
      (layout (Text.breakLines text)).preamble.all Text.isAllBlank = true := by
    -- breaking the text gives the lines, or it differs from them by an empty line at the end
    rcases breakLines_made hlines htext with h | h | h
    · rw [h, hpreamble]
      exact ⟨rfl, rfl⟩
    · obtain ⟨hsections, hmore⟩ := layout_append_empty lines
      rw [h]
      refine ⟨hsections, ?_⟩
      rcases hmore with hmore | hmore
      all_goals
        rw [hmore, hpreamble]
        rfl
    · obtain ⟨hsections, hmore⟩ := layout_append_empty (Text.breakLines text)
      rw [← h, hpreamble] at hmore
      rw [← h] at hsections
      refine ⟨hsections.symm, ?_⟩
      rcases hmore with hmore | hmore
      · rw [← hmore]
        rfl
      · have hlength := congrArg List.length hmore
        simp at hlength
  unfold addFile
  dsimp only
  rw [if_pos hsame.2]
  exact addAll_congr hsame.1

end CustomBuild.Fragment
