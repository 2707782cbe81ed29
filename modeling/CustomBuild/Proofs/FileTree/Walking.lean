import CustomBuild.Proofs.FileTree.Growth
import Mathlib.Algebra.GroupWithZero.Nat

/-!
# Walking down a file tree

A path that starts at the working directory and has no part that leads up goes down part by part.
It can be followed through directories, as long as no part is too long for a name
(`FileTree.Passable`).

`FileTree.KeepsWay` says that a tree has changed at the places of such a path at most by new
directories.  Then whatever stood in the way of the path still does, unless it was that something
was missing (`FileTree.KeepsWay.locate_eq`).  If something was missing in a tree in which everything
is in a directory, there is nothing but directories on the way (`FileTree.IsClosed.clear`).
-/

namespace CustomBuild

namespace Path

variable {parts : List String}

/-- The path goes down from the working directory. -/
structure GoesDown (p : Path) : Prop where
  /-- it starts there -/
  start_eq : p.start = .here
  /-- it does not lead up -/
  not_up : ".." ∉ p.parts

/-! ### Lengths -/

theorem utf8ByteSize_intercalate_le (separator : String) (front back : List String) :
    (separator.intercalate front).utf8ByteSize ≤
      (separator.intercalate (front ++ back)).utf8ByteSize := by
  induction front with
  | nil => exact Nat.zero_le _
  | cons part rest ih =>
    cases rest with
    | nil =>
      cases back with
      | nil => exact Nat.le_refl _
      | cons next back =>
        rw [List.singleton_append, String.intercalate_singleton, String.intercalate_cons_cons]
        simp only [String.utf8ByteSize_append]
        omega
    | cons next rest =>
      rw [List.cons_append, List.cons_append, String.intercalate_cons_cons,
        String.intercalate_cons_cons, ← List.cons_append]
      simp only [String.utf8ByteSize_append]
      omega

/-- Each part takes one byte more than its name at most. -/
theorem utf8ByteSize_intercalate_slash_le (parts : List String) :
    ("/".intercalate parts).utf8ByteSize ≤
      (parts.map fun part => part.utf8ByteSize + 1).sum := by
  induction parts with
  | nil => exact Nat.le_refl 0
  | cons part rest ih =>
    cases rest with
    | nil =>
      rw [String.intercalate_singleton]
      simp
    | cons next rest =>
      have hslash : "/".utf8ByteSize = 1 := rfl
      rw [String.intercalate_cons_cons, List.map_cons, List.sum_cons]
      simp only [String.utf8ByteSize_append, hslash]
      omega

/-- **The text of a shorter path** is not too long if that of the path is not. -/
theorem utf8ByteSize_text_lt {start : PathStart} {front : List String} (hfront : front <+: parts)
    (h : (Path.mk start parts).text.utf8ByteSize < FileTree.pathBytesLimit) :
    (Path.mk start front).text.utf8ByteSize < FileTree.pathBytesLimit := by
  obtain ⟨back, rfl⟩ := hfront
  cases front with
  | nil => cases start <;> decide
  | cons part rest =>
    have hle := utf8ByteSize_intercalate_le "/" (part :: rest) back
    simp only [text, List.cons_append, List.isEmpty_cons, Bool.and_false, Bool.false_eq_true,
      if_false, String.utf8ByteSize_append] at h ⊢
    rw [List.cons_append] at hle
    omega

end Path

namespace FileTree

variable {t u : FileTree} {workingDirectory origin next : Location} {part : String}
  {parts front : List String} {kind : FileErrorKind}

/-! ### Ways that can be followed -/

/-- A name that is longer than a name can be. -/
def IsLong (part : String) : Prop :=
  maxNameBytes < part.utf8ByteSize

instance (part : String) : Decidable (IsLong part) :=
  inferInstanceAs (Decidable (_ < _))

/-- **Parts can be followed** from a place if they lead from directory to directory and none of
them is too long.  There need not be anything at the end. -/
def Passable (t : FileTree) (origin : Location) (parts : List String) : Prop :=
  ∀ front part back, parts = front ++ part :: back →
    t.node? (origin ++ front) = some .directory ∧ ¬ IsLong part

theorem passable_nil : t.Passable origin [] := by
  intro front part back h
  simp at h

theorem passable_cons_iff :
    t.Passable origin (part :: parts) ↔
      (t.node? origin = some .directory ∧ ¬ IsLong part) ∧ t.Passable (origin ++ [part]) parts := by
  constructor
  · intro h
    refine ⟨?_, fun front other back hparts => ?_⟩
    · have hfirst := h [] part parts rfl
      rwa [List.append_nil] at hfirst
    · have hlater := h (part :: front) other back (by rw [hparts]; rfl)
      rwa [List.append_assoc]
  · rintro ⟨hfirst, hrest⟩ front other back hparts
    rcases List.cons_eq_append_iff.1 hparts with ⟨rfl, heq⟩ | ⟨rest, rfl, heq⟩
    · obtain ⟨rfl, -⟩ := List.cons.inj heq
      rwa [List.append_nil]
    · have hlater := hrest rest other back heq
      rwa [List.append_assoc] at hlater

/-- No part of a way that can be followed is too long. -/
theorem Passable.not_isLong (h : t.Passable origin parts) (hpart : part ∈ parts) :
    ¬ IsLong part := by
  obtain ⟨before, after, hsplit⟩ := List.append_of_mem hpart
  exact (h before part after hsplit).2

/-- Before the end of such a way there are directories. -/
theorem Passable.isDirectory (h : t.Passable origin parts) (hfront : front <+: parts)
    (hne : front ≠ parts) : t.node? (origin ++ front) = some .directory := by
  obtain ⟨back, rfl⟩ := hfront
  cases back with
  | nil => exact absurd (List.append_nil front).symm hne
  | cons part back => exact (h front part back rfl).1

/-- Directories all along, and no part that is too long. -/
theorem passable_of_directories (hshort : ∀ part ∈ parts, ¬ IsLong part)
    (hdirectory : ∀ front, front <+: parts → front ≠ parts →
      t.node? (origin ++ front) = some .directory) : t.Passable origin parts := by
  rintro front part back rfl
  refine ⟨hdirectory front ⟨_, rfl⟩ ?_, hshort part (by simp)⟩
  intro heq
  have hlength := congrArg List.length heq
  simp at hlength

/-! ### Steps -/

theorem step_of_directory (hnode : t.node? origin = some .directory) (hpart : part ≠ "..") :
    t.step origin part =
      if IsLong part then .error .nameTooLong else .ok (origin ++ [part]) := by
  unfold step IsLong
  rw [hnode, beq_false_of_ne hpart]
  rfl

/-- Nothing leads on from where there is nothing. -/
theorem step_of_missing (hnone : t.node? origin = none) (part : String) :
    t.step origin part = .error .missing := by
  rw [step, hnone]

/-- Only a step from where there is nothing finds something missing. -/
theorem node?_eq_none_of_step (hpart : part ≠ "..") (h : t.step origin part = .error .missing) :
    t.node? origin = none := by
  cases hnode : t.node? origin with
  | none => rfl
  | some node =>
    cases node with
    | file text =>
      rw [step, hnode] at h
      cases h
    | directory =>
      rw [step_of_directory hnode hpart] at h
      split_ifs at h
      cases h

/-- A step that is taken, with a part that leads down. -/
theorem step_eq_ok_iff (hpart : part ≠ "..") :
    t.step origin part = .ok next ↔
      (t.node? origin = some .directory ∧ ¬ IsLong part) ∧ next = origin ++ [part] := by
  constructor
  · intro h
    obtain ⟨hnode, -⟩ := step_eq_ok h
    rw [step_of_directory hnode hpart] at h
    split_ifs at h with hlong
    exact ⟨⟨hnode, hlong⟩, (Except.ok.inj h).symm⟩
  · rintro ⟨⟨hnode, hlong⟩, rfl⟩
    rw [step_of_directory hnode hpart, if_neg hlong]

/-- **A walk that succeeds.** -/
theorem walk_eq_ok_iff (hup : ".." ∉ parts) :
    parts.foldlM t.step origin = .ok next ↔ next = origin ++ parts ∧ t.Passable origin parts := by
  induction parts generalizing origin with
  | nil =>
    simp only [List.foldlM_nil, List.append_nil, passable_nil, and_true]
    exact ⟨fun h => (Except.ok.inj h).symm, fun h => congrArg Except.ok h.symm⟩
  | cons part rest ih =>
    obtain ⟨hpart, hrest⟩ := not_or.1 (mt List.mem_cons.2 hup)
    rw [passable_cons_iff]
    constructor
    · intro h
      obtain ⟨mid, hstep, hwalk⟩ := foldlM_step_cons_eq_ok h
      obtain ⟨hfirst, rfl⟩ := (step_eq_ok_iff (Ne.symm hpart)).1 hstep
      obtain ⟨hnext, hpassable⟩ := (ih hrest).1 hwalk
      refine ⟨?_, hfirst, hpassable⟩
      rw [hnext, List.append_assoc]
      rfl
    · rintro ⟨hnext, hfirst, hpassable⟩
      rw [List.foldlM_cons, (step_eq_ok_iff (Ne.symm hpart)).2 ⟨hfirst, rfl⟩]
      refine (ih hrest).2 ⟨?_, hpassable⟩
      rw [hnext, List.append_assoc]
      rfl

/-- **A walk that fails** does so at a first part that leads nowhere. -/
theorem walk_eq_error_iff (hup : ".." ∉ parts) :
    parts.foldlM t.step origin = .error kind ↔
      ∃ front part back, parts = front ++ part :: back ∧ t.Passable origin front ∧
        t.step (origin ++ front) part = .error kind := by
  constructor
  · intro h
    -- the induction goes along the parts, from where the walk stands
    induction parts generalizing origin with
    | nil => cases h
    | cons part rest ih =>
      obtain ⟨hpart, hrest⟩ := not_or.1 (mt List.mem_cons.2 hup)
      rw [List.foldlM_cons] at h
      cases hstep : t.step origin part with
      | error other =>
        rw [hstep] at h
        obtain rfl := Except.error.inj h
        exact ⟨[], part, rest, rfl, passable_nil, by rw [List.append_nil, hstep]⟩
      | ok mid =>
        rw [hstep] at h
        obtain ⟨hfirst, rfl⟩ := (step_eq_ok_iff (Ne.symm hpart)).1 hstep
        obtain ⟨front, other, back, rfl, hpassable, herror⟩ := ih hrest h
        refine ⟨part :: front, other, back, rfl, passable_cons_iff.2 ⟨hfirst, hpassable⟩, ?_⟩
        rw [List.append_assoc] at herror
        exact herror
  · rintro ⟨front, part, back, rfl, hpassable, hstep⟩
    have hfront : ".." ∉ front := fun hmem => hup (List.mem_append_left _ hmem)
    have hwalk := (walk_eq_ok_iff hfront).2 ⟨rfl, hpassable⟩
    rw [List.foldlM_append, hwalk]
    change (part :: back).foldlM t.step (origin ++ front) = _
    rw [List.foldlM_cons, hstep]
    rfl

/-! ### Paths that go down -/

theorem locate_of_lt (h : (Path.mk .here parts).text.utf8ByteSize < pathBytesLimit) :
    t.locate workingDirectory (Path.mk .here parts) = parts.foldlM t.step workingDirectory := by
  rw [locate, if_neg (by omega)]
  rfl

theorem locate_of_le (h : pathBytesLimit ≤ (Path.mk .here parts).text.utf8ByteSize) :
    t.locate workingDirectory (Path.mk .here parts) = .error .nameTooLong := by
  rw [locate, if_pos h]

theorem lt_of_locate_ne (h : t.locate workingDirectory (Path.mk .here parts) ≠
    .error .nameTooLong) : (Path.mk .here parts).text.utf8ByteSize < pathBytesLimit := by
  by_contra hle
  exact h (locate_of_le (by omega))

/-- What is found is where the parts lead, and they can be followed. -/
theorem passable_of_locate (hup : ".." ∉ parts)
    (h : t.locate workingDirectory (Path.mk .here parts) = .ok next) :
    next = workingDirectory ++ parts ∧ t.Passable workingDirectory parts := by
  rw [locate_of_lt (lt_of_locate_ne (by rw [h]; exact nofun))] at h
  exact (walk_eq_ok_iff hup).1 h

/-- There are no more missing directories than directories. -/
theorem missingLevels_le_length (t : FileTree) (workingDirectory : Location) (start : PathStart)
    (lastFirst : List String) :
    t.missingLevels workingDirectory start lastFirst ≤ lastFirst.length := by
  induction lastFirst with
  | nil => exact Nat.le_refl 0
  | cons last above ih =>
    rw [missingLevels, List.length_cons]
    split
    · omega
    · exact Nat.zero_le _

/-- A path with few parts does not need too many directories. -/
theorem isTooDeep_of_length_le {p : Path} (h : p.parts.length ≤ maxMissingLevels) :
    t.isTooDeep workingDirectory p = false := by
  have hle := t.missingLevels_le_length workingDirectory p.parent.start p.parent.parts.reverse
  have hlength : p.parent.parts.length = p.parts.length - 1 := List.length_dropLast
  rw [List.length_reverse] at hle
  rw [isTooDeep, decide_eq_false_iff_not]
  omega

/-! ### Changes that keep a way -/

/-- **A tree has changed on a way** by new directories at most. -/
structure KeepsWay (origin : Location) (parts : List String) (t u : FileTree) : Prop where
  /-- what was there is there still -/
  kept : ∀ front, front <+: parts → ∀ node, t.node? (origin ++ front) = some node →
    u.node? (origin ++ front) = some node
  /-- what is new is a directory -/
  added : ∀ front, front <+: parts → t.node? (origin ++ front) = none →
    u.node? (origin ++ front) = none ∨ u.node? (origin ++ front) = some .directory

namespace KeepsWay

theorem mono (h : KeepsWay origin parts t u) (hfront : front <+: parts) :
    KeepsWay origin front t u where
  kept other hother := h.kept other (hother.trans hfront)
  added other hother := h.added other (hother.trans hfront)

/-- Where a directory can be or be made, it still can. -/
theorem free (h : KeepsWay origin parts t u) (hfront : front <+: parts)
    (hfree : t.node? (origin ++ front) = none ∨ t.node? (origin ++ front) = some .directory) :
    u.node? (origin ++ front) = none ∨ u.node? (origin ++ front) = some .directory := by
  rcases hfree with hnone | hdirectory
  · exact h.added front hfront hnone
  · exact Or.inr (h.kept front hfront _ hdirectory)

theorem passable (h : KeepsWay origin parts t u) (hpassable : t.Passable origin parts) :
    u.Passable origin parts := by
  rintro front part back rfl
  obtain ⟨hnode, hlong⟩ := hpassable front part back rfl
  exact ⟨h.kept front ⟨_, rfl⟩ _ hnode, hlong⟩

/-- **What stood in the way still does**, and what could be followed still can. -/
theorem walk_eq (h : KeepsWay origin parts t u) (hup : ".." ∉ parts)
    (hne : parts.foldlM t.step origin ≠ .error .missing) :
    parts.foldlM u.step origin = parts.foldlM t.step origin := by
  cases hwalk : parts.foldlM t.step origin with
  | ok next =>
    obtain ⟨hnext, hpassable⟩ := (walk_eq_ok_iff hup).1 hwalk
    exact (walk_eq_ok_iff hup).2 ⟨hnext, h.passable hpassable⟩
  | error kind =>
    obtain ⟨front, part, back, hparts, hpassable, hstep⟩ := (walk_eq_error_iff hup).1 hwalk
    have hfront : front <+: parts := ⟨_, hparts.symm⟩
    refine (walk_eq_error_iff hup).2
      ⟨front, part, back, hparts, (h.mono hfront).passable hpassable, ?_⟩
    -- something is at the place where the walk ended, so it is there still
    have hsame : u.node? (origin ++ front) = t.node? (origin ++ front) := by
      cases hnode : t.node? (origin ++ front) with
      | none =>
        rw [step_of_missing hnode] at hstep
        rw [hwalk, hstep] at hne
        exact absurd rfl hne
      | some node => exact h.kept front hfront node hnode
    rw [step, hsame]
    exact hstep

theorem locate_eq (h : KeepsWay workingDirectory parts t u) (hup : ".." ∉ parts)
    (hne : t.locate workingDirectory (Path.mk .here parts) ≠ .error .missing) :
    u.locate workingDirectory (Path.mk .here parts) =
      t.locate workingDirectory (Path.mk .here parts) := by
  by_cases hlong : pathBytesLimit ≤ (Path.mk .here parts).text.utf8ByteSize
  · rw [locate_of_le hlong, locate_of_le hlong]
  · have hlt : (Path.mk .here parts).text.utf8ByteSize < pathBytesLimit := by omega
    rw [locate_of_lt hlt] at hne ⊢
    rw [locate_of_lt hlt]
    exact h.walk_eq hup hne

end KeepsWay

/-! ### Trees in which everything is in a directory -/

/-- **Everything is in a directory**, as in every tree that a file system can hold. -/
def IsClosed (t : FileTree) : Prop :=
  ∀ place part, t.node? (place ++ [part]) ≠ none → t.node? place = some .directory

/-- There is nothing where there is nothing above. -/
theorem IsClosed.eq_none (h : t.IsClosed) (hnone : t.node? origin = none) (parts : List String) :
    t.node? (origin ++ parts) = none := by
  induction parts generalizing origin with
  | nil => rwa [List.append_nil]
  | cons part rest ih =>
    have hfirst : t.node? (origin ++ [part]) = none := by
      by_contra hsome
      rw [h origin part hsome] at hnone
      cases hnone
    have hrest := ih hfirst
    rwa [List.append_assoc] at hrest

/-- **If something is missing on a way**, there is nothing but directories on it. -/
theorem IsClosed.clear (h : t.IsClosed) (hup : ".." ∉ parts)
    (hmissing : parts.foldlM t.step origin = .error .missing) (hfront : front <+: parts) :
    t.node? (origin ++ front) = none ∨ t.node? (origin ++ front) = some .directory := by
  obtain ⟨before, part, back, hparts, hpassable, hstep⟩ := (walk_eq_error_iff hup).1 hmissing
  have hpart : part ≠ ".." := by
    rintro rfl
    exact hup (by simp [hparts])
  have hnone : t.node? (origin ++ before) = none := node?_eq_none_of_step hpart hstep
  have hbefore : before <+: parts := ⟨_, hparts.symm⟩
  rcases List.prefix_or_prefix_of_prefix hfront hbefore with hle | ⟨more, rfl⟩
  · by_cases heq : front = before
    · exact Or.inl (heq ▸ hnone)
    · exact Or.inr (hpassable.isDirectory hle heq)
  · left
    rw [← List.append_assoc]
    exact h.eq_none hnone more

end FileTree

end CustomBuild
