import CustomBuild.Proofs.FileTree.Fate
import CustomBuild.Proofs.FileTree.Stages

/-!
# What the calls of a delivery change

`Stage.Sound` is the invariant of a delivery among others: it relates each stage to the tree at the
start and to the tree at hand.  The others may change the tree between two calls, as long as they
keep the way of the delivery and its place (`Stage.Sound.mono`).

Each call keeps the invariant, makes directories only where the delivery is to make them, and puts
nothing but the file in its place (`Stage.moves_next`).
-/

namespace CustomBuild

open FileTree

namespace FileTree.KeepsWay

variable {t u : FileTree} {workingDirectory : Location} {p : Path}

/-- The more of a way is there, the less is missing. -/
theorem missingLevels_le {lastFirst : List String}
    (h : KeepsWay workingDirectory lastFirst.reverse t u) (hup : ".." ∉ lastFirst.reverse) :
    u.missingLevels workingDirectory .here lastFirst ≤
      t.missingLevels workingDirectory .here lastFirst := by
  induction lastFirst with
  | nil => exact Nat.le_refl 0
  | cons last above ih =>
    have hsub : above.reverse <+: (last :: above).reverse := by
      rw [List.reverse_cons]
      exact List.prefix_append _ _
    have habove := ih (h.mono hsub) fun hmem => hup (hsub.subset hmem)
    unfold missingLevels
    -- where nothing is missing any more, the count stops; elsewhere something was missing before
    by_cases hmissing : u.locate workingDirectory (Path.mk .here (last :: above).reverse) =
        .error .missing
    · have hbefore : t.locate workingDirectory (Path.mk .here (last :: above).reverse) =
          .error .missing := by
        by_contra hne
        exact hne ((h.locate_eq hup hne).symm.trans hmissing)
      rw [hmissing, hbefore]
      simp only
      omega
    · split
      · contradiction
      · exact Nat.zero_le _

theorem isTooDeep_eq_false (h : KeepsWay workingDirectory p.parent.parts t u) (hdown : p.GoesDown)
    (hdeep : t.isTooDeep workingDirectory p = false) : u.isTooDeep workingDirectory p = false := by
  have hstart : p.parent.start = .here := hdown.start_eq
  have hup : ".." ∉ p.parent.parts := fun hmem => hdown.not_up (List.dropLast_subset _ hmem)
  rw [← p.parent.parts.reverse_reverse] at h hup
  have hle := h.missingLevels_le hup
  unfold isTooDeep at hdeep ⊢
  rw [decide_eq_false_iff_not] at hdeep ⊢
  rw [hstart] at hdeep ⊢
  omega

end FileTree.KeepsWay

namespace Stage

variable {t u v : FileTree} {workingDirectory place : Location} {p : Path} {text : String}
  {above below : List String} {stage : Stage}

/-! ### The invariant -/

/-- **A stage is sound** for the tree at the start and the tree at hand. -/
def Sound (t : FileTree) (workingDirectory : Location) (p : Path) (text : String)
    (u : FileTree) : Stage → Prop
  | .start => True
  | .trying above below =>
    -- the directory itself is tried first, and one above it only if something is missing
    p.parent.hasNull = false ∧ p.parent.parts = above.reverse ++ below ∧
      (below ≠ [] → t.locate workingDirectory p.parent = .error .missing)
  | .making place above below =>
    p.parent.hasNull = false ∧ p.parent.parts = above.reverse ++ below ∧
      place = workingDirectory ++ above.reverse ∧
      u.HasDirectories workingDirectory above.reverse ∧ (∀ part ∈ above, ¬ IsLong part) ∧
      (t.locate workingDirectory p.parent = .error .missing ∨
        below = [] ∧ t.CanMake workingDirectory p.parent.parts p.parent.parts none)
  | .writing =>
    p.parent.hasNull = false ∧
      t.CanMake workingDirectory p.parent.parts p.parent.parts none ∧
      u.HasDirectories workingDirectory p.parent.parts
  | .ended error =>
    ∃ reach, t.CanEnd workingDirectory p reach error ∧
      u.HasDirectories workingDirectory reach ∧
      (error = none → u.node? (workingDirectory ++ p.parts) = some (.file text))

/-- **Others do not disturb a delivery** if they keep directories and what is in its place. -/
theorem Sound.mono (h : Sound t workingDirectory p text u stage)
    (hdirectory : ∀ place, u.node? place = some .directory → v.node? place = some .directory)
    (hown : v.node? (workingDirectory ++ p.parts) = u.node? (workingDirectory ++ p.parts)) :
    Sound t workingDirectory p text v stage := by
  -- what the stages claim is about directories, which stay, and about the place of the file
  have hkept : ∀ parts, u.HasDirectories workingDirectory parts →
      v.HasDirectories workingDirectory parts :=
    fun parts hparts front hfront => hdirectory _ (hparts front hfront)
  cases stage with
  | start => trivial
  | trying above below => exact h
  | making place above below =>
    obtain ⟨hnull, hparts, hplace, hdirectories, hshort, hmake⟩ := h
    exact ⟨hnull, hparts, hplace, hkept _ hdirectories, hshort, hmake⟩
  | writing =>
    obtain ⟨hnull, hmake, hdirectories⟩ := h
    exact ⟨hnull, hmake, hkept _ hdirectories⟩
  | ended error =>
    obtain ⟨reach, hend, hdirectories, hfile⟩ := h
    refine ⟨reach, hend, hkept _ hdirectories, fun hnone => ?_⟩
    rw [hown]
    exact hfile hnone

/-- **What surrounds a delivery**: the tree at the start, and the changes since then. -/
structure Setting (t : FileTree) (workingDirectory : Location) (p : Path) (u : FileTree) :
    Prop where
  /-- at the start everything was in a directory -/
  closed : t.IsClosed
  /-- so was the working directory, which is one itself -/
  there : t.node? workingDirectory = some .directory
  /-- the path goes down from it -/
  down : p.GoesDown
  /-- not too many directories were missing -/
  shallow : t.isTooDeep workingDirectory p = false
  /-- since then, others have made directories on the way at most -/
  way : KeepsWay workingDirectory p.parent.parts t u

/-- **What a call does**: it makes directories where the delivery is to make them, puts the file in
its place at the end, and changes nothing else. -/
structure Moves (t : FileTree) (workingDirectory : Location) (p : Path) (text : String)
    (u : FileTree) (after : FileTree × Stage) : Prop where
  /-- what changes -/
  changed : ∀ place, after.1.node? place = u.node? place ∨
    (u.node? place = none ∧ after.1.node? place = some .directory ∧
      place ∈ t.reached workingDirectory p) ∨
    (place = workingDirectory ++ p.parts ∧ u.node? place ≠ some .directory ∧
      after.2 = .ended none ∧ after.1.node? place = some (.file text))
  /-- the new stage is sound -/
  sound : Sound t workingDirectory p text after.1 after.2

theorem moves_unchanged (h : Sound t workingDirectory p text u stage) :
    Moves t workingDirectory p text u (u, stage) where
  changed _ := Or.inl rfl
  sound := h

namespace Setting

variable (h : Setting t workingDirectory p u)

include h in
theorem parent_eq : p.parent = Path.mk .here p.parent.parts := by
  have hstart : p.parent.start = .here := h.down.start_eq
  rw [← hstart]

include h in
theorem not_up : ".." ∉ p.parent.parts :=
  fun hmem => h.down.not_up (List.dropLast_subset _ hmem)

include h in
theorem not_up_of_prefix {front : List String} (hfront : front <+: p.parent.parts) :
    ".." ∉ front :=
  fun hmem => h.not_up (hfront.subset hmem)

include h in
theorem isDirectory : u.node? workingDirectory = some .directory := by
  have hkept := h.way.kept [] (List.nil_prefix) .directory
  rw [List.append_nil] at hkept
  exact hkept h.there

include h in
/-- If something was missing on the way, nothing is in the way. -/
theorem free (hmissing : t.locate workingDirectory p.parent = .error .missing)
    {front : List String} (hfront : front <+: p.parent.parts) :
    u.node? (workingDirectory ++ front) = none ∨
      u.node? (workingDirectory ++ front) = some .directory := by
  rw [h.parent_eq] at hmissing
  have hlt := lt_of_locate_ne (by rw [hmissing]; exact nofun)
  rw [locate_of_lt hlt] at hmissing
  exact h.way.free hfront (h.closed.clear h.not_up hmissing hfront)

end Setting

/-! ### Calls that make directories -/

/-- Directories that can be made are among those that the delivery is to make. -/
theorem mem_reached (hnull : p.parent.hasNull = false)
    (hmake : ∃ reach made, t.CanMake workingDirectory p.parent.parts reach made ∧
      above.reverse <+: reach) :
    workingDirectory ++ above.reverse ∈ t.reached workingDirectory p := by
  obtain ⟨reach, made, hmake, hfront⟩ := hmake
  exact ⟨reach, _, above.reverse, .tried hnull hmake, hfront, rfl⟩

/-- **Making a directory** that is free, below directories. -/
theorem moves_afterMaking (h : Setting t workingDirectory p u) (q : Path)
    (hnull : p.parent.hasNull = false) (hparts : p.parent.parts = above.reverse ++ below)
    (hpassable : u.Passable workingDirectory above.reverse)
    (hfree : u.node? (workingDirectory ++ above.reverse) = none ∨
      u.node? (workingDirectory ++ above.reverse) = some .directory)
    (hmake : t.locate workingDirectory p.parent = .error .missing ∨
      below = [] ∧ t.CanMake workingDirectory p.parent.parts p.parent.parts none) :
    Moves t workingDirectory p text u
      (afterMaking above below (u.ensureDirectory q (workingDirectory ++ above.reverse))) := by
  have hfront : above.reverse <+: p.parent.parts := ⟨below, hparts.symm⟩
  have hshort : ∀ part ∈ above.reverse, ¬ IsLong part := fun _ => hpassable.not_isLong
  have hreached : workingDirectory ++ above.reverse ∈ t.reached workingDirectory p := by
    refine mem_reached hnull ?_
    rcases hmake with hmissing | ⟨-, hmake⟩
    · rw [h.parent_eq] at hmissing
      exact exists_canMake hmissing hfront hshort
    · exact ⟨_, _, hmake, hfront⟩
  -- the directory is made, or was there, and nothing else has changed
  obtain ⟨made, hensure, hdirectory, hchanged⟩ := ensureDirectory_of_free (q := q) hfree
  rw [hensure]
  constructor
  · intro place
    rcases hchanged place with hsame | ⟨rfl, hnone, hnew⟩
    · exact Or.inl hsame
    · exact Or.inr (Or.inl ⟨hnone, hnew, hreached⟩)
  · have hkept : made.Passable workingDirectory above.reverse := by
      intro front part back hsplit
      obtain ⟨hnode, hlong⟩ := hpassable front part back hsplit
      refine ⟨?_, hlong⟩
      rcases hchanged (workingDirectory ++ front) with hsame | ⟨heq, -, hnew⟩
      · rw [hsame, hnode]
      · rw [heq]
        exact hnew
    exact ⟨hnull, hparts, rfl, hkept.hasDirectories hdirectory,
      fun part hpart => hshort part (List.mem_reverse.2 hpart), hmake⟩

/-! ### Calls, stage by stage -/

/-- A delivery that ends with an error. -/
theorem moves_ended {reach : List String} {error : DeliveryError}
    (hend : t.CanEnd workingDirectory p reach (some error))
    (hdirectories : u.HasDirectories workingDirectory reach) :
    Moves t workingDirectory p text u (u, .ended (some error)) :=
  moves_unchanged ⟨reach, hend, hdirectories, nofun⟩

theorem moves_start (h : Setting t workingDirectory p u) :
    Moves t workingDirectory p text u (next workingDirectory p text u .start) := by
  have hnone : u.HasDirectories workingDirectory [] := hasDirectories_nil h.isDirectory
  have hdeep : ¬ u.isTooDeep workingDirectory p = true := by
    rw [h.way.isTooDeep_eq_false h.down h.shallow]
    exact nofun
  unfold next
  by_cases hnull : p.parent.hasNull = true
  · rw [if_pos hnull]
    exact moves_ended (.null hnull) hnone
  rw [if_neg hnull, if_neg hdeep]
  rw [Bool.not_eq_true] at hnull
  by_cases hhere : p.parent = Path.here
  · rw [if_pos hhere]
    have hparts : p.parent.parts = [] := by rw [hhere]; rfl
    -- the working directory is there, so no directory is to be made for the file
    have hmake : t.CanMake workingDirectory [] [] none := by
      refine .there ?_ fun text hfile => ?_
      · rw [locate_of_lt (by decide), List.append_nil]
        rfl
      · rw [List.append_nil, h.there] at hfile
        cases hfile
    refine moves_unchanged ⟨hnull, ?_, ?_⟩
    · rw [hparts]
      exact hmake
    · rw [hparts]
      exact hnone
  · rw [if_neg hhere]
    refine moves_unchanged ⟨hnull, ?_, fun hne => absurd rfl hne⟩
    rw [List.reverse_reverse, List.append_nil]

/-- **If nothing was missing**, it is the directory itself that is tried, and it is found or not as
it was at the start. -/
theorem locate_eq_of_trying (h : Setting t workingDirectory p u)
    (hsound : Sound t workingDirectory p text u (.trying above below))
    (hmissing : t.locate workingDirectory p.parent ≠ .error .missing) :
    below = [] ∧ p.parent.parts = above.reverse ∧
      t.locate workingDirectory (Path.mk .here above.reverse) =
        u.locate workingDirectory (Path.mk .here above.reverse) := by
  obtain ⟨-, hparts, hbelow⟩ := hsound
  have hnil : below = [] := by
    by_contra hne
    exact hmissing (hbelow hne)
  rw [hnil, List.append_nil] at hparts
  rw [h.parent_eq] at hmissing
  have hsame := h.way.locate_eq h.not_up hmissing
  rw [hparts] at hsame
  exact ⟨hnil, hparts, hsame.symm⟩

/-- A directory that is found is there or can be made, unless it is a file. -/
theorem moves_found (h : Setting t workingDirectory p u)
    (hsound : Sound t workingDirectory p text u (.trying above below))
    (hlocate : u.locate workingDirectory (Path.mk .here above.reverse) = .ok place) :
    Moves t workingDirectory p text u
      (afterMaking above below (u.ensureDirectory (Path.mk .here above.reverse) place)) := by
  have hnull : p.parent.hasNull = false := hsound.1
  have hparts : p.parent.parts = above.reverse ++ below := hsound.2.1
  have hfront : above.reverse <+: p.parent.parts := ⟨below, hparts.symm⟩
  obtain ⟨rfl, hpassable⟩ := passable_of_locate (h.not_up_of_prefix hfront) hlocate
  by_cases hmissing : t.locate workingDirectory p.parent = .error .missing
  · exact moves_afterMaking h _ hnull hparts hpassable (h.free hmissing hfront) (.inl hmissing)
  -- nothing was missing at the start, so this is the directory of the file itself
  obtain ⟨hnil, hall, hsame⟩ := locate_eq_of_trying h hsound hmissing
  rw [hlocate] at hsame
  by_cases hfile : ∃ old, t.node? (workingDirectory ++ above.reverse) = some (.file old)
  · obtain ⟨old, hfile⟩ := hfile
    have hensure : u.ensureDirectory (Path.mk .here above.reverse)
        (workingDirectory ++ above.reverse) =
          (u, .error (errorAt .alreadyThere (Path.mk .here above.reverse))) := by
      rw [ensureDirectory, h.way.kept _ hfront _ hfile]
    have hmake : t.CanMake workingDirectory p.parent.parts []
        (some (errorAt .alreadyThere (Path.mk .here above.reverse))) := by
      rw [hall]
      exact .blocked hsame hfile
    rw [hensure]
    exact moves_ended (.tried hnull hmake) (hasDirectories_nil h.isDirectory)
  · have hfree : t.node? (workingDirectory ++ above.reverse) = none ∨
        t.node? (workingDirectory ++ above.reverse) = some .directory := by
      cases hnode : t.node? (workingDirectory ++ above.reverse) with
      | none => exact Or.inl rfl
      | some node =>
        cases node with
        | directory => exact Or.inr rfl
        | file old => exact absurd ⟨old, hnode⟩ hfile
    have hmake : t.CanMake workingDirectory p.parent.parts p.parent.parts none := by
      rw [hall]
      exact .there hsame (not_exists.1 hfile)
    exact moves_afterMaking h _ hnull hparts hpassable (h.way.free hfront hfree)
      (.inr ⟨hnil, hmake⟩)

/-- Something other than a missing directory is in the way of a directory that is tried. -/
theorem moves_refused (h : Setting t workingDirectory p u)
    (hsound : Sound t workingDirectory p text u (.trying above below)) {kind : FileErrorKind}
    (hlocate : u.locate workingDirectory (Path.mk .here above.reverse) = .error kind)
    (hkind : kind ≠ .missing) :
    Moves t workingDirectory p text u
      (u, .ended (some (.file (errorAt kind (Path.mk .here above.reverse))))) := by
  have hnull : p.parent.hasNull = false := hsound.1
  have hparts : p.parent.parts = above.reverse ++ below := hsound.2.1
  have hfront : above.reverse <+: p.parent.parts := ⟨below, hparts.symm⟩
  by_cases hmissing : t.locate workingDirectory p.parent = .error .missing
  · -- with nothing but directories in the way, it is a name that is too long
    rw [h.parent_eq] at hmissing
    have hlt : (Path.mk .here above.reverse).text.utf8ByteSize < pathBytesLimit :=
      Path.utf8ByteSize_text_lt hfront (lt_of_locate_ne (by rw [hmissing]; exact nofun))
    rw [locate_of_lt hlt, walk_eq_error_iff (h.not_up_of_prefix hfront)] at hlocate
    obtain ⟨front, part, back, hsplit, hpassable, hstep⟩ := hlocate
    have hbefore : front <+: p.parent.parts :=
      (List.prefix_append front _).trans (hsplit ▸ hfront)
    have hdirectory : u.node? (workingDirectory ++ front) = some .directory := by
      rcases h.free (h.parent_eq ▸ hmissing) hbefore with hnone | hdirectory
      · rw [step_of_missing hnone] at hstep
        exact absurd (Except.error.inj hstep).symm hkind
      · exact hdirectory
    have hpart : part ≠ ".." := by
      rintro rfl
      exact h.not_up_of_prefix hfront (by simp [hsplit])
    rw [step_of_directory hdirectory hpart] at hstep
    split_ifs at hstep with hlong
    obtain rfl := Except.error.inj hstep
    have hlater : p.parent.parts = front ++ part :: (back ++ below) := by
      rw [hparts, hsplit, List.append_assoc]
      rfl
    have hmake : t.CanMake workingDirectory p.parent.parts front
        (some (errorAt .nameTooLong (Path.mk .here above.reverse))) := by
      refine .tooLong hmissing hlater (fun _ => hpassable.not_isLong) hlong ⟨back, ?_⟩ hfront
      rw [hsplit, List.append_assoc]
      rfl
    exact moves_ended (.tried hnull hmake) (hpassable.hasDirectories hdirectory)
  · -- the directory itself was tried, and nothing on the way has changed since the start
    obtain ⟨-, hall, hsame⟩ := locate_eq_of_trying h hsound hmissing
    rw [hlocate] at hsame
    have hmake : t.CanMake workingDirectory p.parent.parts []
        (some (errorAt kind (Path.mk .here above.reverse))) := by
      rw [hall]
      exact .refused hsame hkind
    exact moves_ended (.tried hnull hmake) (hasDirectories_nil h.isDirectory)

theorem moves_trying (h : Setting t workingDirectory p u)
    (hsound : Sound t workingDirectory p text u (.trying above below)) :
    Moves t workingDirectory p text u (next workingDirectory p text u (.trying above below)) := by
  have hstart : p.parent.start = .here := h.down.start_eq
  unfold next
  rw [hstart]
  cases hlocate : u.locate workingDirectory (Path.mk .here above.reverse) with
  | ok place =>
    simp only [hlocate]
    exact moves_found h hsound hlocate
  | error kind =>
    by_cases hkind : kind = .missing
    · subst hkind
      simp only [hlocate]
      cases above with
      | nil =>
        rw [List.reverse_nil, locate_of_lt (by decide)] at hlocate
        cases hlocate
      | cons last above =>
        refine moves_unchanged ⟨hsound.1, by rw [hsound.2.1]; simp, fun _ => ?_⟩
        by_contra hmissing
        obtain ⟨-, hall, hsame⟩ := locate_eq_of_trying h hsound hmissing
        rw [h.parent_eq, hall] at hmissing
        exact hmissing (hsame.trans hlocate)
    · have hrefused := moves_refused h hsound hlocate hkind
      cases kind <;> first | contradiction | (simp only [hlocate]; exact hrefused)

theorem moves_making (h : Setting t workingDirectory p u)
    (hsound : Sound t workingDirectory p text u (.making place above below)) :
    Moves t workingDirectory p text u
      (next workingDirectory p text u (.making place above below)) := by
  obtain ⟨hnull, hparts, rfl, hdirectories, hshort, hmake⟩ := hsound
  have hstart : p.parent.start = .here := h.down.start_eq
  unfold next
  cases below with
  | nil =>
    rw [List.append_nil] at hparts
    rw [← hparts] at hdirectories
    -- all directories are there, so the file is next
    refine moves_unchanged ⟨hnull, ?_, hdirectories⟩
    rcases hmake with hmissing | ⟨-, hmake⟩
    · rw [h.parent_eq] at hmissing
      refine .made hmissing fun part hpart => hshort part ?_
      rw [hparts] at hpart
      exact List.mem_reverse.1 hpart
    · exact hmake
  | cons part below =>
    -- there are directories to make only if one was missing at the start
    have hmissing : t.locate workingDirectory p.parent = .error .missing :=
      hmake.resolve_right fun hnil => absurd hnil.1 (List.cons_ne_nil part below)
    have hparts' : p.parent.parts = (part :: above).reverse ++ below := by
      rw [hparts]
      simp
    have hfront : (part :: above).reverse <+: p.parent.parts := ⟨below, hparts'.symm⟩
    have hpart : part ≠ ".." := by
      rintro rfl
      exact h.not_up (by simp [hparts])
    have hstep := step_of_directory (hdirectories _ (List.prefix_refl _)) hpart
    rw [hstart]
    by_cases hlong : IsLong part
    · rw [if_pos hlong] at hstep
      simp only [hstep]
      rw [h.parent_eq] at hmissing
      have hmake : t.CanMake workingDirectory p.parent.parts above.reverse
          (some (errorAt .nameTooLong (Path.mk .here (part :: above).reverse))) := by
        refine .tooLong hmissing hparts ?_ hlong ?_ hfront
        · exact fun other hother => hshort other (List.mem_reverse.1 hother)
        · exact ⟨[], by simp⟩
      exact moves_ended (.tried hnull hmake) hdirectories
    · rw [if_neg hlong] at hstep
      simp only [hstep]
      have hpassable : u.Passable workingDirectory (part :: above).reverse := by
        rw [List.reverse_cons]
        exact hdirectories.passable_append_singleton
          (fun other hother => hshort other (List.mem_reverse.1 hother)) hlong
      have hmoves : Moves t workingDirectory p text u _ :=
        moves_afterMaking h (Path.mk .here (part :: above).reverse) hnull hparts' hpassable
          (h.free hmissing hfront) (.inl hmissing)
      rw [List.reverse_cons, ← List.append_assoc] at hmoves
      rw [List.reverse_cons]
      exact hmoves

/-! ### Writing the file -/

/-- A path with a part is its parent and its name. -/
theorem parts_eq_of_ne_nil (hne : p.parts ≠ []) : p.parts = p.parent.parts ++ [p.name] := by
  have hlast := List.dropLast_concat_getLast hne
  have hname : p.name = p.parts.getLast hne := by
    rw [Path.name, List.getLastD_eq_getLast?, List.getLast?_eq_some_getLast hne]
    rfl
  rw [hname]
  exact hlast.symm

/-- **A file below directories** is found if neither its path nor its name is too long. -/
theorem locate_of_hasDirectories (hdown : p.GoesDown)
    (hdirectories : u.HasDirectories workingDirectory p.parent.parts)
    (hshort : ∀ part ∈ p.parent.parts, ¬ IsLong part) :
    u.locate workingDirectory p =
      if pathBytesLimit ≤ p.text.utf8ByteSize ∨ IsLong p.name then .error .nameTooLong
      else .ok (workingDirectory ++ p.parts) := by
  -- the length of the whole path is checked before any step is taken
  have hp : p = Path.mk .here p.parts := by rw [← hdown.start_eq]
  have hup := hdown.not_up
  by_cases hle : pathBytesLimit ≤ p.text.utf8ByteSize
  · rw [if_pos (.inl hle), hp]
    exact locate_of_le (hp ▸ hle)
  have hlt : (Path.mk .here p.parts).text.utf8ByteSize < pathBytesLimit := by
    rw [← hp]
    omega
  have hwalk : u.locate workingDirectory p = p.parts.foldlM u.step workingDirectory := by
    rw [← locate_of_lt hlt, ← hp]
  rw [hwalk]
  by_cases hlong : IsLong p.name
  · have hne : p.parts ≠ [] := by
      intro hnil
      rw [Path.name, hnil] at hlong
      exact absurd hlong (by decide)
    have hparts := parts_eq_of_ne_nil hne
    rw [if_pos (.inr hlong), walk_eq_error_iff hup]
    have hpassable : u.Passable workingDirectory p.parent.parts :=
      passable_of_directories hshort fun front hfront _ => hdirectories front hfront
    have hname : p.name ≠ ".." := by
      intro hname
      rw [hparts, hname] at hup
      simp at hup
    refine ⟨p.parent.parts, p.name, [], hparts, hpassable, ?_⟩
    rw [step_of_directory (hdirectories _ (List.prefix_refl _)) hname, if_pos hlong]
  · rw [if_neg (not_or.2 ⟨hle, hlong⟩), walk_eq_ok_iff hup]
    refine ⟨rfl, ?_⟩
    by_cases hnil : p.parts = []
    · rw [hnil]
      exact passable_nil
    · rw [parts_eq_of_ne_nil hnil]
      exact hdirectories.passable_append_singleton hshort hlong

/-- **Writing the file** below its directories. -/
theorem write_eq (hdown : p.GoesDown)
    (hdirectories : u.HasDirectories workingDirectory p.parent.parts)
    (hshort : ∀ part ∈ p.parent.parts, ¬ IsLong part) :
    write workingDirectory p text u =
      (if u.writeError workingDirectory p = none then
          u.put (workingDirectory ++ p.parts) (.file text)
        else u, u.writeError workingDirectory p) := by
  have hlocate := locate_of_hasDirectories hdown hdirectories hshort
  unfold write writeError
  by_cases hnull : p.hasNull = true
  · simp only [hnull, if_true, reduceCtorEq, if_false]
  simp only [hnull, Bool.false_eq_true, if_false]
  by_cases hlong : pathBytesLimit ≤ p.text.utf8ByteSize ∨ IsLong p.name
  · rw [if_pos hlong] at hlocate ⊢
    simp only [writeFile, hlocate, reduceCtorEq, if_false]
  rw [if_neg hlong] at hlocate ⊢
  cases hnode : u.node? (workingDirectory ++ p.parts) with
  | none => simp only [writeFile, hlocate, hnode, reduceCtorEq, if_false, if_true]
  | some node =>
    cases node with
    | directory =>
      simp only [writeFile, hlocate, hnode, reduceCtorEq, if_false, if_true]
    | file old =>
      simp only [writeFile, hlocate, hnode, reduceCtorEq, Option.some.injEq, if_false, if_true]

/-- The last call of a delivery. -/
theorem moves_writing (h : Setting t workingDirectory p u)
    (hsound : Sound t workingDirectory p text u .writing)
    (hown : u.node? (workingDirectory ++ p.parts) = t.node? (workingDirectory ++ p.parts)) :
    Moves t workingDirectory p text u (next workingDirectory p text u .writing) := by
  obtain ⟨hnull, hmake, hdirectories⟩ := hsound
  have hend := CanEnd.tried hnull hmake
  -- the error is the one that the tree at the start tells, as nothing has come to the place since
  have herror : t.endOf workingDirectory p none = u.writeError workingDirectory p := by
    unfold endOf writeError
    rw [hown]
  rw [herror] at hend
  unfold next
  rw [write_eq h.down hdirectories (hmake.not_isLong h.not_up)]
  by_cases hnone : u.writeError workingDirectory p = none
  · rw [if_pos hnone, hnone]
    have hnode : u.node? (workingDirectory ++ p.parts) ≠ some .directory := by
      intro hdirectory
      unfold writeError at hnone
      rw [if_pos hdirectory] at hnone
      split_ifs at hnone
    have hput : ∀ other, (u.put (workingDirectory ++ p.parts) (.file text)).node? other =
        if other = workingDirectory ++ p.parts then some (.file text) else u.node? other :=
      fun _ => node?_put (ne_nil_of_node?_ne hnode)
    rw [hnone] at hend
    constructor
    · intro place
      by_cases heq : place = workingDirectory ++ p.parts
      · exact Or.inr (Or.inr ⟨heq, heq ▸ hnode, rfl, by rw [hput, if_pos heq]⟩)
      · exact Or.inl (by rw [hput, if_neg heq])
    · refine ⟨_, hend, fun front hfront => ?_, fun _ => by rw [hput, if_pos rfl]⟩
      have hdirectory := hdirectories front hfront
      have hne : workingDirectory ++ front ≠ workingDirectory ++ p.parts := by
        intro heq
        rw [heq] at hdirectory
        exact hnode hdirectory
      rw [hput, if_neg hne, hdirectory]
  · rw [if_neg hnone]
    exact moves_unchanged ⟨_, hend, hdirectories, fun heq => absurd heq hnone⟩

/-- **Every call keeps a stage sound**, and changes nothing but what its delivery is to make.
Nobody else may have touched the place of the file before it is written. -/
theorem moves_next (h : Setting t workingDirectory p u)
    (hsound : Sound t workingDirectory p text u stage)
    (hown : (∀ error, stage ≠ .ended error) →
      u.node? (workingDirectory ++ p.parts) = t.node? (workingDirectory ++ p.parts)) :
    Moves t workingDirectory p text u (next workingDirectory p text u stage) := by
  cases stage with
  | start => exact moves_start h
  | trying above below => exact moves_trying h hsound
  | making place above below => exact moves_making h hsound
  | writing => exact moves_writing h hsound (hown fun _ => nofun)
  | ended error => exact moves_unchanged hsound

end Stage

end CustomBuild
