import CustomBuild.Proofs.FileTree.Walking

/-!
# What can come of a delivery

While a delivery is under way, others may make directories that it needs, but none of them puts a
file in its way or anything in its place.  What comes of it depends on the tree at its start alone
(`FileTree.CanEnd`), with one exception.  If a directory is missing and a name above another one is
too long, the error may be about any directory from that name on, as it depends on how much of the
way is there when the directories are tried (`FileTree.CanEnd.unique`).
-/

namespace CustomBuild

namespace FileTree

variable {t u : FileTree} {workingDirectory place : Location} {p q : Path} {text : String}
  {parts front reach reach' tried : List String} {made made' : Option FileError}
  {error error' : Option DeliveryError}

/-! ### Outcomes -/

/-- **What can come of making directories**, by the tree at the start: how far they are made, and
the error.  The directory itself is tried first. -/
inductive CanMake (t : FileTree) (workingDirectory : Location) (parts : List String) :
    List String → Option FileError → Prop where
  /-- something other than a missing directory is in the way -/
  | refused {kind : FileErrorKind}
    (hlocate : t.locate workingDirectory (Path.mk .here parts) = .error kind)
    (hkind : kind ≠ .missing) :
    CanMake t workingDirectory parts [] (some (errorAt kind (Path.mk .here parts)))
  /-- there is a file in place of the directory -/
  | blocked {text : String}
    (hlocate : t.locate workingDirectory (Path.mk .here parts) = .ok (workingDirectory ++ parts))
    (hfile : t.node? (workingDirectory ++ parts) = some (.file text)) :
    CanMake t workingDirectory parts [] (some (errorAt .alreadyThere (Path.mk .here parts)))
  /-- the directory is there, or is the only one that is not -/
  | there
    (hlocate : t.locate workingDirectory (Path.mk .here parts) = .ok (workingDirectory ++ parts))
    (hfree : ∀ text, t.node? (workingDirectory ++ parts) ≠ some (.file text)) :
    CanMake t workingDirectory parts parts none
  /-- directories are missing, and are made -/
  | made (hmissing : t.locate workingDirectory (Path.mk .here parts) = .error .missing)
    (hshort : ∀ part ∈ parts, ¬ IsLong part) : CanMake t workingDirectory parts parts none
  /-- directories are missing, and are made up to a name that is too long -/
  | tooLong (hmissing : t.locate workingDirectory (Path.mk .here parts) = .error .missing)
    {front back tried : List String} {part : String} (hparts : parts = front ++ part :: back)
    (hshort : ∀ part ∈ front, ¬ IsLong part) (hlong : IsLong part)
    (hfrom : front ++ [part] <+: tried) (hto : tried <+: parts) :
    CanMake t workingDirectory parts front (some (errorAt .nameTooLong (Path.mk .here tried)))

/-- The error of writing a file once its directories are there. -/
def writeError (t : FileTree) (workingDirectory : Location) (p : Path) : Option DeliveryError :=
  if p.hasNull then some .nullCharacter
  else if pathBytesLimit ≤ p.text.utf8ByteSize ∨ IsLong p.name then
    some (.file (errorAt .nameTooLong p))
  else if t.node? (workingDirectory ++ p.parts) = some .directory then
    some (.file (errorAt .isDirectory p))
  else none

/-- The error of a delivery, by that of making its directories. -/
def endOf (t : FileTree) (workingDirectory : Location) (p : Path) :
    Option FileError → Option DeliveryError
  | some error => some (.file error)
  | none => t.writeError workingDirectory p

/-- **What can come of a delivery** to a path that goes down: how far directories are made, and the
error. -/
inductive CanEnd (t : FileTree) (workingDirectory : Location) (p : Path) :
    List String → Option DeliveryError → Prop where
  /-- a directory has the null character -/
  | null (hnull : p.parent.hasNull = true) : CanEnd t workingDirectory p [] (some .nullCharacter)
  /-- directories are made, and then the file is written -/
  | tried (hnull : p.parent.hasNull = false) {reach : List String} {made : Option FileError}
    (hmake : CanMake t workingDirectory p.parent.parts reach made) :
    CanEnd t workingDirectory p reach (t.endOf workingDirectory p made)

/-- The first name that is too long is where it is. -/
theorem eq_of_first_long {front' back back' : List String} {part part' : String}
    (hparts : front ++ part :: back = front' ++ part' :: back')
    (hshort : ∀ part ∈ front, ¬ IsLong part) (hlong : IsLong part)
    (hshort' : ∀ part ∈ front', ¬ IsLong part) (hlong' : IsLong part') :
    front = front' ∧ part = part' := by
  rcases List.append_eq_append_iff.1 hparts with ⟨more, rfl, hmore⟩ | ⟨more, rfl, hmore⟩
  · cases more with
    | nil => exact ⟨(List.append_nil front).symm, (List.cons.inj hmore).1⟩
    | cons first more =>
      obtain ⟨rfl, -⟩ := List.cons.inj hmore
      exact absurd hlong (hshort' part (by simp))
  · cases more with
    | nil => exact ⟨List.append_nil front', (List.cons.inj hmore).1.symm⟩
    | cons first more =>
      obtain ⟨rfl, -⟩ := List.cons.inj hmore
      exact absurd hlong' (hshort part' (by simp))

/-- The error says that a directory on the way has a name that is too long. -/
def NamesLong (parts : List String) (error : FileError) : Prop :=
  ∃ tried, tried <+: parts ∧ (∃ part ∈ tried, IsLong part) ∧
    error = errorAt .nameTooLong (Path.mk .here tried)

/-- Errors about one name that is too long are about one directory if the name is the last one, and
otherwise about directories with this name. -/
theorem eq_or_namesLong {back tried tried' : List String} {part : String} (hlong : IsLong part)
    (hfrom : front ++ [part] <+: tried) (hto : tried <+: front ++ part :: back)
    (hfrom' : front ++ [part] <+: tried') (hto' : tried' <+: front ++ part :: back) :
    tried = tried' ∨ (∃ other ∈ (front ++ part :: back).dropLast, IsLong other) ∧
      NamesLong (front ++ part :: back) (errorAt .nameTooLong (Path.mk .here tried)) ∧
      NamesLong (front ++ part :: back) (errorAt .nameTooLong (Path.mk .here tried')) := by
  cases back with
  | nil =>
    have htried := hto.eq_of_length_le hfrom.length_le
    have htried' := hto'.eq_of_length_le hfrom'.length_le
    exact Or.inl (htried.trans htried'.symm)
  | cons next back =>
    have hmem : part ∈ front ++ [part] := by simp
    refine Or.inr ⟨⟨part, by simp, hlong⟩, ?_, ?_⟩
    · exact ⟨_, hto, ⟨part, hfrom.subset hmem, hlong⟩, rfl⟩
    · exact ⟨_, hto', ⟨part, hfrom'.subset hmem, hlong⟩, rfl⟩

/-- **Directories are made in one way**, up to the directory that an error is about if the name of
one above another is too long. -/
theorem CanMake.unique (h : t.CanMake workingDirectory parts reach made)
    (h' : t.CanMake workingDirectory parts reach' made') :
    reach = reach' ∧ (made = made' ∨ (∃ part ∈ parts.dropLast, IsLong part) ∧
      ∃ error error', made = some error ∧ made' = some error' ∧ NamesLong parts error ∧
        NamesLong parts error') := by
  -- each constructor says what looking for the directory gives at the start, so two that differ in
  -- it exclude each other
  cases h with
  | refused hlocate hkind =>
    cases h' with
    | refused hlocate' hkind' =>
      obtain rfl := Except.error.inj (hlocate.symm.trans hlocate')
      exact ⟨rfl, Or.inl rfl⟩
    | blocked hlocate' => cases hlocate.symm.trans hlocate'
    | there hlocate' => cases hlocate.symm.trans hlocate'
    | made hmissing => exact absurd (Except.error.inj (hlocate.symm.trans hmissing)) hkind
    | tooLong hmissing => exact absurd (Except.error.inj (hlocate.symm.trans hmissing)) hkind
  | blocked hlocate hfile =>
    cases h' with
    | refused hlocate' => cases hlocate.symm.trans hlocate'
    | blocked => exact ⟨rfl, Or.inl rfl⟩
    | there _ hfree => exact absurd hfile (hfree _)
    | made hmissing => cases hlocate.symm.trans hmissing
    | tooLong hmissing => cases hlocate.symm.trans hmissing
  | there hlocate hfree =>
    cases h' with
    | refused hlocate' => cases hlocate.symm.trans hlocate'
    | blocked _ hfile => exact absurd hfile (hfree _)
    | there => exact ⟨rfl, Or.inl rfl⟩
    | made hmissing => cases hlocate.symm.trans hmissing
    | tooLong hmissing => cases hlocate.symm.trans hmissing
  | made hmissing hshort =>
    cases h' with
    | refused hlocate hkind => exact absurd (Except.error.inj (hlocate.symm.trans hmissing)) hkind
    | blocked hlocate => cases hlocate.symm.trans hmissing
    | there hlocate => cases hlocate.symm.trans hmissing
    | made => exact ⟨rfl, Or.inl rfl⟩
    | tooLong _ hparts _ hlong => exact absurd hlong (hshort _ (by simp [hparts]))
  | @tooLong hmissing front back tried part hparts hshort hlong hfrom hto =>
    cases h' with
    | refused hlocate hkind => exact absurd (Except.error.inj (hlocate.symm.trans hmissing)) hkind
    | blocked hlocate => cases hlocate.symm.trans hmissing
    | there hlocate => cases hlocate.symm.trans hmissing
    | made _ hshort' => exact absurd hlong (hshort' _ (by simp [hparts]))
    | tooLong _ hparts' hshort' hlong' hfrom' hto' =>
      obtain ⟨hfront, hpart⟩ :=
        eq_of_first_long (hparts.symm.trans hparts') hshort hlong hshort' hlong'
      subst hfront hpart
      subst hparts
      refine ⟨rfl, (eq_or_namesLong hlong hfrom hto hfrom' hto').imp ?_ ?_⟩
      · exact fun heq => by rw [heq]
      · exact fun ⟨hother, hnames, hnames'⟩ => ⟨hother, _, _, rfl, rfl, hnames, hnames'⟩

/-- Directories that are made or there have no name that is too long. -/
theorem CanMake.not_isLong (h : t.CanMake workingDirectory parts reach none)
    (hup : ".." ∉ parts) : ∀ part ∈ parts, ¬ IsLong part := by
  cases h with
  | there hlocate => exact fun _ => (passable_of_locate hup hlocate).2.not_isLong
  | made _ hshort => exact hshort

/-- **A delivery can end in one way**, up to the directory that an error is about if the name of
one above another is too long. -/
theorem CanEnd.unique (h : t.CanEnd workingDirectory p reach error)
    (h' : t.CanEnd workingDirectory p reach' error') :
    reach = reach' ∧ (error = error' ∨ (∃ part ∈ p.parent.parts.dropLast, IsLong part) ∧
      ∃ long long', error = some (.file long) ∧ error' = some (.file long') ∧
        NamesLong p.parent.parts long ∧ NamesLong p.parent.parts long') := by
  cases h with
  | null hnull =>
    cases h' with
    | null => exact ⟨rfl, Or.inl rfl⟩
    | tried hnull' =>
      rw [hnull] at hnull'
      cases hnull'
  | tried hnull hmake =>
    cases h' with
    | null hnull' =>
      rw [hnull] at hnull'
      cases hnull'
    | tried _ hmake' =>
      obtain ⟨hreach, hmade⟩ := hmake.unique hmake'
      refine ⟨hreach, ?_⟩
      rcases hmade with rfl | ⟨hlong, long, long', rfl, rfl, hnames, hnames'⟩
      · exact Or.inl rfl
      · exact Or.inr ⟨hlong, long, long', rfl, rfl, hnames, hnames'⟩

/-- Directories are made on the way. -/
theorem CanMake.reach_prefix (h : t.CanMake workingDirectory parts reach made) :
    reach <+: parts := by
  cases h with
  | refused => exact List.nil_prefix
  | blocked => exact List.nil_prefix
  | there => exact List.prefix_refl parts
  | made => exact List.prefix_refl parts
  | tooLong _ hparts => exact ⟨_, hparts.symm⟩

theorem CanEnd.reach_prefix (h : t.CanEnd workingDirectory p reach error) :
    reach <+: p.parent.parts := by
  cases h with
  | null => exact List.nil_prefix
  | tried _ hmake => exact hmake.reach_prefix

/-- A delivery that goes well does not go to a directory. -/
theorem CanEnd.not_isDirectory (h : t.CanEnd workingDirectory p reach none) :
    t.node? (workingDirectory ++ p.parts) ≠ some .directory := by
  intro hdirectory
  generalize herror : (none : Option DeliveryError) = error at h
  cases h with
  | null => cases herror
  | @tried _ _ made =>
    cases made with
    | some error => cases herror
    | none =>
      unfold endOf writeError at herror
      rw [if_pos hdirectory] at herror
      split_ifs at herror

/-! ### Directories that are made -/

/-- There are directories all along. -/
def HasDirectories (t : FileTree) (origin : Location) (parts : List String) : Prop :=
  ∀ front, front <+: parts → t.node? (origin ++ front) = some .directory

theorem hasDirectories_nil {origin : Location} (h : t.node? origin = some .directory) :
    t.HasDirectories origin [] := by
  intro front hfront
  rw [List.prefix_nil.1 hfront, List.append_nil]
  exact h

/-- From directories a further name can be followed that is not too long. -/
theorem HasDirectories.passable_append_singleton {origin : Location} {part : String}
    (h : t.HasDirectories origin parts) (hshort : ∀ other ∈ parts, ¬ IsLong other)
    (hpart : ¬ IsLong part) : t.Passable origin (parts ++ [part]) := by
  refine passable_of_directories (fun other hother => ?_) fun front hfront hne => ?_
  · rcases List.mem_append.1 hother with hother | hother
    · exact hshort other hother
    · rwa [List.mem_singleton.1 hother]
  · exact h front ((List.prefix_concat_iff.1 hfront).resolve_left hne)

/-- What can be followed has directories all along, if there is one at its end. -/
theorem Passable.hasDirectories {origin : Location} (h : t.Passable origin parts)
    (hlast : t.node? (origin ++ parts) = some .directory) : t.HasDirectories origin parts := by
  intro front hfront
  by_cases heq : front = parts
  · rw [heq]
    exact hlast
  · exact h.isDirectory hfront heq

/-- **The places that a delivery may make directories at**, if it makes any. -/
def reached (t : FileTree) (workingDirectory : Location) (p : Path) : Set Location :=
  {place | ∃ reach error front, t.CanEnd workingDirectory p reach error ∧ front <+: reach ∧
    place = workingDirectory ++ front}

/-- **Directories with names of usual length are made** if something is missing on the way. -/
theorem exists_canMake
    (hmissing : t.locate workingDirectory (Path.mk .here parts) = .error .missing)
    (hfront : front <+: parts) (hshort : ∀ part ∈ front, ¬ IsLong part) :
    ∃ reach made, t.CanMake workingDirectory parts reach made ∧ front <+: reach := by
  cases hfind : parts.find? fun part => decide (IsLong part) with
  | none =>
    have hall : ∀ part ∈ parts, ¬ IsLong part := by
      intro part hpart
      have hnot := List.find?_eq_none.1 hfind part hpart
      simpa using hnot
    exact ⟨parts, none, .made hmissing hall, hfront⟩
  | some part =>
    obtain ⟨hlong, before, back, rfl, hbefore⟩ := List.find?_eq_some_iff_append.1 hfind
    have hlong : IsLong part := by simpa using hlong
    have hbefore : ∀ other ∈ before, ¬ IsLong other := by simpa using hbefore
    have hto : before ++ [part] <+: before ++ part :: back := ⟨back, by simp⟩
    refine ⟨before, _, .tooLong hmissing rfl hbefore hlong (List.prefix_refl _) hto, ?_⟩
    -- the long name is not among the parts in front
    rcases List.prefix_or_prefix_of_prefix hfront (List.prefix_append before _) with h | ⟨more, rfl⟩
    · exact h
    · cases more with
      | nil => exact ⟨[], by simp⟩
      | cons next more =>
        obtain ⟨rest, hrest⟩ := hfront
        rw [List.append_assoc] at hrest
        obtain ⟨rfl, -⟩ := List.cons.inj (List.append_cancel_left hrest)
        exact absurd hlong (hshort next (by simp))

/-- A directory that is free is made. -/
theorem ensureDirectory_of_free
    (hfree : u.node? place = none ∨ u.node? place = some .directory) :
    ∃ v : FileTree, u.ensureDirectory q place = (v, .ok place) ∧
      v.node? place = some .directory ∧
      ∀ other, v.node? other = u.node? other ∨
        other = place ∧ u.node? place = none ∧ v.node? place = some .directory := by
  unfold ensureDirectory
  rcases hfree with hnone | hdirectory
  · rw [hnone]
    have hroot : place ≠ [] := by
      apply ne_nil_of_node?_ne
      rw [hnone]
      exact nofun
    have hput : (u.put place .directory).node? place = some .directory := by
      rw [node?_put hroot, if_pos rfl]
    refine ⟨_, rfl, hput, fun other => ?_⟩
    by_cases heq : other = place
    · exact Or.inr ⟨heq, rfl, hput⟩
    · left
      rw [node?_put hroot, if_neg heq]
  · rw [hdirectory]
    exact ⟨u, rfl, hdirectory, fun other => Or.inl rfl⟩

end FileTree

end CustomBuild
