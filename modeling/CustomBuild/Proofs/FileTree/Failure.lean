import CustomBuild.Proofs.FileTree.Walking

/-!
# Deliveries that fail

After a delivery that has failed, nothing can be read under its path
(`FileTree.readFile_of_deliver_ne_none`), whatever the tree had before: either the directory of the
file is not there, and could not be made, or there is a directory in place of the file.  So a text
that can be read under the path has been delivered.

A path needs too many directories if none of the directories that its many parts lead to is there
(`FileTree.isTooDeep_of_missing`).
-/

namespace CustomBuild.FileTree

variable {t u : FileTree} {workingDirectory origin next place : Location} {p : Path}
  {start : PathStart} {part path text : String} {parts lastFirst : List String}
  {kind : FileErrorKind} {error : FileError}

/-! ### Directories under a path -/

/-- **There is a directory** at the location that a path leads to. -/
def HasDirectoryAt (t : FileTree) (workingDirectory : Location) (p : Path) : Prop :=
  ∃ place, t.locate workingDirectory p = .ok place ∧ t.node? place = some .directory

/-- Taking some steps, and then one more. -/
theorem foldlM_step_concat_eq_ok (h : (parts ++ [part]).foldlM t.step origin = .ok next) :
    ∃ mid, parts.foldlM t.step origin = .ok mid ∧ t.step mid part = .ok next := by
  rw [List.foldlM_append] at h
  obtain ⟨mid, hwalk, h⟩ := exists_of_bind_eq_ok h
  obtain ⟨last, hstep, hrest⟩ := foldlM_step_cons_eq_ok h
  obtain rfl := Except.ok.inj hrest
  exact ⟨mid, hwalk, hstep⟩

/-- **What a path leads to is in a directory**, under the path without its last part. -/
theorem hasDirectoryAt_of_locate (hparts : parts ≠ [])
    (h : t.locate workingDirectory ⟨start, parts⟩ = .ok next) :
    t.HasDirectoryAt workingDirectory ⟨start, parts.dropLast⟩ ∧
      ∃ mid, t.locate workingDirectory ⟨start, parts.dropLast⟩ = .ok mid ∧
        t.step mid (parts.getLast hparts) = .ok next := by
  obtain ⟨hshort, hwalk⟩ := locate_eq_ok_iff.1 h
  have hconcat := List.dropLast_concat_getLast hparts
  simp only at hwalk
  rw [← hconcat] at hwalk
  obtain ⟨mid, hfront, hstep⟩ := foldlM_step_concat_eq_ok hwalk
  have hmid : t.locate workingDirectory ⟨start, parts.dropLast⟩ = .ok mid :=
    locate_eq_ok_iff.2
      ⟨Path.utf8ByteSize_text_lt (List.dropLast_prefix parts) hshort, hfront⟩
  exact ⟨⟨mid, hmid, (step_eq_ok hstep).1⟩, mid, hmid, hstep⟩

theorem not_hasDirectoryAt_of_error (h : t.locate workingDirectory p = .error kind) :
    ¬ t.HasDirectoryAt workingDirectory p := by
  rintro ⟨place, hplace, -⟩
  rw [h] at hplace
  cases hplace

/-- A directory that could not be made has a file in its place. -/
theorem not_hasDirectoryAt_of_ensureDirectory
    (hplace : place = p.place workingDirectory)
    (h : t.ensureDirectory p place = (u, .error error)) :
    ¬ u.HasDirectoryAt workingDirectory p := by
  unfold ensureDirectory at h
  split at h
  · cases h
  · cases h
  · next text hnode =>
    obtain ⟨rfl, -⟩ := Prod.mk.inj h
    rintro ⟨other, hother, hdirectory⟩
    rw [eq_place_of_locate hother, ← hplace, hnode] at hdirectory
    cases hdirectory

/-- Where a last part leads, there is a directory above it, and the part is a step from there. -/
theorem exists_step_of_hasDirectoryAt_cons {above : List String}
    (h : t.HasDirectoryAt workingDirectory ⟨start, (part :: above).reverse⟩) :
    t.HasDirectoryAt workingDirectory ⟨start, above.reverse⟩ ∧
      ∃ next, t.step (Path.place ⟨start, above.reverse⟩ workingDirectory) part = .ok next := by
  obtain ⟨place, hplace, -⟩ := h
  have hne : (part :: above).reverse ≠ [] := by simp
  have hfront : (part :: above).reverse.dropLast = above.reverse := by simp
  have hlast : (part :: above).reverse.getLast hne = part := by simp
  obtain ⟨habove, mid, hmid, hstep⟩ := hasDirectoryAt_of_locate hne hplace
  rw [hfront] at habove hmid
  rw [hlast, eq_place_of_locate hmid] at hstep
  exact ⟨habove, place, hstep⟩

/-- **Directories that could not be made** are not there: where the one above could not be made,
there is nothing below it, and where it could, the last step fails. -/
theorem Making.not_hasDirectoryAt {made : FileTree × Except FileError Location}
    (h : Making workingDirectory start t lastFirst made) (herror : made.2 = .error error) :
    ¬ made.1.HasDirectoryAt workingDirectory ⟨start, lastFirst.reverse⟩ := by
  induction h generalizing error with
  | found hplace =>
    exact not_hasDirectoryAt_of_ensureDirectory (eq_place_of_locate hplace) (Prod.ext rfl herror)
  | refused hkind hend => exact not_hasDirectoryAt_of_error hkind
  | stopped hmissing habove ih => exact fun h => ih rfl (exists_step_of_hasDirectoryAt_cons h).1
  | stuck hmissing habove hstep ih =>
    intro h
    obtain ⟨-, next, hnext⟩ := exists_step_of_hasDirectoryAt_cons h
    have hreached := habove.madeAlong.reached_eq _ rfl
    rw [hreached] at hstep
    cases hstep.symm.trans hnext
  | stepped hmissing habove hstep ih =>
    refine not_hasDirectoryAt_of_ensureDirectory ?_ (Prod.ext rfl herror)
    rw [(step_eq_ok hstep).2, habove.madeAlong.reached_eq _ rfl, Path.place, List.reverse_cons,
      Path.follow_append_singleton]

/-- The root is there under every path that leads to it without parts. -/
theorem hasDirectoryAt_root (t : FileTree) (workingDirectory : Location) (h : start ≠ .here) :
    t.HasDirectoryAt workingDirectory ⟨start, []⟩ := by
  refine ⟨[], locate_eq_ok_iff.2 ⟨?_, ?_⟩, rfl⟩
  · cases start <;> decide
  · rw [PathStart.origin, if_neg h]
    rfl

/-- **If the directories that lead to a file could not be made**, the one that the file would be in
is not there, and the path has a part besides. -/
theorem not_hasDirectoryAt_of_makeParent
    (h : t.makeParent workingDirectory p = (u, some error)) :
    ¬ u.HasDirectoryAt workingDirectory p.parent ∧ p.parts ≠ [] := by
  unfold makeParent at h
  split_ifs at h with hhere
  · cases h
  unfold makeDirectories at h
  split at h
  · cases h
  · next made found hmade =>
    obtain ⟨rfl, -⟩ := Prod.mk.inj h
    have hnot := (making_makeDirectoriesFrom workingDirectory p.parent.start
      p.parent.parts.reverse t).not_hasDirectoryAt (congrArg Prod.snd hmade)
    rw [hmade, List.reverse_reverse] at hnot
    refine ⟨hnot, fun hparts => hnot ?_⟩
    have hparent : p.parent.parts = [] := by rw [Path.parent, hparts, List.dropLast_nil]
    rw [hparent]
    refine hasDirectoryAt_root made workingDirectory fun hstart => hhere ?_
    rw [Path.here, ← hstart, ← hparent]

/-! ### Reading what was not delivered -/

/-- What is read is the text of a file at the location of the path. -/
theorem readFile_eq_ok (h : t.readFile workingDirectory p = .ok text) :
    ∃ place, t.locate workingDirectory p = .ok place ∧ t.node? place = some (.file text) := by
  unfold readFile at h
  split at h
  · cases h
  · next place hplace =>
    split at h
    · cases h
    · cases h
    · next found hnode =>
      cases h
      exact ⟨place, hplace, hnode⟩

/-- Without the directory of a file there is nothing to be read. -/
theorem readFile_ne_ok_of_parent (hparts : p.parts ≠ [])
    (h : ¬ t.HasDirectoryAt workingDirectory p.parent) (text : String) :
    t.readFile workingDirectory p ≠ .ok text := by
  intro hread
  obtain ⟨place, hplace, -⟩ := readFile_eq_ok hread
  exact h (hasDirectoryAt_of_locate hparts hplace).1

/-- Where no file can be written, none can be read. -/
theorem readFile_ne_ok_of_writeFile (h : t.writeFile workingDirectory p text = .error kind)
    (other : String) : t.readFile workingDirectory p ≠ .ok other := by
  intro hread
  obtain ⟨place, hplace, hnode⟩ := readFile_eq_ok hread
  unfold writeFile at h
  simp only [hplace, hnode] at h
  cases h

/-- If too many directories are missing, the one that the file would be in is. -/
theorem not_hasDirectoryAt_of_isTooDeep (h : t.isTooDeep workingDirectory p = true) :
    ¬ t.HasDirectoryAt workingDirectory p.parent ∧ p.parts ≠ [] := by
  rw [isTooDeep, decide_eq_true_iff] at h
  cases hparts : p.parent.parts.reverse with
  | nil =>
    rw [hparts] at h
    exact absurd h (Nat.not_lt_zero _)
  | cons last above =>
    rw [hparts, missingLevels] at h
    have hback : (last :: above).reverse = p.parent.parts := by
      rw [← hparts, List.reverse_reverse]
    rw [hback] at h
    split at h
    · next hmissing =>
      refine ⟨not_hasDirectoryAt_of_error hmissing, fun hnone => ?_⟩
      have hnil : p.parent.parts = [] := by rw [Path.parent, hnone, List.dropLast_nil]
      rw [hnil] at hparts
      cases hparts
    · exact absurd h (Nat.not_lt_zero _)

/-- The parts of a path without the null character are without it. -/
theorem hasNull_parent (h : p.hasNull = false) : p.parent.hasNull = false := by
  rw [Path.hasNull, List.any_eq_false] at *
  exact fun part hpart => h part (List.dropLast_subset _ hpart)

/-- **What a delivery comes to** if its path does not have the null character. -/
theorem error_deliver_cases (t : FileTree) (workingDirectory : Location) (text : String)
    (hnull : (Path.ofText path).hasNull = false) :
    t.isTooDeep workingDirectory (Path.ofText path) = true ∧
        (t.deliver workingDirectory path text).2 = some .tooDeep ∨
      t.isTooDeep workingDirectory (Path.ofText path) = false ∧
        ((∃ error, (t.deliver workingDirectory path text).2 = some (.file error)) ∨
          (t.deliver workingDirectory path text).2 = none) := by
  unfold deliver
  simp only [hasNull_parent hnull, hnull, Bool.false_eq_true, if_false]
  cases hdeep : t.isTooDeep workingDirectory (Path.ofText path) with
  | true => exact Or.inl ⟨rfl, rfl⟩
  | false =>
    refine Or.inr ⟨rfl, ?_⟩
    rw [if_neg Bool.false_ne_true]
    cases t.makeParent workingDirectory (Path.ofText path) with
    | mk made error =>
      cases error with
      | some error => exact Or.inl ⟨error, rfl⟩
      | none =>
        simp only
        cases made.writeFile workingDirectory (Path.ofText path) text with
        | error kind => exact Or.inl ⟨_, rfl⟩
        | ok written => exact Or.inr rfl

/-- **After a delivery that has failed nothing can be read** under its path. -/
theorem readFile_of_deliver_ne_none (hnull : (Path.ofText path).hasNull = false)
    (h : (t.deliver workingDirectory path text).2 ≠ none) (other : String) :
    (t.deliver workingDirectory path text).1.readFile workingDirectory (Path.ofText path) ≠
      .ok other := by
  unfold deliver at h ⊢
  simp only [hasNull_parent hnull, hnull, Bool.false_eq_true, if_false] at h ⊢
  -- if a directory could not be made, there is none for the file; and a path that could not be
  -- written to is that of no file
  by_cases hdeep : t.isTooDeep workingDirectory (Path.ofText path) = true
  · rw [if_pos hdeep]
    obtain ⟨hparent, hparts⟩ := not_hasDirectoryAt_of_isTooDeep hdeep
    exact readFile_ne_ok_of_parent hparts hparent other
  rw [if_neg hdeep] at h ⊢
  cases hmade : t.makeParent workingDirectory (Path.ofText path) with
  | mk made error =>
    cases error with
    | some error =>
      obtain ⟨hparent, hparts⟩ := not_hasDirectoryAt_of_makeParent hmade
      exact readFile_ne_ok_of_parent hparts hparent other
    | none =>
      simp only [hmade] at h ⊢
      cases hwrite : made.writeFile workingDirectory (Path.ofText path) text with
      | error kind => exact readFile_ne_ok_of_writeFile hwrite other
      | ok written =>
        rw [hwrite] at h
        exact absurd rfl h

/-! ### Too many directories -/

/-- Where the first of the directories is missing, so are those below it. -/
theorem locate_of_missing {first second : String} {rest : List String}
    (hdirectory : t.node? workingDirectory = some .directory)
    (hmissing : t.node? (workingDirectory ++ [first]) = none) (hup : first ≠ "..")
    (hlong : ¬ IsLong first)
    (hshort : (Path.mk .here (first :: second :: rest)).text.utf8ByteSize < pathBytesLimit) :
    t.locate workingDirectory ⟨.here, first :: second :: rest⟩ = .error .missing := by
  rw [locate_of_lt hshort, List.foldlM_cons, step_of_directory hdirectory hup, if_neg hlong]
  change (second :: rest).foldlM t.step (workingDirectory ++ [first]) = _
  rw [List.foldlM_cons, step_of_missing hmissing]
  rfl

/-- As many levels are missing as there are directories above the last one that are. -/
theorem le_missingLevels {n : Nat} (hn : n ≤ lastFirst.length)
    (h : ∀ k < n, t.locate workingDirectory ⟨start, (lastFirst.drop k).reverse⟩ =
      .error .missing) : n ≤ t.missingLevels workingDirectory start lastFirst := by
  induction lastFirst generalizing n with
  | nil => exact hn
  | cons last above ih =>
    cases n with
    | zero => exact Nat.zero_le _
    | succ n =>
      have hfirst := h 0 (Nat.succ_pos n)
      rw [List.drop_zero] at hfirst
      rw [missingLevels, hfirst]
      have hrest := ih (Nat.le_of_succ_le_succ hn) fun k hk => h (k + 1) (Nat.succ_lt_succ hk)
      simp only
      omega

/-- **Too many directories are missing** if the first of very many is. -/
theorem isTooDeep_of_missing {first : String} {rest : List String}
    (hdirectory : t.node? workingDirectory = some .directory)
    (hmissing : t.node? (workingDirectory ++ [first]) = none) (hup : first ≠ "..")
    (hlong : ¬ IsLong first)
    (hshort : (Path.mk .here (first :: rest)).text.utf8ByteSize < pathBytesLimit)
    (hmany : maxMissingLevels + 1 < rest.length) :
    t.isTooDeep workingDirectory ⟨.here, first :: rest⟩ = true := by
  rw [isTooDeep, decide_eq_true_iff]
  have hlength : (first :: rest).dropLast.length = rest.length := by simp
  refine Nat.lt_of_lt_of_le (Nat.lt_succ_self maxMissingLevels) (le_missingLevels ?_ ?_)
  · rw [List.length_reverse, Path.parent, hlength]
    exact hmany.le
  · intro k hk
    -- with directories left off at the end, it is still the first that is missing
    have hdrop : ((first :: rest).dropLast.reverse.drop k).reverse =
        (first :: rest).take (rest.length - k) := by
      rw [List.drop_reverse, List.reverse_reverse, List.dropLast_eq_take, List.take_take]
      simp
    rw [Path.parent, hdrop]
    obtain ⟨m, hm⟩ : ∃ m, rest.length - k = m + 2 := ⟨rest.length - k - 2, by omega⟩
    cases rest with
    | nil => exact absurd hmany (Nat.not_lt_zero _)
    | cons second rest =>
      rw [hm, List.take_succ_cons, List.take_succ_cons]
      refine locate_of_missing hdirectory hmissing hup hlong ?_
      refine Path.utf8ByteSize_text_lt ?_ hshort
      rw [List.prefix_cons_inj, List.prefix_cons_inj]
      exact List.take_prefix m rest

end CustomBuild.FileTree
