import CustomBuild.Delivery
import CustomBuild.Proofs.Steps
import Mathlib.Data.Set.Insert
import Mathlib.Tactic.SplitIfs

/-!
# What a delivery does to a file tree

There are no links, so the place that a path denotes does not depend on the tree (`Path.place`), and
neither do the places on the way to it (`Path.wayTo`).  `FileTree.Grown` says that a tree has got
new directories at some places and is otherwise as it was.

`FileTree.Making` has the ways in which directories are made, and what is said about making them
goes by induction on these.  Making directories lets a tree grow along the way
(`FileTree.Making.madeAlong`), wherever it stops.  So a delivery that fails leaves a tree that has
grown and nothing else, and a delivery that goes well puts one file into such a tree
(`FileTree.deliver_cases`).
-/

namespace CustomBuild

/-! ### The places of a path -/

/-- The place that a path starts from. -/
def PathStart.origin (start : PathStart) (workingDirectory : Location) : Location :=
  if start = .here then workingDirectory else []

namespace Path

/-- The place that a part leads to, whatever is there; two dots lead up. -/
def climb (place : Location) (part : String) : Location :=
  if part = ".." then place.dropLast else place ++ [part]

/-- The place that parts lead to, one after the other. -/
def follow (place : Location) (parts : List String) : Location :=
  parts.foldl climb place

/-- **The place that a path denotes.** -/
def place (p : Path) (workingDirectory : Location) : Location :=
  follow (p.start.origin workingDirectory) p.parts

/-- The places that the first parts lead to, some of them or all. -/
def along (origin : Location) (parts : List String) : Set Location :=
  {place | ∃ before after, parts = before ++ after ∧ place = follow origin before}

/-- **The places on the way** to the one that a path denotes: those that the first parts of the
path lead to, without the last one.  The place where the path starts is one of them. -/
def wayTo (p : Path) (workingDirectory : Location) : Set Location :=
  {place | ∃ before after, p.parts = before ++ after ∧ after ≠ [] ∧
    place = follow (p.start.origin workingDirectory) before}

theorem follow_append_singleton (origin : Location) (parts : List String) (part : String) :
    follow origin (parts ++ [part]) = climb (follow origin parts) part := by
  rw [follow, List.foldl_append]
  rfl

theorem along_subset_append (origin : Location) (parts more : List String) :
    along origin parts ⊆ along origin (parts ++ more) := by
  rintro place ⟨before, after, rfl, rfl⟩
  exact ⟨before, after ++ more, List.append_assoc _ _ _, rfl⟩

theorem follow_mem_along (origin : Location) (parts : List String) :
    follow origin parts ∈ along origin parts :=
  ⟨parts, [], (List.append_nil parts).symm, rfl⟩

/-- What leads to the parent of a path is on the way to the path. -/
theorem along_parent_subset_wayTo {p : Path} (workingDirectory : Location) (h : p.parts ≠ []) :
    along (p.start.origin workingDirectory) p.parent.parts ⊆ p.wayTo workingDirectory := by
  rintro place ⟨before, after, hparts, rfl⟩
  refine ⟨before, after ++ [p.parts.getLast h], ?_, by simp, rfl⟩
  have hdrop : p.parts.dropLast = before ++ after := hparts
  rw [← List.append_assoc, ← hdrop, List.dropLast_concat_getLast]

end Path

namespace FileTree

variable {t u v : FileTree} {workingDirectory origin next reached : Location} {p : Path}
  {start : PathStart} {part text : String} {parts : List String} {places : Set Location}
  {error : FileError}

/-! ### Growth -/

/-- **A tree has grown** by directories at some places: what was there has been kept, and what is
new is a directory at one of the places. -/
structure Grown (places : Set Location) (t u : FileTree) : Prop where
  /-- what was there is there still -/
  kept : ∀ place node, t.node? place = some node → u.node? place = some node
  /-- what is new is a directory at one of the places -/
  added : ∀ place node, t.node? place = none → u.node? place = some node →
    node = .directory ∧ place ∈ places

theorem Grown.refl (places : Set Location) (t : FileTree) : Grown places t t where
  kept _ _ h := h
  added place node hnone hsome := by
    rw [hnone] at hsome
    cases hsome

theorem Grown.trans (htu : Grown places t u) (huv : Grown places u v) : Grown places t v where
  kept place node h := huv.kept place node (htu.kept place node h)
  added place node hnone hsome := by
    cases hmid : u.node? place with
    | none => exact huv.added place node hmid hsome
    | some old =>
      have hold : v.node? place = some old := huv.kept place old hmid
      rw [hsome] at hold
      cases hold
      exact htu.added place node hnone hmid

/-- Only the places count where there was nothing. -/
theorem Grown.mono {larger : Set Location} (h : Grown places t u)
    (hsub : ∀ place ∈ places, t.node? place = none → place ∈ larger) : Grown larger t u where
  kept := h.kept
  added place node hnone hsome := by
    obtain ⟨hnode, hplace⟩ := h.added place node hnone hsome
    exact ⟨hnode, hsub place hplace hnone⟩

theorem ne_nil_of_node?_ne {place : Location} (h : t.node? place ≠ some .directory) :
    place ≠ [] := by
  rintro rfl
  exact h rfl

theorem grown_put_directory {place : Location} (hnone : t.node? place = none) :
    Grown {place} t (t.put place .directory) := by
  have hroot : place ≠ [] := by
    apply ne_nil_of_node?_ne
    rw [hnone]
    exact nofun
  constructor
  · intro other node hsome
    have hne : other ≠ place := by
      rintro rfl
      rw [hnone] at hsome
      cases hsome
    rw [node?_put hroot, if_neg hne, hsome]
  · intro other node hother hsome
    rw [node?_put hroot] at hsome
    by_cases heq : other = place
    · rw [if_pos heq] at hsome
      exact ⟨(Option.some.inj hsome).symm, heq⟩
    · rw [if_neg heq, hother] at hsome
      cases hsome

/-! ### Following paths -/

/-- **A step** is taken from a directory, and leads where its part says. -/
theorem step_eq_ok (h : t.step origin part = .ok next) :
    t.node? origin = some .directory ∧ next = Path.climb origin part := by
  unfold step at h
  split at h
  · cases h
  · cases h
  · next hnode =>
    refine ⟨hnode, ?_⟩
    unfold Path.climb
    split_ifs at h with hup hlong
    · rw [if_pos (beq_iff_eq.1 hup)]
      exact (Except.ok.inj h).symm
    · rw [if_neg (mt beq_iff_eq.2 hup)]
      exact (Except.ok.inj h).symm

/-- Taking a first step, and then the others. -/
theorem foldlM_step_cons_eq_ok (h : (part :: parts).foldlM t.step origin = .ok next) :
    ∃ mid, t.step origin part = .ok mid ∧ parts.foldlM t.step mid = .ok next := by
  rw [List.foldlM_cons] at h
  exact exists_of_bind_eq_ok h

theorem eq_follow_of_foldlM_step (h : parts.foldlM t.step origin = .ok next) :
    next = Path.follow origin parts := by
  induction parts generalizing origin with
  | nil => exact (Except.ok.inj h).symm
  | cons part rest ih =>
    obtain ⟨mid, hstep, hrest⟩ := foldlM_step_cons_eq_ok h
    obtain ⟨-, rfl⟩ := step_eq_ok hstep
    exact ih hrest

/-- Steps from directory to directory can be taken in every tree that has these directories. -/
theorem foldlM_step_of_directories
    (hkept : ∀ place, t.node? place = some .directory → u.node? place = some .directory)
    (h : parts.foldlM t.step origin = .ok next) : parts.foldlM u.step origin = .ok next := by
  induction parts generalizing origin with
  | nil => exact h
  | cons part rest ih =>
    obtain ⟨mid, hstep, hrest⟩ := foldlM_step_cons_eq_ok h
    obtain ⟨hnode, -⟩ := step_eq_ok hstep
    have hsame : u.step origin part = .ok mid := by
      rw [step, hnode] at hstep
      rw [step, hkept origin hnode]
      exact hstep
    rw [List.foldlM_cons, hsame]
    exact ih hrest

theorem locate_eq_ok_iff :
    t.locate workingDirectory p = .ok next ↔
      p.text.utf8ByteSize < pathBytesLimit ∧
        p.parts.foldlM t.step (p.start.origin workingDirectory) = .ok next := by
  have horigin : (if p.isAbsolute then [] else workingDirectory) =
      p.start.origin workingDirectory := by
    unfold PathStart.origin Path.isAbsolute
    by_cases hhere : p.start = .here <;> simp [hhere]
  unfold locate
  rw [horigin]
  split_ifs with hlong
  · constructor
    · intro h
      cases h
    · rintro ⟨hshort, -⟩
      omega
  · exact (and_iff_right (by omega)).symm

/-- **A location that is found** is the place that the path denotes. -/
theorem eq_place_of_locate (h : t.locate workingDirectory p = .ok next) :
    next = p.place workingDirectory :=
  eq_follow_of_foldlM_step (locate_eq_ok_iff.1 h).2

/-! ### Making directories -/

theorem grown_ensureDirectory (t : FileTree) (p : Path) (place : Location) :
    Grown {place} t (t.ensureDirectory p place).1 := by
  unfold ensureDirectory
  split
  · next hnode => exact grown_put_directory hnode
  · exact .refl _ t
  · exact .refl _ t

theorem eq_of_ensureDirectory {place : Location}
    (h : (t.ensureDirectory p place).2 = .ok reached) : reached = place := by
  unfold ensureDirectory at h
  split at h
  · exact (Except.ok.inj h).symm
  · exact (Except.ok.inj h).symm
  · cases h

/-- What making directories along some parts does: the tree grows along the way, and the location
that is reached is the place that the parts lead to. -/
structure MadeAlong (origin : Location) (parts : List String) (t : FileTree)
    (made : FileTree × Except FileError Location) : Prop where
  /-- the tree grows along the way -/
  grown : Grown (Path.along origin parts) t made.1
  /-- the end of the way is reached -/
  reached_eq : ∀ reached, made.2 = .ok reached → reached = Path.follow origin parts

theorem madeAlong_error (origin : Location) (parts : List String) (t : FileTree)
    (error : FileError) : MadeAlong origin parts t (t, .error error) where
  grown := .refl _ t
  reached_eq := nofun

theorem madeAlong_ensureDirectory (origin : Location) (parts : List String) (t : FileTree)
    (p : Path) : MadeAlong origin parts t (t.ensureDirectory p (Path.follow origin parts)) where
  grown := by
    have hgrown := grown_ensureDirectory t p (Path.follow origin parts)
    refine hgrown.mono ?_
    rintro place rfl -
    exact Path.follow_mem_along origin parts
  reached_eq _ h := eq_of_ensureDirectory h

/-- What grows along some parts grows along these parts and one more. -/
theorem MadeAlong.grown_cons {last : String} {above : List String}
    {made : FileTree × Except FileError Location} (h : MadeAlong origin above.reverse t made) :
    Grown (Path.along origin (last :: above).reverse) t made.1 := by
  refine h.grown.mono fun place hplace _ => ?_
  rw [List.reverse_cons]
  exact Path.along_subset_append _ _ _ hplace

/-- **How directories are made** whose parts are given last first: the last one is tried, and if
something is missing on the way, the one above it is made before. -/
inductive Making (workingDirectory : Location) (start : PathStart) (t : FileTree) :
    List String → FileTree × Except FileError Location → Prop where
  /-- the way is there -/
  | found {lastFirst : List String} {place : Location}
      (hplace : t.locate workingDirectory ⟨start, lastFirst.reverse⟩ = .ok place) :
      Making workingDirectory start t lastFirst
        (t.ensureDirectory ⟨start, lastFirst.reverse⟩ place)
  /-- the way ends with an error, and there is nothing above that could be made -/
  | refused {lastFirst : List String} {kind : FileErrorKind}
      (hkind : t.locate workingDirectory ⟨start, lastFirst.reverse⟩ = .error kind)
      (hend : kind = .missing → lastFirst = []) :
      Making workingDirectory start t lastFirst
        (t, .error (errorAt kind ⟨start, lastFirst.reverse⟩))
  /-- the directory above could not be made -/
  | stopped {last : String} {above : List String} {made : FileTree} {error : FileError}
      (hmissing : t.locate workingDirectory ⟨start, (last :: above).reverse⟩ = .error .missing)
      (habove : Making workingDirectory start t above (made, .error error)) :
      Making workingDirectory start t (last :: above) (made, .error error)
  /-- the directory above is there, and the last step cannot be taken from it -/
  | stuck {last : String} {above : List String} {made : FileTree} {place : Location}
      {kind : FileErrorKind}
      (hmissing : t.locate workingDirectory ⟨start, (last :: above).reverse⟩ = .error .missing)
      (habove : Making workingDirectory start t above (made, .ok place))
      (hstep : made.step place last = .error kind) :
      Making workingDirectory start t (last :: above)
        (made, .error (errorAt kind ⟨start, (last :: above).reverse⟩))
  /-- the directory above is there, and so is the last step -/
  | stepped {last : String} {above : List String} {made : FileTree} {place next : Location}
      (hmissing : t.locate workingDirectory ⟨start, (last :: above).reverse⟩ = .error .missing)
      (habove : Making workingDirectory start t above (made, .ok place))
      (hstep : made.step place last = .ok next) :
      Making workingDirectory start t (last :: above)
        (made.ensureDirectory ⟨start, (last :: above).reverse⟩ next)

theorem making_makeDirectoriesFrom (workingDirectory : Location) (start : PathStart)
    (lastFirst : List String) (t : FileTree) :
    Making workingDirectory start t lastFirst
      (makeDirectoriesFrom workingDirectory start lastFirst t) := by
  induction lastFirst with
  | nil =>
    unfold makeDirectoriesFrom
    simp only
    split
    · next place hplace => exact .found hplace
    · next hmissing => exact .refused hmissing fun _ => rfl
    · next kind hkind => exact .refused hkind fun _ => rfl
  | cons last above ih =>
    unfold makeDirectoriesFrom
    simp only
    split
    · next place hplace => exact .found hplace
    · next hmissing =>
      split
      · next made error hmade =>
        rw [hmade] at ih
        exact .stopped hmissing ih
      · next made place hmade =>
        rw [hmade] at ih
        split
        · next hstep => exact .stepped hmissing ih hstep
        · next hstep => exact .stuck hmissing ih hstep
    · next kind hne hkind => exact .refused hkind fun heq => absurd heq hne

/-- **Making directories** goes along the parts. -/
theorem Making.madeAlong {lastFirst : List String} {made : FileTree × Except FileError Location}
    (h : Making workingDirectory start t lastFirst made) :
    MadeAlong (start.origin workingDirectory) lastFirst.reverse t made := by
  induction h with
  | found hplace =>
    rw [eq_place_of_locate hplace]
    exact madeAlong_ensureDirectory _ _ t _
  | refused hkind hend => exact madeAlong_error _ _ t _
  | stopped hmissing habove ih => exact ⟨ih.grown_cons, nofun⟩
  | stuck hmissing habove hstep ih => exact ⟨ih.grown_cons, nofun⟩
  | @stepped last above made place next hmissing habove hstep ih =>
    have hnext : next = Path.follow (start.origin workingDirectory) (last :: above).reverse := by
      rw [List.reverse_cons, Path.follow_append_singleton, (step_eq_ok hstep).2,
        ih.reached_eq place rfl]
    rw [hnext]
    have hlast := madeAlong_ensureDirectory (start.origin workingDirectory)
      (last :: above).reverse made ⟨start, (last :: above).reverse⟩
    exact ⟨ih.grown_cons.trans hlast.grown, hlast.reached_eq⟩

/-- **The directories that lead to a file** are made on the way to it. -/
theorem grown_makeParent (t : FileTree) (workingDirectory : Location) (p : Path) :
    Grown (p.wayTo workingDirectory) t (t.makeParent workingDirectory p).1 := by
  unfold makeParent
  split_ifs with hhere
  · exact .refl _ t
  · unfold makeDirectories
    have hmade := (making_makeDirectoriesFrom workingDirectory p.parent.start
      p.parent.parts.reverse t).madeAlong
    rw [List.reverse_reverse] at hmade
    have hgrown : Grown (p.wayTo workingDirectory) t
        (makeDirectoriesFrom workingDirectory p.parent.start p.parent.parts.reverse t).1 := by
      refine hmade.grown.mono fun place hplace hnone => ?_
      by_cases hparts : p.parts = []
      · -- a path without parts that is not the working directory is the root, which is there
        have hstart : p.start ≠ .here := by
          intro hstart
          apply hhere
          rw [Path.parent, Path.here, hstart, hparts]
          rfl
        obtain ⟨before, after, happend, rfl⟩ := hplace
        have hnil : p.parent.parts = [] := by rw [Path.parent, hparts]; rfl
        rw [hnil] at happend
        obtain ⟨rfl, -⟩ := List.append_eq_nil_iff.1 happend.symm
        have horigin : p.parent.start.origin workingDirectory = [] := if_neg hstart
        rw [horigin] at hnone
        cases hnone
      · exact Path.along_parent_subset_wayTo workingDirectory hparts hplace
    split
    · next made place heq => rwa [heq] at hgrown
    · next made error heq => rwa [heq] at hgrown

/-! ### Delivering a file -/

/-- Writing a file puts it at the place that the path denotes, unless there is a directory. -/
theorem writeFile_eq_ok (h : t.writeFile workingDirectory p text = .ok u) :
    t.locate workingDirectory p = .ok (p.place workingDirectory) ∧
      t.node? (p.place workingDirectory) ≠ some .directory ∧
      u = t.put (p.place workingDirectory) (.file text) := by
  unfold writeFile at h
  cases hplace : t.locate workingDirectory p with
  | error kind =>
    rw [hplace] at h
    cases h
  | ok place =>
    obtain rfl := eq_place_of_locate hplace
    simp only [hplace] at h
    split at h
    · cases h
    · next hnode => exact ⟨rfl, hnode, (Except.ok.inj h).symm⟩

/-- **A file that was put where nothing but a file may be** can be read under its path: the
directories on the way are others than its place. -/
theorem readFile_put (hplace : t.locate workingDirectory p = .ok (p.place workingDirectory))
    (hnode : t.node? (p.place workingDirectory) ≠ some .directory) :
    (t.put (p.place workingDirectory) (.file text)).readFile workingDirectory p = .ok text := by
  have hroot := ne_nil_of_node?_ne hnode
  -- the file is in place of no directory, so every step on the way can be taken as before
  have hkept : ∀ place, t.node? place = some .directory →
      (t.put (p.place workingDirectory) (.file text)).node? place = some .directory := by
    intro place hdirectory
    have hne : place ≠ p.place workingDirectory := by
      rintro rfl
      exact hnode hdirectory
    rw [node?_put hroot, if_neg hne, hdirectory]
  obtain ⟨hshort, hsteps⟩ := locate_eq_ok_iff.1 hplace
  have hlocate := locate_eq_ok_iff.2 ⟨hshort, foldlM_step_of_directories hkept hsteps⟩
  have hfile : (t.put (p.place workingDirectory) (.file text)).node? (p.place workingDirectory) =
      some (.file text) := by
    rw [node?_put hroot, if_pos rfl]
  rw [readFile, hlocate]
  simp only [hfile]

/-- **What a delivery does to a tree.** -/
structure Delivery (workingDirectory : Location) (p : Path) (text : String) (t u : FileTree) :
    Prop where
  /-- everything is kept that is not in place of the file -/
  kept : ∀ place node, place ≠ p.place workingDirectory → t.node? place = some node →
    u.node? place = some node
  /-- what is new is a directory on the way, or the file -/
  added : ∀ place node, t.node? place = none → u.node? place = some node →
    node = .directory ∧ place ∈ p.wayTo workingDirectory ∨
      place = p.place workingDirectory ∧ node = .file text
  /-- the file is in its place -/
  placed : u.node? (p.place workingDirectory) = some (.file text)
  /-- the file can be read under its path -/
  readable : u.readFile workingDirectory p = .ok text

theorem delivery_put {grown : FileTree} (hgrown : Grown (p.wayTo workingDirectory) t grown)
    (hwrite : grown.writeFile workingDirectory p text = .ok u) :
    Delivery workingDirectory p text t u := by
  obtain ⟨hplace, hnode, rfl⟩ := writeFile_eq_ok hwrite
  have hroot := ne_nil_of_node?_ne hnode
  constructor
  · intro place node hne hsome
    rw [node?_put hroot, if_neg hne]
    exact hgrown.kept place node hsome
  · intro place node hnone hsome
    rw [node?_put hroot] at hsome
    by_cases heq : place = p.place workingDirectory
    · rw [if_pos heq] at hsome
      exact Or.inr ⟨heq, (Option.some.inj hsome).symm⟩
    · rw [if_neg heq] at hsome
      exact Or.inl (hgrown.added place node hnone hsome)
  · rw [node?_put hroot, if_pos rfl]
  · exact readFile_put hplace hnode

/-- **A delivery** either puts the file in its place, or fails and leaves a tree that has at most
grown on the way to it. -/
theorem deliver_cases (t : FileTree) (workingDirectory : Location) (path text : String) :
    (t.deliver workingDirectory path text).2 = none ∧
        Delivery workingDirectory (Path.ofText path) text t
          (t.deliver workingDirectory path text).1 ∨
      (t.deliver workingDirectory path text).2 ≠ none ∧
        Grown ((Path.ofText path).wayTo workingDirectory) t
          (t.deliver workingDirectory path text).1 := by
  have hgrown := grown_makeParent t workingDirectory (Path.ofText path)
  unfold deliver
  simp only
  -- the checks come in the order of the delivery, and each leaves what has been made so far
  by_cases hparent : (Path.ofText path).parent.hasNull = true
  · rw [if_pos hparent]
    exact Or.inr ⟨nofun, .refl _ t⟩
  rw [if_neg hparent]
  by_cases hdeep : t.isTooDeep workingDirectory (Path.ofText path) = true
  · rw [if_pos hdeep]
    exact Or.inr ⟨nofun, .refl _ t⟩
  rw [if_neg hdeep]
  cases hmade : t.makeParent workingDirectory (Path.ofText path) with
  | mk made error =>
    rw [hmade] at hgrown
    cases error with
    | some error => exact Or.inr ⟨nofun, hgrown⟩
    | none =>
      simp only
      by_cases hnull : (Path.ofText path).hasNull = true
      · rw [if_pos hnull]
        exact Or.inr ⟨nofun, hgrown⟩
      rw [if_neg hnull]
      cases hwrite : made.writeFile workingDirectory (Path.ofText path) text with
      | error kind => exact Or.inr ⟨nofun, hgrown⟩
      | ok written => exact Or.inl ⟨rfl, delivery_put hgrown hwrite⟩

end FileTree

end CustomBuild
