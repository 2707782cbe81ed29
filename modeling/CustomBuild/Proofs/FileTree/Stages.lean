import CustomBuild.Proofs.FileTree.Growth
import Mathlib.Logic.Relation

/-!
# Deliveries in stages

A delivery to a file is a row of calls to the file system.  Directories are tried from the last one
up, until one is there or can be made; then those below it are made one after the other, and then
the file is written.  `Stage` says how far a delivery has come, and `Stage.next` is its next call,
in a tree that may have changed since the one before.

Without such changes the calls are the delivery (`Stage.runs_deliver`).
-/

namespace CustomBuild

/-- How far a delivery has come. -/
inductive Stage where
  /-- nothing has been done -/
  | start
  /-- the directory with the parts `above`, which are given last first, is to be tried; the parts
  `below` lead on from it -/
  | trying (above below : List String)
  /-- the directory with the parts `above` is there, and those on the way `below` are to be made -/
  | making (place : Location) (above below : List String)
  /-- the file is to be written -/
  | writing
  /-- the delivery has ended -/
  | ended (error : Option DeliveryError)
deriving DecidableEq, Repr

namespace Stage

variable {workingDirectory : Location} {p : Path} {text path : String} {t : FileTree}

/-- The stage after a directory has been made or could not be made. -/
def afterMaking (above below : List String) :
    FileTree × Except FileError Location → FileTree × Stage
  | (t, .ok place) => (t, .making place above below)
  | (t, .error error) => (t, .ended (some (.file error)))

/-- Writing the file, which is the last call of a delivery. -/
def write (workingDirectory : Location) (p : Path) (text : String) (t : FileTree) :
    FileTree × Option DeliveryError :=
  if p.hasNull then (t, some .nullCharacter)
  else
    match t.writeFile workingDirectory p text with
    | .ok written => (written, none)
    | .error kind => (t, some (.file (FileTree.errorAt kind p)))

/-- **The next call** of a delivery, with the tree and the stage after it. -/
def next (workingDirectory : Location) (p : Path) (text : String) (t : FileTree) :
    Stage → FileTree × Stage
  | .start =>
    if p.parent.hasNull then (t, .ended (some .nullCharacter))
    else if t.isTooDeep workingDirectory p then (t, .ended (some .tooDeep))
    else if p.parent = Path.here then (t, .writing)
    else (t, .trying p.parent.parts.reverse [])
  | .trying above below =>
    let q : Path := { start := p.parent.start, parts := above.reverse }
    match t.locate workingDirectory q with
    | .ok place => afterMaking above below (t.ensureDirectory q place)
    | .error .missing =>
      match above with
      | [] => (t, .ended (some (.file (FileTree.errorAt .missing q))))
      | last :: above => (t, .trying above (last :: below))
    | .error kind => (t, .ended (some (.file (FileTree.errorAt kind q))))
  | .making place above below =>
    match below with
    | [] => (t, .writing)
    | part :: below =>
      let q : Path := { start := p.parent.start, parts := (part :: above).reverse }
      match t.step place part with
      | .ok place => afterMaking (part :: above) below (t.ensureDirectory q place)
      | .error kind => (t, .ended (some (.file (FileTree.errorAt kind q))))
  | .writing =>
    ((write workingDirectory p text t).1, .ended (write workingDirectory p text t).2)
  | .ended error => (t, .ended error)

/-! ### The calls come to an end -/

/-- How many calls there are still, at most. -/
def rest (p : Path) : Stage → Nat
  | .start => 2 * p.parent.parts.length + 4
  | .trying above below => 2 * above.length + below.length + 3
  | .making _ _ below => below.length + 2
  | .writing => 1
  | .ended _ => 0

theorem rest_afterMaking_le (p : Path) (above below : List String)
    (made : FileTree × Except FileError Location) :
    rest p (afterMaking above below made).2 ≤ below.length + 2 := by
  obtain ⟨t, error | place⟩ := made
  · exact Nat.zero_le _
  · exact Nat.le_refl _

/-- **Every call leaves fewer**, unless the delivery has ended. -/
theorem rest_next_lt {stage : Stage} (h : ∀ error, stage ≠ .ended error) :
    rest p (next workingDirectory p text t stage).2 < rest p stage := by
  cases stage with
  | start =>
    unfold next
    split_ifs
    · exact Nat.zero_lt_succ _
    · exact Nat.zero_lt_succ _
    · show 1 < 2 * p.parent.parts.length + 4
      omega
    · show 2 * p.parent.parts.reverse.length + 0 + 3 < 2 * p.parent.parts.length + 4
      rw [List.length_reverse]
      omega
  | trying above below =>
    unfold next
    simp only
    split
    · next place hplace =>
      have hle := rest_afterMaking_le p above below
        (t.ensureDirectory { start := p.parent.start, parts := above.reverse } place)
      show _ < 2 * above.length + below.length + 3
      omega
    · -- trying the directory above gives one more to make, and counts double for it
      cases above with
      | nil => exact Nat.zero_lt_succ _
      | cons last above =>
        show 2 * above.length + (below.length + 1) + 3 < 2 * (above.length + 1) + below.length + 3
        omega
    · exact Nat.zero_lt_succ _
  | making place above below =>
    unfold next
    cases below with
    | nil => exact Nat.one_lt_two
    | cons part below =>
      simp only
      split
      · next place hplace =>
        have hle := rest_afterMaking_le p (part :: above) below
          (t.ensureDirectory { start := p.parent.start, parts := (part :: above).reverse } place)
        show _ < below.length + 1 + 2
        omega
      · exact Nat.zero_lt_succ _
  | writing => exact Nat.zero_lt_one
  | ended error => exact absurd rfl (h error)

/-! ### Calls of one delivery alone -/

/-- **Calls of one delivery** that nothing comes between. -/
def Runs (workingDirectory : Location) (p : Path) (text : String) :
    FileTree × Stage → FileTree × Stage → Prop :=
  Relation.ReflTransGen fun s s' => s' = next workingDirectory p text s.1 s.2

/-- One call. -/
theorem Runs.next (workingDirectory : Location) (p : Path) (text : String) (t : FileTree)
    (stage : Stage) :
    Runs workingDirectory p text (t, stage) (next workingDirectory p text t stage) :=
  .single rfl

/-- If something on the way to a directory is missing, the next one up is tried. -/
theorem runs_trying_of_missing {last : String} {above : List String}
    (hmissing : t.locate workingDirectory ⟨p.parent.start, (last :: above).reverse⟩ =
      .error .missing) (below : List String) :
    Runs workingDirectory p text (t, .trying (last :: above) below)
      (t, .trying above (last :: below)) := by
  have hnext := Runs.next workingDirectory p text t (.trying (last :: above) below)
  simp only [Stage.next, hmissing] at hnext
  exact hnext

/-- **Trying directories from the last one up** and making those below, in the way in which
`makeDirectoriesFrom` makes them. -/
theorem runs_of_making {above : List String} {made : FileTree × Except FileError Location}
    (h : FileTree.Making workingDirectory p.parent.start t above made) (below : List String) :
    Runs workingDirectory p text (t, .trying above below) (afterMaking above below made) := by
  induction h generalizing below with
  | @found above place hplace =>
    have hnext := Runs.next workingDirectory p text t (.trying above below)
    simp only [Stage.next, hplace] at hnext
    exact hnext
  | @refused above kind hkind hend =>
    have hnext := Runs.next workingDirectory p text t (.trying above below)
    simp only [Stage.next, hkind] at hnext
    cases kind with
    | missing =>
      obtain rfl := hend rfl
      exact hnext
    | _ => exact hnext
  | @stopped last above made error hmissing habove ih =>
    exact (runs_trying_of_missing hmissing below).trans (ih (last :: below))
  | @stuck last above made place kind hmissing habove hstep ih =>
    have hlast := Runs.next workingDirectory p text made (.making place above (last :: below))
    simp only [Stage.next, hstep] at hlast
    exact ((runs_trying_of_missing hmissing below).trans (ih (last :: below))).trans hlast
  | @stepped last above made place next hmissing habove hstep ih =>
    have hlast := Runs.next workingDirectory p text made (.making place above (last :: below))
    simp only [Stage.next, hstep] at hlast
    exact ((runs_trying_of_missing hmissing below).trans (ih (last :: below))).trans hlast

/-- **Without anything between them the calls are the delivery.** -/
theorem runs_deliver (workingDirectory : Location) (path text : String) (t : FileTree) :
    Runs workingDirectory (Path.ofText path) text (t, .start)
      ((t.deliver workingDirectory path text).1,
        .ended (t.deliver workingDirectory path text).2) := by
  generalize hp : Path.ofText path = p
  have hfirst := Runs.next workingDirectory p text t .start
  unfold FileTree.deliver
  unfold Stage.next at hfirst
  simp only [hp] at hfirst ⊢
  by_cases hparent : p.parent.hasNull = true
  · rw [if_pos hparent] at hfirst ⊢
    exact hfirst
  rw [if_neg hparent] at hfirst ⊢
  by_cases hdeep : t.isTooDeep workingDirectory p = true
  · rw [if_pos hdeep] at hfirst ⊢
    exact hfirst
  rw [if_neg hdeep] at hfirst ⊢
  by_cases hhere : p.parent = Path.here
  · rw [if_pos hhere] at hfirst
    rw [FileTree.makeParent, if_pos hhere]
    exact hfirst.trans (Runs.next workingDirectory p text t .writing)
  rw [if_neg hhere] at hfirst
  -- the directories are tried from the last one up before any is made
  have hmaking := hfirst.trans (runs_of_making (FileTree.making_makeDirectoriesFrom
    workingDirectory p.parent.start p.parent.parts.reverse t) [])
  rw [FileTree.makeParent, if_neg hhere, FileTree.makeDirectories]
  cases hmade : FileTree.makeDirectoriesFrom workingDirectory p.parent.start
      p.parent.parts.reverse t with
  | mk reached result =>
    rw [hmade] at hmaking
    cases result with
    | error error => exact hmaking
    | ok place =>
      have hthere := Runs.next workingDirectory p text reached
        (.making place p.parent.parts.reverse [])
      exact (hmaking.trans hthere).trans (Runs.next workingDirectory p text reached .writing)

end Stage

end CustomBuild
