import CustomBuild.Proofs.FileTree.Calls
import Mathlib.Algebra.Order.BigOperators.Group.Finset
import Mathlib.Data.Fintype.Card

/-!
# Deliveries together

Several deliveries are under way in one file tree, and their calls come in any order
(`Underway.Runs`).  Deliveries one after the other are such a run (`Underway.runs_inTurn`), and so
is one delivery alone.  No run goes on for ever (`Underway.wellFounded_step`).

If no path leads to the place of another delivery or through it (`FileTree.Apart`), the deliveries
do not get in each other's way.  At any time the tree differs from the one at the start by
directories that some delivery is to make and by the files of the deliveries that went well
(`Underway.Consistent`).  So in the end the tree is one and the same
(`Underway.Consistent.node?_eq`), and each delivery has an end that it can have by the tree at the
start (`Underway.Consistent.canEnd`).
-/

namespace CustomBuild

open FileTree

/-- A text that is to go to a file. -/
structure Parcel where
  /-- the path of the file -/
  path : String
  /-- the text -/
  text : String
deriving DecidableEq, Repr

/-- The path of a parcel, as it is read. -/
def Parcel.target (x : Parcel) : Path :=
  Path.ofText x.path

/-- **Deliveries under way**: the tree at hand, and how far each of them has come. -/
structure Underway (ι : Type) where
  /-- the tree -/
  tree : FileTree
  /-- how far a delivery has come -/
  stage : ι → Stage

/-- **Deliveries that are apart**, in a tree in which everything is in a directory. -/
structure FileTree.Apart {ι : Type} (t : FileTree) (workingDirectory : Location)
    (parcels : ι → Option Parcel) : Prop where
  /-- everything is in a directory -/
  closed : t.IsClosed
  /-- the working directory is one -/
  there : t.node? workingDirectory = some .directory
  /-- the paths go down from it -/
  down : ∀ i x, parcels i = some x → x.target.GoesDown
  /-- not too many directories are missing -/
  shallow : ∀ i x, parcels i = some x → t.isTooDeep workingDirectory x.target = false
  /-- no path leads to the place of another parcel or through it -/
  apart : ∀ i j x y, parcels i = some x → parcels j = some y → i ≠ j →
    ¬ x.target.parts <+: y.target.parts

namespace FileTree.Apart

variable {ι : Type} {workingDirectory : Location} {parcels : ι → Option Parcel} {t : FileTree}
  {i j : ι} {x y : Parcel}

/-- **The place of a file is on no way**, neither on that of another delivery nor on its own. -/
theorem not_prefix_parent (h : t.Apart workingDirectory parcels) (hx : parcels i = some x)
    (hy : parcels j = some y)
    (hnode : t.node? (workingDirectory ++ x.target.parts) ≠ some .directory) :
    ¬ x.target.parts <+: y.target.parent.parts := by
  intro hbegins
  by_cases hij : i = j
  · -- a path is on its own way only if it has no parts, and then it is the working directory
    subst hij
    obtain rfl := Option.some.inj (hx.symm.trans hy)
    have hnil : x.target.parts = [] := by
      by_contra hne
      have hlength := hbegins.length_le
      have hpos := List.length_pos_iff.2 hne
      have hdrop : x.target.parent.parts.length = x.target.parts.length - 1 :=
        List.length_dropLast
      omega
    apply hnode
    rw [hnil, List.append_nil]
    exact h.there
  · exact h.apart i j x y hx hy hij (hbegins.trans (List.dropLast_prefix y.target.parts))

/-- **No delivery makes a directory in the place of a file.** -/
theorem not_mem_reached (h : t.Apart workingDirectory parcels) (hx : parcels i = some x)
    (hy : parcels j = some y)
    (hnode : t.node? (workingDirectory ++ x.target.parts) ≠ some .directory) :
    workingDirectory ++ x.target.parts ∉ t.reached workingDirectory y.target := by
  rintro ⟨reach, error, front, hend, hfront, heq⟩
  obtain rfl := List.append_cancel_left heq
  exact h.not_prefix_parent hx hy hnode (hfront.trans hend.reach_prefix)

/-- Two files do not have one place. -/
theorem eq_of_parts_eq (h : t.Apart workingDirectory parcels) (hx : parcels i = some x)
    (hy : parcels j = some y) (heq : x.target.parts = y.target.parts) : i = j := by
  by_contra hij
  apply h.apart i j x y hx hy hij
  rw [heq]

end FileTree.Apart

namespace Underway

variable {ι : Type} {workingDirectory : Location} {parcels : ι → Option Parcel} {t : FileTree}
  {s s' : Underway ι} {i j : ι} {x y : Parcel}

/-- Nothing has been done yet. -/
def outset (t : FileTree) : Underway ι where
  tree := t
  stage _ := .start

/-- All deliveries have ended. -/
def HasEnded (parcels : ι → Option Parcel) (s : Underway ι) : Prop :=
  ∀ i x, parcels i = some x → ∃ error, s.stage i = .ended error

/-! ### What holds at any time -/

/-- **Deliveries under way are consistent** with the tree at the start. -/
structure Consistent (t : FileTree) (workingDirectory : Location) (parcels : ι → Option Parcel)
    (s : Underway ι) : Prop where
  /-- what has changed are directories that a delivery is to make, and files of deliveries that
  went well -/
  nodes : ∀ place, s.tree.node? place = t.node? place ∨
    (t.node? place = none ∧ s.tree.node? place = some .directory ∧
      ∃ i x, parcels i = some x ∧ place ∈ t.reached workingDirectory x.target) ∨
    ∃ i x, parcels i = some x ∧ place = workingDirectory ++ x.target.parts ∧
      s.stage i = .ended none ∧ s.tree.node? place = some (.file x.text)
  /-- every stage is sound -/
  sound : ∀ i x, parcels i = some x →
    Stage.Sound t workingDirectory x.target x.text s.tree (s.stage i)

theorem consistent_outset (t : FileTree) (workingDirectory : Location)
    (parcels : ι → Option Parcel) : Consistent t workingDirectory parcels (outset t) where
  nodes _ := Or.inl rfl
  sound _ _ _ := trivial

namespace Consistent

/-- **What has ended** has an end that it can have, its directories are there, and if it went well
the file is. -/
theorem of_ended (hs : Consistent t workingDirectory parcels s) (hx : parcels i = some x)
    {error : Option DeliveryError} (hended : s.stage i = .ended error) :
    ∃ reach, t.CanEnd workingDirectory x.target reach error ∧
      s.tree.HasDirectories workingDirectory reach ∧
      (error = none →
        s.tree.node? (workingDirectory ++ x.target.parts) = some (.file x.text)) := by
  have hsound := hs.sound i x hx
  rw [hended] at hsound
  exact hsound

theorem canEnd (hs : Consistent t workingDirectory parcels s) (hx : parcels i = some x)
    {error : Option DeliveryError} (hended : s.stage i = .ended error) :
    ∃ reach, t.CanEnd workingDirectory x.target reach error := by
  obtain ⟨reach, hend, -⟩ := hs.of_ended hx hended
  exact ⟨reach, hend⟩

/-- Nothing is removed. -/
theorem eq_none (hs : Consistent t workingDirectory parcels s) {place : Location}
    (hnone : s.tree.node? place = none) : t.node? place = none := by
  rcases hs.nodes place with hsame | ⟨hbefore, -, -⟩ | ⟨i, x, -, -, -, hfile⟩
  · rw [← hsame, hnone]
  · exact hbefore
  · rw [hnone] at hfile
    cases hfile

/-- Files that were written are on no way. -/
theorem ne_of_prefix (hs : Consistent t workingDirectory parcels s)
    (h : t.Apart workingDirectory parcels) (hx : parcels i = some x) (hy : parcels j = some y)
    (hended : s.stage j = .ended none) {front : List String}
    (hfront : front <+: x.target.parent.parts) :
    workingDirectory ++ front ≠ workingDirectory ++ y.target.parts := by
  intro heq
  obtain rfl := List.append_cancel_left heq
  obtain ⟨reach, hend⟩ := hs.canEnd hy hended
  exact h.not_prefix_parent hy hx hend.not_isDirectory hfront

/-- **A delivery finds its way** with new directories at most. -/
theorem setting (hs : Consistent t workingDirectory parcels s)
    (h : t.Apart workingDirectory parcels) (hx : parcels i = some x) :
    Stage.Setting t workingDirectory x.target s.tree where
  closed := h.closed
  there := h.there
  down := h.down i x hx
  shallow := h.shallow i x hx
  way := by
    constructor
    · intro front hfront node hnode
      rcases hs.nodes (workingDirectory ++ front) with
        hsame | ⟨hnone, -, -⟩ | ⟨j, y, hy, heq, hended, -⟩
      · rw [hsame, hnode]
      · rw [hnode] at hnone
        cases hnone
      · exact absurd heq (hs.ne_of_prefix h hx hy hended hfront)
    · intro front hfront hnone
      rcases hs.nodes (workingDirectory ++ front) with
        hsame | ⟨-, hdirectory, -⟩ | ⟨j, y, hy, heq, hended, -⟩
      · left
        rw [hsame, hnone]
      · exact Or.inr hdirectory
      · exact absurd heq (hs.ne_of_prefix h hx hy hended hfront)

/-- **A delivery finds its place** as it was at the start. -/
theorem node?_place (hs : Consistent t workingDirectory parcels s)
    (h : t.Apart workingDirectory parcels) (hx : parcels i = some x)
    (hstage : s.stage i ≠ .ended none) :
    s.tree.node? (workingDirectory ++ x.target.parts) =
      t.node? (workingDirectory ++ x.target.parts) := by
  rcases hs.nodes (workingDirectory ++ x.target.parts) with
    hsame | ⟨hnone, -, j, y, hy, hreached⟩ | ⟨j, y, hy, heq, hended, -⟩
  · exact hsame
  · have hnode : t.node? (workingDirectory ++ x.target.parts) ≠ some .directory := by
      rw [hnone]
      exact nofun
    exact absurd hreached (h.not_mem_reached hx hy hnode)
  · obtain rfl := h.eq_of_parts_eq hx hy (List.append_cancel_left heq)
    exact absurd hended hstage

/-- What some deliveries have changed is so whenever all have ended. -/
theorem node?_eq_or (hs : Consistent t workingDirectory parcels s)
    (hs' : Consistent t workingDirectory parcels s') (hended' : s'.HasEnded parcels)
    (place : Location) :
    s.tree.node? place = t.node? place ∨ s'.tree.node? place = s.tree.node? place := by
  rcases hs.nodes place with
    hsame | ⟨-, hdirectory, i, x, hx, hreached⟩ | ⟨i, x, hx, heq, hended, hfile⟩
  · exact Or.inl hsame
  · right
    obtain ⟨reach, error, front, hend, hfront, rfl⟩ := hreached
    obtain ⟨error', herror'⟩ := hended' i x hx
    obtain ⟨reach', hend', hdirectories, -⟩ := hs'.of_ended hx herror'
    -- directories are made as far as the tree at the start says, in any run
    obtain ⟨rfl, -⟩ := hend.unique hend'
    rw [hdirectory]
    exact hdirectories front hfront
  · right
    obtain ⟨error', herror'⟩ := hended' i x hx
    obtain ⟨reach', hend', -, hwritten⟩ := hs'.of_ended hx herror'
    obtain ⟨reach, hend⟩ := hs.canEnd hx hended
    have hnone : error' = none := by
      rcases (hend.unique hend').2 with rfl | ⟨-, long, long', hlong, -⟩
      · rfl
      · cases hlong
    rw [hfile, heq]
    exact hwritten hnone

/-- **When all deliveries have ended**, the tree does not depend on how they came to it. -/
theorem node?_eq (hs : Consistent t workingDirectory parcels s) (hended : s.HasEnded parcels)
    (hs' : Consistent t workingDirectory parcels s') (hended' : s'.HasEnded parcels)
    (place : Location) : s.tree.node? place = s'.tree.node? place := by
  rcases hs.node?_eq_or hs' hended' place with hsame | hsame
  · rcases hs'.node?_eq_or hs hended place with hsame' | hsame'
    · rw [hsame, hsame']
    · exact hsame'
  · exact hsame.symm

end Consistent

/-! ### Runs -/

variable [DecidableEq ι]

/-- The next call of one delivery. -/
def call (workingDirectory : Location) (x : Parcel) (i : ι) (s : Underway ι) : Underway ι where
  tree := (Stage.next workingDirectory x.target x.text s.tree (s.stage i)).1
  stage := Function.update s.stage i
    (Stage.next workingDirectory x.target x.text s.tree (s.stage i)).2

@[simp]
theorem stage_call_self (workingDirectory : Location) (x : Parcel) (i : ι) (s : Underway ι) :
    (s.call workingDirectory x i).stage i =
      (Stage.next workingDirectory x.target x.text s.tree (s.stage i)).2 :=
  Function.update_self _ _ _

@[simp]
theorem stage_call_of_ne (workingDirectory : Location) (x : Parcel) (s : Underway ι) (h : j ≠ i) :
    (s.call workingDirectory x i).stage j = s.stage j :=
  Function.update_of_ne h _ _

/-- **One call**, of any delivery that has not ended. -/
def Step (workingDirectory : Location) (parcels : ι → Option Parcel) (s s' : Underway ι) : Prop :=
  ∃ i x, parcels i = some x ∧ (∀ error, s.stage i ≠ .ended error) ∧
    s' = s.call workingDirectory x i

/-- **Calls in any order.** -/
def Runs (workingDirectory : Location) (parcels : ι → Option Parcel) :
    Underway ι → Underway ι → Prop :=
  Relation.ReflTransGen (Step workingDirectory parcels)

/-- A call of a delivery that has ended does nothing. -/
theorem runs_call (workingDirectory : Location) (hx : parcels i = some x) (s : Underway ι) :
    Runs workingDirectory parcels s (s.call workingDirectory x i) := by
  by_cases hended : ∃ error, s.stage i = .ended error
  · obtain ⟨error, hstage⟩ := hended
    have hsame : s.call workingDirectory x i = s := by
      unfold call
      rw [hstage]
      show Underway.mk s.tree (Function.update s.stage i (.ended error)) = s
      rw [← hstage, Function.update_eq_self]
    rw [hsame]
    exact .refl
  · exact .single ⟨i, x, hx, not_exists.1 hended, rfl⟩

/-- Calls of one delivery among the others. -/
theorem runs_of_stage_runs (hx : parcels i = some x) (stage : ι → Stage)
    {a b : FileTree × Stage} (h : Stage.Runs workingDirectory x.target x.text a b) :
    Runs workingDirectory parcels ⟨a.1, Function.update stage i a.2⟩
      ⟨b.1, Function.update stage i b.2⟩ := by
  induction h with
  | refl => exact .refl
  | @tail b c _ hnext ih =>
    have hcall := runs_call workingDirectory hx ⟨b.1, Function.update stage i b.2⟩
    simp only [call, Function.update_self, Function.update_idem] at hcall
    rw [← hnext] at hcall
    exact ih.trans hcall

/-! ### One after the other -/

/-- A whole delivery. -/
def deliver (workingDirectory : Location) (x : Parcel) (i : ι) (s : Underway ι) : Underway ι where
  tree := (s.tree.deliver workingDirectory x.path x.text).1
  stage := Function.update s.stage i (.ended (s.tree.deliver workingDirectory x.path x.text).2)

@[simp]
theorem stage_deliver_self (workingDirectory : Location) (x : Parcel) (i : ι) (s : Underway ι) :
    (s.deliver workingDirectory x i).stage i =
      .ended (s.tree.deliver workingDirectory x.path x.text).2 :=
  Function.update_self _ _ _

@[simp]
theorem stage_deliver_of_ne (workingDirectory : Location) (x : Parcel) (s : Underway ι)
    (h : j ≠ i) : (s.deliver workingDirectory x i).stage j = s.stage j :=
  Function.update_of_ne h _ _

/-- A whole delivery is a run. -/
theorem runs_deliver (hx : parcels i = some x) (hstart : s.stage i = .start) :
    Runs workingDirectory parcels s (s.deliver workingDirectory x i) := by
  have hruns := runs_of_stage_runs hx s.stage
    (Stage.runs_deliver workingDirectory x.path x.text s.tree)
  simp only at hruns
  rw [← hstart, Function.update_eq_self] at hruns
  exact hruns

/-- The delivery of one parcel, if it is there. -/
def turn (workingDirectory : Location) (parcels : ι → Option Parcel) (i : ι) (s : Underway ι) :
    Underway ι :=
  match parcels i with
  | none => s
  | some x => s.deliver workingDirectory x i

/-- **Deliveries one after the other.** -/
def inTurn (workingDirectory : Location) (parcels : ι → Option Parcel) :
    List ι → Underway ι → Underway ι
  | [], s => s
  | i :: rest, s => inTurn workingDirectory parcels rest (s.turn workingDirectory parcels i)

@[simp]
theorem turn_of_none (hx : parcels i = none) : s.turn workingDirectory parcels i = s := by
  rw [turn, hx]

@[simp]
theorem turn_of_some (hx : parcels i = some x) :
    s.turn workingDirectory parcels i = s.deliver workingDirectory x i := by
  rw [turn, hx]

theorem stage_turn_of_ne (h : j ≠ i) :
    (s.turn workingDirectory parcels i).stage j = s.stage j := by
  cases hx : parcels i with
  | none => rw [turn_of_none hx]
  | some x => rw [turn_of_some hx, stage_deliver_of_ne _ _ _ h]

/-- One turn is a run. -/
theorem runs_turn (hstart : s.stage i = .start) :
    Runs workingDirectory parcels s (s.turn workingDirectory parcels i) := by
  cases hx : parcels i with
  | none =>
    rw [turn_of_none hx]
    exact .refl
  | some x =>
    rw [turn_of_some hx]
    exact runs_deliver hx hstart

theorem stage_inTurn_of_not_mem {order : List ι} (h : j ∉ order) :
    (inTurn workingDirectory parcels order s).stage j = s.stage j := by
  induction order generalizing s with
  | nil => rfl
  | cons i rest ih =>
    obtain ⟨hne, hrest⟩ := not_or.1 (mt List.mem_cons.2 h)
    rw [inTurn, ih hrest, stage_turn_of_ne hne]

/-- **Deliveries one after the other are a run**, if none of them has begun. -/
theorem runs_inTurn {order : List ι} (hnodup : order.Nodup)
    (hstart : ∀ i ∈ order, s.stage i = .start) :
    Runs workingDirectory parcels s (inTurn workingDirectory parcels order s) := by
  induction order generalizing s with
  | nil => exact .refl
  | cons i rest ih =>
    obtain ⟨hi, hrest⟩ := List.nodup_cons.1 hnodup
    refine (runs_turn (hstart i List.mem_cons_self)).trans (ih hrest fun j hj => ?_)
    rw [stage_turn_of_ne (ne_of_mem_of_not_mem hj hi)]
    exact hstart j (List.mem_cons_of_mem i hj)

/-- What has had its turn has ended. -/
theorem stage_inTurn_of_mem {order : List ι} (hnodup : order.Nodup) (hi : i ∈ order)
    (hx : parcels i = some x) :
    ∃ error, (inTurn workingDirectory parcels order s).stage i = .ended error := by
  induction order generalizing s with
  | nil => cases hi
  | cons j rest ih =>
    obtain ⟨hj, hrest⟩ := List.nodup_cons.1 hnodup
    rw [inTurn]
    rcases List.mem_cons.1 hi with rfl | hi
    · rw [stage_inTurn_of_not_mem hj, turn_of_some hx, stage_deliver_self]
      exact ⟨_, rfl⟩
    · exact ih hrest hi

/-! ### No run goes on for ever -/

section Ending

variable [Fintype ι]

/-- How many calls there are still, at most. -/
def rest (parcels : ι → Option Parcel) (s : Underway ι) : ℕ :=
  ∑ i, match parcels i with
    | none => 0
    | some x => (s.stage i).rest x.target

theorem rest_lt_of_step (h : Step workingDirectory parcels s s') :
    rest parcels s' < rest parcels s := by
  obtain ⟨i, x, hx, hstage, rfl⟩ := h
  apply Finset.sum_lt_sum
  · intro j _
    by_cases heq : j = i
    · subst heq
      simp only [hx, stage_call_self]
      exact (Stage.rest_next_lt hstage).le
    · rw [stage_call_of_ne _ _ _ heq]
  · refine ⟨i, Finset.mem_univ i, ?_⟩
    simp only [hx, stage_call_self]
    exact Stage.rest_next_lt hstage

/-- **No run goes on for ever.** -/
theorem wellFounded_step (workingDirectory : Location) (parcels : ι → Option Parcel) :
    WellFounded fun s' s : Underway ι => Step workingDirectory parcels s s' :=
  Subrelation.wf rest_lt_of_step (measure (rest parcels)).wf

end Ending

/-- When there are no more calls, all deliveries have ended. -/
theorem hasEnded_of_forall_not_step (h : ∀ s', ¬ Step workingDirectory parcels s s') :
    s.HasEnded parcels := by
  intro i x hx
  by_contra hstage
  exact h _ ⟨i, x, hx, not_exists.1 hstage, rfl⟩

/-! ### Every run is consistent -/

/-- A delivery that went well stays so. -/
theorem stage_call_ended (hended : s.stage j = .ended none) :
    (s.call workingDirectory x i).stage j = .ended none := by
  by_cases hij : j = i
  · subst hij
    rw [stage_call_self, hended]
    rfl
  · rw [stage_call_of_ne _ _ _ hij, hended]

/-- **A call keeps deliveries consistent.** -/
theorem Consistent.call (hs : Consistent t workingDirectory parcels s)
    (h : t.Apart workingDirectory parcels) (hx : parcels i = some x) :
    Consistent t workingDirectory parcels (s.call workingDirectory x i) := by
  have hmoves : Stage.Moves t workingDirectory x.target x.text s.tree
      (Stage.next workingDirectory x.target x.text s.tree (s.stage i)) :=
    Stage.moves_next (hs.setting h hx) (hs.sound i x hx)
      fun hstage => hs.node?_place h hx (hstage none)
  constructor
  · intro place
    -- a place has changed by the call, or it is as the calls before have left it
    rcases hmoves.changed place with hsame | ⟨hnone, hnew, hreached⟩ | ⟨heq, -, hended, hfile⟩
    · -- the call has changed nothing here
      rcases hs.nodes place with hbefore | ⟨hnone, hnode, hmade⟩ | ⟨j, y, hy, heq, hended, hnode⟩
      · exact Or.inl (hsame.trans hbefore)
      · exact Or.inr (Or.inl ⟨hnone, hsame.trans hnode, hmade⟩)
      · exact Or.inr (Or.inr ⟨j, y, hy, heq, stage_call_ended hended, hsame.trans hnode⟩)
    · exact Or.inr (Or.inl ⟨hs.eq_none hnone, hnew, i, x, hx, hreached⟩)
    · refine Or.inr (Or.inr ⟨i, x, hx, heq, ?_, hfile⟩)
      rw [stage_call_self]
      exact hended
  · intro j y hy
    by_cases hij : j = i
    · subst hij
      obtain rfl := Option.some.inj (hx.symm.trans hy)
      rw [stage_call_self]
      exact hmoves.sound
    · -- the call is one of the others
      rw [stage_call_of_ne _ _ _ hij]
      refine (hs.sound j y hy).mono (fun place hdirectory => ?_) ?_
      · rcases hmoves.changed place with hsame | ⟨hnone, -, -⟩ | ⟨-, hnot, -, -⟩
        · exact hsame.trans hdirectory
        · rw [hdirectory] at hnone
          cases hnone
        · exact absurd hdirectory hnot
      · rcases hmoves.changed (workingDirectory ++ y.target.parts) with
          hsame | ⟨hnone, -, hreached⟩ | ⟨heq, -⟩
        · exact hsame
        · have hnode : t.node? (workingDirectory ++ y.target.parts) ≠ some .directory := by
            rw [hs.eq_none hnone]
            exact nofun
          exact absurd hreached (h.not_mem_reached hy hx hnode)
        · exact absurd (h.eq_of_parts_eq hy hx (List.append_cancel_left heq)) hij

/-- **So does a run.** -/
theorem Consistent.runs (hs : Consistent t workingDirectory parcels s)
    (h : t.Apart workingDirectory parcels) (hruns : Runs workingDirectory parcels s s') :
    Consistent t workingDirectory parcels s' := by
  induction hruns with
  | refl => exact hs
  | tail _ hstep ih =>
    obtain ⟨i, x, hx, -, rfl⟩ := hstep
    exact ih.call h hx

end Underway

end CustomBuild
