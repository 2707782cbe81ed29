import CustomBuild.Graph.Order
import Mathlib.Data.List.Nodup
import Mathlib.Data.List.Perm.Basic
import Mathlib.Logic.Relation

/-!
# Dependencies stand first

An order that `dependencyOrder` finds for distinct names has each of them once, and after the names
that it depends on (`dependencyOrder_spec`).

The placing keeps books instead of looking at the names that are placed already: a waiting name has
a number of needs, which goes down when one of its dependencies is placed.  `Waiting.Consistent`
says that the books are right, and `Waiting.Consistent.step` that a placing keeps them right.
`Waiting.Run` is a run of placings, of which all that is said below is proved by induction: that it
loses no name (`Waiting.Run.perm`), and that it places a name only after its dependencies
(`Waiting.Run.mem_of_mem_dependencies`).
-/

namespace CustomBuild.Graph

/-- Whether every name of an order stands after its dependencies. -/
def DependenciesFirst (dependencies : String → List String) (order : List String) : Prop :=
  ∀ before name after, order = before ++ name :: after → ∀ d ∈ dependencies name, d ∈ before

section Parts

variable {dependencies : String → List String} {order first second before after : List String}
  {name d : String} {p : String → Bool}

/-- A name of a list without repetition is not one of those before it. -/
theorem not_mem_before (hnodup : order.Nodup) (hsplit : order = before ++ name :: after) :
    name ∉ before := by
  rw [hsplit, List.nodup_append] at hnodup
  exact fun hname => hnodup.2.2 name hname name List.mem_cons_self rfl

/-- What is picked from a list is cut at a name where the list is. -/
theorem exists_of_filter_eq (hsplit : order.filter p = before ++ name :: after) :
    ∃ front back, order = front ++ name :: back ∧ front.filter p = before ∧ p name = true := by
  obtain ⟨front, back, rfl, rfl, hback⟩ := List.filter_eq_append_iff.1 hsplit
  obtain ⟨skipped, rest, rfl, hnone, hname, -⟩ := List.filter_eq_cons_iff.1 hback
  refine ⟨front ++ skipped, rest, by simp, ?_, hname⟩
  rw [List.filter_append, List.filter_eq_nil_iff.2 hnone, List.append_nil]

/-- What always stands before a name in a list still does in what is picked from it. -/
theorem mem_before_of_filter (h : ∀ front back, order = front ++ name :: back → d ∈ front)
    (hsplit : order.filter p = before ++ name :: after) (hp : p d = true) : d ∈ before := by
  obtain ⟨front, back, horder, rfl, -⟩ := exists_of_filter_eq hsplit
  exact List.mem_filter.2 ⟨h front back horder, hp⟩

/-- What is picked from an order keeps it. -/
theorem DependenciesFirst.mem_before_of_filter (h : DependenciesFirst dependencies order)
    (hsplit : order.filter p = before ++ name :: after) (hd : d ∈ dependencies name)
    (hp : p d = true) : d ∈ before :=
  Graph.mem_before_of_filter (fun front back horder => h front name back horder d hd) hsplit hp

/-- A name stands after everything that it leads to. -/
theorem DependenciesFirst.mem_before_of_transGen (h : DependenciesFirst dependencies order)
    (hsplit : order = before ++ name :: after)
    (hd : Relation.TransGen (fun a b => b ∈ dependencies a) name d) : d ∈ before := by
  induction hd with
  | single hstep => exact h before name after hsplit _ hstep
  | tail _ hstep ih =>
    obtain ⟨front, back, rfl⟩ := List.append_of_mem ih
    rw [List.append_assoc, List.cons_append] at hsplit
    exact List.mem_append_left _ (h front _ _ hsplit _ hstep)

/-- Two lists of names one after the other, where the names of the second may depend on the
first. -/
theorem dependenciesFirst_append (hfirst : DependenciesFirst dependencies first)
    (hsecond : ∀ before name after, second = before ++ name :: after →
      ∀ d ∈ dependencies name, d ∈ first ∨ d ∈ before) :
    DependenciesFirst dependencies (first ++ second) := by
  intro before name after hsplit d hd
  rcases List.append_eq_append_iff.1 hsplit with ⟨front, rfl, hrest⟩ | ⟨back, rfl, hrest⟩
  · exact List.mem_append.2 (hsecond front name after hrest d hd)
  · cases back with
    | nil =>
      have hsecond := hsecond [] name after hrest.symm d hd
      simpa using hsecond
    | cons other back =>
      obtain ⟨rfl, -⟩ := List.cons.inj hrest
      exact hfirst before name back rfl d hd

end Parts

namespace Waiting

/-! ### One placing -/

/-- **The books are right**: every waiting name waits once, and its needs are the dependencies that
are not placed yet. -/
structure Consistent (placed : List String) (waiting : List Waiting) : Prop where
  /-- no name waits twice -/
  distinct : (waiting.map name).Nodup
  /-- every name is to be placed once -/
  single : ∀ w ∈ waiting, w.copies ≤ 1
  /-- a name that waits is not placed yet -/
  fresh : ∀ w ∈ waiting, w.name ∉ placed
  /-- the dependencies of a name are listed once -/
  dependencies_nodup : ∀ w ∈ waiting, w.dependencies.Nodup
  /-- the needs are counted right -/
  needs_eq : ∀ w ∈ waiting, w.needs = (w.dependencies.filter (· ∉ placed)).length

variable {placed : List String} {waiting : List Waiting} {w next : Waiting} {name : String}

/-- A name is ready when its dependencies are placed. -/
theorem Consistent.isReady_iff (h : Consistent placed waiting) (hw : w ∈ waiting) :
    w.isReady = true ↔ ∀ d ∈ w.dependencies, d ∈ placed := by
  rw [isReady, decide_eq_true_iff, h.needs_eq w hw, List.length_eq_zero_iff,
    List.filter_eq_nil_iff]
  simp

/-- A waiting name after `name` has been placed, which it may have needed. -/
def served (name : String) (w : Waiting) : Waiting :=
  { w with needs := if w.dependencies.contains name then w.needs - 1 else w.needs }

/-- What is left of a name that is to be placed once, or of another name. -/
theorem after_eq (h : w.copies ≤ 1) :
    after name w = if w.name = name then none else some (w.served name) := by
  unfold after
  by_cases hn : w.name = name
  · simp [hn, h]
  · simp [hn, served]

/-- What waits after a placing are the other names. -/
theorem mem_after_iff (hsingle : ∀ w ∈ waiting, w.copies ≤ 1) :
    w ∈ waiting.filterMap (after name) ↔ ∃ v ∈ waiting, v.name ≠ name ∧ v.served name = w := by
  rw [List.mem_filterMap]
  constructor
  · rintro ⟨v, hv, hvw⟩
    rw [after_eq (hsingle v hv)] at hvw
    by_cases hn : v.name = name
    · rw [if_pos hn] at hvw
      cases hvw
    · rw [if_neg hn] at hvw
      exact ⟨v, hv, hn, Option.some.inj hvw⟩
  · rintro ⟨v, hv, hn, rfl⟩
    exact ⟨v, hv, by rw [after_eq (hsingle v hv), if_neg hn]⟩

/-- The names that wait after a placing. -/
theorem map_name_after (hsingle : ∀ w ∈ waiting, w.copies ≤ 1) :
    (waiting.filterMap (after name)).map Waiting.name =
      (waiting.map Waiting.name).filter (· != name) := by
  induction waiting with
  | nil => rfl
  | cons w rest ih =>
    have ih := ih fun v hv => hsingle v (List.mem_cons_of_mem _ hv)
    rw [List.filterMap_cons, after_eq (hsingle w List.mem_cons_self), List.map_cons]
    by_cases hn : w.name = name
    · simp only [hn, if_true, ih]
      simp
    · simp only [hn, if_false, List.map_cons, ih]
      simp [hn, served]

/-- Placing one more name takes it out of the dependencies that are not placed. -/
theorem length_filter_cons {dependencies : List String} (hnodup : dependencies.Nodup)
    (hname : name ∉ placed) :
    (dependencies.filter (· ∉ name :: placed)).length =
      if dependencies.contains name then (dependencies.filter (· ∉ placed)).length - 1
      else (dependencies.filter (· ∉ placed)).length := by
  have hfilter : dependencies.filter (· ∉ name :: placed) =
      (dependencies.filter (· ∉ placed)).erase name := by
    rw [(hnodup.filter _).erase_eq_filter, List.filter_filter]
    apply List.filter_congr
    intro d _
    simp [bne, Bool.beq_eq_decide_eq]
  rw [hfilter]
  split_ifs with hmem
  · rw [List.length_erase_of_mem]
    exact List.mem_filter.2 ⟨List.contains_iff_mem.1 hmem, by simpa using hname⟩
  · rw [List.erase_of_not_mem]
    exact fun h => hmem (List.contains_iff_mem.2 (List.mem_filter.1 h).1)

/-- **A placing keeps the books right.** -/
theorem Consistent.step (h : Consistent placed waiting) (hnext : next ∈ waiting) :
    Consistent (next.name :: placed) (waiting.filterMap (after next.name)) where
  distinct := by
    rw [map_name_after h.single]
    exact h.distinct.filter _
  single := by
    intro w hw
    obtain ⟨v, hv, -, rfl⟩ := (mem_after_iff h.single).1 hw
    exact h.single v hv
  fresh := by
    intro w hw
    obtain ⟨v, hv, hn, rfl⟩ := (mem_after_iff h.single).1 hw
    rw [List.mem_cons, not_or]
    exact ⟨hn, h.fresh v hv⟩
  dependencies_nodup := by
    intro w hw
    obtain ⟨v, hv, -, rfl⟩ := (mem_after_iff h.single).1 hw
    exact h.dependencies_nodup v hv
  needs_eq := by
    intro w hw
    obtain ⟨v, hv, -, rfl⟩ := (mem_after_iff h.single).1 hw
    unfold served
    rw [length_filter_cons (h.dependencies_nodup v hv) (h.fresh next hnext), h.needs_eq v hv]

/-! ### A run of placings -/

theorem place_succ_of_some {count : Nat} (h : waiting.find? isReady = some next) :
    place (count + 1) waiting =
      (next.name :: (place count (waiting.filterMap (after next.name))).1,
        (place count (waiting.filterMap (after next.name))).2) := by
  rw [place, h]

theorem place_succ_of_none {count : Nat} (h : waiting.find? isReady = none) :
    place (count + 1) waiting = ([], waiting) := by
  rw [place, h]

/-- **A run of placings**: the names are placed one after the other, each of them as the first one
that is ready, and `left` is what still waits then. -/
inductive Run : List Waiting → List String → List Waiting → Prop where
  /-- nothing is placed -/
  | nil (waiting : List Waiting) : Run waiting [] waiting
  /-- the first one that is ready is placed, and then a run goes on -/
  | cons {waiting left : List Waiting} {next : Waiting} {names : List String}
      (hfind : waiting.find? isReady = some next)
      (hrest : Run (waiting.filterMap (after next.name)) names left) :
      Run waiting (next.name :: names) left

/-- What `place` places is a run. -/
theorem run_place (count : Nat) (waiting : List Waiting) :
    Run waiting (place count waiting).1 (place count waiting).2 := by
  induction count generalizing waiting with
  | zero => exact .nil waiting
  | succ count ih =>
    cases hfind : waiting.find? isReady with
    | none =>
      rw [place_succ_of_none hfind]
      exact .nil waiting
    | some next =>
      rw [place_succ_of_some hfind]
      exact .cons hfind (ih _)

namespace Run

variable {names before rest : List String} {left : List Waiting} {v : Waiting}

/-- **A run keeps the books right.** -/
theorem consistent (hrun : Run waiting names left) (h : Consistent placed waiting) :
    Consistent (names.reverse ++ placed) left := by
  induction hrun generalizing placed with
  | nil waiting => exact h
  | cons hfind _ ih =>
    rw [List.reverse_cons, List.append_assoc, List.singleton_append]
    exact ih (h.step (List.mem_of_find?_eq_some hfind))

/-- **No name is lost or added**: those that were placed and those that still wait are those that
waited before. -/
theorem perm (hrun : Run waiting names left) (h : Consistent placed waiting) :
    (names ++ left.map Waiting.name).Perm (waiting.map Waiting.name) := by
  induction hrun generalizing placed with
  | nil waiting => exact List.Perm.refl _
  | cons hfind _ ih =>
    have hnext := List.mem_of_find?_eq_some hfind
    have hrest := ih (h.step hnext)
    rw [map_name_after h.single, ← h.distinct.erase_eq_filter] at hrest
    exact (hrest.cons _).trans (List.perm_cons_erase (List.mem_map_of_mem hnext)).symm

/-- What still waits has kept its order. -/
theorem sublist (hrun : Run waiting names left) (h : Consistent placed waiting) :
    (left.map Waiting.name).Sublist (waiting.map Waiting.name) := by
  induction hrun generalizing placed with
  | nil waiting => exact List.Sublist.refl _
  | cons hfind _ ih =>
    refine (ih (h.step (List.mem_of_find?_eq_some hfind))).trans ?_
    rw [map_name_after h.single]
    exact List.filter_sublist

/-- What waited and is not placed still waits, with the same dependencies. -/
theorem exists_mem_left (hrun : Run waiting names left) (h : Consistent placed waiting)
    (hv : v ∈ waiting) (hnot : v.name ∉ names) :
    ∃ w ∈ left, w.name = v.name ∧ w.dependencies = v.dependencies := by
  induction hrun generalizing placed v with
  | nil waiting => exact ⟨v, hv, rfl, rfl⟩
  | @cons waiting _ next _ hfind _ ih =>
    rw [List.mem_cons, not_or] at hnot
    have hserved : v.served next.name ∈ waiting.filterMap (after next.name) :=
      (mem_after_iff h.single).2 ⟨v, hv, hnot.1, rfl⟩
    -- serving a name changes its needs only
    have hstill := ih (h.step (List.mem_of_find?_eq_some hfind)) hserved hnot.2
    exact hstill

/-- What still waits was waiting before, with the same dependencies. -/
theorem exists_mem_waiting (hrun : Run waiting names left) (h : Consistent placed waiting)
    (hw : w ∈ left) : ∃ v ∈ waiting, v.name = w.name ∧ v.dependencies = w.dependencies := by
  induction hrun generalizing placed with
  | nil waiting => exact ⟨w, hw, rfl, rfl⟩
  | cons hfind _ ih =>
    obtain ⟨v, hv, hname, hdependencies⟩ := ih (h.step (List.mem_of_find?_eq_some hfind)) hw
    obtain ⟨u, hu, -, rfl⟩ := (mem_after_iff h.single).1 hv
    exact ⟨u, hu, hname, hdependencies⟩

/-- **A run is cut at a name**: a run places the names before it, and then it is the first one that
is ready. -/
theorem exists_of_append_cons (hrun : Run waiting (before ++ name :: rest) left) :
    ∃ reached next, Run waiting before reached ∧ reached.find? isReady = some next ∧
      next.name = name := by
  induction before generalizing waiting with
  | nil =>
    cases hrun with
    | cons hfind _ => exact ⟨_, _, .nil _, hfind, rfl⟩
  | cons first before ih =>
    cases hrun with
    | cons hfind hrest =>
      obtain ⟨reached, next, hbefore, hnext, hname⟩ := ih hrest
      exact ⟨reached, next, .cons hfind hbefore, hnext, hname⟩

/-- **A name is placed when its dependencies are**: before the run, or earlier in it. -/
theorem mem_of_mem_dependencies (hrun : Run waiting (before ++ name :: rest) left)
    (h : Consistent placed waiting) (hw : w ∈ waiting) (hname : w.name = name) {d : String}
    (hd : d ∈ w.dependencies) : d ∈ placed ∨ d ∈ before := by
  obtain ⟨reached, next, hbefore, hfind, hnext⟩ := hrun.exists_of_append_cons
  have hmem := List.mem_of_find?_eq_some hfind
  have hbooks := hbefore.consistent h
  -- a name that was placed does not wait any more, so it is not placed again
  have hnot : w.name ∉ before := by
    intro hplaced
    refine hbooks.fresh next hmem (List.mem_append_left _ (List.mem_reverse.2 ?_))
    rwa [hnext, ← hname]
  obtain ⟨v, hv, hvname, hdependencies⟩ := hbefore.exists_mem_left h hw hnot
  have hsame : v = next :=
    List.inj_on_of_nodup_map hbooks.distinct hv hmem (hvname.trans (hname.trans hnext.symm))
  rw [← hdependencies, hsame] at hd
  have hd := (hbooks.isReady_iff hmem).1 (List.find?_some hfind) d hd
  rw [List.mem_append, List.mem_reverse] at hd
  exact hd.symm

end Run

end Waiting

/-! ### The order -/

namespace Dependencies

variable {g : Dependencies} {order : List String}

theorem eraseDups_of_nodup {names : List String} (h : names.Nodup) : names.eraseDups = names := by
  induction names with
  | nil => rfl
  | cons name rest ih =>
    obtain ⟨hname, hrest⟩ := List.nodup_cons.1 h
    have hfilter : (rest.filter fun b => !b == name) = rest := by
      apply List.filter_eq_self.2
      intro b hb
      have hne : b ≠ name := fun hbn => hname (hbn ▸ hb)
      simpa using hne
    rw [List.eraseDups_cons, hfilter, ih hrest]

theorem nodup_eraseDups (names : List String) : names.eraseDups.Nodup := by
  induction hn : names.length using Nat.strongRecOn generalizing names with
  | _ n ih =>
    cases names with
    | nil => exact List.nodup_nil
    | cons name rest =>
      rw [List.eraseDups_cons, List.nodup_cons]
      refine ⟨by simp, ih _ ?_ _ rfl⟩
      rw [← hn, List.length_cons]
      exact Nat.lt_succ_of_le (List.length_filter_le _ _)

/-- Distinct declared names wait in the order of their declaration. -/
theorem map_name_waiting (hdeclared : g.declared.Nodup) :
    g.waiting.map Waiting.name = g.declared := by
  rw [waiting, positions, eraseDups_of_nodup (List.nodup_reverse.2 hdeclared),
    List.reverse_reverse, List.map_map]
  exact List.map_id g.declared

/-- The names wait for the declared names that they depend on. -/
theorem dependencies_of_mem_waiting {w : Waiting} (hw : w ∈ g.waiting) :
    w.dependencies = g.of w.name := by
  obtain ⟨other, -, rfl⟩ := List.mem_map.1 hw
  rfl

/-- Before the first placing the books are right. -/
theorem consistent_waiting (hdeclared : g.declared.Nodup) :
    Waiting.Consistent [] g.waiting := by
  refine ⟨(map_name_waiting hdeclared).symm ▸ hdeclared, ?_, ?_, ?_, ?_⟩ <;> intro w hw <;>
    obtain ⟨name, hname, rfl⟩ := List.mem_map.1 hw
  · simp only
    split
    · exact List.nodup_iff_count_le_one.1 hdeclared name
    · exact Nat.le_refl 1
  · exact List.not_mem_nil
  · exact nodup_eraseDups _
  · simp

/-- **Whatever is placed in a run** stands after the declared names that it depends on. -/
theorem dependenciesFirst_place (hdeclared : g.declared.Nodup) (count : Nat) :
    DependenciesFirst g.of (Waiting.place count g.waiting).1 := by
  have hbooks := consistent_waiting hdeclared
  have hrun := Waiting.run_place count g.waiting
  intro before name rest hsplit d hd
  have hname : name ∈ g.waiting.map Waiting.name := by
    refine (hrun.perm hbooks).subset (List.mem_append_left _ ?_)
    rw [hsplit]
    exact List.mem_append_right _ List.mem_cons_self
  obtain ⟨w, hw, rfl⟩ := List.mem_map.1 hname
  rw [← dependencies_of_mem_waiting hw] at hd
  rw [hsplit] at hrun
  rcases hrun.mem_of_mem_dependencies hbooks hw rfl hd with hnone | hbefore
  · exact absurd hnone List.not_mem_nil
  · exact hbefore

/-- **Dependencies stand first.**  An order of distinct names has each of them once, and each after
the declared names that it depends on. -/
theorem dependencyOrder_spec (hdeclared : g.declared.Nodup) (h : g.dependencyOrder = .ok order) :
    order.Perm g.declared ∧ DependenciesFirst g.of order := by
  have hperm := (Waiting.run_place g.declared.length g.waiting).perm (consistent_waiting hdeclared)
  rw [map_name_waiting hdeclared] at hperm
  obtain ⟨hplaced, hlength⟩ : (Waiting.place g.declared.length g.waiting).1 = order ∧
      (Waiting.place g.declared.length g.waiting).1.length = g.declared.length := by
    unfold dependencyOrder at h
    split at h
    · cases h
    · dsimp only at h
      split_ifs at h with hlength
      exact ⟨Except.ok.inj h, hlength⟩
  have hfirst := dependenciesFirst_place hdeclared g.declared.length
  rw [hplaced] at hperm hlength hfirst
  -- Everything is placed, so nothing waits any more.
  have hleft : (Waiting.place g.declared.length g.waiting).2.map Waiting.name = [] := by
    have hcount := hperm.length_eq
    rw [List.length_append, hlength] at hcount
    exact List.length_eq_zero_iff.1 (by omega)
  rw [hleft, List.append_nil] at hperm
  exact ⟨hperm, hfirst⟩

end Dependencies

end CustomBuild.Graph
