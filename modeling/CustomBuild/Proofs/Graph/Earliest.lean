import CustomBuild.Proofs.Graph.Order
import CustomBuild.Proofs.Graph.Reach

/-!
# The earliest declared name comes first

Of the names whose dependencies are placed, `dependencyOrder` places the one that is declared first
(`dependencyOrder_earliest`).  There is at most one order of the declared names that does so at
every place and has dependencies first (`EarliestFirst.unique`), so an order can be told by these
two properties.

This says what becomes of an order when a name is added that none of the others depends on: without
the new name, the new order is the old one (`EarliestFirst.eq_without`).
-/

namespace CustomBuild.Graph

/-- One name stands before another in a list. -/
def StandsBefore (names : List String) (a b : String) : Prop :=
  [a, b].Sublist names

/-- **Whether the earliest declared name comes first** at every place of an order: any other name
that is not placed yet and could be is declared later. -/
def EarliestFirst (declared : List String) (dependencies : String → List String)
    (order : List String) : Prop :=
  ∀ before name after, order = before ++ name :: after → ∀ v ∈ declared, v ∉ before →
    (∀ d ∈ dependencies v, d ∈ before) → v = name ∨ StandsBefore declared name v

section Parts

variable {declared order other names before after otherAfter : List String}
  {dependencies otherDependencies : String → List String} {a b name : String} {p : String → Bool}

/-- A name stands before the names after it. -/
theorem StandsBefore.of_mem (hb : b ∈ after) :
    StandsBefore (before ++ a :: after) a b := by
  have hsub : [a, b].Sublist (a :: after) := (List.singleton_sublist.2 hb).cons_cons a
  exact hsub.trans (List.sublist_append_right before _)

/-- The first of two names that stand one before the other has the smaller place. -/
theorem StandsBefore.idxOf_lt (hnames : names.Nodup) (hab : StandsBefore names a b) :
    names.idxOf a < names.idxOf b := by
  have horder : names.Pairwise fun x y => names.idxOf x < names.idxOf y := by
    rw [List.pairwise_iff_getElem]
    intro i j hi hj hij
    rw [hnames.idxOf_getElem i hi, hnames.idxOf_getElem j hj]
    exact hij
  exact List.pairwise_iff_forall_sublist.1 horder hab

/-- Of two names in a list without repetition, only one stands before the other. -/
theorem StandsBefore.asymm (hnames : names.Nodup) (hab : StandsBefore names a b) :
    ¬ StandsBefore names b a := fun hba =>
  Nat.lt_asymm (hab.idxOf_lt hnames) (hba.idxOf_lt hnames)

/-- What is picked from a list keeps the order of the list. -/
theorem StandsBefore.filter (hab : StandsBefore names a b) (ha : p a = true) (hb : p b = true) :
    StandsBefore (names.filter p) a b := by
  have hpick : [a, b].filter p = [a, b] := by
    rw [List.filter_eq_self]
    intro x hx
    rcases List.mem_cons.1 hx with rfl | hx
    · exact ha
    · rw [List.mem_singleton.1 hx]
      exact hb
  have hsub := List.Sublist.filter p hab
  rwa [hpick] at hsub

/-- A name of an order could be placed where it stands. -/
theorem DependenciesFirst.placeable (hfirst : DependenciesFirst dependencies order)
    (hdeclared : declared.Nodup) (hperm : order.Perm declared)
    (hsplit : order = before ++ name :: after) :
    name ∈ declared ∧ name ∉ before ∧ ∀ d ∈ dependencies name, d ∈ before :=
  ⟨hperm.subset (by simp [hsplit]), not_mem_before (hperm.nodup_iff.2 hdeclared) hsplit,
    hfirst before name after hsplit⟩

/-- Two orders that agree up to a place have the same name there. -/
theorem EarliestFirst.eq_next (hdeclared : declared.Nodup)
    (horder : order.Perm declared) (hother : other.Perm declared)
    (hfirst : DependenciesFirst dependencies order)
    (hotherfirst : DependenciesFirst dependencies other)
    (hearliest : EarliestFirst declared dependencies order)
    (hotherearliest : EarliestFirst declared dependencies other)
    (hsplit : order = before ++ a :: after) (hsplit' : other = before ++ b :: otherAfter) :
    a = b := by
  -- each of the two names could come next in the other order
  obtain ⟨ha, habefore, haneeds⟩ := hfirst.placeable hdeclared horder hsplit
  obtain ⟨hb, hbbefore, hbneeds⟩ := hotherfirst.placeable hdeclared hother hsplit'
  rcases hotherearliest before b otherAfter hsplit' a ha habefore haneeds with heq | hba
  · exact heq
  · rcases hearliest before a after hsplit b hb hbbefore hbneeds with heq | hab
    · exact heq.symm
    · exact absurd hba (hab.asymm hdeclared)

/-- **The order with the earliest names first** is the only one: two of them go together from place
to place. -/
theorem EarliestFirst.unique (hdeclared : declared.Nodup)
    (horder : order.Perm declared) (hother : other.Perm declared)
    (hfirst : DependenciesFirst dependencies order)
    (hotherfirst : DependenciesFirst dependencies other)
    (hearliest : EarliestFirst declared dependencies order)
    (hotherearliest : EarliestFirst declared dependencies other) : order = other := by
  have hlength := (horder.trans hother.symm).length_eq
  have hgo : ∀ rest rest' before : List String, order = before ++ rest → other = before ++ rest' →
      rest = rest' := by
    -- the induction is on the rest of the one order, and cuts the other at the same place
    intro rest
    induction rest with
    | nil =>
      intro rest' before hsplit hsplit'
      rw [hsplit, hsplit', List.append_nil, List.length_append] at hlength
      exact (List.length_eq_zero_iff.1 (by omega)).symm
    | cons x rest ih =>
      intro rest' before hsplit hsplit'
      cases rest' with
      | nil =>
        rw [hsplit, hsplit', List.length_append, List.length_append] at hlength
        simp at hlength
      | cons y rest' =>
        obtain rfl := EarliestFirst.eq_next hdeclared horder hother hfirst hotherfirst hearliest
          hotherearliest hsplit hsplit'
        rw [ih rest' (before ++ [x]) (by simp [hsplit]) (by simp [hsplit'])]
  exact hgo order other [] rfl rfl

/-- With more dependencies there are fewer names that could be placed instead. -/
theorem EarliestFirst.of_subset (h : EarliestFirst declared dependencies order)
    (hsub : ∀ v ∈ declared, ∀ d ∈ dependencies v, d ∈ otherDependencies v) :
    EarliestFirst declared otherDependencies order := by
  intro before x after hsplit v hv hbefore hneeds
  exact h before x after hsplit v hv hbefore fun d hd => hneeds d (hsub v hv d hd)

/-! ### One name more -/

/-- Without a name that no other depends on, dependencies still stand first. -/
theorem DependenciesFirst.without (hfirst : DependenciesFirst dependencies other)
    (hsame : ∀ v, v ≠ name → dependencies v = otherDependencies v)
    (hnew : ∀ v, name ∉ otherDependencies v) :
    DependenciesFirst otherDependencies (without name other) := by
  intro before x after hsplit d hd
  have hx : x ≠ name := (mem_without.1 (hsplit ▸ by simp : x ∈ Graph.without name other)).2
  have hdname : d ≠ name := fun heq => hnew x (heq ▸ hd)
  rw [← hsame x hx] at hd
  exact hfirst.mem_before_of_filter hsplit hd (decide_eq_true hdname)

/-- Without a name that no other depends on, the earliest declared name still comes first. -/
theorem EarliestFirst.without (hearliest : EarliestFirst declared dependencies other)
    (hsame : ∀ v, v ≠ name → dependencies v = otherDependencies v) :
    EarliestFirst (without name declared) otherDependencies (without name other) := by
  intro before x after hsplit v hv hbefore hneeds
  obtain ⟨front, back, horder, rfl, hx⟩ := exists_of_filter_eq hsplit
  obtain ⟨hvdeclared, hvname⟩ := mem_without.1 hv
  -- what is placed in the shorter order is placed in the longer one
  have hfront : v ∉ front := fun hmem => hbefore (mem_without.2 ⟨hmem, hvname⟩)
  have hplaced : ∀ d ∈ dependencies v, d ∈ front := by
    intro d hd
    rw [hsame v hvname] at hd
    exact (mem_without.1 (hneeds d hd)).1
  rcases hearliest front x back horder v hvdeclared hfront hplaced with heq | hlater
  · exact Or.inl heq
  · exact Or.inr (hlater.filter hx (decide_eq_true hvname))

/-- **One name more.**  If a name is declared in addition that none of the others depends on, the
new order is the old one with the new name somewhere in it. -/
theorem EarliestFirst.eq_without (hdeclared : declared.Nodup)
    (horder : order.Perm (Graph.without name declared)) (hother : other.Perm declared)
    (hfirst : DependenciesFirst otherDependencies order)
    (hotherfirst : DependenciesFirst dependencies other)
    (hearliest : EarliestFirst (Graph.without name declared) otherDependencies order)
    (hotherearliest : EarliestFirst declared dependencies other)
    (hsame : ∀ v, v ≠ name → dependencies v = otherDependencies v)
    (hnew : ∀ v, name ∉ otherDependencies v) : order = Graph.without name other := by
  have hperm : (Graph.without name other).Perm (Graph.without name declared) := hother.filter _
  exact hearliest.unique (hdeclared.filter _) horder hperm hfirst
    (hotherfirst.without hsame hnew) (hotherearliest.without hsame)

end Parts

namespace Waiting

variable {placed : List String} {waiting : List Waiting} {v : Waiting} {name : String}

/-- **A name that could be placed** at some point of a run waits longer only for a name that stands
before it. -/
theorem Run.eq_or_standsBefore {before rest : List String} {left : List Waiting}
    (hrun : Run waiting (before ++ name :: rest) left) (h : Consistent placed waiting)
    (hv : v ∈ waiting) (hbefore : v.name ∉ before)
    (hneeds : ∀ d ∈ v.dependencies, d ∈ placed ∨ d ∈ before) :
    v.name = name ∨ StandsBefore (waiting.map Waiting.name) name v.name := by
  obtain ⟨reached, next, hfront, hfind, rfl⟩ := hrun.exists_of_append_cons
  obtain ⟨w, hw, hname, hdependencies⟩ := hfront.exists_mem_left h hv hbefore
  -- the name is ready by then, so it is the first ready one or comes after it
  have hready : w.isReady = true := by
    refine ((hfront.consistent h).isReady_iff hw).2 fun d hd => ?_
    rw [hdependencies] at hd
    rw [List.mem_append, List.mem_reverse]
    exact (hneeds d hd).symm
  obtain ⟨-, front, back, hsplit, hunready⟩ := List.find?_eq_some_iff_append.1 hfind
  rw [← hname]
  rw [hsplit, List.mem_append, List.mem_cons] at hw
  rcases hw with hw | rfl | hw
  · have hnot := hunready w hw
    rw [hready] at hnot
    cases hnot
  · exact Or.inl rfl
  · have hlater : StandsBefore (reached.map Waiting.name) next.name w.name := by
      rw [hsplit, List.map_append, List.map_cons]
      exact .of_mem (List.mem_map_of_mem hw)
    exact Or.inr (List.Sublist.trans hlater (hfront.sublist h))

end Waiting

namespace Dependencies

variable {g : Dependencies} {order : List String}

/-- **The earliest declared name comes first.** -/
theorem dependencyOrder_earliest (hdeclared : g.declared.Nodup)
    (h : g.dependencyOrder = .ok order) : EarliestFirst g.declared g.of order := by
  have hplaced : (Waiting.place g.declared.length g.waiting).1 = order := by
    unfold dependencyOrder at h
    split at h
    · cases h
    · dsimp only at h
      split_ifs at h
      exact Except.ok.inj h
  intro before name after hsplit v hv hbefore hneeds
  have hnames := map_name_waiting hdeclared
  rw [← hnames] at hv
  obtain ⟨w, hw, rfl⟩ := List.mem_map.1 hv
  have hdependencies := dependencies_of_mem_waiting hw
  -- the order is what a run from all names has placed
  have hrun := Waiting.run_place g.declared.length g.waiting
  rw [hplaced, hsplit] at hrun
  have hearliest := hrun.eq_or_standsBefore (consistent_waiting hdeclared) hw hbefore
    fun d hd => Or.inr (hneeds d (hdependencies ▸ hd))
  rwa [hnames] at hearliest

end Dependencies

end CustomBuild.Graph
