import CustomBuild.Proofs.Graph.Cycle
import CustomBuild.Proofs.Graph.Earliest
import CustomBuild.Proofs.Text.Basic
import CustomBuild.Table

/-!
# The outcome of ordering

What `dependencyOrder` makes of a graph is told by the graph alone (`dependencyOrder_outcome`), if
every name is declared once and has one row (`IsRegular`).  There is an order exactly if no name
needs itself, and it is the one with the next name at every place (`IsNext`): of the names that are
not placed yet and whose dependencies are, the one that is declared first.  Otherwise the error
lists the names that lead into a circle.

`Needs` is one dependency, as a row states it.  The dependencies that `dependencyOrder` counts are
these (`mem_of_iff_needs`), so the outcome follows from what is known of the placing: that it ends
(`dependencyOrder_cases`), has dependencies first (`dependencyOrder_spec`) and places the earliest
name first (`dependencyOrder_earliest`), which no other order does (`EarliestFirst.unique`).
-/

namespace CustomBuild.Graph

namespace Dependencies

variable {g : Dependencies} {order : List String} {a b : String}

/-! ### Graphs by their rows -/

/-- **One dependency**: `b` is declared, and the row of `a` lists it. -/
def Needs (g : Dependencies) (a b : String) : Prop :=
  b ∈ g.declared ∧ ∃ row ∈ g.rows, row.1 = a ∧ b ∈ row.2

/-- A graph in which every name is declared once and has one row. -/
structure IsRegular (g : Dependencies) : Prop where
  /-- no name is declared twice -/
  declared_nodup : g.declared.Nodup
  /-- the rows are those of the declared names, in any order -/
  rows_perm : (g.rows.map Prod.fst).Perm g.declared

/-- The dependencies that are counted for a name are those of its row that are declared. -/
theorem mem_of_iff_needs (h : g.IsRegular) : b ∈ g.of a ↔ g.Needs a b := by
  have hkeys : (g.rows.map Prod.fst).Nodup := h.rows_perm.nodup_iff.2 h.declared_nodup
  rw [of, List.mem_eraseDups, List.mem_filter, List.contains_iff_mem, and_comm]
  refine and_congr_right fun _ => ?_
  constructor
  · intro hb
    cases hrow : g.rows.lookup a with
    | none =>
      rw [hrow] at hb
      cases hb
    | some dependencies =>
      rw [hrow] at hb
      exact ⟨_, (lookup_eq_some_iff_of_nodup hkeys).1 hrow, rfl, hb⟩
  · rintro ⟨⟨name, dependencies⟩, hrow, rfl, hb⟩
    rw [(lookup_eq_some_iff_of_nodup hkeys).2 hrow]
    exact hb

theorem needs_eq (h : g.IsRegular) : (fun x y => y ∈ g.of x) = g.Needs :=
  funext₂ fun _ _ => propext (mem_of_iff_needs h)

/-- A name that needs something is declared. -/
theorem Needs.mem_declared (h : g.IsRegular) (hneeds : g.Needs a b) : a ∈ g.declared := by
  obtain ⟨-, row, hrow, rfl, -⟩ := hneeds
  exact h.rows_perm.subset (List.mem_map_of_mem hrow)

theorem leadsToCycle_iff (h : g.IsRegular) :
    LeadsToCycle g.of a ↔
      ∃ b, Relation.ReflTransGen g.Needs a b ∧ Relation.TransGen g.Needs b b := by
  rw [LeadsToCycle, needs_eq h]

/-- A name that leads into a circle is declared, as all names on the way are. -/
theorem mem_declared_of_leadsToCycle (h : g.IsRegular) (hcycle : LeadsToCycle g.of a) :
    a ∈ g.declared := by
  obtain ⟨b, hab, hbb⟩ := (leadsToCycle_iff h).1 hcycle
  obtain ⟨c, hneeds, -⟩ := Relation.TransGen.head'_iff.1 (hbb.trans_right hab)
  exact hneeds.mem_declared h

/-! ### The next name -/

/-- A name that can be placed after the given ones. -/
structure CanFollow (g : Dependencies) (placed : List String) (name : String) : Prop where
  /-- the name is declared -/
  declared : name ∈ g.declared
  /-- it is not placed yet -/
  fresh : name ∉ placed
  /-- its dependencies are -/
  needs : ∀ d, g.Needs name d → d ∈ placed

/-- **The next name**: of those that can be placed, the one that is declared first. -/
structure IsNext (g : Dependencies) (placed : List String) (name : String) : Prop where
  /-- the name can be placed -/
  canFollow : g.CanFollow placed name
  /-- any other that can be is declared later -/
  earliest : ∀ v, g.CanFollow placed v → v = name ∨ StandsBefore g.declared name v

/-- **An order of the declared names**, with the next name at every place. -/
structure IsOrder (g : Dependencies) (order : List String) : Prop where
  /-- each declared name has one place -/
  perm : order.Perm g.declared
  /-- at every place stands the next name -/
  isNext : ∀ before name after, order = before ++ name :: after → g.IsNext before name

/-- At every place stands the next name exactly if dependencies stand first and so does the earliest
declared name. -/
theorem isOrder_iff (h : g.IsRegular) :
    g.IsOrder order ↔ order.Perm g.declared ∧ DependenciesFirst g.of order ∧
      EarliestFirst g.declared g.of order := by
  constructor
  · rintro ⟨hperm, hnext⟩
    refine ⟨hperm, ?_, ?_⟩
    · intro before name after hsplit d hd
      exact (hnext before name after hsplit).canFollow.needs d ((mem_of_iff_needs h).1 hd)
    · intro before name after hsplit v hv hfresh hneeds
      exact (hnext before name after hsplit).earliest v
        ⟨hv, hfresh, fun d hd => hneeds d ((mem_of_iff_needs h).2 hd)⟩
  · rintro ⟨hperm, hfirst, hearliest⟩
    refine ⟨hperm, fun before name after hsplit => ⟨⟨?_, ?_, ?_⟩, ?_⟩⟩
    · exact hperm.subset (by simp [hsplit])
    · exact not_mem_before (hperm.nodup_iff.2 h.declared_nodup) hsplit
    · exact fun d hd => hfirst before name after hsplit d ((mem_of_iff_needs h).2 hd)
    · intro v hv
      exact hearliest before name after hsplit v hv.declared hv.fresh
        fun d hd => hv.needs d ((mem_of_iff_needs h).1 hd)

/-- There is at most one such order. -/
theorem IsOrder.unique (h : g.IsRegular) {other : List String} (horder : g.IsOrder order)
    (hother : g.IsOrder other) : order = other := by
  obtain ⟨hperm, hfirst, hearliest⟩ := (isOrder_iff h).1 horder
  obtain ⟨hperm', hfirst', hearliest'⟩ := (isOrder_iff h).1 hother
  exact hearliest.unique h.declared_nodup hperm hperm' hfirst hfirst' hearliest'

/-- **Names that are declared after their dependencies** are in order already. -/
theorem isOrder_declared (h : g.IsRegular)
    (hfirst : ∀ before name after, g.declared = before ++ name :: after →
      ∀ d, g.Needs name d → d ∈ before) : g.IsOrder g.declared := by
  refine (isOrder_iff h).2 ⟨.refl _, ?_, ?_⟩
  · intro before name after hsplit d hd
    exact hfirst before name after hsplit d ((mem_of_iff_needs h).1 hd)
  · -- whatever is not placed yet is the name itself or declared after it
    intro before name after hsplit v hv hfresh _
    rw [hsplit] at hv
    rcases List.mem_append.1 hv with hv | hv
    · exact absurd hv hfresh
    · rcases List.mem_cons.1 hv with rfl | hv
      · exact Or.inl rfl
      · rw [hsplit]
        exact Or.inr (.of_mem hv)

/-! ### The outcome -/

/-- Distinct names that are sorted by their code points. -/
theorem pairwise_lt_mergeSort {names : List String} (hnames : names.Nodup) :
    (names.mergeSort fun a b => decide (a ≤ b)).Pairwise (· < ·) := by
  have hsorted := Text.pairwise_mergeSort_le id names
  have hnodup : (names.mergeSort fun a b => decide (a ≤ b)).Nodup :=
    (List.mergeSort_perm _ _).nodup_iff.2 hnames
  refine hsorted.imp₂ (fun a b hle hne => ?_) hnodup
  by_contra hlt
  exact hne (String.le_antisymm hle (String.not_lt.1 hlt))

/-- The names of an error stand in the order of their code points, each once. -/
theorem pairwise_lt_of_cycle {names : List String} (hdeclared : g.declared.Nodup)
    (herror : g.dependencyOrder = .error (.cycle names)) : names.Pairwise (· < ·) := by
  unfold dependencyOrder at herror
  split at herror
  · cases herror
  · dsimp only at herror
    split_ifs at herror
    cases herror
    exact pairwise_lt_mergeSort (hdeclared.filter _)

/-- An order that is found has the next name at every place. -/
theorem isOrder_of_dependencyOrder (h : g.IsRegular) (horder : g.dependencyOrder = .ok order) :
    g.IsOrder order := by
  obtain ⟨hperm, hfirst⟩ := dependencyOrder_spec h.declared_nodup horder
  exact (isOrder_iff h).2 ⟨hperm, hfirst, dependencyOrder_earliest h.declared_nodup horder⟩

/-- Names in an order do not need themselves. -/
theorem IsOrder.not_needs_self (h : g.IsRegular) (horder : g.IsOrder order) (name : String) :
    ¬ Relation.TransGen g.Needs name name := by
  intro hcycle
  have hleads : LeadsToCycle g.of name := (leadsToCycle_iff h).2 ⟨name, .refl, hcycle⟩
  have hname : name ∈ order := horder.perm.mem_iff.2 (mem_declared_of_leadsToCycle h hleads)
  have hnodup : order.Nodup := horder.perm.nodup_iff.2 h.declared_nodup
  exact ((isOrder_iff h).1 horder).2.1.not_leadsToCycle hnodup hname hleads

/-- **What is found is the order**, if there is one. -/
theorem dependencyOrder_eq_ok_iff (h : g.IsRegular) :
    g.dependencyOrder = .ok order ↔ g.IsOrder order := by
  refine ⟨isOrder_of_dependencyOrder h, fun horder => ?_⟩
  have hrows : ∀ row ∈ g.rows, row.1 ∈ g.declared := fun row hrow =>
    h.rows_perm.subset (List.mem_map_of_mem hrow)
  rcases dependencyOrder_cases h.declared_nodup hrows with
    ⟨-, other, hother⟩ | ⟨names, hne, hmem, -⟩
  · rw [hother, (isOrder_of_dependencyOrder h hother).unique h horder]
  · -- some name would need itself
    obtain ⟨name, hname⟩ := List.exists_mem_of_ne_nil _ hne
    obtain ⟨b, -, hcycle⟩ := (leadsToCycle_iff h).1 ((hmem name).1 hname).2
    exact absurd hcycle (horder.not_needs_self h b)

/-- **The outcome of ordering.**  There is an order exactly if no name needs itself, be it through
others, and then it is the one with the next name at every place; names that are declared after
their dependencies keep their order.  Otherwise the error lists, by their code points, the names
that need themselves or lead to such a name. -/
theorem dependencyOrder_outcome (h : g.IsRegular) :
    ((∃ order, g.dependencyOrder = .ok order) ↔ ∀ name, ¬ Relation.TransGen g.Needs name name) ∧
      (∀ order, g.dependencyOrder = .ok order ↔ g.IsOrder order) ∧
      ((∀ before name after, g.declared = before ++ name :: after →
        ∀ d, g.Needs name d → d ∈ before) → g.dependencyOrder = .ok g.declared) ∧
      ∀ error, g.dependencyOrder = .error error → ∃ names, error = .cycle names ∧
        error.message = "Dependency cycle among: " ++ ", ".intercalate names ∧
        names.Pairwise (· < ·) ∧
        ∀ name, name ∈ names ↔
          ∃ b, Relation.ReflTransGen g.Needs name b ∧ Relation.TransGen g.Needs b b := by
  have hrows : ∀ row ∈ g.rows, row.1 ∈ g.declared := fun row hrow =>
    h.rows_perm.subset (List.mem_map_of_mem hrow)
  refine ⟨⟨?_, fun hacyclic => ?_⟩, fun order => dependencyOrder_eq_ok_iff h,
    fun hfirst => (dependencyOrder_eq_ok_iff h).2 (isOrder_declared h hfirst),
    fun error herror => ?_⟩
  · rintro ⟨order, horder⟩
    exact (isOrder_of_dependencyOrder h horder).not_needs_self h
  · rcases dependencyOrder_cases h.declared_nodup hrows with ⟨-, horder⟩ | ⟨names, hne, hmem, -⟩
    · exact horder
    · obtain ⟨name, hname⟩ := List.exists_mem_of_ne_nil _ hne
      obtain ⟨b, -, hcycle⟩ := (leadsToCycle_iff h).1 ((hmem name).1 hname).2
      exact absurd hcycle (hacyclic b)
  · rcases dependencyOrder_cases h.declared_nodup hrows with
      ⟨-, order, horder⟩ | ⟨names, -, hmem, hcycle⟩
    · rw [herror] at horder
      cases horder
    · obtain rfl : error = .cycle names := Except.error.inj (herror.symm.trans hcycle)
      refine ⟨names, rfl, rfl, pairwise_lt_of_cycle h.declared_nodup herror, fun name => ?_⟩
      rw [hmem, ← leadsToCycle_iff h]
      exact and_iff_right_of_imp (mem_declared_of_leadsToCycle h)

/-- A graph with a dependency that is listed twice, one that is not declared, and rows in another
order than the names. -/
def sampleGraph : Dependencies where
  declared := ["map", "each", "keys", "isArray"]
  rows := [("each", ["isArray"]), ("isArray", []), ("map", ["each", "nowhere", "each"]),
    ("keys", [])]

/-- A graph with a circle, a name that leads into it and one that it leads to. -/
def knottedGraph : Dependencies where
  declared := ["map", "each", "isArray", "every"]
  rows := [("map", ["every"]), ("each", ["every", "isArray"]), ("isArray", []),
    ("every", ["each"])]

/-- The two outcomes. -/
theorem sampleGraph_outcome :
    sampleGraph.IsRegular ∧ sampleGraph.IsOrder ["keys", "isArray", "each", "map"] ∧
      (∀ name, ¬ Relation.TransGen sampleGraph.Needs name name) ∧
      knottedGraph.IsRegular ∧
      knottedGraph.dependencyOrder = .error (.cycle ["each", "every", "map"]) ∧
      (∃ b, Relation.ReflTransGen knottedGraph.Needs "map" b ∧
        Relation.TransGen knottedGraph.Needs b b) := by
  have hsample : sampleGraph.IsRegular := ⟨by decide, by decide⟩
  have hknotted : knottedGraph.IsRegular := ⟨by decide, by decide⟩
  have horder : sampleGraph.dependencyOrder = .ok ["keys", "isArray", "each", "map"] := by
    decide +kernel
  have hsorted : (["map", "each", "every"].mergeSort fun a b => decide (a ≤ b)) =
      ["each", "every", "map"] := by simp [List.mergeSort]
  have herror : knottedGraph.dependencyOrder = .error (.cycle ["each", "every", "map"]) := by
    rw [← hsorted]
    rfl
  obtain ⟨hacyclic, hfound, -, -⟩ := dependencyOrder_outcome hsample
  obtain ⟨-, -, -, hfailed⟩ := dependencyOrder_outcome hknotted
  obtain ⟨names, hnames, -, -, hmem⟩ := hfailed _ herror
  cases hnames
  exact ⟨hsample, (hfound _).1 horder, hacyclic.1 ⟨_, horder⟩, hknotted, herror,
    (hmem "map").1 (by decide)⟩

end Dependencies

end CustomBuild.Graph
