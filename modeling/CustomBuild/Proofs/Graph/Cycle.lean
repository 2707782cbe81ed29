import CustomBuild.Proofs.Graph.Order
import Mathlib.Data.Fintype.Pigeonhole
import Mathlib.Data.Fintype.Sets

/-!
# Names without an order

`dependencyOrder` fails exactly if names depend on each other in a circle, and then its error lists
the names that lead into one (`dependencyOrder_cases`).

A run of placings that is long enough ends when no waiting name is ready any more
(`Waiting.not_isReady_of_mem_place`), so each name that is left depends on another one that is left.
Among finitely many names such a chain comes back to where it has been (`leadsToCycle_of_closed`).
The other way around, a name that is placed stands after everything that it leads to, which a name
on a circle cannot do.
-/

namespace CustomBuild.Graph

/-- **A name that leads into a circle**: it is, or depends on by a chain of dependencies, a name
that depends on itself by such a chain. -/
def LeadsToCycle (dependencies : String → List String) (a : String) : Prop :=
  ∃ b, Relation.ReflTransGen (fun x y => y ∈ dependencies x) a b ∧
    Relation.TransGen (fun x y => y ∈ dependencies x) b b

section Parts

variable {dependencies : String → List String} {names order : List String} {a : String}

/-- Finitely many names, each of which depends on one of them, lead into circles. -/
theorem leadsToCycle_of_closed (hclosed : ∀ x ∈ names, ∃ y ∈ names, y ∈ dependencies x)
    (ha : a ∈ names) : LeadsToCycle dependencies a := by
  choose! next hmem hstep using hclosed
  have hnames : ∀ n : ℕ, next^[n] a ∈ names := by
    intro n
    induction n with
    | zero => exact ha
    | succ n ih =>
      rw [Function.iterate_succ_apply']
      exact hmem _ ih
  have hnext : ∀ n : ℕ, next^[n + 1] a ∈ dependencies (next^[n] a) := by
    intro n
    rw [Function.iterate_succ_apply']
    exact hstep _ (hnames n)
  have hchain : ∀ i n : ℕ, Relation.TransGen (fun x y => y ∈ dependencies x)
      (next^[i] a) (next^[i + n + 1] a) := by
    intro i n
    induction n with
    | zero => exact .single (hnext i)
    | succ n ih => exact ih.tail (hnext (i + n + 1))
  -- of the infinitely many places in the chain, two have one name
  obtain ⟨i, j, hne, heq⟩ := Finite.exists_ne_map_eq_of_infinite
    fun n : ℕ => (⟨next^[n] a, hnames n⟩ : {x // x ∈ names})
  have hname : next^[i] a = next^[j] a := congrArg Subtype.val heq
  wlog hij : i < j generalizing i j
  · exact this j i hne.symm heq.symm hname.symm (by omega)
  obtain ⟨n, rfl⟩ := Nat.exists_eq_add_of_lt hij
  refine ⟨next^[i] a, ?_, ?_⟩
  · cases i with
    | zero => exact .refl
    | succ i =>
      have hstart := hchain 0 i
      rw [Nat.zero_add] at hstart
      exact hstart.to_reflTransGen
  · have hcycle := hchain i n
    rwa [← hname] at hcycle

/-- A name in an order with dependencies first does not lead into a circle. -/
theorem DependenciesFirst.not_leadsToCycle (h : DependenciesFirst dependencies order)
    (hnodup : order.Nodup) (ha : a ∈ order) : ¬ LeadsToCycle dependencies a := by
  rintro ⟨b, hab, hcycle⟩
  have hb : b ∈ order := by
    rcases Relation.reflTransGen_iff_eq_or_transGen.1 hab with rfl | hab
    · exact ha
    · obtain ⟨before, after, hsplit⟩ := List.append_of_mem ha
      rw [hsplit]
      exact List.mem_append_left _ (h.mem_before_of_transGen hsplit hab)
  -- a name on a circle would stand before itself
  obtain ⟨before, after, hsplit⟩ := List.append_of_mem hb
  exact not_mem_before hnodup hsplit (h.mem_before_of_transGen hsplit hcycle)

end Parts

namespace Waiting

/-! ### The end of a run -/

variable {placed : List String} {waiting : List Waiting} {next w : Waiting} {count : ℕ}

/-- Something that is ready leaves fewer names to wait. -/
theorem length_after_lt (h : Consistent placed waiting) (hnext : next ∈ waiting) :
    (waiting.filterMap (after next.name)).length < waiting.length := by
  have hnames : ((waiting.filterMap (after next.name)).map Waiting.name).length =
      ((waiting.map Waiting.name).filter fun other => other != next.name).length := by
    rw [map_name_after h.single]
  rw [List.length_map] at hnames
  rw [hnames, ← waiting.length_map Waiting.name]
  exact List.length_filter_lt_length_iff_exists.2
    ⟨next.name, List.mem_map_of_mem hnext, by simp⟩

/-- **A run goes on as long as a name is ready**, if it is long enough. -/
theorem not_isReady_of_mem_place (h : Consistent placed waiting) (hcount : waiting.length ≤ count)
    (hw : w ∈ (place count waiting).2) : ¬ w.isReady = true := by
  induction count generalizing placed waiting with
  | zero =>
    rw [List.length_eq_zero_iff.1 (Nat.le_zero.1 hcount)] at hw
    cases hw
  | succ count ih =>
    cases hfind : waiting.find? isReady with
    | none =>
      rw [place_succ_of_none hfind] at hw
      exact List.find?_eq_none.1 hfind w hw
    | some next =>
      have hnext := List.mem_of_find?_eq_some hfind
      rw [place_succ_of_some hfind] at hw
      exact ih (h.step hnext) (by have := length_after_lt h hnext; omega) hw

end Waiting

namespace Dependencies

variable {g : Dependencies} {a name : String}

/-- The names that are left when nothing can be placed any more. -/
def stuck (g : Dependencies) : List String :=
  (Waiting.place g.declared.length g.waiting).2.map Waiting.name

/-- What is placed and what is stuck are the declared names. -/
theorem perm_placed_stuck (hdeclared : g.declared.Nodup) :
    ((Waiting.place g.declared.length g.waiting).1 ++ g.stuck).Perm g.declared := by
  have hperm := (Waiting.run_place g.declared.length g.waiting).perm (consistent_waiting hdeclared)
  rwa [map_name_waiting hdeclared] at hperm

theorem isReady_eq_false_of_left (hdeclared : g.declared.Nodup) {w : Waiting}
    (hw : w ∈ (Waiting.place g.declared.length g.waiting).2) : w.isReady = false := by
  have hlength : g.waiting.length ≤ g.declared.length := by
    rw [← g.waiting.length_map Waiting.name, map_name_waiting hdeclared]
  exact Bool.eq_false_iff.2
    (Waiting.not_isReady_of_mem_place (consistent_waiting hdeclared) hlength hw)

/-- **A stuck name** depends on one that is stuck, too. -/
theorem exists_stuck_dependency (hdeclared : g.declared.Nodup) (ha : a ∈ g.stuck) :
    ∃ b ∈ g.stuck, b ∈ g.of a := by
  obtain ⟨w, hw, rfl⟩ := List.mem_map.1 ha
  have hrun := Waiting.run_place g.declared.length g.waiting
  have hbooks := hrun.consistent (consistent_waiting hdeclared)
  have hready := isReady_eq_false_of_left hdeclared hw
  rw [← Bool.not_eq_true, hbooks.isReady_iff hw] at hready
  push Not at hready
  obtain ⟨d, hd, hplaced⟩ := hready
  obtain ⟨v, hv, hname, hdependencies⟩ :=
    hrun.exists_mem_waiting (consistent_waiting hdeclared) hw
  have hof : d ∈ g.of w.name := by
    rwa [← hname, ← dependencies_of_mem_waiting hv, hdependencies]
  refine ⟨d, ?_, hof⟩
  -- a dependency is declared, so it is stuck if it is not placed
  have hdeclares : d ∈ g.declared := by
    unfold of at hof
    exact List.contains_iff_mem.1 (List.mem_filter.1 (List.mem_eraseDups.1 hof)).2
  rcases List.mem_append.1 ((perm_placed_stuck hdeclared).mem_iff.2 hdeclares) with hd | hd
  · exact absurd (List.mem_append_left _ (List.mem_reverse.2 hd)) hplaced
  · exact hd

/-- **The stuck names** are those that lead into a circle. -/
theorem mem_stuck_iff (hdeclared : g.declared.Nodup) :
    name ∈ g.stuck ↔ name ∈ g.declared ∧ LeadsToCycle g.of name := by
  have hperm := perm_placed_stuck hdeclared
  constructor
  · intro hname
    exact ⟨hperm.subset (List.mem_append_right _ hname),
      leadsToCycle_of_closed (fun _ hx => exists_stuck_dependency hdeclared hx) hname⟩
  · rintro ⟨hname, hcycle⟩
    refine (List.mem_append.1 (hperm.mem_iff.2 hname)).resolve_left fun hplaced => ?_
    have hnodup := (List.nodup_append.1 (hperm.nodup_iff.2 hdeclared)).1
    exact (dependenciesFirst_place hdeclared _).not_leadsToCycle hnodup hplaced hcycle

/-- Without stuck names everything is placed, and the other way around. -/
theorem length_placed_eq_iff (hdeclared : g.declared.Nodup) :
    (Waiting.place g.declared.length g.waiting).1.length = g.declared.length ↔ g.stuck = [] := by
  have hlength := (perm_placed_stuck hdeclared).length_eq
  rw [List.length_append] at hlength
  rw [← List.length_eq_zero_iff]
  omega

/-- **The outcome of ordering** distinct names, if only these have rows of dependencies: an order if
no name leads into a circle, and otherwise the names that do. -/
theorem dependencyOrder_cases (hdeclared : g.declared.Nodup)
    (hrows : ∀ row ∈ g.rows, row.1 ∈ g.declared) :
    ((∀ name ∈ g.declared, ¬ LeadsToCycle g.of name) ∧
        ∃ order, g.dependencyOrder = .ok order) ∨
      ∃ names, names ≠ [] ∧ (∀ name, name ∈ names ↔ name ∈ g.declared ∧ LeadsToCycle g.of name) ∧
        g.dependencyOrder = .error (.cycle names) := by
  -- every row is of a declared name, so no row is at fault
  have hfind : (g.rows.find? fun row =>
      !g.declared.contains row.1 && row.2.any fun name => g.declared.contains name) = none := by
    rw [List.find?_eq_none]
    intro row hrow
    simp [hrows row hrow]
  -- what is left waiting is not ready, so the names of the error are those that are left
  have hleft : (Waiting.place g.declared.length g.waiting).2.filter (fun w => !w.isReady) =
      (Waiting.place g.declared.length g.waiting).2 := by
    rw [List.filter_eq_self]
    intro w hw
    rw [isReady_eq_false_of_left hdeclared hw]
    rfl
  by_cases hstuck : g.stuck = []
  · left
    refine ⟨fun name hname hcycle => ?_, (Waiting.place g.declared.length g.waiting).1, ?_⟩
    · have hmem := (mem_stuck_iff hdeclared).2 ⟨hname, hcycle⟩
      rw [hstuck] at hmem
      cases hmem
    · rw [dependencyOrder, hfind]
      exact if_pos ((length_placed_eq_iff hdeclared).2 hstuck)
  · right
    have hmem : ∀ name, name ∈ (g.declared.filter fun name => g.stuck.contains name).mergeSort
        (fun a b => decide (a ≤ b)) ↔ name ∈ g.declared ∧ LeadsToCycle g.of name := by
      intro name
      rw [List.mem_mergeSort, List.mem_filter, List.contains_iff_mem, mem_stuck_iff hdeclared,
        and_iff_right_of_imp And.left]
    refine ⟨_, fun hnil => ?_, hmem, ?_⟩
    · obtain ⟨name, hname⟩ := List.exists_mem_of_ne_nil _ hstuck
      have hlisted := (hmem name).2 ((mem_stuck_iff hdeclared).1 hname)
      rw [hnil] at hlisted
      cases hlisted
    · rw [dependencyOrder, hfind]
      simp only [hleft]
      exact if_neg (mt (length_placed_eq_iff hdeclared).1 hstuck)

end Dependencies

end CustomBuild.Graph
