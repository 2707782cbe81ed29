import CustomBuild.Proofs.Graph.Reach
import CustomBuild.Proofs.Registry.Accepted
import CustomBuild.Script.Emission

/-!
# What a script leaves out

The omissions of a list of missing names are walks along the dependents, one after the other, each
in what the walks before it have left.  Together they leave out what a single walk from all missing
names would (`Omission.mem_names_ofMissing_iff`): a name that an earlier walk has visited takes
everything with it that a later walk could reach from there.

For the entries of a script this says which of them are left out: those that lead, by dependencies
between the entries of the script, to one without a fragment (`Registry.Accepted.mem_omitted_iff`).
-/

namespace CustomBuild

/-- The fault reports that the entry is left out. -/
def Fault.Omits : Fault → String → Prop
  | .noFragment name, x => name = x
  | .dependsOnMissing name _, x => name = x
  | .noCore, _ => False
  | .coreLeftOut, _ => False

namespace Omission

variable {dependents : String → List String} {pool missing : List String} {root x : String}

/-- The faults of an omission report what it leaves out. -/
theorem exists_mem_faults_iff {o : Omission} :
    (∃ fault ∈ o.faults, fault.Omits x) ↔ x ∈ o.names := by
  unfold faults names
  rw [List.mem_cons]
  constructor
  · rintro ⟨fault, hfault, homits⟩
    rcases List.mem_cons.1 hfault with rfl | hmem
    · exact Or.inl (Eq.symm homits)
    · obtain ⟨name, hname, rfl⟩ := List.mem_map.1 (List.mem_mergeSort.1 hmem)
      exact Or.inr (homits ▸ hname)
  · rintro (rfl | hx)
    · exact ⟨.noFragment o.root, List.mem_cons_self, rfl⟩
    · refine ⟨.dependsOnMissing x o.root, List.mem_cons_of_mem _ ?_, rfl⟩
      exact List.mem_mergeSort.2 (List.mem_map.2 ⟨x, hx, rfl⟩)

/-- What the walk from a root visits, and what it leaves of the pool. -/
structure Walks (dependents : String → List String) (pool : List String) (root : String)
    (o : Omission) (left : List String) : Prop where
  /-- the walk starts from the root -/
  root_eq : o.root = root
  /-- no name is visited twice -/
  nodup : o.names.Nodup
  /-- chains inside the pool lead from the root to what is visited -/
  mem_names : ∀ u, u ∈ o.names ↔ Graph.Reaches (Graph.within pool dependents) root u
  /-- the other names are left -/
  mem_left : ∀ u, u ∈ left ↔ u ∈ pool ∧ u ∉ o.names

/-- **The first omission** is the walk from its root, the others are walks in what it has left. -/
theorem exists_walks (dependents : String → List String) (missing : List String)
    (hroot : root ∈ pool) :
    ∃ o left, ofMissing dependents pool (root :: missing) =
      o :: ofMissing dependents left missing ∧ Walks dependents pool root o left := by
  have hwalk : root :: Graph.reachable dependents (Graph.without root pool) (dependents root) =
      Graph.reachable dependents pool [root] := by
    rw [Graph.reachable_cons_of_mem hroot, List.nil_append]
  rw [ofMissing, if_pos (List.contains_iff_mem.2 hroot)]
  refine ⟨_, _, rfl, rfl, ?_, fun u => ?_, fun u => ?_⟩
  · rw [names, hwalk]
    exact Graph.nodup_reachable dependents pool [root]
  · rw [names, hwalk, Graph.mem_reachable_iff]
    simp [hroot]
  · simp [names, and_assoc]

/-- A root that is not in the pool any more is passed over. -/
theorem ofMissing_cons_of_not_mem (dependents : String → List String) (missing : List String)
    (hroot : root ∉ pool) :
    ofMissing dependents pool (root :: missing) = ofMissing dependents pool missing := by
  rw [ofMissing, if_neg (mt List.contains_iff_mem.1 hroot)]

namespace Walks

variable {o : Omission} {left : List String} {a : String}

/-- **A chain in the pool** is visited in the end, or starts elsewhere and stays in what is
left. -/
theorem visited_or_left (h : Walks dependents pool root o left) (ha : a ∈ pool)
    (hax : Graph.Reaches (Graph.within pool dependents) a x) :
    x ∈ o.names ∨ a ≠ root ∧ a ∈ left ∧ Graph.Reaches (Graph.within left dependents) a x := by
  have hclosed : ∀ u ∈ o.names, ∀ v ∈ Graph.within pool dependents u, v ∈ o.names :=
    fun u hu v hv => (h.mem_names v).2 (((h.mem_names u).1 hu).trans (.single hv))
  rcases hax.visited_or_left hclosed h.mem_left ha with hx | ⟨haleft, hax'⟩
  · exact Or.inl hx
  · refine Or.inr ⟨?_, haleft, hax'⟩
    rintro rfl
    exact ((h.mem_left a).1 haleft).2 ((h.mem_names a).2 (.refl a))

/-- Chains in what is left are chains in the pool. -/
theorem reaches_of_left (h : Walks dependents pool root o left)
    (hax : Graph.Reaches (Graph.within left dependents) a x) :
    Graph.Reaches (Graph.within pool dependents) a x :=
  hax.within_mono fun u hu => ((h.mem_left u).1 hu).1

end Walks

/-- **The names that omissions leave out**: those that chains of dependents inside the pool lead to
from a missing name. -/
theorem mem_names_ofMissing_iff :
    x ∈ (ofMissing dependents pool missing).flatMap names ↔
      ∃ root ∈ missing, root ∈ pool ∧ Graph.Reaches (Graph.within pool dependents) root x := by
  induction missing generalizing pool with
  | nil => simp [ofMissing]
  | cons root rest ih =>
    by_cases hroot : root ∈ pool
    · -- what the first omission names is gone from the pool of the others, so a name that a chain
      -- leads to is in the first one or is led to within what is left
      obtain ⟨o, left, heq, hwalk⟩ := exists_walks dependents rest hroot
      rw [heq, List.flatMap_cons, List.mem_append, ih]
      constructor
      · rintro (hx | ⟨a, ha, haleft, hax⟩)
        · exact ⟨root, List.mem_cons_self, hroot, (hwalk.mem_names x).1 hx⟩
        · exact ⟨a, List.mem_cons_of_mem _ ha, ((hwalk.mem_left a).1 haleft).1,
            hwalk.reaches_of_left hax⟩
      · rintro ⟨a, ha, hpool, hax⟩
        rcases hwalk.visited_or_left hpool hax with hx | ⟨hne, haleft, hax'⟩
        · exact Or.inl hx
        · exact Or.inr ⟨a, (List.mem_cons.1 ha).resolve_left hne, haleft, hax'⟩
    · rw [ofMissing_cons_of_not_mem dependents rest hroot, ih]
      constructor
      · rintro ⟨a, ha, hpool, hax⟩
        exact ⟨a, List.mem_cons_of_mem _ ha, hpool, hax⟩
      · rintro ⟨a, ha, hpool, hax⟩
        have hne : a ≠ root := fun heq => hroot (heq ▸ hpool)
        exact ⟨a, (List.mem_cons.1 ha).resolve_left hne, hpool, hax⟩

end Omission

/-! ### The entries of a script -/

namespace Registry

variable {r : Registry} {modes : NameSet} {emitted : List String} {a b x : String}

/-- One dependency between names of a list. -/
def NeedsWithin (r : Registry) (names : List String) (a b : String) : Prop :=
  a ∈ names ∧ r.Needs a b ∧ b ∈ names

/-- The dependents of each name of a list are those in the list, in whatever order and number. -/
def ListsDependents (r : Registry) (names : List String) (dependents : String → List String) :
    Prop :=
  ∀ a ∈ names, ∀ b, b ∈ dependents a ↔ b ∈ names ∧ r.Needs b a

namespace ListsDependents

variable {dependents : String → List String}

/-- Chains of dependents are chains of dependencies read backwards. -/
theorem reaches_iff (h : r.ListsDependents emitted dependents) (ha : a ∈ emitted) :
    Graph.Reaches (Graph.within emitted dependents) a x ↔
      x ∈ emitted ∧ Relation.ReflTransGen (r.NeedsWithin emitted) x a := by
  constructor
  · intro hax
    induction hax with
    | refl => exact ⟨ha, .refl⟩
    | step hstep _ ih =>
      obtain ⟨hdependent, hmem⟩ := Graph.mem_within.1 hstep
      obtain ⟨hx, hchain⟩ := ih hmem
      exact ⟨hx, hchain.tail ⟨hmem, ((h _ ha _).1 hdependent).2, ha⟩⟩
  · rintro ⟨hx, hchain⟩
    induction hchain using Relation.ReflTransGen.head_induction_on with
    | refl => exact .refl a
    | head hstep _ ih =>
      obtain ⟨hmem, hneeds, hnext⟩ := hstep
      exact (ih hnext).trans
        (.single (Graph.mem_within.2 ⟨(h _ hnext _).2 ⟨hmem, hneeds⟩, hmem⟩))

/-- Entries are left out if they lead to one without a fragment, in whatever order dependents are
visited. -/
theorem mem_omitted_iff (h : r.ListsDependents emitted dependents) :
    x ∈ (Omission.ofMissing dependents emitted
        (emitted.filter fun name => (r.fragment? modes name).isNone)).flatMap Omission.names ↔
      x ∈ emitted ∧ ∃ root ∈ emitted, r.fragment? modes root = none ∧
        Relation.ReflTransGen (r.NeedsWithin emitted) x root := by
  rw [Omission.mem_names_ofMissing_iff]
  constructor
  · rintro ⟨root, hmissing, hroot, hchain⟩
    obtain ⟨hx, hneeds⟩ := (h.reaches_iff hroot).1 hchain
    have hnone := (List.mem_filter.1 hmissing).2
    exact ⟨hx, root, hroot, Option.isNone_iff_eq_none.1 hnone, hneeds⟩
  · rintro ⟨hx, root, hroot, hnone, hneeds⟩
    refine ⟨root, List.mem_filter.2 ⟨hroot, Option.isNone_iff_eq_none.2 hnone⟩, hroot, ?_⟩
    exact (h.reaches_iff hroot).2 ⟨hx, hneeds⟩

end ListsDependents

namespace Accepted

theorem mem_dependentsIn_iff (h : r.Accepted) :
    b ∈ dependentsIn (r.dependencyRows emitted) a ↔ b ∈ emitted ∧ r.Needs b a := by
  unfold dependentsIn dependencyRows
  rw [List.mem_map]
  constructor
  · rintro ⟨row, hrow, rfl⟩
    obtain ⟨hmem, hlists⟩ := List.mem_filter.1 hrow
    obtain ⟨name, hname, rfl⟩ := List.mem_map.1 hmem
    exact ⟨hname, h.mem_dependencies_iff.1 (List.contains_iff_mem.1 hlists)⟩
  · rintro ⟨hb, hneeds⟩
    refine ⟨(b, r.dependencies b), List.mem_filter.2 ⟨List.mem_map.2 ⟨b, hb, rfl⟩, ?_⟩, rfl⟩
    exact List.contains_iff_mem.2 (h.mem_dependencies_iff.2 hneeds)

theorem listsDependents_dependentsIn (h : r.Accepted) :
    r.ListsDependents emitted (dependentsIn (r.dependencyRows emitted)) :=
  fun _ _ _ => h.mem_dependentsIn_iff

/-- **The entries that are left out** of a list of entries: those that lead, by dependencies between
entries of the list, to one without a fragment. -/
theorem mem_omitted_iff (h : r.Accepted) :
    x ∈ (Omission.ofMissing (dependentsIn (r.dependencyRows emitted)) emitted
        (emitted.filter fun name => (r.fragment? modes name).isNone)).flatMap Omission.names ↔
      x ∈ emitted ∧ ∃ root ∈ emitted, r.fragment? modes root = none ∧
        Relation.ReflTransGen (r.NeedsWithin emitted) x root :=
  h.listsDependents_dependentsIn.mem_omitted_iff

end Accepted

end Registry

end CustomBuild
