import CustomBuild.Graph.Reach
import Mathlib.Logic.Relation
import Mathlib.Data.List.Nodup

/-!
# What a walk visits

`reachable next pool queue` visits a name exactly if a chain of steps that never leaves `pool` leads
to it from a name of the queue (`mem_reachable_iff`).  If `next` never leads out of the pool, the
pool bounds the walk but does not restrict it (`mem_reachable_iff_of_closed`).

The walk takes a visited name out of the pool, so the induction needs chains that avoid that name:
a chain that comes past it can be replaced by the part after its last visit
(`Reaches.avoid`).
-/

namespace CustomBuild.Graph

variable {next : String → List String} {pool queue : List String} {a b c x name : String}

@[simp]
theorem mem_without : x ∈ without name pool ↔ x ∈ pool ∧ x ≠ name := by
  simp [without]

/-! ### Chains of steps -/

theorem Reaches.single (h : b ∈ next a) : Reaches next a b :=
  .step h (.refl b)

theorem Reaches.trans (hab : Reaches next a b) (hbc : Reaches next b c) : Reaches next a c := by
  induction hab with
  | refl => exact hbc
  | step h _ ih => exact .step h (ih hbc)

/-- A chain of steps is a chain of any steps that there are at least as many of. -/
theorem Reaches.mono {other : String → List String} (h : ∀ u v, v ∈ next u → v ∈ other u)
    (hab : Reaches next a b) : Reaches other a b := by
  induction hab with
  | refl u => exact .refl u
  | step hu _ ih => exact .step (h _ _ hu) ih

/-- What steps preserve, chains of steps preserve. -/
theorem Reaches.closed {P : String → Prop} (h : ∀ u, P u → ∀ v ∈ next u, P v)
    (hab : Reaches next a b) (ha : P a) : P b := by
  induction hab with
  | refl => exact ha
  | step hu _ ih => exact ih (h _ ha _ hu)

/-- **Chains of steps** are the reflexive and transitive closure of single steps. -/
theorem reaches_iff_reflTransGen :
    Reaches next a b ↔ Relation.ReflTransGen (fun u v => v ∈ next u) a b := by
  constructor
  · intro h
    induction h with
    | refl => exact .refl
    | step hu _ ih => exact .head hu ih
  · intro h
    induction h with
    | refl => exact .refl a
    | tail _ hv ih => exact ih.trans (.single hv)

/-! ### Chains inside a pool -/

/-- The steps of `next` that end in a pool. -/
def within (pool : List String) (next : String → List String) (u : String) : List String :=
  (next u).filter (· ∈ pool)

@[simp]
theorem mem_within : b ∈ within pool next a ↔ b ∈ next a ∧ b ∈ pool := by
  simp [within]

/-- Chains inside a smaller pool are chains inside a larger one. -/
theorem Reaches.within_mono {larger : List String} (h : ∀ u ∈ pool, u ∈ larger)
    (hab : Reaches (within pool next) a b) : Reaches (within larger next) a b :=
  hab.mono fun _ v hv => mem_within.2 ⟨(mem_within.1 hv).1, h v (mem_within.1 hv).2⟩

/-- A chain inside a pool ends there. -/
theorem Reaches.mem_pool (h : Reaches (within pool next) a x) (ha : a ∈ pool) : x ∈ pool :=
  h.closed (P := (· ∈ pool)) (fun _ _ _ hv => (mem_within.1 hv).2) ha

/-- Chains inside a pool only take the steps between names of the pool. -/
theorem Reaches.within_congr {other : String → List String}
    (hstep : ∀ u ∈ pool, ∀ v ∈ pool, v ∈ next u → v ∈ other u) (ha : a ∈ pool)
    (h : Reaches (within pool next) a x) : Reaches (within pool other) a x := by
  induction h with
  | refl u => exact .refl u
  | @step u v _ hv _ ih =>
    obtain ⟨hnext, hpool⟩ := mem_within.1 hv
    exact .step (mem_within.2 ⟨hstep u ha v hpool hnext, hpool⟩) (ih hpool)

/-- A pool that `next` never leads out of does not restrict chains. -/
theorem reaches_within_iff (hclosed : ∀ u ∈ pool, ∀ v ∈ next u, v ∈ pool) (ha : a ∈ pool) :
    Reaches (within pool next) a b ↔ Reaches next a b := by
  constructor
  · exact fun h => h.mono fun _ _ hv => (mem_within.1 hv).1
  · intro h
    induction h with
    | refl u => exact .refl u
    | step hu _ ih => exact .step (mem_within.2 ⟨hu, hclosed _ ha _ hu⟩) (ih (hclosed _ ha _ hu))

/-- **Avoiding a name.**  A chain that ends elsewhere either never comes past the name, or has a
rest after its last visit that does not. -/
theorem Reaches.avoid (name : String) (h : Reaches (within pool next) a x) :
    x = name ∨ (a ≠ name ∧ Reaches (within (without name pool) next) a x) ∨
      ∃ b ∈ next name, b ∈ without name pool ∧
        Reaches (within (without name pool) next) b x := by
  induction h with
  | refl u =>
    by_cases hu : u = name
    · exact Or.inl hu
    · exact Or.inr (Or.inl ⟨hu, .refl u⟩)
  | @step u v w hv _ ih =>
    obtain ⟨hstep, hpool⟩ := mem_within.1 hv
    rcases ih with hw | ⟨hne, hvw⟩ | hlater
    · exact Or.inl hw
    · -- the rest avoids the name, so `u` is its last visit or none
      have hmem : v ∈ without name pool := mem_without.2 ⟨hpool, hne⟩
      by_cases hu : u = name
      · exact Or.inr (Or.inr ⟨v, hu ▸ hstep, hmem, hvw⟩)
      · exact Or.inr (Or.inl ⟨hu, .step (mem_within.2 ⟨hstep, hmem⟩) hvw⟩)
    · exact Or.inr (Or.inr hlater)

/-- A chain in a pool leads to a visited name or stays among the names that are left, if no step
leads from a visited name to one that is not. -/
theorem Reaches.visited_or_left {visited left : List String}
    (hclosed : ∀ u ∈ visited, ∀ v ∈ within pool next u, v ∈ visited)
    (hleft : ∀ u, u ∈ left ↔ u ∈ pool ∧ u ∉ visited) (h : Reaches (within pool next) a x)
    (ha : a ∈ pool) : x ∈ visited ∨ a ∈ left ∧ Reaches (within left next) a x := by
  by_cases hvisited : a ∈ visited
  · exact Or.inl (h.closed (P := (· ∈ visited)) hclosed hvisited)
  · have haleft : a ∈ left := (hleft a).2 ⟨ha, hvisited⟩
    induction h with
    | refl u => exact Or.inr ⟨haleft, .refl u⟩
    | @step u v w hv hvw ih =>
      obtain ⟨hstep, hpool⟩ := mem_within.1 hv
      by_cases hvvisited : v ∈ visited
      · exact Or.inl (hvw.closed (P := (· ∈ visited)) hclosed hvvisited)
      · have hvleft : v ∈ left := (hleft v).2 ⟨hpool, hvvisited⟩
        rcases ih hpool hvvisited hvleft with hw | ⟨-, hrest⟩
        · exact Or.inl hw
        · exact Or.inr ⟨haleft, .step (mem_within.2 ⟨hstep, hvleft⟩) hrest⟩

/-! ### The walk -/

theorem reachable_nil : reachable next pool [] = [] := by
  rw [reachable]

theorem reachable_cons_of_mem (h : name ∈ pool) :
    reachable next pool (name :: queue) =
      name :: reachable next (without name pool) (queue ++ next name) := by
  rw [reachable, if_pos h]

theorem reachable_cons_of_not_mem (h : ¬ name ∈ pool) :
    reachable next pool (name :: queue) = reachable next pool queue := by
  rw [reachable, if_neg h]

/-- **What a walk visits**: the names that a chain of steps inside the pool leads to from a name of
the queue. -/
theorem mem_reachable_iff :
    x ∈ reachable next pool queue ↔
      ∃ a ∈ queue, a ∈ pool ∧ Reaches (within pool next) a x := by
  induction pool, queue using reachable.induct next with
  | case1 pool => simp [reachable_nil]
  | case2 pool name rest hmem ih =>
    rw [reachable_cons_of_mem hmem, List.mem_cons, ih]
    constructor
    · rintro (rfl | ⟨a, ha, hpool, hax⟩)
      · exact ⟨x, List.mem_cons_self, hmem, .refl x⟩
      · have hax' : Reaches (within pool next) a x :=
          hax.within_mono fun u hu => (mem_without.1 hu).1
        have hpool' : a ∈ pool := (mem_without.1 hpool).1
        rcases List.mem_append.1 ha with ha | ha
        · exact ⟨a, List.mem_cons_of_mem _ ha, hpool', hax'⟩
        · exact ⟨name, List.mem_cons_self, hmem, .step (mem_within.2 ⟨ha, hpool'⟩) hax'⟩
    · -- the rest of the walk only has what chains that avoid the name lead to
      rintro ⟨a, ha, hpool, hax⟩
      rcases hax.avoid name with hx | ⟨hne, hax'⟩ | ⟨b, hb, hbpool, hbx⟩
      · exact Or.inl hx
      · have ha' : a ∈ rest := (List.mem_cons.1 ha).resolve_left hne
        exact Or.inr ⟨a, List.mem_append_left _ ha', mem_without.2 ⟨hpool, hne⟩, hax'⟩
      · exact Or.inr ⟨b, List.mem_append_right _ hb, hbpool, hbx⟩
  | case3 pool name rest hmem ih =>
    rw [reachable_cons_of_not_mem hmem, ih]
    constructor
    · rintro ⟨a, ha, hpool, hax⟩
      exact ⟨a, List.mem_cons_of_mem _ ha, hpool, hax⟩
    · rintro ⟨a, ha, hpool, hax⟩
      rcases List.mem_cons.1 ha with rfl | ha
      · exact absurd hpool hmem
      · exact ⟨a, ha, hpool, hax⟩

/-- A walk visits a name once. -/
theorem nodup_reachable (next : String → List String) (pool queue : List String) :
    (reachable next pool queue).Nodup := by
  induction pool, queue using reachable.induct next with
  | case1 pool =>
    rw [reachable_nil]
    exact List.nodup_nil
  | case2 pool name rest hmem ih =>
    rw [reachable_cons_of_mem hmem, List.nodup_cons]
    refine ⟨fun hname => ?_, ih⟩
    obtain ⟨a, -, ha, hchain⟩ := mem_reachable_iff.1 hname
    exact (mem_without.1 (hchain.mem_pool ha)).2 rfl
  | case3 pool name rest hmem ih =>
    rw [reachable_cons_of_not_mem hmem]
    exact ih

/-- **A walk in a pool that `next` never leads out of** visits everything that can be reached. -/
theorem mem_reachable_iff_of_closed (hclosed : ∀ u ∈ pool, ∀ v ∈ next u, v ∈ pool) :
    x ∈ reachable next pool queue ↔ ∃ a ∈ queue, a ∈ pool ∧ Reaches next a x := by
  rw [mem_reachable_iff]
  constructor
  · rintro ⟨a, ha, hpool, hax⟩
    exact ⟨a, ha, hpool, (reaches_within_iff hclosed hpool).1 hax⟩
  · rintro ⟨a, ha, hpool, hax⟩
    exact ⟨a, ha, hpool, (reaches_within_iff hclosed hpool).2 hax⟩

end CustomBuild.Graph
