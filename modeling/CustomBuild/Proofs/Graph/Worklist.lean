import CustomBuild.Proofs.Graph.Reach
import Mathlib.Logic.Function.Iterate

/-!
# Walking with a worklist

A walk can keep the names that it has seen instead of those that it may still visit.  Its worklist
has the names that wait, some of them perhaps many times, and a turn (`Worklist.turn`) looks at the
first of them.

A name that waits is taken off the list for good, and what it leads to is added only when it is seen
for the first time.  So the names that wait and the steps from names that are not seen yet
(`Worklist.budget`) bound the turns that are left, in a circle as in any other graph
(`queue_iterate_turn`).  What waits or has been seen can be reached, and what a seen name leads to
waits or has been seen (`Sweeps`); so in the end exactly what can be reached has been seen.
-/

namespace CustomBuild.Graph

/-- A walk under way. -/
structure Worklist where
  /-- the names that have been seen -/
  seen : List String
  /-- the names that wait -/
  queue : List String
deriving DecidableEq, Repr

namespace Worklist

variable {next : String → List String} {pool names : List String} {w : Worklist} {n : ℕ}
  {x : String}

/-- The beginning of a walk from the given names. -/
def start (names : List String) : Worklist where
  seen := []
  queue := names

/-- **One turn**: the first name that waits is looked at.  If it is new, what it leads to waits from
now on, except what has been seen. -/
def turn (next : String → List String) (w : Worklist) : Worklist :=
  match w.queue with
  | [] => w
  | name :: rest =>
    if name ∈ w.seen then { w with queue := rest }
    else
      { seen := name :: w.seen,
        queue := rest ++ (next name).filter fun other => other ∉ name :: w.seen }

theorem turn_of_nil (h : w.queue = []) : w.turn next = w := by
  rw [turn, h]

theorem turn_of_seen {name : String} {rest : List String} (h : w.queue = name :: rest)
    (hseen : name ∈ w.seen) : w.turn next = { w with queue := rest } := by
  rw [turn, h]
  exact if_pos hseen

theorem turn_of_new {name : String} {rest : List String} (h : w.queue = name :: rest)
    (hnew : name ∉ w.seen) :
    w.turn next =
      { seen := name :: w.seen,
        queue := rest ++ (next name).filter fun other => other ∉ name :: w.seen } := by
  rw [turn, h]
  exact if_neg hnew

/-! ### The walk ends -/

/-- How many steps there are from names. -/
def stepCount (next : String → List String) (names : List String) : ℕ :=
  (names.flatMap next).length

/-- The names of a pool that have not been seen. -/
def unseen (pool : List String) (w : Worklist) : List String :=
  pool.filter fun a => a ∉ w.seen

/-- **What can still be looked at**: the names that wait, and what is reached by steps from names of
the pool that have not been seen. -/
def budget (next : String → List String) (pool : List String) (w : Worklist) : ℕ :=
  w.queue.length + stepCount next (w.unseen pool)

theorem budget_start : (start names).budget next pool = names.length + stepCount next pool := by
  simp [budget, unseen, start]

/-- A name that leads anywhere takes its steps along when it leaves. -/
theorem stepCount_erase_add_le {name : String} (hname : next name ≠ [] → name ∈ names) :
    stepCount next (names.erase name) + (next name).length ≤ stepCount next names := by
  by_cases hmem : name ∈ names
  · have hperm : (names.flatMap next).Perm (next name ++ (names.erase name).flatMap next) :=
      (List.perm_cons_erase hmem).flatMap_right next
    refine Nat.le_of_eq ?_
    rw [stepCount, stepCount, hperm.length_eq, List.length_append, Nat.add_comm]
  · have hnil : next name = [] := not_imp_comm.1 hname hmem
    rw [List.erase_of_not_mem hmem, hnil]
    exact Nat.le_refl _

/-- **A turn uses up some of the budget**, as long as names wait and only names of the pool lead
anywhere. -/
theorem budget_turn_lt (hpool : pool.Nodup) (hnext : ∀ a, next a ≠ [] → a ∈ pool)
    (hqueue : w.queue ≠ []) : (w.turn next).budget next pool < w.budget next pool := by
  obtain ⟨name, rest, hcons⟩ := List.exists_cons_of_ne_nil hqueue
  by_cases hseen : name ∈ w.seen
  · rw [turn_of_seen hcons hseen, budget, budget, hcons, List.length_cons]
    exact Nat.add_lt_add_right (Nat.lt_succ_self _) _
  · have hunseen : (w.turn next).unseen pool = (w.unseen pool).erase name := by
      rw [unseen, unseen, (hpool.filter _).erase_eq_filter, List.filter_filter,
        turn_of_new hcons hseen]
      refine List.filter_congr fun a _ => ?_
      rw [Bool.eq_iff_iff]
      simp [not_or]
    -- the steps from the name leave the sum when what they lead to begins to wait
    have hsteps : stepCount next ((w.unseen pool).erase name) + (next name).length ≤
        stepCount next (w.unseen pool) :=
      stepCount_erase_add_le fun hne => List.mem_filter.2 ⟨hnext name hne, by simpa using hseen⟩
    have hadded : ((next name).filter fun other => other ∉ name :: w.seen).length ≤
        (next name).length := List.length_filter_le _ _
    rw [budget, budget, hunseen, turn_of_new hcons hseen, hcons, List.length_append,
      List.length_cons]
    omega

/-- **The walk ends** after as many turns as the budget allows, if not before. -/
theorem queue_iterate_turn (hpool : pool.Nodup) (hnext : ∀ a, next a ≠ [] → a ∈ pool)
    (hbudget : w.budget next pool ≤ n) : ((turn next)^[n] w).queue = [] := by
  induction n generalizing w with
  | zero =>
    exact List.length_eq_zero_iff.1 (Nat.le_zero.1 (Nat.le_of_add_right_le hbudget))
  | succ n ih =>
    rw [Function.iterate_succ_apply]
    by_cases hqueue : w.queue = []
    · rw [turn_of_nil hqueue, Function.iterate_fixed (turn_of_nil hqueue)]
      exact hqueue
    · have hlt := budget_turn_lt hpool hnext hqueue
      exact ih (by omega)

/-! ### What the walk has seen -/

/-- **The walk sweeps what can be reached** from the given names: it is on its way to all of it, and
has nothing else. -/
structure Sweeps (next : String → List String) (names : List String) (w : Worklist) : Prop where
  /-- what waits or has been seen can be reached -/
  reached : ∀ x, x ∈ w.seen ∨ x ∈ w.queue → ∃ a ∈ names, Reaches next a x
  /-- the given names wait or have been seen -/
  begun : ∀ a ∈ names, a ∈ w.seen ∨ a ∈ w.queue
  /-- what a seen name leads to waits or has been seen -/
  closed : ∀ a ∈ w.seen, ∀ b ∈ next a, b ∈ w.seen ∨ b ∈ w.queue

namespace Sweeps

theorem start (next : String → List String) (names : List String) :
    Sweeps next names (start names) where
  reached := fun x hx => ⟨x, hx.resolve_left List.not_mem_nil, .refl x⟩
  begun := fun _ ha => Or.inr ha
  closed := fun _ ha => absurd ha List.not_mem_nil

/-- What waits or has been seen does so after a turn. -/
theorem mem_turn (hx : x ∈ w.seen ∨ x ∈ w.queue) :
    x ∈ (w.turn next).seen ∨ x ∈ (w.turn next).queue := by
  cases hcons : w.queue with
  | nil => rwa [turn_of_nil hcons]
  | cons name rest =>
    rw [hcons, List.mem_cons] at hx
    by_cases hseen : name ∈ w.seen
    · rw [turn_of_seen hcons hseen]
      rcases hx with hx | rfl | hx
      · exact Or.inl hx
      · exact Or.inl hseen
      · exact Or.inr hx
    · rw [turn_of_new hcons hseen]
      rcases hx with hx | rfl | hx
      · exact Or.inl (List.mem_cons_of_mem _ hx)
      · exact Or.inl List.mem_cons_self
      · exact Or.inr (List.mem_append_left _ hx)

/-- **A turn goes on sweeping.** -/
theorem turn (h : Sweeps next names w) : Sweeps next names (w.turn next) := by
  have hbegun : ∀ a ∈ names, a ∈ (w.turn next).seen ∨ a ∈ (w.turn next).queue :=
    fun a ha => mem_turn (h.begun a ha)
  have hclosed : ∀ a ∈ w.seen, ∀ b ∈ next a, b ∈ (w.turn next).seen ∨ b ∈ (w.turn next).queue :=
    fun a ha b hb => mem_turn (h.closed a ha b hb)
  cases hcons : w.queue with
  | nil =>
    rw [turn_of_nil hcons]
    exact h
  | cons name rest =>
    have hname : ∃ a ∈ names, Reaches next a name :=
      h.reached name (Or.inr (hcons ▸ List.mem_cons_self))
    have hrest : ∀ x ∈ rest, ∃ a ∈ names, Reaches next a x :=
      fun x hx => h.reached x (Or.inr (hcons ▸ List.mem_cons_of_mem _ hx))
    by_cases hseen : name ∈ w.seen
    · rw [turn_of_seen hcons hseen] at hbegun hclosed ⊢
      exact ⟨fun x hx => hx.elim (fun hx => h.reached x (Or.inl hx)) (hrest x), hbegun, hclosed⟩
    · rw [turn_of_new hcons hseen] at hbegun hclosed ⊢
      refine ⟨fun x hx => ?_, hbegun, fun a ha b hb => ?_⟩
      · rcases hx with hx | hx
        · rcases List.mem_cons.1 hx with rfl | hx
          · exact hname
          · exact h.reached x (Or.inl hx)
        · rcases List.mem_append.1 hx with hx | hx
          · exact hrest x hx
          · obtain ⟨a, ha, hreaches⟩ := hname
            exact ⟨a, ha, hreaches.trans (.single (List.mem_of_mem_filter hx))⟩
      · rcases List.mem_cons.1 ha with rfl | ha
        · -- what the new name leads to has been seen, or it is added
          by_cases hb' : b ∈ a :: w.seen
          · exact Or.inl hb'
          · exact Or.inr (List.mem_append_right _ (List.mem_filter.2 ⟨hb, by simpa using hb'⟩))
        · exact hclosed a ha b hb

theorem iterate_turn (h : Sweeps next names w) (n : ℕ) :
    Sweeps next names ((Worklist.turn next)^[n] w) := by
  induction n with
  | zero => exact h
  | succ n ih =>
    rw [Function.iterate_succ_apply']
    exact ih.turn

/-- **In the end** exactly what can be reached has been seen. -/
theorem mem_seen_iff (h : Sweeps next names w) (hqueue : w.queue = []) :
    x ∈ w.seen ↔ ∃ a ∈ names, Reaches next a x := by
  have hnone : ∀ b, ¬ b ∈ w.queue := fun b => hqueue ▸ List.not_mem_nil
  constructor
  · exact fun hx => h.reached x (Or.inl hx)
  · rintro ⟨a, ha, hreaches⟩
    refine hreaches.closed (P := (· ∈ w.seen)) (fun u hu v hv => ?_) ?_
    · exact (h.closed u hu v hv).resolve_right (hnone v)
    · exact (h.begun a ha).resolve_right (hnone a)

end Sweeps

end Worklist

end CustomBuild.Graph
