/-!
# Reachability

`reachable next pool start` visits the names of `pool` that can be reached from `start` by following
`next`, each name once, nearest first.  A visited name leaves the pool, which bounds the walk; a
name outside the pool is neither visited nor followed.  `Reaches next` is the relation that the walk
decides.
-/

namespace CustomBuild.Graph

/-- The names of `pool` other than `name`. -/
def without (name : String) (pool : List String) : List String :=
  pool.filter (· ≠ name)

/-- Removing a name that a list has makes the list shorter. -/
theorem length_without_lt {name : String} {pool : List String} (h : name ∈ pool) :
    (without name pool).length < pool.length :=
  List.length_filter_lt_length_iff_exists.2 ⟨name, h, by simp⟩

/-- **Reachable names**, nearest first and each once: those of the queue, those that `next` gives
for them, and so on, as far as they lie in `pool`, which holds the names that may still be
visited. -/
def reachable (next : String → List String) (pool queue : List String) : List String :=
  match queue with
  | [] => []
  | name :: rest =>
    if name ∈ pool then name :: reachable next (without name pool) (rest ++ next name)
    else reachable next pool rest
termination_by (pool.length, queue.length)
decreasing_by
  · exact Prod.Lex.left _ _ (length_without_lt ‹_›)
  · exact Prod.Lex.right _ (by simp)

/-- **Reachability.**  `Reaches next a b` says that `b` is `a` or that a chain of steps, each from a
name to one that `next` gives for it, leads from `a` to `b`. -/
inductive Reaches (next : String → List String) : String → String → Prop where
  /-- a name reaches itself -/
  | refl (a : String) : Reaches next a a
  /-- a step, and then a chain of steps -/
  | step {a b c : String} : b ∈ next a → Reaches next b c → Reaches next a c

end CustomBuild.Graph
