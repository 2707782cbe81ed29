import CustomBuild.Proofs.Graph.Worklist
import CustomBuild.Proofs.Registry.Tables
import CustomBuild.Proofs.Script.Emission

/-!
# The helpers that names need

Helpers are found by a walk through all dependencies, of public functions and of helpers.  The names
that it starts from may be any, also unknown ones, and a name may be among them many times.

The walk ends (`Accepted.queue_walk`), and the helpers that it has seen by then, put in order, are
those that the given names need (`Accepted.ordered_seen_walk`).  A chain of dependencies between
public functions is a chain of dependencies, so a closure of the names has the same helpers
(`Accepted.helpersFor_of_close`).
-/

namespace CustomBuild.Registry

variable {r : Registry} {names closed : List String} {a x : String} {turns : ℕ}

/-- The walk through all dependencies from the given names, after a number of turns. -/
def walk (r : Registry) (names : List String) (turns : ℕ) : Graph.Worklist :=
  (Graph.Worklist.turn r.dependencies)^[turns] (.start names)

/-- As many turns as the walk can take: one for each of the given names, and one for each
dependency of an entry. -/
def turnLimit (r : Registry) (names : List String) : ℕ :=
  names.length + Graph.Worklist.stepCount r.dependencies r.order

namespace Accepted

/-! ### The walk -/

/-- A name that is not that of an entry needs nothing. -/
theorem mem_order_of_dependencies_ne_nil (h : r.Accepted) (hne : r.dependencies a ≠ []) :
    a ∈ r.order := by
  obtain ⟨b, hb⟩ := List.exists_mem_of_ne_nil _ hne
  obtain ⟨e, he, hname, -⟩ := h.mem_dependencies_iff.1 hb
  exact h.mem_order_iff.2 ⟨e, he, hname⟩

/-- What reaches the name of an entry is the name of an entry. -/
theorem mem_order_of_reaches (h : r.Accepted) (hreaches : Graph.Reaches r.dependencies a x)
    (hx : x ∈ r.order) : a ∈ r.order := by
  cases hreaches with
  | refl => exact hx
  | step hb _ => exact h.mem_order_of_dependencies_ne_nil (List.ne_nil_of_mem hb)

/-- **The walk ends** within its limit. -/
theorem queue_walk (h : r.Accepted) (hturns : r.turnLimit names ≤ turns) :
    (r.walk names turns).queue = [] := by
  refine Graph.Worklist.queue_iterate_turn h.nodup_order
    (fun _ => h.mem_order_of_dependencies_ne_nil) ?_
  rw [Graph.Worklist.budget_start]
  exact hturns

/-- **What the walk has seen in the end** is what the given names reach. -/
theorem mem_seen_walk_iff (h : r.Accepted) (hturns : r.turnLimit names ≤ turns) :
    x ∈ (r.walk names turns).seen ↔ ∃ a ∈ names, Graph.Reaches r.dependencies a x :=
  ((Graph.Worklist.Sweeps.start _ names).iterate_turn turns).mem_seen_iff (h.queue_walk hturns)

/-! ### The helpers -/

theorem helpersFor_nodup (h : r.Accepted) : (r.helpersFor names).Nodup :=
  h.nodup_order.filter _

theorem pairwise_helpersFor (h : r.Accepted) : (r.helpersFor names).Pairwise r.Precedes :=
  h.pairwise_precedes_filter _

/-- Helpers are found from the names of entries alone, so the others need not be told apart. -/
theorem mem_helpersFor_iff_reaches (h : r.Accepted) :
    x ∈ r.helpersFor names ↔
      r.IsHelperName x ∧ ∃ a ∈ names, Graph.Reaches r.dependencies a x := by
  rw [h.mem_helpersFor_iff]
  refine and_congr_right fun hx => exists_congr fun a => and_congr_right fun _ => ?_
  rw [h.reaches_dependencies_iff]
  refine and_iff_right_of_imp fun hax => ?_
  exact h.mem_order_of_reaches (h.reaches_dependencies_iff.2 hax) (h.mem_order_of_isHelperName hx)

/-- **The helpers that the walk has seen**, put in order, are those that the names need. -/
theorem ordered_seen_walk (h : r.Accepted) (hturns : r.turnLimit names ≤ turns) :
    r.ordered ((r.walk names turns).seen.filter r.isHelper) = .ok (r.helpersFor names) := by
  have hmem : ∀ x, x ∈ (r.walk names turns).seen.filter r.isHelper ↔ x ∈ r.helpersFor names := by
    intro x
    rw [List.mem_filter, h.mem_seen_walk_iff hturns, h.isHelper_iff, h.mem_helpersFor_iff_reaches]
    exact and_comm
  refine h.ordered_eq_ok_iff.2 ⟨fun x hx => ?_, h.pairwise_helpersFor, fun x => (hmem x).symm⟩
  exact h.mem_order_of_isHelperName (h.mem_helpersFor_iff.1 ((hmem x).1 hx)).1

/-- Names have the helpers of what they reach. -/
theorem helpersFor_of_between (h : r.Accepted) (hnames : ∀ a ∈ names, a ∈ closed)
    (hclosed : ∀ b ∈ closed, ∃ a ∈ names, Graph.Reaches r.dependencies a b) :
    r.helpersFor closed = r.helpersFor names := by
  have hmem : ∀ x, x ∈ r.helpersFor closed ↔ x ∈ r.helpersFor names := by
    intro x
    rw [h.mem_helpersFor_iff_reaches, h.mem_helpersFor_iff_reaches]
    refine and_congr_right fun _ => ⟨?_, ?_⟩
    · rintro ⟨b, hb, hbx⟩
      obtain ⟨a, ha, hab⟩ := hclosed b hb
      exact ⟨a, ha, hab.trans hbx⟩
    · rintro ⟨a, ha, hax⟩
      exact ⟨a, hnames a ha, hax⟩
  have hfirst : r.Enumerates (r.helpersFor names) (r.helpersFor closed) :=
    ⟨h.pairwise_helpersFor, hmem⟩
  exact hfirst.unique ⟨h.pairwise_helpersFor, fun _ => Iff.rfl⟩

/-- **A closure over public dependencies** has the helpers of the names that it is a closure of. -/
theorem helpersFor_of_close (h : r.Accepted) (hclosed : ∀ x, x ∈ closed ↔ x ∈ r.close names) :
    r.helpersFor closed = r.helpersFor names := by
  refine h.helpersFor_of_between (fun a ha => ?_) fun b hb => ?_
  · exact (hclosed a).2 ((mem_close_iff h).2 ⟨a, ha, .refl a⟩)
  · obtain ⟨a, ha, hab⟩ := (mem_close_iff h).1 ((hclosed b).1 hb)
    exact ⟨a, ha, hab.mono fun u v hv => List.mem_of_mem_filter hv⟩

end Accepted

/-- **The helpers that names need**, in a registry that is made of entries and for any names.  The
walk through all dependencies from the names ends within its limit, and the helpers that it has seen
by then, put in order, are what is given.  They are the helpers that a name of an entry among the
names reaches by dependencies, each once and in the order of the registry; so it makes no difference
whether the names are closed over public dependencies before. -/
theorem helpersFor_needed {entries : List Entry} {header : RegistryHeader}
    (hr : ofEntries entries header = .ok r) (names : List String) :
    (∀ turns, r.turnLimit names ≤ turns →
      (r.walk names turns).queue = [] ∧
        r.ordered ((r.walk names turns).seen.filter r.isHelper) = .ok (r.helpersFor names)) ∧
    (∀ x, x ∈ r.helpersFor names ↔
      (∃ e ∈ entries, e.name = x ∧ e.isHelper = true) ∧
        ∃ a ∈ names, (∃ e ∈ entries, e.name = a) ∧ Relation.ReflTransGen r.Needs a x) ∧
    (r.helpersFor names).Nodup ∧ (r.helpersFor names).Pairwise r.Precedes ∧
    ∀ closed : List String, (∀ x, x ∈ closed ↔ x ∈ r.close names) →
      r.helpersFor closed = r.helpersFor names := by
  obtain ⟨h, hentries, -⟩ := accepted_of_ofEntries hr
  subst hentries
  refine ⟨fun turns hturns => ⟨h.queue_walk hturns, h.ordered_seen_walk hturns⟩, fun x => ?_,
    h.helpersFor_nodup, h.pairwise_helpersFor, fun closed => h.helpersFor_of_close⟩
  simp only [← h.mem_order_iff]
  exact h.mem_helpersFor_iff

/-- In the small registry an unknown name needs nothing, and `map` needs through `each` the helper
`iterator` and the core that this needs. -/
theorem map_helpersFor :
    ofEntries sampleEntries sampleHeader = .ok sample ∧
      sample.turnLimit ["map", "absent", "map"] = 8 ∧
      sample.ordered ((sample.walk ["map", "absent", "map"] 8).seen.filter sample.isHelper) =
        .ok ["lodash", "iterator"] ∧
      sample.close ["map", "absent", "map"] = .ofList ["each", "isArray", "absent", "map"] ∧
      sample.helpersFor ["each", "isArray", "absent", "map"] = ["lodash", "iterator"] := by
  have hlimit : sample.turnLimit ["map", "absent", "map"] = 8 := by decide
  have hseen : sample.ordered
      ((sample.walk ["map", "absent", "map"] 8).seen.filter sample.isHelper) =
        .ok ["lodash", "iterator"] := by
    decide
  have hclose : sample.close ["map", "absent", "map"] =
      .ofList ["each", "isArray", "absent", "map"] := by
    cbv
  obtain ⟨hwalk, -, -, -, hclosed⟩ :=
    helpersFor_needed ofEntries_sampleEntries ["map", "absent", "map"]
  have hhelpers : sample.helpersFor ["map", "absent", "map"] = ["lodash", "iterator"] :=
    Except.ok.inj ((hwalk 8 hlimit.le).2.symm.trans hseen)
  refine ⟨ofEntries_sampleEntries, hlimit, hseen, hclose, ?_⟩
  rw [← hhelpers]
  exact hclosed _ fun x => by rw [hclose, NameSet.mem_ofList]

end CustomBuild.Registry
