import CustomBuild.Command.Tokens
import CustomBuild.Proofs.Script.Emission

/-!
# What the core helper needs

Every script has the core helper, but the helpers of a script are looked for from its functions
only.  So the dependencies of the core helper are emitted, and then before it, exactly if the
functions lead to each of them too (`Registry.generate_emits_before_core_iff`).  Nothing is asked of
the names here: they need not be a selection.

Two facts carry the proof.  What the functions lead to is a candidate, and a candidate that the core
helper needs is left out only together with it (`Accepted.isKept_of_reflTransGen`).  And the helpers
of a script are picked from an order in which dependencies stand first.
-/

namespace CustomBuild

/-- In a plan `a` has its fragment before every fragment of `b`. -/
def Plan.EmitsBefore (p : Plan) (a b : String) : Prop :=
  ∀ before m after, p.helpers ++ p.functions = before ++ m :: after → m.entry.name = b →
    a ∈ before.map fun m => m.entry.name

namespace Registry

variable {r : Registry} {c : Command} {modes : NameSet} {names : List String} {a b x : String}
  {p : Plan} {source : String}

/-- The names lead to everything that the core helper lists. -/
def CoversCore (r : Registry) (names : List String) : Prop :=
  ∀ d, r.Needs coreName d → ∃ a ∈ names, Relation.ReflTransGen r.Needs a d

/-! ### Chains from a helper -/

namespace Accepted

/-- Chains of dependencies from a helper lead to helpers only. -/
theorem isHelperName_of_reflTransGen (h : r.Accepted) (ha : r.IsHelperName a)
    (hab : Relation.ReflTransGen r.Needs a b) : r.IsHelperName b := by
  induction hab with
  | refl => exact ha
  | tail _ hstep ih => exact h.isHelperName_of_needs ih hstep

/-- No entry needs itself. -/
theorem not_needs_self (h : r.Accepted) : ¬ r.Needs a a := by
  intro hself
  have hd : a ∈ r.dependencies a := h.mem_dependencies_iff.2 hself
  obtain ⟨before, after, hsplit, hbefore⟩ :=
    List.eq_append_cons_of_mem (h.mem_order_of_needs hself)
  exact hbefore (h.order_dependencies before a after hsplit a hd)

/-! ### Candidates -/

/-- A candidate that is not left out has a fragment. -/
theorem fragment?_ne_none_of_isKept (h : r.Accepted) (hx : x ∈ r.candidates names)
    (hkept : r.isKept modes names x = true) : r.fragment? modes x ≠ none := by
  intro hnone
  rw [isKept, Bool.not_eq_true', ← Bool.not_eq_true, List.contains_iff_mem] at hkept
  exact hkept (h.mem_omitted_iff.2 ⟨hx, x, hx, hnone, .refl⟩)

/-- **What a kept candidate needs is kept**, as far as it is a candidate at all. -/
theorem isKept_of_reflTransGen (h : r.Accepted) (ha : a ∈ r.candidates names)
    (hkept : r.isKept modes names a = true)
    (hax : Relation.ReflTransGen (r.NeedsWithin (r.candidates names)) a x) :
    r.isKept modes names x = true := by
  rw [isKept, Bool.not_eq_true', ← Bool.not_eq_true, List.contains_iff_mem] at hkept ⊢
  intro homitted
  obtain ⟨-, root, hroot, hnone, hchain⟩ := h.mem_omitted_iff.1 homitted
  exact hkept (h.mem_omitted_iff.2 ⟨ha, root, hroot, hnone, hax.trans hchain⟩)

theorem mem_candidates_of_mem_scriptHelpers (hx : x ∈ r.scriptHelpers names) :
    x ∈ r.candidates names :=
  mem_arrange_iff.2 ⟨List.mem_append_left _ hx, (mem_arrange_iff.1 hx).2⟩

/-- The kept helpers have fragments, so they are the names of what is emitted for them. -/
theorem map_name_keptHelpers (h : r.Accepted) :
    ((r.emittedOf modes (r.keptHelpers modes names)).map fun m => m.entry.name) =
      r.keptHelpers modes names := by
  refine map_name_emittedOf fun x hx => ?_
  obtain ⟨hmem, hkept⟩ := List.mem_filter.1 hx
  exact h.fragment?_ne_none_of_isKept (mem_candidates_of_mem_scriptHelpers hmem) hkept

/-- **What the core helper needs is a kept helper** if the names lead to all that it lists. -/
theorem mem_keptHelpers_of_coversCore (h : r.Accepted) (hcore : r.IsHelperName coreName)
    (hnames : ∀ a ∈ names, a ∈ r.order) (hkept : r.isKept modes names coreName = true)
    (hcovers : r.CoversCore names) (hx : Relation.ReflTransGen r.Needs coreName x) :
    x ∈ r.keptHelpers modes names := by
  have hcoreorder : coreName ∈ r.order := h.mem_order_of_isHelperName hcore
  -- the core helper is a helper of every script, the rest of a chain is covered by the names
  have hhelpers : ∀ y, Relation.ReflTransGen r.Needs coreName y → y ∈ r.scriptHelpers names := by
    intro y hy
    rw [h.mem_scriptHelpers_iff hcoreorder hnames]
    cases hy using Relation.ReflTransGen.head_induction_on with
    | refl => exact Or.inl rfl
    | head hstep hrest =>
      obtain ⟨a, ha, hchain⟩ := hcovers _ hstep
      have hhelper := h.isHelperName_of_reflTransGen (h.isHelperName_of_needs hcore hstep) hrest
      exact Or.inr ⟨hhelper, a, ha, hchain.trans hrest⟩
  have hwithin : Relation.ReflTransGen (r.NeedsWithin (r.candidates names)) coreName x := by
    induction hx with
    | refl => exact .refl
    | tail hbefore hstep ih =>
      have hfrom := mem_candidates_of_mem_scriptHelpers (hhelpers _ hbefore)
      have hto := mem_candidates_of_mem_scriptHelpers (hhelpers _ (hbefore.tail hstep))
      exact ih.tail ⟨hfrom, hstep, hto⟩
  have hcandidate := mem_candidates_of_mem_scriptHelpers (hhelpers _ .refl)
  exact List.mem_filter.2 ⟨hhelpers x hx, h.isKept_of_reflTransGen hcandidate hkept hwithin⟩

end Accepted

/-! ### Scripts -/

/-- The names of a plan are names of entries. -/
theorem mem_order_of_plan_eq (h : r.Accepted) (hp : r.plan modes names = .ok p) :
    ∀ a ∈ names, a ∈ r.order := by
  intro a ha
  cases hordered : r.ordered (r.scriptHelpers names ++ names) with
  | error unknown =>
    unfold plan at hp
    simp only [hordered] at hp
    cases hp
  | ok candidates =>
    -- a plan puts its names in order, which fails for one that is not known
    have hknown : (r.scriptHelpers names ++ names).find? (fun name => !r.contains name) = none := by
      unfold ordered at hordered
      split at hordered
      · cases hordered
      · assumption
    have hcontains := List.find?_eq_none.1 hknown a (List.mem_append_right _ ha)
    rw [Bool.not_eq_true, Bool.not_eq_false', contains, Option.isSome_iff_exists] at hcontains
    obtain ⟨e, he⟩ := hcontains
    obtain ⟨hmem, hname⟩ := mem_entries_of_lookup he
    exact h.mem_order_iff.2 ⟨e, hmem, hname⟩

/-- A script that is not empty does not leave out the core helper. -/
theorem not_mem_omitted_of_generate (hnames : names ≠ [])
    (hplan : Script.planFor r c.modes names = .ok p)
    (hg : (Script.generate r c names).outcome = .ok source) : coreName ∉ p.omitted := by
  intro hleft
  rw [Script.generate, if_neg (mt List.isEmpty_iff.1 hnames), hplan] at hg
  simp only [Script.ofPlan] at hg
  rw [if_pos (List.contains_iff_mem.2 hleft)] at hg
  cases hg

/-- What the core helper lists and has before it, the functions lead to: a script has helpers for no
other reason. -/
theorem coversCore_of_mem_before (h : r.Accepted) (hcore : r.IsHelperName coreName)
    (hnames : ∀ a ∈ names, a ∈ r.order) (hkept : coreName ∈ r.keptHelpers modes names)
    {functions : List Emitted}
    (hbefore : ∀ d, r.Needs coreName d → ∀ before m after,
      r.emittedOf modes (r.keptHelpers modes names) ++ functions = before ++ m :: after →
      m.entry.name = coreName → d ∈ before.map fun m => m.entry.name) :
    r.CoversCore names := by
  intro d hd
  obtain ⟨m, hm, hname⟩ : ∃ m ∈ r.emittedOf modes (r.keptHelpers modes names),
      m.entry.name = coreName := by
    rw [← h.map_name_keptHelpers] at hkept
    exact List.mem_map.1 hkept
  obtain ⟨before, after, hsplit⟩ := List.append_of_mem hm
  have hmem := hbefore d hd before m (after ++ functions) (by simp [hsplit]) hname
  have hhelper : d ∈ r.keptHelpers modes names := by
    rw [← h.map_name_keptHelpers, hsplit, List.map_append]
    exact List.mem_append_left _ hmem
  have hcoreorder := h.mem_order_of_isHelperName hcore
  rcases (h.mem_scriptHelpers_iff hcoreorder hnames).1 (List.mem_filter.1 hhelper).1 with
    rfl | ⟨-, hreached⟩
  · exact absurd hd h.not_needs_self
  · exact hreached

/-- **A kept helper that the core helper needs** stands before it. -/
theorem mem_before_core (h : r.Accepted) (hx : x ∈ r.keptHelpers modes names)
    (hneeds : Relation.TransGen r.Needs coreName x) {functions before after : List Emitted}
    {m : Emitted}
    (hsplit : r.emittedOf modes (r.keptHelpers modes names) ++ functions = before ++ m :: after)
    (hname : m.entry.name = coreName) : x ∈ before.map fun m => m.entry.name := by
  rcases List.append_eq_append_iff.1 hsplit with ⟨front, rfl, -⟩ | ⟨back, hhelpers, hback⟩
  · -- this fragment stands among the functions, and so after all helpers
    rw [← h.map_name_keptHelpers] at hx
    rw [List.map_append]
    exact List.mem_append_left _ hx
  cases back with
  | nil =>
    rw [← h.map_name_keptHelpers, hhelpers, List.append_nil] at hx
    exact hx
  | cons other back =>
    -- this fragment stands among the helpers, which are picked from the order of the registry
    obtain ⟨rfl, -⟩ := List.cons.inj hback
    have hsplitnames : r.keptHelpers modes names =
        (before.map fun m => m.entry.name) ++ coreName :: back.map fun m => m.entry.name := by
      rw [← h.map_name_keptHelpers, hhelpers, List.map_append, List.map_cons, hname]
    have hpick : r.keptHelpers modes names = r.order.filter fun name =>
        r.isKept modes names name && (coreName :: r.helpersFor names).contains name :=
      List.filter_filter
    rw [hpick] at hx hsplitnames
    rw [← h.needs_eq] at hneeds
    exact Graph.mem_before_of_filter
      (fun _ _ hsplit => h.order_dependencies.mem_before_of_transGen hsplit hneeds)
      hsplitnames (List.mem_filter.1 hx).2

/-- **What the core helper needs** stands before it, directly needed or not, exactly if the
functions of the script lead to everything that the core helper lists. -/
theorem generate_emits_before_core_iff {entries : List Entry} {header : RegistryHeader}
    (hr : ofEntries entries header = .ok r) (hcore : r.IsHelperName coreName) (hnames : names ≠ [])
    (hg : (Script.generate r c names).outcome = .ok source) :
    ∃ p, Script.planFor r c.modes names = .ok p ∧ source = Script.text r.header c p ∧
      Script.IsTextOf r.header c p source ∧
      (∀ m ∈ p.helpers ++ p.functions,
        m.entry ∈ r.entries ∧ m.entry.fragment? c.modes = some m.fragment) ∧
      coreName ∈ (p.helpers.map fun m => m.entry.name) ∧
      ((∀ x, Relation.TransGen r.Needs coreName x → p.EmitsBefore x coreName) ↔
        r.CoversCore names) := by
  obtain ⟨h, -, -⟩ := accepted_of_ofEntries hr
  obtain ⟨p, hplanFor, -, hsource, hmisuse⟩ := Script.generate_eq_ok hnames hg
  have hp := Script.plan_of_planFor hplanFor
  have horder := mem_order_of_plan_eq h hp
  have hleft := not_mem_omitted_of_generate hnames hplanFor hg
  rw [h.plan_eq horder] at hp
  cases hp
  have hkept : r.isKept c.modes names coreName = true := by
    rw [isKept, Bool.not_eq_true', ← Bool.not_eq_true, List.contains_iff_mem]
    exact hleft
  have hcorehelper : coreName ∈ r.keptHelpers c.modes names := by
    have hcoreorder := h.mem_order_of_isHelperName hcore
    exact List.mem_filter.2 ⟨(h.mem_scriptHelpers_iff hcoreorder horder).2 (Or.inl rfl), hkept⟩
  refine ⟨_, hplanFor, hsource, (Script.isTextOf_iff hmisuse).2 hsource, ?_, ?_, ?_, ?_⟩
  · intro m hm
    exact (List.mem_append.1 hm).elim mem_emittedOf mem_emittedOf
  · rw [h.map_name_keptHelpers]
    exact hcorehelper
  · intro hemits
    exact coversCore_of_mem_before h hcore horder hcorehelper fun d hd => hemits d (.single hd)
  · intro hcovers x hx before m after hsplit hname
    have hxkept := h.mem_keptHelpers_of_coversCore hcore horder hkept hcovers hx.to_reflTransGen
    exact mem_before_core h hxkept hx hsplit hname

/-! ### A core helper with a dependency -/

/-- The core needs a helper.  So does one of the two functions. -/
def nativeEntries : List Entry :=
  [{ name := "lodash", dependencies := ["nativeKeys"],
      variants := Table.ofRows [("default", .string "var lodash = nativeKeys;")] },
    { name := "nativeKeys",
      variants := Table.ofRows [("default", .string "var nativeKeys = Object.keys;")] },
    { name := "isArray", category := "Objects",
      variants := Table.ofRows [("default", .string "var isArray = Array.isArray;")] },
    { name := "keys", category := "Objects", dependencies := ["nativeKeys"],
      variants := Table.ofRows [("default", .string "var keys = nativeKeys;")] }]

/-- The registry of these entries. -/
def native : Registry where
  header := { version := .string "2.4.1" }
  entries := nativeEntries
  aliases := ∅
  order := ["nativeKeys", "lodash", "isArray", "keys"]

theorem ofEntries_nativeEntries :
    ofEntries nativeEntries { version := .string "2.4.1" } = .ok native := by
  decide

theorem native_needs : native.Needs coreName "nativeKeys" :=
  ⟨_, List.mem_cons_self, rfl, List.mem_singleton_self _⟩

theorem native_isHelperName : native.IsHelperName coreName :=
  ⟨_, List.mem_cons_self, rfl, rfl⟩

/-- The command that asks for one function. -/
def nativeCommand (name : String) : Command where
  included := some [name]
  tokens := ["include=\"" ++ name ++ "\""]

/-- What its script emits, if these are the helpers. -/
def nativePlan (name : String) (helpers : List String) : Plan where
  helpers := native.emittedOf ∅ helpers
  functions := native.emittedOf ∅ [name]
  omissions := []

theorem planFor_keys :
    Script.planFor native ∅ ["keys"] = .ok (nativePlan "keys" ["nativeKeys", "lodash"]) := by
  cbv

theorem planFor_isArray_native :
    Script.planFor native ∅ ["isArray"] = .ok (nativePlan "isArray" ["lodash"]) := by
  cbv

theorem outcome_keys :
    (Script.generate native (nativeCommand "keys") ["keys"]).outcome =
      .ok (Script.text native.header (nativeCommand "keys")
        (nativePlan "keys" ["nativeKeys", "lodash"])) :=
  Script.outcome_of_planFor (List.cons_ne_nil _ _) planFor_keys (by decide) (by decide)

/-- A function that leads to the helper brings it, and it stands before the core helper. -/
theorem native_emits_before_core :
    ofEntries nativeEntries { version := .string "2.4.1" } = .ok native ∧
      native.IsHelperName coreName ∧ ["keys"] ≠ [] ∧
      (Script.generate native (nativeCommand "keys") ["keys"]).outcome =
        .ok (Script.text native.header (nativeCommand "keys")
          (nativePlan "keys" ["nativeKeys", "lodash"])) ∧
      native.CoversCore ["keys"] ∧
      (nativePlan "keys" ["nativeKeys", "lodash"]).EmitsBefore "nativeKeys" coreName := by
  have hnames : ["keys"] ≠ [] := List.cons_ne_nil _ _
  obtain ⟨p, hp, -, -, -, -, hiff⟩ :=
    generate_emits_before_core_iff ofEntries_nativeEntries native_isHelperName hnames outcome_keys
  have hplan : p = nativePlan "keys" ["nativeKeys", "lodash"] :=
    Except.ok.inj (hp.symm.trans planFor_keys)
  have hcovers : native.CoversCore ["keys"] := by
    rintro d ⟨e, he, hname, hd⟩
    have hlist : ∀ e ∈ nativeEntries, e.name = coreName → e.dependencies = ["nativeKeys"] := by
      decide
    rw [hlist e he hname, List.mem_singleton] at hd
    subst hd
    refine ⟨"keys", List.mem_singleton_self _, .single ?_⟩
    exact ⟨_, List.mem_cons_of_mem _ (List.mem_cons_of_mem _ (List.mem_cons_of_mem _
      List.mem_cons_self)), rfl, List.mem_singleton_self _⟩
  have hemits := hiff.2 hcovers "nativeKeys" (.single native_needs)
  exact ⟨ofEntries_nativeEntries, native_isHelperName, hnames, outcome_keys, hcovers,
    hplan ▸ hemits⟩

/-- **A function that does not lead to the helper** leaves it out: the core helper is emitted
without what it needs, and nothing is reported. -/
theorem native_leaves_out_dependency :
    ofEntries nativeEntries { version := .string "2.4.1" } = .ok native ∧
      native.IsHelperName coreName ∧ native.Needs coreName "nativeKeys" ∧
      Command.ofTokens ["include=isArray"] = .ok (nativeCommand "isArray") ∧
      native.select (nativeCommand "isArray") =
        .ok { names := ["isArray"], requested := ["isArray"] } ∧
      Script.planFor native ∅ ["isArray"] = .ok (nativePlan "isArray" ["lodash"]) ∧
      Script.generate native (nativeCommand "isArray") ["isArray"] =
        { faults := []
          outcome := .ok (Script.text native.header (nativeCommand "isArray")
            (nativePlan "isArray" ["lodash"])) } ∧
      ¬ (nativePlan "isArray" ["lodash"]).EmitsBefore "nativeKeys" coreName := by
  refine ⟨ofEntries_nativeEntries, native_isHelperName, native_needs, ?_, ?_,
    planFor_isArray_native, ?_, ?_⟩
  · decide +kernel
  · cbv
  · rw [Script.generate, if_neg (by decide)]
    have hplan : Script.planFor native (nativeCommand "isArray").modes ["isArray"] =
        .ok (nativePlan "isArray" ["lodash"]) := planFor_isArray_native
    rw [hplan]
    rfl
  · intro hemits
    have hbefore := hemits [] _ _ rfl rfl
    exact absurd hbefore List.not_mem_nil

end Registry

end CustomBuild
