import CustomBuild.Proofs.Command.Alike
import CustomBuild.Proofs.Selection

/-!
# Unknown values

A value is unknown to a registry if it denotes nothing: it names no category, and no public function
goes by it (`DenotesNothing`).  The name of a helper is unknown like any other word.

A command is looked up value by value in a fixed order, each value by the rule of its list
(`lookedUp`).  The unknown ones among these are reported, each once and where it comes first
(`unknownValues`), either as an error or beside the selection.  They have no influence on what is
selected: a list without them denotes the same (`expand_of_deletes`), so commands that differ only
by unknown values and by whether these are an error select the same (`select_unknown`).
-/

namespace CustomBuild

/-! ### Deleting values -/

/-- **A list with some values deleted**, which all satisfy `p`. -/
inductive Deletes (p : String → Prop) : List String → List String → Prop
  /-- there is nothing to delete -/
  | nil : Deletes p [] []
  /-- a value stays -/
  | keep {values others : List String} (value : String) (h : Deletes p values others) :
      Deletes p (value :: values) (value :: others)
  /-- a value is deleted -/
  | delete {value : String} {values others : List String} (hvalue : p value)
      (h : Deletes p values others) : Deletes p (value :: values) others

/-- **A command with values deleted** from its lists of names, which all satisfy `p`.  A list of
names to start from stays, even if nothing is left in it.  The commands may also differ in whether
unknown names are an error, and are the same otherwise. -/
structure Command.Pruned (p : String → Prop) (c d : Command) : Prop where
  /-- the names to start from, if a list of them is given -/
  included : Option.Rel (Deletes p) c.included d.included
  /-- the names to add -/
  plus : Deletes p c.plus d.plus
  /-- the names to take away -/
  minus : Deletes p c.minus d.minus
  /-- the further names to take away -/
  excluded : Deletes p c.excluded d.excluded
  /-- the rest of both commands is the same -/
  rest : d = { c with included := d.included, plus := d.plus, minus := d.minus,
                      excluded := d.excluded, strictNames := d.strictNames }

theorem Deletes.refl (p : String → Prop) (values : List String) : Deletes p values values := by
  induction values with
  | nil => exact .nil
  | cons value rest ih => exact .keep value ih

/-- Deleted values that yield nothing are not missed. -/
theorem Deletes.flatMap_eq {p : String → Prop} {values others : List String}
    {f : String → List String} (h : Deletes p values others)
    (hf : ∀ value, p value → f value = []) :
    values.flatMap f = others.flatMap f := by
  induction h with
  | nil => rfl
  | keep value _ ih => rw [List.flatMap_cons, List.flatMap_cons, ih]
  | delete hvalue _ ih => rw [List.flatMap_cons, hf _ hvalue, List.nil_append, ih]

/-- Nothing has to be deleted. -/
theorem Command.Pruned.refl (p : String → Prop) (c : Command) : c.Pruned p c where
  included := by cases c.included with
    | none => exact .none
    | some names => exact .some (.refl p names)
  plus := .refl p c.plus
  minus := .refl p c.minus
  excluded := .refl p c.excluded
  rest := rfl

namespace Registry

variable {r : Registry} {c d : Command} {rule : CategoryMatch} {value : String}
  {values others : List String}

/-! ### The unknown values of a command -/

/-- **A value that denotes nothing**: it names no category, and it is neither the name nor an alias
of a public function. -/
def DenotesNothing (r : Registry) (rule : CategoryMatch) (value : String) : Prop :=
  (∀ category, ¬ rule.Names value category) ∧
    ∀ e ∈ r.entries, e.isHelper = false → value ≠ e.name ∧ value ∉ e.aliases

/-- The list of names of a command, or if none is given, the bundle that wins. -/
def consulted (r : Registry) (c : Command) : List String :=
  match c.included with
  | some names => names
  | none =>
    if "backbone" ∈ c.bundles then r.bundle "backbone"
    else if "underscore" ∈ c.bundles then r.bundle "underscore"
    else []

/-- **The values of a command in the order in which they are looked up**, each with the rule by
which it may name a category. -/
def lookedUp (r : Registry) (c : Command) : List (CategoryMatch × String) :=
  (r.consulted c).map (Prod.mk .exact) ++ c.categories.map (Prod.mk .anyCase)
    ++ c.plus.map (Prod.mk .exact) ++ c.minus.map (Prod.mk .exact)
    ++ c.excluded.map (Prod.mk .exact)

theorem CategoryMatch.forall_not_names_iff :
    (∀ category, ¬ rule.Names value category) ↔ rule.category? value = none := by
  rw [Option.eq_none_iff_forall_ne_some]
  exact forall_congr' fun category => not_congr category?_eq_some_iff.symm

instance : Decidable (r.DenotesNothing rule value) :=
  decidable_of_iff (rule.category? value = none ∧
      ∀ e ∈ r.entries, e.isHelper = false → value ≠ e.name ∧ value ∉ e.aliases)
    (and_congr_left' CategoryMatch.forall_not_names_iff.symm)

/-- **The unknown values of a command**, each once and where it comes first. -/
def unknownValues (r : Registry) (c : Command) : List String :=
  (((r.lookedUp c).filter fun found => r.DenotesNothing found.1 found.2).map Prod.snd).eraseDups

/-! ### What the look-ups find -/

theorem baseValues_eq : r.baseValues c = r.consulted c := by
  unfold baseValues consulted
  cases c.included with
  | some names => rfl
  | none =>
    by_cases hbackbone : "backbone" ∈ c.bundles
    · simp [bundleKeywords, hbackbone]
    · by_cases hunderscore : "underscore" ∈ c.bundles
      · simp [bundleKeywords, hbackbone, hunderscore]
      · simp [bundleKeywords, hbackbone, hunderscore]

/-- Nothing is found for a value exactly if it denotes nothing. -/
theorem Accepted.denotation?_eq_none_iff (h : r.Accepted) :
    r.denotation? rule value = none ↔ r.DenotesNothing rule value := by
  unfold denotation? DenotesNothing
  rw [CategoryMatch.forall_not_names_iff]
  cases hcategory : rule.category? value with
  | some category => simp
  | none =>
    have hresolve : r.resolveAlias value = none ↔
        ∀ e ∈ r.entries, e.isHelper = false → value ≠ e.name ∧ value ∉ e.aliases := by
      rw [Option.eq_none_iff_forall_ne_some]
      constructor
      · intro hnone e he hhelper
        refine ⟨fun hname => hnone e.name ?_, fun halias => hnone e.name ?_⟩
        · exact h.resolveAlias_eq_some_iff.2 ⟨e, he, rfl, hhelper, Or.inl hname⟩
        · exact h.resolveAlias_eq_some_iff.2 ⟨e, he, rfl, hhelper, Or.inr halias⟩
      · intro hnone name hname
        obtain ⟨e, he, rfl, hhelper, hvalue⟩ := h.resolveAlias_eq_some_iff.1 hname
        obtain ⟨hne, hnot⟩ := hnone e he hhelper
        exact hvalue.elim hne hnot
    rw [Option.map_eq_none_iff, hresolve]
    exact ⟨fun hnone => ⟨rfl, hnone⟩, And.right⟩

theorem Accepted.unknown_eq (h : r.Accepted) :
    r.unknown rule values =
      ((values.map (Prod.mk rule)).filter fun found => r.DenotesNothing found.1 found.2).map
        Prod.snd := by
  unfold unknown
  rw [List.filter_map, List.map_map]
  have hsnd : Prod.snd ∘ Prod.mk rule = (id : String → String) := rfl
  rw [hsnd, List.map_id]
  refine List.filter_congr fun value _ => ?_
  rw [Bool.eq_iff_iff, Option.isNone_iff_eq_none, h.denotation?_eq_none_iff]
  exact decide_eq_true_iff.symm

/-- **The values that are dropped** are the unknown ones. -/
theorem Accepted.droppedValues_eq (h : r.Accepted) : r.droppedValues c = r.unknownValues c := by
  unfold droppedValues unknownValues lookedUp
  simp only [baseValues_eq, h.unknown_eq, List.filter_append, List.map_append]

/-! ### Commands without some unknown values -/

/-- **A list without unknown values** denotes what it denotes with them. -/
theorem Accepted.expand_of_deletes (h : r.Accepted)
    (hvalues : Deletes (r.DenotesNothing rule) values others) :
    r.expand rule values = r.expand rule others := by
  unfold expand
  rw [hvalues.flatMap_eq]
  intro value hvalue
  rw [h.denotation?_eq_none_iff.2 hvalue]
  rfl

/-- A command without some unknown values asks for the same functions. -/
theorem Accepted.requested_pruned (h : r.Accepted)
    (hcommand : Command.Pruned (r.DenotesNothing .exact) c d) : r.requested c = r.requested d := by
  have hbundles : c.bundles = d.bundles := by rw [hcommand.rest]
  have hcategories : c.categories = d.categories := by rw [hcommand.rest]
  have hsource : c.hasSource = d.hasSource :=
    hasSource_eq_of_rel hcommand.included (by rw [hbundles]) (by rw [hcategories])
  have hbase : Deletes (r.DenotesNothing .exact) (r.baseValues c) (r.baseValues d) :=
    rel_baseValues (.refl _) hcommand.included fun _ => by rw [hbundles]
  unfold requested
  rw [hsource, hcategories, h.expand_of_deletes hbase, h.expand_of_deletes hcommand.plus,
    h.expand_of_deletes hcommand.minus, h.expand_of_deletes hcommand.excluded]

/-- **Unknown values** are reported and select nothing.  All commands that come from one command by
deleting unknown values from its lists of names, and by making unknown names an error or not, select
the same functions: the error names the unknown values of the command, with the first of them at
fault, and arises exactly if they are an error and there are some; otherwise they are dropped. -/
theorem select_unknown {entries : List Entry} {header : RegistryHeader}
    (hr : ofEntries entries header = .ok r) (c : Command) :
    ∃ names requested, ∀ d, Command.Pruned (r.DenotesNothing .exact) c d →
      (r.select d =
        if d.strictNames = true ∧ r.unknownValues d ≠ [] then .error ⟨r.unknownValues d⟩
        else .ok { names, requested, dropped := r.unknownValues d }) ∧
      ∀ error, r.select d = .error error → error.token = (r.unknownValues d).head? := by
  obtain ⟨h, -, -⟩ := accepted_of_ofEntries hr
  refine ⟨r.arrange (r.close (r.requested c)).toList, r.requested c, fun d hcommand => ?_⟩
  have hselect : r.select d =
      if d.strictNames = true ∧ r.unknownValues d ≠ [] then .error ⟨r.unknownValues d⟩
      else .ok { names := r.arrange (r.close (r.requested c)).toList, requested := r.requested c,
                 dropped := r.unknownValues d } := by
    have hiff : (d.strictNames && !(r.unknownValues d).isEmpty) = true ↔
        d.strictNames = true ∧ r.unknownValues d ≠ [] := by
      simp
    unfold select
    simp only [h.droppedValues_eq, h.requested_pruned hcommand, hiff]
  refine ⟨hselect, fun error herror => ?_⟩
  rw [hselect] at herror
  split_ifs at herror
  cases herror
  rfl

/-- A command with unknown values in every list but that of categories: words that nothing goes by,
the name of a helper, and the name of a category where letter case matters. -/
def strayCommand : Command where
  included := some ["mapp", "forEach", "iterator", "mapp"]
  categories := ["OBJECTS"]
  plus := ["objects", "iterator"]
  minus := ["each", "Strings"]
  excluded := ["Strings", "lodash"]

/-- The same command with the known values alone, and strict about unknown ones. -/
def prunedCommand : Command where
  included := some ["forEach"]
  categories := ["OBJECTS"]
  minus := ["each"]
  strictNames := true

theorem strayCommand_pruned :
    Command.Pruned (sample.DenotesNothing .exact) strayCommand prunedCommand where
  included := .some (.delete (by decide) (.keep _ (.delete (by decide) (.delete (by decide) .nil))))
  plus := .delete (by decide) (.delete (by decide) .nil)
  minus := .keep _ (.delete (by decide) .nil)
  excluded := .delete (by decide) (.delete (by decide) .nil)
  rest := rfl

/-- The unknown values are dropped or an error, and without them the same is selected. -/
theorem sample_drops_stray_values :
    ofEntries sampleEntries sampleHeader = .ok sample ∧
      Command.Pruned (sample.DenotesNothing .exact) strayCommand prunedCommand ∧
      ∃ names requested,
        sample.select strayCommand =
          .ok { names, requested,
                dropped := ["mapp", "iterator", "objects", "Strings", "lodash"] } ∧
        sample.select { strayCommand with strictNames := true } =
          .error ⟨["mapp", "iterator", "objects", "Strings", "lodash"]⟩ ∧
        sample.select prunedCommand = .ok { names, requested, dropped := [] } := by
  obtain ⟨names, requested, h⟩ := select_unknown ofEntries_sampleEntries strayCommand
  have hself : Command.Pruned (sample.DenotesNothing .exact) strayCommand strayCommand :=
    .refl _ _
  have hstrict : Command.Pruned (sample.DenotesNothing .exact) strayCommand
      { strayCommand with strictNames := true } := { hself with rest := rfl }
  have hunknown : sample.unknownValues strayCommand =
      ["mapp", "iterator", "objects", "Strings", "lodash"] := by decide +kernel
  have hnone : sample.unknownValues prunedCommand = [] := by decide +kernel
  refine ⟨ofEntries_sampleEntries, strayCommand_pruned, names, requested, ?_, ?_, ?_⟩
  · rw [(h _ hself).1, hunknown]
    rfl
  · have hsame : sample.unknownValues { strayCommand with strictNames := true } =
        sample.unknownValues strayCommand := rfl
    rw [(h _ hstrict).1, hsame, hunknown]
    rfl
  · rw [(h _ strayCommand_pruned).1, hnone]
    rfl

end Registry

end CustomBuild
