import CustomBuild.Proofs.Graph.Outcome
import CustomBuild.Proofs.Registry.Accepted

/-!
# What a registry can be made of

Entries and bundles make a registry exactly if they are sound and no entry depends on itself, be it
through others (`ofEntries_accepts_iff`).

Being sound is having no faults (`faults_eq_nil_iff`), and sound entries can be put in order unless
some of them lead into a circle of dependencies (`ofSound_cases`).  All faults are reported at once,
and circles only where there are none, because a dependency that is not declared leads nowhere.
-/

namespace CustomBuild.Registry

variable {entries : List Entry} {header : RegistryHeader} {bundles : Table (List String)}
  {a b : String}

/-- **One dependency among entries**: the one called `a` lists `b`. -/
def DependsOn (entries : List Entry) (a b : String) : Prop :=
  ∃ e ∈ entries, e.name = a ∧ b ∈ e.dependencies

/-- The graph of entries. -/
def graphOf (entries : List Entry) : Graph.Dependencies where
  declared := entries.map Entry.name
  rows := entries.map fun e => (e.name, e.dependencies)

theorem isRegular_graphOf (h : Sound entries bundles) : (graphOf entries).IsRegular where
  declared_nodup := h.names_nodup
  rows_perm := by
    rw [graphOf, List.map_map]
    exact .refl _

/-- **The dependencies of the graph** are those of the entries, as all of them are declared. -/
theorem needs_graphOf_iff (h : Sound entries bundles) :
    (graphOf entries).Needs a b ↔ DependsOn entries a b := by
  constructor
  · rintro ⟨-, row, hrow, rfl, hb⟩
    obtain ⟨e, he, rfl⟩ := List.mem_map.1 hrow
    exact ⟨e, he, rfl, hb⟩
  · rintro ⟨e, he, rfl, hb⟩
    obtain ⟨target, htarget, hname, -⟩ := h.dependency_declared e he b hb
    exact ⟨List.mem_map.2 ⟨target, htarget, hname⟩, _, List.mem_map_of_mem he, rfl, hb⟩

/-- A name of the graph leads into a circle if it does so among the entries. -/
theorem leadsToCycle_graphOf_iff (h : Sound entries bundles) :
    Graph.LeadsToCycle (graphOf entries).of a ↔
      ∃ b, Relation.ReflTransGen (DependsOn entries) a b ∧
        Relation.TransGen (DependsOn entries) b b := by
  have hneeds : (graphOf entries).Needs = DependsOn entries :=
    funext₂ fun _ _ => propext (needs_graphOf_iff h)
  rw [Graph.Dependencies.leadsToCycle_iff (isRegular_graphOf h), hneeds]

/-- What depends on something is the name of an entry. -/
theorem mem_names_of_transGen (h : Relation.TransGen (DependsOn entries) a b) :
    a ∈ entries.map Entry.name := by
  obtain ⟨c, ⟨e, he, hname, -⟩, -⟩ := Relation.TransGen.head'_iff.1 h
  exact List.mem_map.2 ⟨e, he, hname⟩

/-- Sound entries are put in the order of their graph. -/
theorem ofSound_eq (h : Sound entries bundles) :
    ofSound entries header = match (graphOf entries).dependencyOrder with
      | .ok order =>
        .ok { header, entries, aliases := (Filing.ofTable id (entryTable id entries)).aliases,
              order }
      | .error error => .error (.unordered error) := by
  have hvalues : (entryTable id entries).values = entries := values_entryTable h.names_nodup
  have hnames : (entryTable id entries).names = entries.map Entry.name :=
    names_entryTable h.names_nodup
  cases horder : (graphOf entries).dependencyOrder with
  | ok order | error error =>
    rw [graphOf] at horder
    simp only [ofSound, hvalues, hnames, horder]

/-- **Sound entries** make a registry, or some of them lead into a circle of dependencies. -/
theorem ofSound_cases (header : RegistryHeader) (h : Sound entries bundles) :
    ((∀ name, ¬ Relation.TransGen (DependsOn entries) name name) ∧
        ∃ r, ofSound entries header = .ok r) ∨
      ∃ names, names ≠ [] ∧
        (∀ name, name ∈ names ↔ ∃ b, Relation.ReflTransGen (DependsOn entries) name b ∧
          Relation.TransGen (DependsOn entries) b b) ∧
        ofSound entries header = .error (.unordered (.cycle names)) := by
  have hrows : ∀ row ∈ (graphOf entries).rows, row.1 ∈ (graphOf entries).declared := by
    intro row hrow
    obtain ⟨e, he, rfl⟩ := List.mem_map.1 hrow
    exact List.mem_map_of_mem he
  rcases Graph.Dependencies.dependencyOrder_cases h.names_nodup hrows with
    ⟨hnone, order, horder⟩ | ⟨names, hne, hmem, horder⟩
  · left
    refine ⟨fun name hcycle => ?_, by rw [ofSound_eq h, horder]; exact ⟨_, rfl⟩⟩
    exact hnone name (mem_names_of_transGen hcycle)
      ((leadsToCycle_graphOf_iff h).2 ⟨name, .refl, hcycle⟩)
  · right
    refine ⟨names, hne, fun name => ?_, by rw [ofSound_eq h, horder]⟩
    rw [hmem, leadsToCycle_graphOf_iff h]
    refine and_iff_right_of_imp ?_
    rintro ⟨b, hchain, hcycle⟩
    exact mem_names_of_transGen (hcycle.trans_right hchain)

/-- **Entries and bundles make a registry** exactly if they are sound and no entry depends on
itself, be it through others.  Otherwise the error lists their faults, or if there are none, the
entries that lead into a circle of dependencies. -/
theorem ofEntries_accepts_iff (entries : List Entry) (header : RegistryHeader) :
    ((∃ r, ofEntries entries header = .ok r) ↔
        Sound entries header.bundles ∧
          ∀ name, ¬ Relation.TransGen (DependsOn entries) name name) ∧
      ∀ error, ofEntries entries header = .error error →
        (¬ Sound entries header.bundles ∧ ∃ found, found ≠ [] ∧ error = .faults found) ∨
          Sound entries header.bundles ∧ ∃ names, names ≠ [] ∧
            (∀ name, name ∈ names ↔ ∃ b, Relation.ReflTransGen (DependsOn entries) name b ∧
              Relation.TransGen (DependsOn entries) b b) ∧
            error = .unordered (.cycle names) := by
  -- the order of the entries is looked for only if they are sound
  by_cases hsound : Sound entries header.bundles
  · have hmake : ofEntries entries header = ofSound entries header := by
      simp [ofEntries, faults_eq_nil_iff.2 hsound]
    rw [hmake]
    rcases ofSound_cases header hsound with
      ⟨hacyclic, r, hr⟩ | ⟨names, hne, hmem, herror⟩
    · refine ⟨iff_of_true ⟨r, hr⟩ ⟨hsound, hacyclic⟩, fun error herror => ?_⟩
      rw [hr] at herror
      cases herror
    · refine ⟨iff_of_false ?_ ?_, fun error heq => Or.inr ⟨hsound, names, hne, hmem, ?_⟩⟩
      · rintro ⟨r, hr⟩
        rw [herror] at hr
        cases hr
      · rintro ⟨-, hacyclic⟩
        obtain ⟨name, hname⟩ := List.exists_mem_of_ne_nil _ hne
        obtain ⟨b, -, hcycle⟩ := (hmem name).1 hname
        exact hacyclic b hcycle
      · exact Except.error.inj (heq.symm.trans herror)
  · have hfaults : faults id entries header.bundles ≠ [] := mt faults_eq_nil_iff.1 hsound
    have herror : ofEntries entries header =
        .error (.faults (faults id entries header.bundles)) := by
      simp [ofEntries, hfaults]
    refine ⟨iff_of_false ?_ fun h => hsound h.1, fun error heq => Or.inl ⟨hsound, _, hfaults, ?_⟩⟩
    · rintro ⟨r, hr⟩
      rw [herror] at hr
      cases hr
    · exact Except.error.inj (heq.symm.trans herror)

end CustomBuild.Registry
