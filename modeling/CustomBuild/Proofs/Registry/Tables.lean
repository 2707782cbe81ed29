import CustomBuild.Proofs.Registry.Accepted

/-!
# The tables of an accepted registry fit together

Commands and scripts rely on three look-ups of a registry.  The categories share the public
functions out among them, arranging names gives the one increasing list with their members, and
resolving a name gives a public function, which resolves to itself.

An increasing list is determined by its members (`Enumerates.unique`), and `Registry.ordered` gives
such a list if every name is that of an entry (`Accepted.ordered_eq_ok_iff`).  So order and
repetition of the names do not matter, and names that are in order stay as they are.
-/

namespace CustomBuild.Registry

variable {r : Registry} {names others list : List String} {name value : String}
  {category : Category}

/-! ### Increasing lists -/

/-- `list` has the members of `names`, each once and in the order of the registry. -/
structure Enumerates (r : Registry) (names list : List String) : Prop where
  /-- each member stands before those that follow it -/
  increasing : list.Pairwise r.Precedes
  /-- the members are those of `names` -/
  mem_iff : ∀ x, x ∈ list ↔ x ∈ names

namespace Enumerates

theorem nodup (h : r.Enumerates names list) : list.Nodup := by
  refine h.increasing.imp fun hbefore heq => ?_
  subst heq
  exact Nat.lt_irrefl _ hbefore

/-- **An increasing list is determined by its members.** -/
theorem unique {second : List String} (h : r.Enumerates names list)
    (hsecond : r.Enumerates names second) : list = second := by
  have hperm : list.Perm second := by
    rw [List.perm_ext_iff_of_nodup h.nodup hsecond.nodup]
    intro x
    rw [h.mem_iff, hsecond.mem_iff]
  refine hperm.eq_of_pairwise (fun a b _ _ hab hba => ?_) h.increasing hsecond.increasing
  -- no name stands before one that stands before it
  exact absurd hab (Nat.lt_asymm hba)

theorem congr (h : r.Enumerates names list) (hsame : ∀ x, x ∈ others ↔ x ∈ names) :
    r.Enumerates others list :=
  ⟨h.increasing, fun x => (h.mem_iff x).trans (hsame x).symm⟩

/-- An increasing list enumerates itself. -/
theorem self (h : r.Enumerates names list) : r.Enumerates list list :=
  ⟨h.increasing, fun _ => Iff.rfl⟩

end Enumerates

namespace Accepted

/-! ### Arranging names -/

theorem contains_iff (h : r.Accepted) : r.contains name = true ↔ name ∈ r.order := by
  refine ⟨fun hcontains => ?_, h.contains_of_mem_order⟩
  rw [contains, Option.isSome_iff_exists] at hcontains
  obtain ⟨e, hlookup⟩ := hcontains
  obtain ⟨he, hname⟩ := mem_entries_of_lookup hlookup
  exact h.mem_order_iff.2 ⟨e, he, hname⟩

/-- Arranging names of entries lists them in order. -/
theorem enumerates_arrange (h : r.Accepted) (hnames : ∀ x ∈ names, x ∈ r.order) :
    r.Enumerates names (r.arrange names) := by
  refine ⟨h.pairwise_precedes_filter _, fun x => ?_⟩
  rw [mem_arrange_iff]
  exact and_iff_left_of_imp (hnames x)

/-- Nothing is missing if every name is in the order. -/
theorem find?_missing_eq_none_iff (h : r.Accepted) :
    names.find? (fun name => !r.contains name) = none ↔ ∀ x ∈ names, x ∈ r.order := by
  rw [List.find?_eq_none]
  refine forall₂_congr fun x _ => ?_
  rw [Bool.not_eq_true, Bool.not_eq_false', h.contains_iff]

/-- A name is reported if it is not in the order. -/
theorem not_mem_order_of_ordered_eq_error (h : r.Accepted)
    (hordered : r.ordered names = .error name) : name ∈ names ∧ name ∉ r.order := by
  unfold ordered at hordered
  split at hordered
  · next missing hfind =>
    obtain rfl := Except.error.inj hordered
    have hnot := List.find?_some hfind
    rw [Bool.not_eq_true', ← Bool.not_eq_true, h.contains_iff] at hnot
    exact ⟨List.mem_of_find?_eq_some hfind, hnot⟩
  · cases hordered

/-- **Names are arranged** exactly if they are names of entries, and then in order. -/
theorem ordered_eq_ok_iff (h : r.Accepted) :
    r.ordered names = .ok list ↔ (∀ x ∈ names, x ∈ r.order) ∧ r.Enumerates names list := by
  rw [← h.find?_missing_eq_none_iff]
  unfold ordered
  cases hfind : names.find? fun name => !r.contains name with
  | some missing => exact iff_of_false nofun fun hlist => nomatch hlist.1
  | none =>
    have harrange := h.enumerates_arrange (h.find?_missing_eq_none_iff.1 hfind)
    constructor
    · intro hordered
      obtain rfl := Except.ok.inj hordered
      exact ⟨rfl, harrange⟩
    · rintro ⟨-, hlist⟩
      exact congrArg Except.ok (harrange.unique hlist)

/-- Names are refused exactly if one of them is not that of an entry. -/
theorem exists_ordered_eq_error_iff (h : r.Accepted) :
    (∃ missing, r.ordered names = .error missing) ↔ ∃ x ∈ names, x ∉ r.order := by
  constructor
  · rintro ⟨missing, hordered⟩
    obtain ⟨hmem, hnot⟩ := h.not_mem_order_of_ordered_eq_error hordered
    exact ⟨missing, hmem, hnot⟩
  · rintro ⟨x, hx, hnot⟩
    cases hordered : r.ordered names with
    | error missing => exact ⟨missing, rfl⟩
    | ok list => exact absurd ((h.ordered_eq_ok_iff.1 hordered).1 x hx) hnot

/-! ### Categories -/

/-- What is filed under a category is a public function. -/
theorem isPublicName_of_mem_byCategory (h : r.Accepted) (hname : name ∈ r.byCategory category) :
    r.IsPublicName name := by
  obtain ⟨e, he, heq, hcategory⟩ := h.mem_byCategory_iff.1 hname
  refine ⟨e, he, heq, ?_⟩
  rw [Entry.isHelper, hcategory]
  cases category <;> decide

/-- **Every public function is filed under one category**, and nothing else is. -/
theorem isPublicName_iff_existsUnique (h : r.Accepted) :
    r.IsPublicName name ↔ ∃! category, name ∈ r.byCategory category := by
  constructor
  · rintro ⟨e, he, heq, hpublic⟩
    obtain ⟨category, hcategory⟩ := h.sound.category_known e he hpublic
    refine ⟨category, h.mem_byCategory_iff.2 ⟨e, he, heq, hcategory⟩, fun other hother => ?_⟩
    obtain ⟨second, hsecond, hname, hfiled⟩ := h.mem_byCategory_iff.1 hother
    -- the name has one entry, which is filed under one category
    have hsame : second = e := h.entry_eq hsecond he (hname.trans heq.symm)
    have hnames : other.name = category.name := by
      rw [← hfiled, hsame, hcategory]
    have hknown : Category.ofName? category.name = some category :=
      Category.ofName?_eq_some_iff.2 rfl
    rw [Category.ofName?_eq_some_iff.2 hnames.symm] at hknown
    exact Option.some.inj hknown
  · rintro ⟨category, hname, -⟩
    exact h.isPublicName_of_mem_byCategory hname

theorem mem_publicNames_iff (h : r.Accepted) : name ∈ r.publicNames ↔ r.IsPublicName name := by
  rw [publicNames, NameSet.mem_ofList, List.mem_filter, h.isPublic_iff]
  exact and_iff_right_of_imp h.mem_order_of_isPublicName

/-! ### Canonical names -/

/-- A name that something resolves to resolves to itself, and is not that of a helper. -/
theorem resolveAlias_resolved (h : r.Accepted) (hvalue : r.resolveAlias value = some name) :
    r.resolveAlias name = some name ∧ r.IsPublicName name := by
  obtain ⟨e, he, heq, hpublic, -⟩ := h.resolveAlias_eq_some_iff.1 hvalue
  exact ⟨h.resolveAlias_eq_some_iff.2 ⟨e, he, heq, hpublic, Or.inl rfl⟩, e, he, heq, hpublic⟩

end Accepted

/-! ### The tables together -/

/-- **The tables of a registry that is made of entries.**  Each public function is in exactly one
category, no helper is in any, and each category is in order.  Arranging names fails exactly if one
of them is not that of an entry; otherwise it gives the increasing list of their members, so it
changes nothing when done again, and order and repetition of the names do not matter.  A value
resolves to the public function that it is the name or an alias of; so what a value resolves to
resolves to itself, and is never a helper. -/
theorem tables_fit (entries : List Entry) (header : RegistryHeader) (r : Registry)
    (hr : ofEntries entries header = .ok r) :
    ((∀ name, name ∈ r.publicNames ↔ ∃ e ∈ entries, e.name = name ∧ e.isHelper = false) ∧
      (∀ name, name ∈ r.publicNames ↔ ∃! category, name ∈ r.byCategory category) ∧
      (∀ category, ∀ name ∈ r.byCategory category, ¬ r.IsHelperName name) ∧
      ∀ category, (r.byCategory category).Pairwise r.Precedes) ∧
    (∀ names : List String,
      ((∃ missing, r.ordered names = .error missing) ↔
        ∃ name ∈ names, ¬ ∃ e ∈ entries, e.name = name) ∧
      (∀ list, r.ordered names = .ok list ↔
        (∀ name ∈ names, ∃ e ∈ entries, e.name = name) ∧ r.Enumerates names list) ∧
      (∀ list, r.Enumerates names list → ∀ second, r.Enumerates names second → list = second) ∧
      (∀ list, r.ordered names = .ok list → r.ordered list = .ok list) ∧
      ∀ others : List String, (∀ x, x ∈ others ↔ x ∈ names) →
        ∀ list, r.ordered others = .ok list ↔ r.ordered names = .ok list) ∧
    (∀ value name, r.resolveAlias value = some name ↔
      ∃ e ∈ entries, e.name = name ∧ e.isHelper = false ∧ (value = name ∨ value ∈ e.aliases)) ∧
    ∀ value name, r.resolveAlias value = some name →
      r.resolveAlias name = some name ∧ ¬ r.IsHelperName name := by
  obtain ⟨h, hentries, -⟩ := accepted_of_ofEntries hr
  subst hentries
  refine ⟨⟨fun name => h.mem_publicNames_iff, fun name => ?_, fun category name hname => ?_,
    fun category => h.pairwise_precedes_filter _⟩, fun names => ⟨?_, ?_, ?_, ?_, ?_⟩,
    fun value name => h.resolveAlias_eq_some_iff, fun value name hvalue => ?_⟩
  · rw [h.mem_publicNames_iff]
    exact h.isPublicName_iff_existsUnique
  · exact h.not_isHelperName (h.isPublicName_of_mem_byCategory hname)
  · simp only [← h.mem_order_iff]
    exact h.exists_ordered_eq_error_iff
  · intro list
    simp only [← h.mem_order_iff]
    exact h.ordered_eq_ok_iff
  · exact fun list hlist second => hlist.unique
  · intro list hordered
    obtain ⟨hnames, hlist⟩ := h.ordered_eq_ok_iff.1 hordered
    refine h.ordered_eq_ok_iff.2 ⟨fun x hx => hnames x ((hlist.mem_iff x).1 hx), hlist.self⟩
  · intro others hsame list
    have hknown : (∀ x ∈ others, x ∈ r.order) ↔ ∀ x ∈ names, x ∈ r.order := by
      simp only [hsame]
    rw [h.ordered_eq_ok_iff, h.ordered_eq_ok_iff, hknown]
    exact and_congr_right fun _ =>
      ⟨fun hlist => hlist.congr fun x => (hsame x).symm, fun hlist => hlist.congr hsame⟩
  · obtain ⟨hresolved, hpublic⟩ := h.resolveAlias_resolved hvalue
    exact ⟨hresolved, h.not_isHelperName hpublic⟩

/-- In the small registry `map` and `each` are arranged with `each` first, and `forEach` is
`each`. -/
theorem tables_fit_sample :
    sample.ordered ["map", "each", "map"] = .ok ["each", "map"] ∧
      sample.resolveAlias "forEach" = some "each" ∧
      sample.resolveAlias "each" = some "each" ∧ ¬ sample.IsHelperName "each" := by
  obtain ⟨-, -, -, hresolved⟩ :=
    tables_fit sampleEntries sampleHeader sample ofEntries_sampleEntries
  have hforEach : sample.resolveAlias "forEach" = some "each" := by decide
  obtain ⟨heach, hnot⟩ := hresolved "forEach" "each" hforEach
  exact ⟨by decide, hforEach, heach, hnot⟩

end CustomBuild.Registry
