import CustomBuild.Command.Grammar
import CustomBuild.Selection
import Mathlib.Data.Option.Defs
import Mathlib.Tactic.Common

/-!
# Commands that ask for the same

Two commands are `Command.Alike` if they differ at most in the order and the repetition of what
they list, and in what does not bear on the selection: the wrapper, the path and the words of the
banner.  Alike commands select the same (`Registry.select_agrees`): order could come in by the
values that are looked up, but `expand` and `unknown` depend on the members of a list only, and
the functions asked for are put in the order of the registry.
-/

namespace CustomBuild

/-- Lists of names with the same members, order and repetition forgotten. -/
def SameMembers (l m : List String) : Prop :=
  ∀ x, x ∈ l ↔ x ∈ m

/-- Two outcomes that are both errors or both results, related as given. -/
inductive Agreeing {ε α : Type} (errors : ε → ε → Prop) (results : α → α → Prop) :
    Except ε α → Except ε α → Prop
  /-- both are errors -/
  | error {e e' : ε} (h : errors e e') : Agreeing errors results (.error e) (.error e')
  /-- both are results -/
  | ok {a a' : α} (h : results a a') : Agreeing errors results (.ok a) (.ok a')

/-- **Commands that ask for the same.** -/
structure Command.Alike (c d : Command) : Prop where
  /-- a list of names to start from is given by both, with the same names, or by neither -/
  included : Option.Rel SameMembers c.included d.included
  /-- the bundles are the same set -/
  bundles : SameMembers c.bundles d.bundles
  /-- the categories are the same set -/
  categories : SameMembers c.categories d.categories
  /-- the names to add are the same set -/
  plus : SameMembers c.plus d.plus
  /-- the names to take away are the same set -/
  minus : SameMembers c.minus d.minus
  /-- the further names to take away are the same set -/
  excluded : SameMembers c.excluded d.excluded
  /-- the same modes are active -/
  modes : c.modes = d.modes
  /-- the formats are the same list -/
  exports : c.exports = d.exports
  /-- both write to standard output, or neither -/
  stdout : c.stdout = d.stdout
  /-- both keep quiet, or neither -/
  silent : c.silent = d.silent
  /-- both reduce the module, or neither -/
  minify : c.minify = d.minify
  /-- unknown names are an error for both, or for neither -/
  strictNames : c.strictNames = d.strictNames

/-- Selections of the same functions; what they drop is the same set. -/
structure Selection.Alike (s t : Selection) : Prop where
  /-- the same functions are emitted, in the same order -/
  names : s.names = t.names
  /-- the same functions are asked for, in the same order -/
  requested : s.requested = t.requested
  /-- the same values are unknown -/
  dropped : SameMembers s.dropped t.dropped

/-! ### Lists with the same members -/

namespace SameMembers

variable {l l' m m' : List String}

theorem append (h : SameMembers l l') (h' : SameMembers m m') :
    SameMembers (l ++ m) (l' ++ m') := by
  intro x
  rw [List.mem_append, List.mem_append, h x, h' x]

theorem map (f : String → String) (h : SameMembers l m) : SameMembers (l.map f) (m.map f) := by
  intro x
  rw [List.mem_map, List.mem_map]
  exact exists_congr fun y => and_congr_left fun _ => h y

theorem filter (p : String → Bool) (h : SameMembers l m) :
    SameMembers (l.filter p) (m.filter p) := by
  intro x
  rw [List.mem_filter, List.mem_filter, h x]

theorem eraseDups (h : SameMembers l m) : SameMembers l.eraseDups m.eraseDups := by
  intro x
  rw [List.mem_eraseDups, List.mem_eraseDups, h x]

theorem contains_eq (h : SameMembers l m) (x : String) : l.contains x = m.contains x := by
  rw [Bool.eq_iff_iff, List.contains_iff_mem, List.contains_iff_mem, h x]

theorem isEmpty_eq (h : SameMembers l m) : l.isEmpty = m.isEmpty := by
  rw [Bool.eq_iff_iff, List.isEmpty_iff, List.isEmpty_iff, List.eq_nil_iff_forall_not_mem,
    List.eq_nil_iff_forall_not_mem]
  exact forall_congr' fun x => not_congr (h x)

theorem ofList_eq (h : SameMembers l m) : NameSet.ofList l = NameSet.ofList m :=
  NameSet.ext fun x => by rw [NameSet.mem_ofList, NameSet.mem_ofList, h x]

end SameMembers

/-! ### Selecting -/

namespace Registry

variable {r : Registry} {rule : CategoryMatch} {c d : Command} {values values' : List String}

theorem expand_congr (h : SameMembers values values') :
    r.expand rule values = r.expand rule values' := by
  refine NameSet.ext fun x => ?_
  unfold expand
  rw [NameSet.mem_ofList, NameSet.mem_ofList, List.mem_flatMap, List.mem_flatMap]
  exact exists_congr fun value => and_congr_left fun _ => h value

/-- Commands whose lists to start from are related have a source both or neither. -/
theorem hasSource_eq_of_rel {rel : List String → List String → Prop}
    (hincluded : Option.Rel rel c.included d.included)
    (hbundles : c.bundles.isEmpty = d.bundles.isEmpty)
    (hcategories : c.categories.isEmpty = d.categories.isEmpty) : c.hasSource = d.hasSource := by
  unfold Command.hasSource
  rw [hbundles, hcategories]
  generalize c.included = l, d.included = m at hincluded ⊢
  cases hincluded <;> rfl

/-- Commands whose lists to start from are related start from related values. -/
theorem rel_baseValues {rel : List String → List String → Prop}
    (hrefl : ∀ values, rel values values)
    (hincluded : Option.Rel rel c.included d.included)
    (hbundles : ∀ keyword, c.bundles.contains keyword = d.bundles.contains keyword) :
    rel (r.baseValues c) (r.baseValues d) := by
  unfold baseValues
  rw [funext hbundles]
  generalize c.included = l, d.included = m at hincluded ⊢
  cases hincluded with
  | some hnames => exact hnames
  | none => exact hrefl _

theorem hasSource_congr (h : c.Alike d) : c.hasSource = d.hasSource :=
  hasSource_eq_of_rel h.included h.bundles.isEmpty_eq h.categories.isEmpty_eq

theorem baseValues_congr (h : c.Alike d) : SameMembers (r.baseValues c) (r.baseValues d) :=
  rel_baseValues (fun _ _ => Iff.rfl) h.included h.bundles.contains_eq

/-- **The functions asked for** are the same list. -/
theorem requested_congr (h : c.Alike d) : r.requested c = r.requested d := by
  unfold requested
  rw [hasSource_congr h, expand_congr (baseValues_congr h), expand_congr h.categories,
    expand_congr h.plus, expand_congr h.minus, expand_congr h.excluded]

/-- **Unknown values** are the same set; their order is that of the commands. -/
theorem droppedValues_congr (h : c.Alike d) :
    SameMembers (r.droppedValues c) (r.droppedValues d) := by
  have hunknown : ∀ {rule : CategoryMatch} {l m : List String},
      SameMembers l m → SameMembers (r.unknown rule l) (r.unknown rule m) :=
    fun hlm => hlm.filter _
  exact ((((hunknown (baseValues_congr h)).append (hunknown h.categories)).append
    (hunknown h.plus)).append (hunknown h.minus)).append (hunknown h.excluded) |>.eraseDups

/-- **Alike commands select the same**: both ask for unknown names under strict names, and for the
same ones, or neither does and their selections are alike. -/
theorem select_agrees (r : Registry) (h : c.Alike d) :
    Agreeing (fun e e' => SameMembers e.names e'.names) Selection.Alike
      (r.select c) (r.select d) := by
  -- whether anything is unknown does not depend on the order in which it is looked up
  have hdropped := droppedValues_congr (r := r) h
  unfold select
  simp only
  rw [h.strictNames, hdropped.isEmpty_eq, requested_congr h]
  split_ifs with hstrict
  · exact .error hdropped
  · exact .ok ⟨rfl, rfl, hdropped⟩

end Registry

end CustomBuild
