import CustomBuild.Json.Misuse
import Mathlib.Data.List.Basic
import Mathlib.Tactic.SplitIfs

/-!
# Values in order

A list of values is put in order if it is one of texts or one of numbers, or if there is nothing to
compare (`exists_ordered_iff`).  The values in order are the given ones, and they are in order
(`Comparable.exists_ordered`); only numbers without a rank are no part of this, since they stand
beside every number and so have no place of their own.

Values of which no two are the same name are not changed by taking each name once
(`distinct_of_perm`), whatever their order is.
-/

namespace CustomBuild

/-- **Sorting twice** is sorting once, if the values can be compared all with one another. -/
theorem mergeSort_mergeSort {α : Type} {r s : α → α → Bool} {values : List α}
    (htrans : ∀ a b c, s a b = true → s b c = true → s a c = true)
    (htotal : ∀ a b, (s a b || s b a) = true)
    (hagree : ∀ a ∈ values, ∀ b ∈ values, r a b = s a b) :
    (values.mergeSort r).mergeSort r = values.mergeSort r := by
  -- the order that is given may be one of these values only, the other is one of all
  have hsame : values.mergeSort r = values.mergeSort s := by
    simpa using List.map_mergeSort (f := id) (s := s) hagree
  refine List.mergeSort_of_pairwise ?_
  have hpairwise : (values.mergeSort s).Pairwise fun a b => s a b = true :=
    List.pairwise_mergeSort htrans htotal values
  rw [hsame]
  refine hpairwise.imp_of_mem fun ha hb hle => ?_
  rwa [hagree _ (List.mem_mergeSort.1 ha) _ (List.mem_mergeSort.1 hb)]

namespace Decimal.Rank

theorem le_trans {a b c : Rank} (hab : a.le b = true) (hbc : b.le c = true) : a.le c = true := by
  simp only [le, Bool.or_eq_true, Bool.and_eq_true, decide_eq_true_eq] at *
  omega

theorem le_total (a b : Rank) : (a.le b || b.le a) = true := by
  simp only [le, Bool.or_eq_true, Bool.and_eq_true, decide_eq_true_eq]
  omega

end Decimal.Rank

namespace Json

variable {values others inOrder : List Json} {a b : Json}

/-! ### Each name once -/

theorem sameName_comm (a b : Json) : sameName a b = sameName b a := by
  cases a <;> cases b <;> simp only [sameName] <;> exact Bool.beq_comm

theorem distinct_cons (a : Json) (values : List Json) :
    distinct (a :: values) = a :: distinct (values.filter fun b => sameName b a = false) :=
  List.eraseDupsBy_cons

/-- Induction that follows the names which are taken: what is left after the first name has no
spelling of it. -/
theorem distinct_induction {P : List Json → Prop} (nil : P [])
    (cons : ∀ first rest, P (rest.filter fun b => sameName b first = false) → P (first :: rest))
    (values : List Json) : P values := by
  induction hlength : values.length using Nat.strongRecOn generalizing values with
  | ind n ih =>
    cases values with
    | nil => exact nil
    | cons first rest =>
      refine cons first rest (ih _ ?_ _ rfl)
      rw [← hlength]
      exact Nat.lt_succ_of_le (List.length_filter_le _ _)

/-- Taking each name once adds nothing. -/
theorem mem_of_mem_distinct (h : a ∈ distinct values) : a ∈ values := by
  induction values using distinct_induction with
  | nil => exact h
  | cons first rest ih =>
    rw [distinct_cons, List.mem_cons] at h
    rcases h with rfl | h
    · exact List.mem_cons_self
    · exact List.mem_cons_of_mem _ (List.mem_of_mem_filter (ih h))

/-- **No two values are the same name** once each name is taken once. -/
theorem pairwise_distinct (values : List Json) :
    (distinct values).Pairwise fun a b => sameName a b = false := by
  induction values using distinct_induction with
  | nil => exact List.Pairwise.nil
  | cons first rest ih =>
    rw [distinct_cons, List.pairwise_cons]
    refine ⟨fun b hb => ?_, ih⟩
    rw [sameName_comm]
    exact of_decide_eq_true (List.mem_filter.1 (mem_of_mem_distinct hb)).2

theorem distinct_eq_self (h : values.Pairwise fun a b => sameName a b = false) :
    distinct values = values := by
  induction values with
  | nil => rfl
  | cons first rest ih =>
    obtain ⟨hfirst, hrest⟩ := List.pairwise_cons.1 h
    have hall : (rest.filter fun b => sameName b first = false) = rest := by
      refine List.filter_eq_self.2 fun b hb => ?_
      rw [sameName_comm, hfirst b hb]
      rfl
    rw [distinct_cons, hall, ih hrest]

/-- **In any order**, values with each name once are taken as they are. -/
theorem distinct_of_perm (h : others.Perm (distinct values)) : distinct others = others := by
  refine distinct_eq_self ((h.pairwise_iff fun hab => ?_).2 (pairwise_distinct values))
  rw [sameName_comm]
  exact hab

theorem keyMisuse?_eq_none_iff : keyMisuse? values = none ↔ ∀ v ∈ values, v.isKey = true := by
  rw [keyMisuse?, Option.map_eq_none_iff, List.find?_eq_none]
  exact forall₂_congr fun v _ => by simp

/-! ### Order -/

/-- **Values that can be compared** with one another: texts, or numbers that have a rank. -/
def Comparable (values : List Json) : Prop :=
  values.length ≤ 1 ∨ (∀ v ∈ values, v.isText = true) ∨ ∀ v ∈ values, v.rank? ≠ none

theorem isNumber_of_rank? (h : a.rank? ≠ none) : a.isNumber = true := by
  cases a <;> first | rfl | exact absurd rfl h

theorem isNumber_eq_false_of_isText (h : a.isText = true) : a.isNumber = false := by
  cases a <;> first | rfl | cases h

theorem ordered_of_texts (h : ∀ v ∈ values, v.isText = true) :
    ordered values = .ok (values.mergeSort fun a b => decide (a.display ≤ b.display)) := by
  match values with
  | [] => rw [ordered, List.mergeSort_nil]
  | [value] => rw [ordered, List.mergeSort_singleton]
  | first :: second :: rest => exact if_pos (List.all_eq_true.2 h)

theorem ordered_of_numbers (h : ∀ v ∈ values, v.isNumber = true) :
    ordered values = .ok (values.mergeSort numberLe) := by
  match values with
  | [] => rw [ordered, List.mergeSort_nil]
  | [value] => rw [ordered, List.mergeSort_singleton]
  | first :: second :: rest =>
    have htexts : ¬ (first :: second :: rest).all isText = true := by
      intro htexts
      have hfirst := isNumber_eq_false_of_isText
        (List.all_eq_true.1 htexts first List.mem_cons_self)
      rw [h first List.mem_cons_self] at hfirst
      cases hfirst
    exact (if_neg htexts).trans (if_pos (List.all_eq_true.2 h))

/-- **Values have an order** exactly if there is nothing to compare, or they are texts, or they are
numbers. -/
theorem exists_ordered_iff :
    (∃ inOrder, ordered values = .ok inOrder) ↔
      values.length ≤ 1 ∨ (∀ v ∈ values, v.isText = true) ∨ ∀ v ∈ values, v.isNumber = true := by
  constructor
  · -- one value is never compared, whatever it is
    rintro ⟨inOrder, h⟩
    match values with
    | [] => exact Or.inl (Nat.zero_le _)
    | [value] => exact Or.inl (Nat.le_refl 1)
    | first :: second :: rest =>
      rw [ordered] at h
      · split_ifs at h with htexts hnumbers
        · exact Or.inr (Or.inl (List.all_eq_true.1 htexts))
        · exact Or.inr (Or.inr (List.all_eq_true.1 hnumbers))
      · exact nofun
  · rintro (hshort | htexts | hnumbers)
    · match values with
      | [] => exact ⟨[], rfl⟩
      | [value] => exact ⟨[value], rfl⟩
      | first :: second :: rest => exact absurd hshort (by simp)
    · exact ⟨_, ordered_of_texts htexts⟩
    · exact ⟨_, ordered_of_numbers hnumbers⟩

/-- The rank of a value among numbers; where it does not matter it is that of zero. -/
def rankOrZero (json : Json) : Decimal.Rank :=
  json.rank?.getD (Decimal.Rank.ofInt 0)

theorem numberLe_of_rank? (ha : a.rank? ≠ none) (hb : b.rank? ≠ none) :
    numberLe a b = a.rankOrZero.le b.rankOrZero := by
  obtain ⟨rank, hrank⟩ := Option.ne_none_iff_exists'.1 ha
  obtain ⟨other, hother⟩ := Option.ne_none_iff_exists'.1 hb
  rw [numberLe, rankOrZero, rankOrZero, hrank, hother]
  rfl

/-- **Values that can be compared** are put in order, and stay as they are when this is done
again. -/
theorem Comparable.exists_ordered (h : Comparable values) :
    ∃ inOrder, ordered values = .ok inOrder ∧ inOrder.Perm values ∧
      ordered inOrder = .ok inOrder := by
  rcases h with hshort | htexts | hranks
  · match values with
    | [] => exact ⟨[], rfl, .refl _, rfl⟩
    | [value] => exact ⟨[value], rfl, .refl _, rfl⟩
    | first :: second :: rest => exact absurd hshort (by simp)
  · refine ⟨_, ordered_of_texts htexts, List.mergeSort_perm _ _, ?_⟩
    rw [ordered_of_texts fun v hv => htexts v (List.mem_mergeSort.1 hv)]
    refine congrArg Except.ok (mergeSort_mergeSort (fun a b c => ?_) (fun a b => ?_)
      fun _ _ _ _ => rfl)
    · simpa only [decide_eq_true_eq] using String.le_trans
    · simpa only [Bool.or_eq_true, decide_eq_true_eq] using String.le_total _ _
  · have hnumbers : ∀ v ∈ values, v.isNumber = true := fun v hv => isNumber_of_rank? (hranks v hv)
    refine ⟨_, ordered_of_numbers hnumbers, List.mergeSort_perm _ _, ?_⟩
    rw [ordered_of_numbers fun v hv => hnumbers v (List.mem_mergeSort.1 hv)]
    exact congrArg Except.ok (mergeSort_mergeSort
      (s := fun a b => a.rankOrZero.le b.rankOrZero) (fun _ _ _ => Decimal.Rank.le_trans)
      (fun _ _ => Decimal.Rank.le_total _ _)
      fun a ha b hb => numberLe_of_rank? (hranks a ha) (hranks b hb))

/-- **Texts in increasing order** are in order. -/
theorem ordered_map_string {texts : List String} (h : texts.Pairwise (· < ·)) :
    ordered (texts.map .string) = .ok (texts.map .string) := by
  have htexts : ∀ v ∈ texts.map Json.string, v.isText = true := by
    intro v hv
    obtain ⟨text, -, rfl⟩ := List.mem_map.1 hv
    rfl
  have hpairwise : (texts.map Json.string).Pairwise fun a b =>
      decide (a.display ≤ b.display) = true := by
    refine List.pairwise_map.2 (h.imp fun hlt => decide_eq_true ?_)
    exact Std.le_of_lt hlt
  rw [ordered_of_texts htexts, List.mergeSort_of_pairwise hpairwise]

end Json

end CustomBuild
