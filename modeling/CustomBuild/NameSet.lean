/-!
# Sets of names

A set of names is kept as the list of its members in strictly increasing order of code points, so
two sets with the same members are equal (`NameSet.ext`).  `ofList` forgets order and repetition:
its members are exactly those of the list (`mem_ofList`).
-/

namespace CustomBuild

/-- A finite set of names. -/
structure NameSet where
  /-- the members in increasing order -/
  toList : List String
  /-- the order is strict, so no member is repeated -/
  sorted : toList.Pairwise (· < ·)
deriving DecidableEq

namespace NameSet

/-! ### Inserting into a sorted list -/

/-- Inserts a name at its place in an increasing list, unless it is there. -/
def insertSorted (name : String) : List String → List String
  | [] => [name]
  | other :: rest =>
    if name < other then name :: other :: rest
    else if name = other then other :: rest
    else other :: insertSorted name rest

@[simp]
theorem mem_insertSorted {name x : String} {names : List String} :
    x ∈ insertSorted name names ↔ x = name ∨ x ∈ names := by
  induction names with
  | nil => simp [insertSorted]
  | cons other rest ih =>
    rw [insertSorted]
    split
    · simp
    · split
      · next _ h => subst h; simp
      · simp only [List.mem_cons, ih]
        constructor
        · rintro (h | h | h) <;> simp [h]
        · rintro (h | h | h) <;> simp [h]

theorem pairwise_insertSorted {name : String} {names : List String}
    (h : names.Pairwise (· < ·)) : (insertSorted name names).Pairwise (· < ·) := by
  induction names with
  | nil => simp [insertSorted]
  | cons other rest ih =>
    rw [insertSorted]
    rw [List.pairwise_cons] at h
    split
    · next hlt =>
      refine List.pairwise_cons.2 ⟨fun x hx => ?_, List.pairwise_cons.2 h⟩
      rcases List.mem_cons.1 hx with rfl | hx
      · exact hlt
      · exact String.lt_trans hlt (h.1 x hx)
    · next hle =>
      split
      · exact List.pairwise_cons.2 h
      · next hne =>
        refine List.pairwise_cons.2 ⟨fun x hx => ?_, ih h.2⟩
        rcases mem_insertSorted.1 hx with rfl | hx
        · exact Std.lt_of_le_of_ne (String.not_lt.1 hle) (Ne.symm hne)
        · exact h.1 x hx

/-! ### Sets -/

/-- The set without members. -/
def empty : NameSet where
  toList := []
  sorted := List.Pairwise.nil

instance : EmptyCollection NameSet := ⟨empty⟩

instance : Inhabited NameSet := ⟨empty⟩

instance : Membership String NameSet := ⟨fun s x => x ∈ s.toList⟩

instance {x : String} {s : NameSet} : Decidable (x ∈ s) :=
  inferInstanceAs (Decidable (x ∈ s.toList))

instance : Repr NameSet := ⟨fun s precedence => reprPrec s.toList precedence⟩

/-- The set with one more member. -/
def insert (name : String) (s : NameSet) : NameSet where
  toList := insertSorted name s.toList
  sorted := pairwise_insertSorted s.sorted

/-- **The members of a list**, order and repetition forgotten. -/
def ofList (names : List String) : NameSet :=
  names.foldr insert empty

theorem mem_toList {x : String} {s : NameSet} : x ∈ s.toList ↔ x ∈ s := Iff.rfl

@[simp]
theorem mem_insert {x name : String} {s : NameSet} : x ∈ s.insert name ↔ x = name ∨ x ∈ s :=
  mem_insertSorted

@[simp]
theorem not_mem_empty {x : String} : ¬ x ∈ empty := by
  simp [← mem_toList, empty]

@[simp]
theorem mem_ofList {x : String} {names : List String} : x ∈ ofList names ↔ x ∈ names := by
  induction names with
  | nil => simp [ofList]
  | cons name rest ih =>
    rw [List.mem_cons, ← ih]
    exact mem_insert

/-- **Sets with the same members are equal.** -/
theorem ext {s t : NameSet} (h : ∀ x, x ∈ s ↔ x ∈ t) : s = t := by
  obtain ⟨l, hl⟩ := s
  obtain ⟨m, hm⟩ := t
  have hlm : ∀ x, x ∈ l ↔ x ∈ m := h
  clear h
  congr
  induction l generalizing m with
  | nil =>
    cases m with
    | nil => rfl
    | cons y ys => exact absurd ((hlm y).2 (by simp)) (by simp)
  | cons x xs ih =>
    cases m with
    | nil => exact absurd ((hlm x).1 (by simp)) (by simp)
    | cons y ys =>
      rw [List.pairwise_cons] at hl hm
      have hxy : x = y := by
        rcases List.mem_cons.1 ((hlm x).1 (by simp)) with h | h
        · exact h
        · rcases List.mem_cons.1 ((hlm y).2 (by simp)) with h' | h'
          · exact h'.symm
          · exact absurd (hl.1 y h') (String.lt_asymm (hm.1 x h))
      subst hxy
      have htail : xs = ys := by
        refine ih hl.2 ys hm.2 fun z => ⟨fun hz => ?_, fun hz => ?_⟩
        · rcases List.mem_cons.1 ((hlm z).1 (List.mem_cons_of_mem _ hz)) with h | h
          · exact absurd (h ▸ hl.1 z hz) (String.lt_irrefl _)
          · exact h
        · rcases List.mem_cons.1 ((hlm z).2 (List.mem_cons_of_mem _ hz)) with h | h
          · exact absurd (h ▸ hm.1 z hz) (String.lt_irrefl _)
          · exact h
      rw [htail]

end NameSet

end CustomBuild
