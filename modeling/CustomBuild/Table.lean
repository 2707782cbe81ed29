/-!
# Tables

A table maps names to values and remembers the order in which its names were first entered: a name
that is entered again keeps its place and takes the new value.  No name has two rows.  `get?_put`
and `names_put` say what entering a value does to look-ups and to the names, and `ofRows_rows` says
that a table is read back from its rows.
-/

namespace CustomBuild

/-- **Looking up a row** by a key that no two rows share. -/
theorem lookup_eq_some_iff_of_nodup {β : Type} {rows : List (String × β)} {name : String}
    {value : β}
    (h : (rows.map Prod.fst).Nodup) :
    rows.lookup name = some value ↔ (name, value) ∈ rows := by
  induction rows with
  | nil => simp
  | cons row rest ih =>
    rw [List.map_cons, List.nodup_cons] at h
    rw [List.lookup_cons, List.mem_cons]
    by_cases hname : name = row.1
    · subst hname
      have hrest : (row.1, value) ∉ rest := fun hmem =>
        h.1 (List.mem_map.2 ⟨(row.1, value), hmem, rfl⟩)
      simp only [beq_self_eq_true, Option.some.injEq, hrest, or_false]
      exact ⟨fun hv => by rw [← hv], fun hv => by rw [← hv]⟩
    · have hne : (name, value) ≠ row := fun heq => hname (by rw [← heq])
      rw [beq_false_of_ne hname, ih h.2]
      exact ⟨Or.inr, fun hmem => hmem.resolve_left hne⟩

/-- A table from names to values, in order of first entry. -/
structure Table (β : Type) where
  /-- the rows in order of first entry -/
  rows : List (String × β)
  /-- no name has two rows -/
  distinct : (rows.map Prod.fst).Nodup
deriving DecidableEq

namespace Table

variable {β γ : Type}

/-- The table without rows. -/
def empty : Table β where
  rows := []
  distinct := List.nodup_nil

instance : EmptyCollection (Table β) := ⟨empty⟩

instance : Inhabited (Table β) := ⟨empty⟩

instance [Repr β] : Repr (Table β) := ⟨fun t precedence => reprPrec t.rows precedence⟩

/-- The value of a name. -/
def get? (t : Table β) (name : String) : Option β :=
  t.rows.lookup name

/-- The names in order of first entry. -/
def names (t : Table β) : List String :=
  t.rows.map Prod.fst

/-- The values in the order of their names. -/
def values (t : Table β) : List β :=
  t.rows.map Prod.snd

/-- Whether a name has a value. -/
def contains (t : Table β) (name : String) : Bool :=
  decide (name ∈ t.names)

/-- The rows with the value of one key replaced. -/
def replaced {α : Type} [DecidableEq α] (key : α) (value : β) (rows : List (α × β)) :
    List (α × β) :=
  rows.map fun row => (row.1, if row.1 = key then value else row.2)

theorem map_fst_replaced {α : Type} [DecidableEq α] (key : α) (value : β) (rows : List (α × β)) :
    (replaced key value rows).map Prod.fst = rows.map Prod.fst := by
  simp [replaced, List.map_map, Function.comp_def]

/-- Replacing a value changes the look-up of its key alone, and only if the key is there. -/
theorem lookup_replaced {α : Type} [DecidableEq α] [BEq α] [LawfulBEq α] {key other : α}
    {value : β} {rows : List (α × β)} :
    (replaced key value rows).lookup other =
      (rows.lookup other).map fun old => if other = key then value else old := by
  induction rows with
  | nil => rfl
  | cons row rest ih =>
    rw [replaced, List.map_cons, ← replaced, List.lookup_cons, List.lookup_cons, ih]
    by_cases h : other = row.1
    · simp [h]
    · rw [beq_false_of_ne h]

theorem nodup_append_row {rows : List (String × β)} (h : (rows.map Prod.fst).Nodup)
    {name : String} (value : β) (hnew : ¬ name ∈ rows.map Prod.fst) :
    ((rows ++ [(name, value)]).map Prod.fst).Nodup := by
  rw [List.map_append, List.nodup_append]
  refine ⟨h, by simp, fun a ha b hb => ?_⟩
  rintro rfl
  simp only [List.map_cons, List.map_nil, List.mem_singleton] at hb
  exact hnew (hb ▸ ha)

/-- **Entering a value**: a known name keeps its place, a new one goes last. -/
def put (t : Table β) (name : String) (value : β) : Table β :=
  if h : name ∈ t.rows.map Prod.fst then
    ⟨replaced name value t.rows, (map_fst_replaced name value t.rows).symm ▸ t.distinct⟩
  else ⟨t.rows ++ [(name, value)], nodup_append_row t.distinct value h⟩

/-- The table that results from entering the rows one after the other. -/
def ofRows (rows : List (String × β)) : Table β :=
  rows.foldl (fun t row => t.put row.1 row.2) empty

/-! ### Rows -/

/-- Entering rows with new names adds them at the end. -/
theorem rows_foldl_put {rows : List (String × β)} {t : Table β}
    (h : ((t.rows ++ rows).map Prod.fst).Nodup) :
    (rows.foldl (fun t row => t.put row.1 row.2) t).rows = t.rows ++ rows := by
  induction rows generalizing t with
  | nil => simp
  | cons row rest ih =>
    have hnew : ¬ row.1 ∈ t.rows.map Prod.fst := by
      rw [List.map_append, List.nodup_append] at h
      exact fun hmem => h.2.2 row.1 hmem row.1 (by simp) rfl
    have hrows : (t.put row.1 row.2).rows = t.rows ++ [row] := by
      rw [put, dif_neg hnew]
    rw [List.foldl_cons, ih (by rw [hrows, List.append_assoc]; exact h), hrows]
    simp

/-- **A table is read back from its rows.** -/
@[simp]
theorem ofRows_rows (t : Table β) : ofRows t.rows = t := by
  obtain ⟨rows, hdistinct⟩ := t
  have h : (ofRows rows).rows = rows :=
    rows_foldl_put (t := empty) (by simpa [empty] using hdistinct)
  generalize ofRows rows = t at h
  subst h
  rfl

/-! ### Look-ups after an entry -/

@[simp]
theorem get?_empty {name : String} : (empty : Table β).get? name = none := rfl

/-- The names are those that have a value. -/
theorem mem_names_iff_isSome {t : Table β} {name : String} :
    name ∈ t.names ↔ (t.get? name).isSome = true := by
  rw [names, get?]
  induction t.rows with
  | nil => simp
  | cons row rest ih =>
    rw [List.map_cons, List.mem_cons, ih, List.lookup_cons]
    by_cases h : name = row.1
    · simp [h]
    · rw [beq_false_of_ne h]
      exact or_iff_right h

/-- **What entering a value does to look-ups**: the entered name has the new value, and every other
name has the value that it had. -/
theorem get?_put {t : Table β} {name other : String} {value : β} :
    (t.put name value).get? other = if other = name then some value else t.get? other := by
  by_cases hname : name ∈ t.rows.map Prod.fst
  · have hrows : (t.put name value).rows = replaced name value t.rows := by
      rw [put, dif_pos hname]
    rw [get?, hrows, lookup_replaced]
    split
    · next h =>
      subst h
      obtain ⟨old, hold⟩ := Option.isSome_iff_exists.1 (mem_names_iff_isSome.1 hname)
      rw [get?] at hold
      rw [hold]
      rfl
    · rw [get?]
      simp
  · have hrows : (t.put name value).rows = t.rows ++ [(name, value)] := by
      rw [put, dif_neg hname]
    rw [get?, hrows, List.lookup_append, ← get?]
    split
    · next h =>
      subst h
      have hnone : t.get? other = none := by
        rw [← Option.not_isSome_iff_eq_none]
        exact fun hsome => hname (mem_names_iff_isSome.2 hsome)
      simp [hnone]
    · next h =>
      rw [List.lookup_cons, beq_false_of_ne h]
      exact Option.or_none

/-- Entering a value leaves the names as they are, or puts a new one last. -/
theorem names_put {t : Table β} {name : String} {value : β} :
    (t.put name value).names = if name ∈ t.names then t.names else t.names ++ [name] := by
  by_cases h : name ∈ t.rows.map Prod.fst
  · rw [if_pos (show name ∈ t.names from h), names, put, dif_pos h]
    exact map_fst_replaced name value t.rows
  · rw [if_neg (show ¬ name ∈ t.names from h), names, put, dif_neg h]
    exact List.map_append

end Table

end CustomBuild
