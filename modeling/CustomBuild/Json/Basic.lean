import CustomBuild.Table

/-!
# JSON values

Manifests and serialised records are JSON values.  The fields of an object keep the order in which
they were written, because the order of bundles and of fragment variants decides the order of
messages.  A text that spells out half of a surrogate pair is a value of its own sort, since it is
no sequence of characters.
-/

namespace CustomBuild

/-- A JSON value.  A number that is not written as an integer is kept as it is written. -/
inductive Json where
  /-- the absent value -/
  | null
  /-- a truth value -/
  | bool (value : Bool)
  /-- a number written without fraction and exponent -/
  | integer (value : Int)
  /-- any other number -/
  | decimal (literal : String)
  /-- a text -/
  | string (text : String)
  /-- a text with halves of surrogate pairs, which have stand-ins -/
  | broken (text : String)
  /-- a sequence of values -/
  | array (items : List Json)
  /-- an object, whose field names are distinct -/
  | object (fields : List (String × Json))
deriving Inhabited, Repr

namespace Json

/-- The sequence of the given texts. -/
def strings (texts : List String) : Json :=
  .array (texts.map .string)

/-- A text, or the absent value. -/
def optional : Option String → Json
  | none => .null
  | some text => .string text

/-! ### Equality -/

mutual

/-- Whether two values are the same. -/
def beq : Json → Json → Bool
  | .null, .null => true
  | .bool a, .bool b => a == b
  | .integer a, .integer b => a == b
  | .decimal a, .decimal b => a == b
  | .string a, .string b => a == b
  | .broken a, .broken b => a == b
  | .array a, .array b => beqItems a b
  | .object a, .object b => beqFields a b
  | _, _ => false

/-- Whether two sequences are the same. -/
def beqItems : List Json → List Json → Bool
  | [], [] => true
  | a :: as, b :: bs => beq a b && beqItems as bs
  | _, _ => false

/-- Whether two lists of fields are the same. -/
def beqFields : List (String × Json) → List (String × Json) → Bool
  | [], [] => true
  | (name, a) :: as, (other, b) :: bs => name == other && beq a b && beqFields as bs
  | _, _ => false

end

mutual

theorem beq_refl : (a : Json) → beq a a = true
  | .null => rfl
  | .bool _ => by simp [beq]
  | .integer _ => by simp [beq]
  | .decimal _ => by simp [beq]
  | .string _ => by simp [beq]
  | .broken _ => by simp [beq]
  | .array items => by rw [beq]; exact beqItems_refl items
  | .object fields => by rw [beq]; exact beqFields_refl fields

theorem beqItems_refl : (items : List Json) → beqItems items items = true
  | [] => rfl
  | a :: as => by rw [beqItems, beq_refl a, beqItems_refl as]; rfl

theorem beqFields_refl : (fields : List (String × Json)) → beqFields fields fields = true
  | [] => rfl
  | (name, a) :: as => by rw [beqFields, beq_refl a, beqFields_refl as]; simp

end

mutual

theorem eq_of_beq : (a b : Json) → beq a b = true → a = b
  | .null, b, h => by cases b <;> simp_all [beq]
  | .bool _, b, h => by cases b <;> simp_all [beq]
  | .integer _, b, h => by cases b <;> simp_all [beq]
  | .decimal _, b, h => by cases b <;> simp_all [beq]
  | .string _, b, h => by cases b <;> simp_all [beq]
  | .broken _, b, h => by cases b <;> simp_all [beq]
  | .array items, b, h => by
    cases b with
    | array others =>
      rw [beq] at h
      rw [eq_of_beqItems items others h]
    | _ => simp [beq] at h
  | .object fields, b, h => by
    cases b with
    | object others =>
      rw [beq] at h
      rw [eq_of_beqFields fields others h]
    | _ => simp [beq] at h

theorem eq_of_beqItems : (items others : List Json) → beqItems items others = true → items = others
  | [], [], _ => rfl
  | [], _ :: _, h => by simp [beqItems] at h
  | _ :: _, [], h => by simp [beqItems] at h
  | a :: as, b :: bs, h => by
    rw [beqItems, Bool.and_eq_true] at h
    rw [eq_of_beq a b h.1, eq_of_beqItems as bs h.2]

theorem eq_of_beqFields :
    (fields others : List (String × Json)) → beqFields fields others = true → fields = others
  | [], [], _ => rfl
  | [], _ :: _, h => by simp [beqFields] at h
  | _ :: _, [], h => by simp [beqFields] at h
  | (name, a) :: as, (other, b) :: bs, h => by
    rw [beqFields, Bool.and_eq_true, Bool.and_eq_true] at h
    rw [eq_of_beq a b h.1.2, eq_of_beqFields as bs h.2, LawfulBEq.eq_of_beq h.1.1]

end

instance : DecidableEq Json := fun a b =>
  decidable_of_iff (beq a b = true) ⟨eq_of_beq a b, fun h => h ▸ beq_refl a⟩

/-! ### Reading -/

/-- The value of a field of an object. -/
def field? (json : Json) (name : String) : Option Json :=
  match json with
  | .object fields => fields.lookup name
  | _ => none

/-- The text that a value is. -/
def string? : Json → Option String
  | .string text => some text
  | _ => none

/-- The truth value that a value is. -/
def bool? : Json → Option Bool
  | .bool value => some value
  | _ => none

/-- The integer that a value is. -/
def integer? : Json → Option Int
  | .integer value => some value
  | _ => none

/-- The items of a sequence. -/
def items? : Json → Option (List Json)
  | .array items => some items
  | _ => none

/-- The texts of a sequence of texts. -/
def strings? (json : Json) : Option (List String) :=
  json.items?.bind fun items => items.mapM string?

/-- The fields of an object. -/
def fields? : Json → Option (List (String × Json))
  | .object fields => some fields
  | _ => none

end Json

end CustomBuild
