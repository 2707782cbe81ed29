import CustomBuild.Json.Display

/-!
# Spellings of names

A value that stands where a name is expected can be spelled in several ways: `1`, `1.0` and `true`
are one number, and so one name (`sameName`).  A text has one spelling, and is no number.  In a set
of names the spelling that came first stays (`distinct`), so a value is often to be spelled as it is
spelled in a list of known values (`spelledAs`).  For texts that changes nothing
(`spelledAs_string`).
-/

namespace CustomBuild.Json

/-- **Whether two values are the same name.** -/
def sameName : Json → Json → Bool
  | .string a, .string b => a == b
  | .string _, _ => false
  | _, .string _ => false
  | a, b => a.keyText == b.keyText

/-- **A value spelled as in a list of known values**; a value that is not among them stays as it
is. -/
def spelledAs (known : List Json) (value : Json) : Json :=
  (known.find? (sameName value)).getD value

/-- Values that are names, each name once and in its first spelling. -/
def distinct (values : List Json) : List Json :=
  values.eraseDupsBy sameName

/-- A text is the same name as itself alone. -/
theorem sameName_string {text : String} {value : Json} :
    sameName (.string text) value = true ↔ value = .string text := by
  cases value with
  | string other =>
    rw [sameName, beq_iff_eq, Json.string.injEq]
    exact eq_comm
  | _ => simp [sameName]

/-- **A text has one spelling.** -/
@[simp]
theorem spelledAs_string (known : List Json) (text : String) :
    spelledAs known (.string text) = .string text := by
  rw [spelledAs]
  cases h : known.find? (sameName (.string text)) with
  | none => rfl
  | some found => exact sameName_string.1 (List.find?_some h)

end CustomBuild.Json
