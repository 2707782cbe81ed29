import CustomBuild.Command.Record
import CustomBuild.Entry.Record
import CustomBuild.Proofs.Json.Order
import CustomBuild.Proofs.Steps
import Mathlib.Tactic.Common

/-!
# Records that are read back

The serialised forms of an entry and of a command have all that there is to know of them
(`serialised_reads_back`).  The serialised form of an entry leaves out what has its default value,
so what is read back has the default there (`EntryRecord.normal`); a value of another kind that does
not count as true is lost, an entry has none.  The serialised form of a command has every field, and
its modes in order.  What was never given and what was given without values are written in two ways
and read in two ways (`Command.KeepsAbsence`).
-/

namespace CustomBuild

/-! ### Fields -/

/-- Rows that are there under a condition are found under it. -/
theorem lookup_ite {β : Type} {p : Prop} [Decidable p] {rows others : List (String × β)}
    {name : String} :
    (if p then rows else others).lookup name =
      if p then rows.lookup name else others.lookup name := by
  split_ifs <;> rfl

namespace Json

variable {json : Json} {items : List Json} {fallback : List String} {name : String}

theorem listedOr_of_array (h : json.field? name = some (.array items)) :
    json.listedOr name fallback = .ok items := by
  rw [listedOr, fieldOr, h]
  rfl

/-- A list that is written only if it has items is read back. -/
theorem listedOr_of_optional
    (h : json.field? name = if items.isEmpty then none else some (.array items)) :
    json.listedOr name [] = .ok items := by
  rw [listedOr, fieldOr, h]
  cases items <;> rfl

theorem fieldOr_of_field? {value : Json} (h : json.field? name = some value) (fallback : Json) :
    json.fieldOr name fallback = value := by
  rw [fieldOr, h]
  rfl

/-- A value, or the empty text in place of one that does not count as true. -/
def orEmpty (value : Json) : Json :=
  if value.isTruthy then value else .string ""

/-- A value that is written only if it counts as true is read back, or the empty text is. -/
theorem fieldOr_of_optional {value : Json}
    (h : json.field? name = if value.isTruthy then some value else none) :
    json.fieldOr name (.string "") = value.orEmpty := by
  rw [fieldOr, h, orEmpty]
  split_ifs <;> rfl

/-- It is written again as it was. -/
theorem optionalRow_orEmpty (name : String) (value : Json) :
    (if value.orEmpty.isTruthy then [(name, value.orEmpty)] else []) =
      if value.isTruthy then [(name, value)] else [] := by
  by_cases h : value.isTruthy = true
  · rw [orEmpty, if_pos h]
  · rw [orEmpty, if_neg h, if_neg h]
    rfl

end Json

/-! ### Entries -/

namespace EntryRecord

variable {r : EntryRecord}

/-- **The record that is read back**: what is left out has its default value, and the fragments are
rows of a table. -/
def normal (r : EntryRecord) : EntryRecord where
  name := r.name
  category := r.category.orEmpty
  aliases := r.aliases
  dependencies := r.dependencies
  variants := r.variantTable.rows.map fun row => (.string row.1, row.2)
  tail := r.tail.orEmpty
  isStatic := .bool r.isStatic.isTruthy
  precedence := r.precedence

/-- **Reading the serialised form** of a record. -/
theorem ofJson?_toJson (r : EntryRecord) : ofJson? r.toJson = .ok r.normal := by
  have hname : r.toJson.required "name" = .ok r.name := rfl
  have hdependencies : r.toJson.listedOr "dependencies" [] = .ok r.dependencies :=
    Json.listedOr_of_array rfl
  have hvariants : r.toJson.fieldOr "variants" (.object []) = .object r.variantTable.rows :=
    Json.fieldOr_of_field? rfl _
  -- a field that is left out when it is empty is read as empty
  have haliases : r.toJson.listedOr "aliases" [] = .ok r.aliases :=
    Json.listedOr_of_optional <| by
      simp [toJson, Json.field?, List.lookup_append, List.lookup_cons, lookup_ite]
  have hprecedence : r.toJson.listedOr "precedence" [] = .ok r.precedence :=
    Json.listedOr_of_optional <| by
      simp [toJson, Json.field?, List.lookup_append, List.lookup_cons, lookup_ite]
  have hcategory : r.toJson.fieldOr "category" (.string "") = r.normal.category :=
    Json.fieldOr_of_optional <| by
      simp [toJson, Json.field?, List.lookup_append, List.lookup_cons, lookup_ite]
  have htail : r.toJson.fieldOr "tail" (.string "") = r.normal.tail :=
    Json.fieldOr_of_optional <| by
      simp [toJson, Json.field?, List.lookup_append, List.lookup_cons, lookup_ite]
  have hstatic : r.toJson.fieldOr "static" (.bool true) = r.normal.isStatic := by
    have hfield : r.toJson.field? "static" =
        if r.isStatic.isTruthy then none else some (.bool false) := by
      simp [toJson, Json.field?, List.lookup_append, List.lookup_cons, lookup_ite]
    rw [Json.fieldOr, hfield, normal]
    cases r.isStatic.isTruthy <;> rfl
  rw [ofJson?]
  simp only [hname, haliases, hdependencies, hvariants, hprecedence, hcategory, htail, hstatic,
    Json.tableRows, ok_bind]
  rfl

@[simp]
theorem variantTable_normal (r : EntryRecord) : r.normal.variantTable = r.variantTable := by
  simp [variantTable, normal, tagText, Json.nameText, List.map_map, Function.comp_def]

/-- **What is read back is written again** as it was. -/
theorem toJson_normal (r : EntryRecord) : r.normal.toJson = r.toJson := by
  have hcategory : r.normal.category = r.category.orEmpty := rfl
  have htail : r.normal.tail = r.tail.orEmpty := rfl
  have hstatic : r.normal.isStatic.isTruthy = r.isStatic.isTruthy := rfl
  rw [toJson, toJson, variantTable_normal, hcategory, htail, hstatic, Json.optionalRow_orEmpty,
    Json.optionalRow_orEmpty]
  rfl

end EntryRecord

namespace Entry

/-- The record of an entry is read back as it is. -/
theorem normal_record (e : Entry) : e.record.normal = e.record := by
  have hcategory : (Json.string e.category).orEmpty = .string e.category := by
    by_cases h : e.category = "" <;> simp [Json.orEmpty, Json.isTruthy, h]
  have htail : e.tail.value.orEmpty = e.tail.value := by
    rcases e.tail.isProper with h | h
    · exact if_pos h
    · rw [h]
      rfl
  have hvariants : e.record.variantTable = e.variants := congrArg Entry.variants (entry_record e)
  rw [EntryRecord.normal, hvariants]
  simp only [record, hcategory, htail, Json.isTruthy]

/-- **An entry is read back** from its serialised form. -/
theorem ofJson?_toJson (e : Entry) : ofJson? e.toJson = .ok e := by
  rw [ofJson?, toJson, EntryRecord.ofJson?_toJson, normal_record]
  exact congrArg Except.ok (entry_record e)

end Entry

/-! ### Commands -/

namespace CommandRecord

variable {r : CommandRecord} {data : Json} {modes : List Json}

/-- The names to start from: none were given if the field is absent, or is the absent value. -/
def readIncluded (data : Json) : Except Misuse (Option (List Json)) :=
  match optionalField data "include" with
  | none => .ok none
  | some names => names.listed.map some

/-- **How a record is read**, field by field. -/
structure ReadFrom (data : Json) (r : CommandRecord) : Prop where
  /-- fields can be looked up -/
  kind : data.kind = .object
  /-- the names to start from, if a list of them was given -/
  included : readIncluded data = .ok r.included
  /-- the bundles to start from -/
  bundles : data.listedOr "bundles" [] = .ok r.bundles
  /-- the categories to start from -/
  categories : data.listedOr "categories" [] = .ok r.categories
  /-- names to add -/
  plus : data.listedOr "plus" [] = .ok r.plus
  /-- names to take away -/
  minus : data.listedOr "minus" [] = .ok r.minus
  /-- further names to take away -/
  excluded : data.listedOr "exclude" [] = .ok r.excluded
  /-- the active modes, each once -/
  modes : ∃ values, data.listedOr "modes" [] = .ok values ∧ membersOf values = .ok r.modes
  /-- the export formats, which are all of them if the field is absent -/
  exports : data.listedOr "exports" exportFormats = .ok r.exports
  /-- the words of the command that the banner shows -/
  tokens : data.listedOr "tokens" [] = .ok r.tokens
  /-- the wrapper, if the field is there and is not the absent value -/
  wrapper : optionalField data "wrapper" = r.wrapper
  /-- the file to write -/
  outputPath : data.fieldOr "output_path" .null = r.outputPath
  /-- whether to write to standard output in place of a file -/
  stdout : data.fieldOr "stdout" (.bool false) = r.stdout
  /-- whether to keep quiet -/
  silent : data.fieldOr "silent" (.bool false) = r.silent
  /-- whether to reduce the module -/
  minify : data.fieldOr "minify" (.bool false) = r.minify
  /-- whether unknown names are an error -/
  strictNames : data.fieldOr "strict_names" (.bool false) = r.strictNames

/-- **Reading a record** reads it field by field. -/
theorem ofJson?_eq_ok_iff : ofJson? data = .ok r ↔ ReadFrom data r := by
  constructor
  · intro h
    unfold ofJson? at h
    split_ifs at h with hkind
    · cases h
    simp only at h
    -- the first step depends on whether names to start from are given, and the others do not
    cases hfield : optionalField data "include"
    all_goals
      rw [hfield] at h
      obtain ⟨included, hincluded, h⟩ := exists_of_bind_eq_ok h
      have hread : readIncluded data = .ok included := by
        rw [readIncluded, hfield]
        exact hincluded
      obtain ⟨bundles, hbundles, h⟩ := exists_of_bind_eq_ok h
      obtain ⟨categories, hcategories, h⟩ := exists_of_bind_eq_ok h
      obtain ⟨plus, hplus, h⟩ := exists_of_bind_eq_ok h
      obtain ⟨minus, hminus, h⟩ := exists_of_bind_eq_ok h
      obtain ⟨excluded, hexcluded, h⟩ := exists_of_bind_eq_ok h
      obtain ⟨values, hvalues, h⟩ := exists_of_bind_eq_ok h
      obtain ⟨modes, hmodes, h⟩ := exists_of_bind_eq_ok h
      obtain ⟨formats, hexports, h⟩ := exists_of_bind_eq_ok h
      obtain ⟨tokens, htokens, h⟩ := exists_of_bind_eq_ok h
      cases h
      exact ⟨not_not.1 hkind, hread, hbundles, hcategories, hplus, hminus, hexcluded,
        ⟨values, hvalues, hmodes⟩, hexports, htokens, rfl, rfl, rfl, rfl, rfl, rfl⟩
  · rintro ⟨hkind, hread, hbundles, hcategories, hplus, hminus, hexcluded, ⟨values, hvalues,
      hmodes⟩, hexports, htokens, hwrapper, houtputPath, hstdout, hsilent, hminify, hstrictNames⟩
    rw [ofJson?, if_neg (not_not_intro hkind)]
    simp only [hbundles, hcategories, hplus, hminus, hexcluded, hvalues, hmodes, hexports, htokens,
      hwrapper, houtputPath, hstdout, hsilent, hminify, hstrictNames, ok_bind]
    rw [readIncluded] at hread
    cases hfield : optionalField data "include" with
    | none =>
      rw [hfield] at hread
      exact congrArg (fun included => Except.ok { r with included }) (Except.ok.inj hread)
    | some names =>
      rw [hfield] at hread
      simp only at hread
      simp only [hread, ok_bind]
      rfl

theorem optionalField_eq_none_iff {name : String} :
    optionalField data name = none ↔ (data.field? name).getD .null = .null := by
  rw [optionalField]
  cases data.field? name with
  | none => exact iff_of_true rfl rfl
  | some value => simp [Option.filter_some]

namespace ReadFrom

/-- The modes that are read are one list of names, each once. -/
theorem membersOf_of_perm (h : ReadFrom data r) (hperm : modes.Perm r.modes) :
    membersOf modes = .ok modes := by
  obtain ⟨values, -, hmodes⟩ := h.modes
  unfold membersOf at hmodes
  split at hmodes
  · cases hmodes
  next hkeys =>
  have hdistinct : Json.distinct values = r.modes := Except.ok.inj hmodes
  have hkeys : Json.keyMisuse? modes = none := by
    refine Json.keyMisuse?_eq_none_iff.2 fun v hv => Json.keyMisuse?_eq_none_iff.1 hkeys v ?_
    exact Json.mem_of_mem_distinct (hdistinct ▸ hperm.mem_iff.1 hv)
  rw [membersOf, hkeys]
  exact congrArg Except.ok (Json.distinct_of_perm (hdistinct ▸ hperm))

theorem included_eq_none_iff (h : ReadFrom data r) :
    r.included = none ↔ (data.field? "include").getD .null = .null := by
  have hread := h.included
  rw [← optionalField_eq_none_iff]
  unfold readIncluded at hread
  split at hread
  · next hnone => exact iff_of_true (Except.ok.inj hread).symm hnone
  · next names hsome =>
    obtain ⟨items, -, hincluded⟩ := exists_of_map_eq_ok hread
    rw [hsome, ← hincluded]
    exact iff_of_false nofun nofun

theorem included_eq_nil_iff (h : ReadFrom data r) : r.included = some [] ↔
    ∃ value, data.field? "include" = some value ∧ value.listed = .ok [] := by
  have hread := h.included
  unfold readIncluded at hread
  split at hread
  · next hnone =>
    -- the absent value lists nothing, not even nothing
    rw [← Except.ok.inj hread]
    refine iff_of_false nofun ?_
    rintro ⟨value, hvalue, hlisted⟩
    have hnull : value = .null := by simpa [hvalue] using optionalField_eq_none_iff.1 hnone
    rw [hnull] at hlisted
    cases hlisted
  · next names hsome =>
    obtain ⟨items, hitems, hincluded⟩ := exists_of_map_eq_ok hread
    have hfield : data.field? "include" = some names := (Option.filter_eq_some_iff.1 hsome).1
    rw [← hincluded, Option.some_inj]
    constructor
    · rintro rfl
      exact ⟨names, hfield, hitems⟩
    · rintro ⟨value, hvalue, hlisted⟩
      obtain rfl : names = value := Option.some.inj (hfield.symm.trans hvalue)
      exact Except.ok.inj (hitems.symm.trans hlisted)

theorem exports_of_absent (h : ReadFrom data r) (habsent : data.field? "exports" = none) :
    r.exports = exportFormats.map .string := by
  have hread := h.exports
  rw [Json.listedOr, Json.fieldOr, habsent] at hread
  exact (Except.ok.inj hread).symm

theorem exports_eq_nil_iff (h : ReadFrom data r) : r.exports = [] ↔
    ∃ value, data.field? "exports" = some value ∧ value.listed = .ok [] := by
  cases hfield : data.field? "exports" with
  | none =>
    rw [h.exports_of_absent hfield]
    exact iff_of_false (by decide) (by rintro ⟨value, hvalue, -⟩; cases hvalue)
  | some value =>
    have hread := h.exports
    rw [Json.listedOr, Json.fieldOr, hfield, Option.getD_some] at hread
    constructor
    · intro hnil
      exact ⟨value, rfl, hnil ▸ hread⟩
    · rintro ⟨other, hother, hlisted⟩
      cases hother
      exact Except.ok.inj (hread.symm.trans hlisted)

/-- A wrapper that is read is not the absent value. -/
theorem wrapper_ne_null (h : ReadFrom data r) : r.wrapper ≠ some .null := by
  rw [← h.wrapper, optionalField]
  intro hnull
  exact absurd rfl (of_decide_eq_true (Option.filter_eq_some_iff.1 hnull).2)

end ReadFrom

/-- **Reading the serialised form** of a record, with the modes in any order. -/
theorem readFrom_written (hwrapper : r.wrapper ≠ some .null)
    (hmodes : membersOf modes = .ok modes) : ReadFrom (r.written modes) { r with modes } where
  kind := rfl
  -- an absent list is written as the absent value, which is read as an absent list
  included := by
    cases hincluded : r.included with
    | none =>
      have hfield : (r.written modes).field? "include" = some .null := by
        simp [written, Json.field?, hincluded]
      rw [readIncluded, optionalField, hfield]
      rfl
    | some names =>
      have hfield : (r.written modes).field? "include" = some (.array names) := by
        simp [written, Json.field?, hincluded]
      rw [readIncluded, optionalField, hfield]
      rfl
  bundles := rfl
  categories := rfl
  plus := rfl
  minus := rfl
  excluded := rfl
  modes := ⟨modes, rfl, hmodes⟩
  exports := rfl
  tokens := rfl
  wrapper := by
    have hfield : (r.written modes).field? "wrapper" = some (r.wrapper.getD .null) := rfl
    rw [optionalField, hfield]
    cases h : r.wrapper with
    | none => rfl
    | some value =>
      have hvalue : value ≠ .null := fun hnull => hwrapper (h.trans (congrArg some hnull))
      exact Option.filter_eq_some_iff.2 ⟨rfl, decide_eq_true hvalue⟩
  outputPath := rfl
  stdout := rfl
  silent := rfl
  minify := rfl
  strictNames := rfl

/-- **A record whose modes can be compared** is written with its modes in order, and from what is
written a record is read that is the same but for the order of the modes, and that is written so
again. -/
theorem ReadFrom.exists_written (h : ReadFrom data r) (hmodes : Json.Comparable r.modes) :
    ∃ inOrder, r.toJson = .ok (r.written inOrder) ∧ inOrder.Perm r.modes ∧
      ofJson? (r.written inOrder) = .ok { r with modes := inOrder } ∧
      { r with modes := inOrder }.toJson = .ok (r.written inOrder) := by
  obtain ⟨inOrder, horder, hperm, hagain⟩ := hmodes.exists_ordered
  refine ⟨inOrder, ?_, hperm, ?_, ?_⟩
  · rw [toJson, horder]
    rfl
  · exact ofJson?_eq_ok_iff.2
      (readFrom_written h.wrapper_ne_null (h.membersOf_of_perm hperm))
  · rw [toJson, hagain]
    rfl

/-- A record has a serialised form exactly if its modes have an order. -/
theorem exists_toJson_iff :
    (∃ written, r.toJson = .ok written) ↔ ∃ inOrder, Json.ordered r.modes = .ok inOrder := by
  rw [toJson]
  cases Json.ordered r.modes <;> simp [Except.map]

end CommandRecord

namespace Command

variable {data : Json} {c : Command}

/-- The modes of a command are in order. -/
theorem record_toJson (c : Command) : c.record.toJson = .ok c.toJson := by
  have horder : Json.ordered c.record.modes = .ok c.record.modes :=
    Json.ordered_map_string c.modes.sorted
  rw [CommandRecord.toJson, horder]
  rfl

/-- **A command is read back** from its serialised form. -/
theorem ofJson?_toJson (c : Command) : ofJson? c.toJson = .ok c := by
  have hwrapper : c.record.wrapper ≠ some .null := by
    rw [record]
    cases c.wrapper <;> simp
  have hmodes : CommandRecord.membersOf c.record.modes = .ok c.record.modes := by
    have hdistinct : c.record.modes.Pairwise fun a b => Json.sameName a b = false := by
      refine List.pairwise_map.2 (c.modes.sorted.imp fun hlt => ?_)
      exact beq_false_of_ne (Std.ne_of_lt hlt)
    rw [CommandRecord.membersOf, record, Json.keyMisuse?_map_string]
    exact congrArg Except.ok (Json.distinct_eq_self hdistinct)
  have hread : CommandRecord.ofJson? c.toJson = .ok c.record :=
    CommandRecord.ofJson?_eq_ok_iff.2 (CommandRecord.readFrom_written hwrapper hmodes)
  rw [ofJson?, hread]
  exact congrArg Except.ok (command_record c)

/-- **Absent and empty stay apart** in the command that is read from data. -/
structure KeepsAbsence (data : Json) (c : Command) : Prop where
  /-- there is no list of names to start from exactly if none is given -/
  included_eq_none_iff : c.included = none ↔ (data.field? "include").getD .null = .null
  /-- there is an empty one exactly if an empty one is given -/
  included_eq_nil_iff : c.included = some [] ↔
    ∃ value, data.field? "include" = some value ∧ value.listed = .ok []
  /-- all formats are exported if none are given -/
  exports_of_absent : data.field? "exports" = none → c.exports = exportFormats
  /-- there is no exposure exactly if an empty list of formats is given -/
  exports_eq_nil_iff : c.exports = [] ↔
    ∃ value, data.field? "exports" = some value ∧ value.listed = .ok []
  /-- there is no wrapper exactly if none is given -/
  wrapper_eq_none_iff : c.wrapper = none ↔ (data.field? "wrapper").getD .null = .null
  /-- a text that is given is the template, also if it is empty -/
  wrapper_of_text : ∀ text, data.field? "wrapper" = some (.string text) → c.wrapper = some ⟨text⟩

theorem keepsAbsence_of_ofJson? (h : ofJson? data = .ok c) : c.KeepsAbsence data := by
  obtain ⟨r, hr, rfl⟩ := exists_of_map_eq_ok h
  have hread := CommandRecord.ofJson?_eq_ok_iff.1 hr
  constructor
  case included_eq_none_iff =>
    exact Option.map_eq_none_iff.trans hread.included_eq_none_iff
  case included_eq_nil_iff =>
    rw [← hread.included_eq_nil_iff]
    cases h : r.included <;> simp [CommandRecord.command, h, Json.nameTexts]
  case exports_of_absent =>
    intro habsent
    rw [CommandRecord.command, hread.exports_of_absent habsent]
    exact Json.nameTexts_map_string _
  case exports_eq_nil_iff =>
    exact List.map_eq_nil_iff.trans hread.exports_eq_nil_iff
  case wrapper_eq_none_iff =>
    rw [← CommandRecord.optionalField_eq_none_iff, hread.wrapper]
    exact Option.map_eq_none_iff
  case wrapper_of_text =>
    intro text hfield
    have hwrapper : r.wrapper = some (.string text) := by
      rw [← hread.wrapper, CommandRecord.optionalField, hfield]
      rfl
    rw [CommandRecord.command, hwrapper]
    rfl

end Command

/-! ### Reading back -/

/-- **Serialised forms are read back.**  Entries and commands are read back as they are, and what
was never given is not confused with what was given without values, neither in data nor in a
serialised form.  A record with values of other kinds comes to a stop after one round: an entry is
written again as it was; so is a command if its modes can be compared, and nothing but their order
changes.  Without an order of the modes there is no serialised form. -/
theorem serialised_reads_back :
    (∀ e : Entry, Entry.ofJson? e.toJson = .ok e) ∧
    (∀ c : Command, c.record.toJson = .ok c.toJson ∧ Command.ofJson? c.toJson = .ok c) ∧
    (∀ (data : Json) (c : Command), Command.ofJson? data = .ok c → c.KeepsAbsence data) ∧
    (∀ r : EntryRecord, EntryRecord.ofJson? r.toJson = .ok r.normal ∧
      r.normal.toJson = r.toJson) ∧
    ∀ (data : Json) (r : CommandRecord), CommandRecord.ofJson? data = .ok r →
      ((∃ written, r.toJson = .ok written) ↔ r.modes.length ≤ 1 ∨
        (∀ v ∈ r.modes, v.isText = true) ∨ ∀ v ∈ r.modes, v.isNumber = true) ∧
      (Json.Comparable r.modes → ∃ inOrder, r.toJson = .ok (r.written inOrder) ∧
        inOrder.Perm r.modes ∧
        CommandRecord.ofJson? (r.written inOrder) = .ok { r with modes := inOrder } ∧
        { r with modes := inOrder }.toJson = .ok (r.written inOrder)) := by
  refine ⟨Entry.ofJson?_toJson, fun c => ⟨Command.record_toJson c, Command.ofJson?_toJson c⟩,
    fun _ _ => Command.keepsAbsence_of_ofJson?,
    fun r => ⟨EntryRecord.ofJson?_toJson r, EntryRecord.toJson_normal r⟩, fun data r hr => ⟨?_, ?_⟩⟩
  · exact CommandRecord.exists_toJson_iff.trans Json.exists_ordered_iff
  · exact (CommandRecord.ofJson?_eq_ok_iff.1 hr).exists_written

/-- A command in data: empty lists of names and of formats, an empty template, and a mode that is
given twice. -/
def emptyData : Json :=
  .object
    [("include", .array []), ("exports", .array []), ("wrapper", .string ""),
     ("modes", .strings ["underscore", "strict", "underscore"])]

/-- The command in it. -/
def emptyCommand : Command where
  included := some []
  modes := NameSet.ofList ["underscore", "strict"]
  exports := []
  wrapper := some ⟨""⟩

/-- The record in it, whose modes are as they come. -/
def emptyRecord : CommandRecord :=
  { emptyCommand.record with modes := [.string "underscore", .string "strict"] }

/-- It keeps what is empty, and its modes are written in order. -/
theorem emptyData_reads_back :
    Command.ofJson? emptyData = .ok emptyCommand ∧ emptyCommand.KeepsAbsence emptyData ∧
      CommandRecord.ofJson? emptyData = .ok emptyRecord ∧ Json.Comparable emptyRecord.modes ∧
      emptyRecord.toJson = .ok emptyCommand.toJson ∧
      CommandRecord.ofJson? emptyCommand.toJson = .ok emptyCommand.record := by
  have hcommand : Command.ofJson? emptyData = .ok emptyCommand := by decide
  have hrecord : CommandRecord.ofJson? emptyData = .ok emptyRecord := by decide
  have hmodes : emptyCommand.record.modes = [.string "strict", .string "underscore"] := by decide
  have htexts : ∀ v ∈ emptyRecord.modes, v.isText = true := by decide
  have hordered : Json.ordered emptyRecord.modes = .ok emptyCommand.record.modes := by
    rw [Json.ordered_of_texts htexts, hmodes]
    simp [emptyRecord, List.mergeSort, List.MergeSort.Internal.splitInTwo, Json.display]
  obtain ⟨-, -, hkeeps, -, hwritten⟩ := serialised_reads_back
  obtain ⟨inOrder, htoJson, -, hread, -⟩ :=
    (hwritten emptyData emptyRecord hrecord).2 (Or.inr (Or.inl htexts))
  have hwhole : emptyRecord.toJson = .ok emptyCommand.toJson := by
    rw [CommandRecord.toJson, hordered]
    rfl
  have hsame : emptyRecord.written inOrder = emptyCommand.toJson :=
    Except.ok.inj (htoJson.symm.trans hwhole)
  have hlast : inOrder = emptyCommand.record.modes :=
    Json.array.inj (Option.some.inj (congrArg (Json.field? · "modes") hsame))
  rw [hsame, hlast] at hread
  exact ⟨hcommand, hkeeps _ _ hcommand, hrecord, Or.inr (Or.inl htexts), hwhole, hread⟩

/-- **Values of other kinds are lost.**  An entry whose category is the absent value is read back
with an empty one, and a command whose modes are a number and a text is not written. -/
theorem odd_values_are_lost :
    (∃ r again,
      EntryRecord.ofJson? (.object [("category", .null), ("name", .string "q")]) = .ok r ∧
        EntryRecord.ofJson? r.toJson = .ok again ∧ r.category = .null ∧
        again.category = .string "") ∧
    ∃ r, CommandRecord.ofJson? (.object [("modes", .array [.integer 0, .string "strict"])]) =
        .ok r ∧ r.toJson = .error (.noOrder .text .integer) :=
  ⟨⟨_, _, rfl, rfl, rfl, rfl⟩, _, rfl, rfl⟩

end CustomBuild
