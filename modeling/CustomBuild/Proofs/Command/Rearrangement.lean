import CustomBuild.Proofs.Command.Alike
import CustomBuild.Proofs.Command.Grammar
import CustomBuild.Proofs.Registry.Accepted
import CustomBuild.Proofs.Text.Basic
import Mathlib.Data.List.Forall2
import Mathlib.Data.List.Perm.Basic

/-!
# The order of a command

The tokens of a command form groups: an output option has the token after it in its group, every
other token is a group of its own (`Group.ofTokens?`).  The order of the groups does not matter, nor
do the order and the repetition of the values of a list directive, nor whether the values stand in
one directive or in two (`Rearranged`): the tokens are a command either way or neither way, and the
commands are alike (`Command.ofTokens_rearranged`).

A group is read on its own (`readAll_written_eq_ok_iff`), so rearranged groups are read to terms
that demand the same (`Rearranged.sameDemands`), and a command is alike for terms that demand the
same (`Command.ofTerms_alike`), as each of its fields is a function of the set of demands, the
wrapper, the path and the banner apart.
-/

namespace CustomBuild

/-! ### Groups -/

/-- Whether a token is an output option that takes the token after it. -/
def takesPath (token : String) : Bool :=
  token == "-o" || token == "--output"

/-- Tokens that keep together when a command is rearranged. -/
inductive Group where
  /-- an output option with the token after it -/
  | output (option path : String) (h : takesPath option = true)
  /-- any other token -/
  | word (token : String) (h : takesPath token = false)

namespace Group

/-- The tokens of a group. -/
def tokens : Group → List String
  | .output option path _ => [option, path]
  | .word token _ => [token]

/-- The tokens that groups are written as. -/
def written (groups : List Group) : List String :=
  groups.flatMap tokens

/-- **The groups of a list of tokens**; there are none if it ends with an output option that has no
token after it. -/
def ofTokens? : List String → Option (List Group)
  | [] => some []
  | token :: rest =>
    if h : takesPath token = true then
      match rest with
      | path :: rest => (ofTokens? rest).map (.output token path h :: ·)
      | [] => none
    else (ofTokens? rest).map (.word token (Bool.eq_false_iff.2 h) :: ·)

/-- Reads a group. -/
def read : Group → Except CommandError Term
  | .output option path _ =>
    if Term.isPath path then .ok (.output path) else .error (.missingPath option)
  | .word token _ => Term.readOne token

/-- Each group is read to the term beside it. -/
def ReadAs (groups : List Group) (terms : List Term) : Prop :=
  List.Forall₂ (fun group term => group.read = .ok term) groups terms

variable {groups : List Group} {words : List String} {terms : List Term}

theorem ofTokens?_written (groups : List Group) : ofTokens? (written groups) = some groups := by
  induction groups with
  | nil => rfl
  | cons group rest ih =>
    have hrest : (rest.flatMap tokens) = written rest := rfl
    rw [written, List.flatMap_cons, hrest]
    cases group with
    | output option path h =>
      rw [tokens, List.cons_append, ofTokens?, dif_pos h, List.cons_append, List.nil_append]
      simp only [ih, Option.map_some]
    | word token h =>
      rw [tokens, List.cons_append, ofTokens?, dif_neg (Bool.eq_false_iff.1 h), List.nil_append, ih]
      rfl

/-- **Tokens are written in groups** in one way at most. -/
theorem ofTokens?_eq_some_iff : ofTokens? words = some groups ↔ written groups = words := by
  constructor
  · intro h
    induction words using ofTokens?.induct generalizing groups with
    | case1 =>
      cases h
      rfl
    | case2 token htakes path rest ih =>
      rw [ofTokens?, dif_pos htakes] at h
      obtain ⟨more, hmore, rfl⟩ := Option.map_eq_some_iff.1 h
      rw [written, List.flatMap_cons, ← written, ih hmore]
      rfl
    | case3 token htakes =>
      rw [ofTokens?, dif_pos htakes] at h
      cases h
    | case4 token rest htakes ih =>
      rw [ofTokens?, dif_neg htakes] at h
      obtain ⟨more, hmore, rfl⟩ := Option.map_eq_some_iff.1 h
      rw [written, List.flatMap_cons, ← written, ih hmore]
      rfl
  · rintro rfl
    exact ofTokens?_written groups

theorem readAll_written_cons (group : Group) (groups : List Group) :
    Term.readAll (written (group :: groups)) =
      match group.read with
      | .ok term => (Term.readAll (written groups)).map (term :: ·)
      | .error error => .error error := by
  rw [written, List.flatMap_cons, ← written]
  cases group with
  | output option path h =>
    have hoption : (option == "-o" || option == "--output") = true := h
    rw [tokens, List.cons_append, List.cons_append, List.nil_append, Term.readAll, read,
      if_pos hoption]
    split_ifs <;> rfl
  | word token h =>
    have htoken : ¬ (token == "-o" || token == "--output") = true := Bool.eq_false_iff.1 h
    rw [tokens, List.cons_append, List.nil_append, Term.readAll.eq_def, read]
    cases hread : Term.readOne token with
    | ok term => simp only [if_neg htoken, hread]
    | error error => simp only [if_neg htoken, hread]

/-- **Groups are read one by one.** -/
theorem readAll_written_eq_ok_iff :
    Term.readAll (written groups) = .ok terms ↔ ReadAs groups terms := by
  unfold ReadAs
  induction groups generalizing terms with
  | nil =>
    rw [List.forall₂_nil_left_iff, written, List.flatMap_nil, Term.readAll, Except.ok.injEq]
    exact eq_comm
  | cons group rest ih =>
    rw [readAll_written_cons, List.forall₂_cons_left_iff]
    cases hgroup : group.read with
    | error error => simp
    | ok term =>
      cases hrest : Term.readAll (written rest) with
      | error error => simp [Except.map, ← ih, hrest]
      | ok more =>
        simp only [Except.map, ← ih, hrest, Except.ok.injEq]
        constructor
        · rintro rfl
          exact ⟨term, more, rfl, rfl, rfl⟩
        · rintro ⟨_, _, rfl, rfl, rfl⟩
          rfl

end Group

/-! ### Demands -/

/-- What a term asks for, each name of a list for itself. -/
inductive Demand where
  /-- a list of names is given, even without values -/
  | given (list : NameList)
  /-- a name stands in a list -/
  | name (list : NameList) (value : String)
  /-- export formats are chosen, even none -/
  | choice
  /-- an export format is chosen -/
  | format (format : String)
  /-- any other term asks for itself -/
  | plain (term : Term)

/-- The demands of a term. -/
def Term.demands : Term → List Demand
  | .names list value => .given list :: (Text.commaParts value).map (.name list)
  | .exports value => .choice :: (((Term.exports value).formats?).getD []).map .format
  | term => [.plain term]

/-- Terms that demand the same, in any order and any number of times. -/
def SameDemands (terms terms' : List Term) : Prop :=
  ∀ demand, demand ∈ terms.flatMap Term.demands ↔ demand ∈ terms'.flatMap Term.demands

section Demands

variable {terms terms' : List Term} {list : NameList} {x : String}

theorem mem_flatMap_namesFor_iff :
    x ∈ terms.flatMap (Term.namesFor list) ↔ .name list x ∈ terms.flatMap Term.demands := by
  rw [List.mem_flatMap, List.mem_flatMap]
  refine exists_congr fun term => and_congr_right fun _ => ?_
  cases term with
  | names other value =>
    rw [Term.namesFor, Term.demands]
    split_ifs with h <;> simp [h]
  | _ => simp [Term.namesFor, Term.demands]

theorem any_isFor_iff :
    terms.any (Term.isFor list) = true ↔ .given list ∈ terms.flatMap Term.demands := by
  rw [List.any_eq_true, List.mem_flatMap]
  refine exists_congr fun term => and_congr_right fun _ => ?_
  cases term <;> simp [Term.isFor, Term.demands, eq_comm]

theorem mem_keywords_iff :
    x ∈ terms.filterMap Term.keyword? ↔ .plain (.keyword x) ∈ terms.flatMap Term.demands := by
  rw [List.mem_filterMap, List.mem_flatMap]
  refine exists_congr fun term => and_congr_right fun _ => ?_
  cases term <;> simp [Term.keyword?, Term.demands, eq_comm]

theorem isEmpty_formats_iff :
    (terms.filterMap Term.formats?).isEmpty = true ↔ .choice ∉ terms.flatMap Term.demands := by
  rw [List.isEmpty_iff, List.filterMap_eq_nil_iff, List.mem_flatMap, not_exists]
  refine forall_congr' fun term => ?_
  rw [not_and]
  refine imp_congr_right fun _ => ?_
  cases term <;> simp [Term.formats?, Term.demands]

theorem mem_formats_iff :
    x ∈ (terms.filterMap Term.formats?).flatten ↔ .format x ∈ terms.flatMap Term.demands := by
  rw [List.mem_flatten, List.mem_flatMap]
  constructor
  · rintro ⟨formats, hformats, hx⟩
    obtain ⟨term, hterm, hformat⟩ := List.mem_filterMap.1 hformats
    refine ⟨term, hterm, ?_⟩
    cases term <;> simp_all [Term.formats?, Term.demands]
  · rintro ⟨term, hterm, hx⟩
    cases term with
    | exports value =>
      refine ⟨_, List.mem_filterMap.2 ⟨_, hterm, rfl⟩, ?_⟩
      simpa [Term.formats?, Term.demands] using hx
    | _ => simp [Term.demands] at hx

/-- A term that demands itself is among terms exactly if they demand it. -/
theorem contains_iff_plain {term : Term} (h : term.demands = [.plain term]) :
    terms.contains term = true ↔ .plain term ∈ terms.flatMap Term.demands := by
  rw [List.contains_iff_mem, List.mem_flatMap]
  constructor
  · intro hterm
    exact ⟨term, hterm, by simp [h]⟩
  · rintro ⟨other, hother, hdemand⟩
    cases other <;> simp_all [Term.demands]

/-- The formats of terms are a function of what they demand. -/
theorem exportsOf_congr (h : SameDemands terms terms') :
    Command.exportsOf terms = Command.exportsOf terms' := by
  have hchoice : (terms.filterMap Term.formats?).isEmpty =
      (terms'.filterMap Term.formats?).isEmpty := by
    rw [Bool.eq_iff_iff, isEmpty_formats_iff, isEmpty_formats_iff, h]
  have hformats : SameMembers (terms.filterMap Term.formats?).flatten
      (terms'.filterMap Term.formats?).flatten := by
    intro x
    rw [mem_formats_iff, mem_formats_iff, h]
  unfold Command.exportsOf
  simp only
  rw [hchoice, funext hformats.contains_eq]

/-- **Terms that demand the same** make alike commands. -/
theorem Command.ofTerms_alike (h : SameDemands terms terms') :
    (ofTerms terms).Alike (ofTerms terms') := by
  -- each field is a function of what the terms demand
  have hnames : ∀ list, SameMembers (terms.flatMap (Term.namesFor list))
      (terms'.flatMap (Term.namesFor list)) := by
    intro list x
    rw [mem_flatMap_namesFor_iff, mem_flatMap_namesFor_iff, h]
  have hkeywords : SameMembers (terms.filterMap Term.keyword?)
      (terms'.filterMap Term.keyword?) := by
    intro x
    rw [mem_keywords_iff, mem_keywords_iff, h]
  have hgiven : terms.any (Term.isFor .included) = terms'.any (Term.isFor .included) := by
    rw [Bool.eq_iff_iff, any_isFor_iff, any_isFor_iff, h]
  have hflag : ∀ term : Term, term.demands = [.plain term] →
      terms.contains term = terms'.contains term := by
    intro term hterm
    rw [Bool.eq_iff_iff, contains_iff_plain hterm, contains_iff_plain hterm, h]
  constructor
  case included =>
    unfold ofTerms
    simp only
    rw [hgiven]
    split_ifs
    · exact .some (hnames .included)
    · exact .none
  case bundles => exact (hkeywords.filter _).eraseDups
  case categories => exact (hnames .category).map _
  case plus => exact hnames .plus
  case minus => exact hnames .minus
  case excluded => exact hnames .excluded
  case modes => exact (hkeywords.filter _).ofList_eq
  case exports => exact exportsOf_congr h
  case stdout => exact hflag .stdout rfl
  case silent => exact hflag .silent rfl
  case minify => exact hflag .minify rfl
  case strictNames => exact hflag .strictNames rfl

theorem sameDemands_of_perm (h : terms.Perm terms') : SameDemands terms terms' := by
  intro demand
  exact (h.flatMap_right Term.demands).mem_iff

end Demands

/-! ### List directives -/

/-- The key of a directive that lists values. -/
inductive ListKey where
  /-- a list of names -/
  | names (list : NameList)
  /-- the export formats -/
  | exports

namespace ListKey

/-- The text of a key. -/
def text : ListKey → String
  | .names list => list.key
  | .exports => "exports"

/-- The directive that lists the given values. -/
def token (key : ListKey) (value : String) : String :=
  key.text ++ String.singleton '=' ++ value

/-- The term of such a directive. -/
def term : ListKey → String → Term
  | .names list, value => .names list value
  | .exports, value => .exports value

variable {key : ListKey} {v w : String}

theorem text_mem_keys (key : ListKey) : key.text ∈ Term.keys := by
  cases key with
  | names list => exact Term.key_mem_keys list
  | exports => decide

/-- **A list directive** is read as its term, whatever its value. -/
theorem readOne_token (key : ListKey) (value : String) :
    Term.readOne (key.token value) = .ok (key.term value) := by
  have hread : Term.readOne (key.token value) = Term.directive key.text value (key.token value) :=
    Term.readOne_directive key.text_mem_keys value
  rw [hread]
  cases key with
  | names list => cases list <;> rfl
  | exports => rfl

theorem takesPath_token (key : ListKey) (value : String) :
    takesPath (key.token value) = false :=
  Bool.eq_false_iff.2 (Term.not_takesPath_of_readOne (key.readOne_token value))

theorem demands_term_exports (value : String) :
    (term .exports value).demands = .choice ::
      (((Text.commaParts value).map Text.lowered).filter fun f => exportFormats.contains f).map
        .format := rfl

/-- What a list directive demands depends on the members of its list only. -/
theorem mem_demands_congr (h : SameMembers (Text.commaParts v) (Text.commaParts w))
    (demand : Demand) : demand ∈ (key.term v).demands ↔ demand ∈ (key.term w).demands := by
  cases key with
  | names list =>
    simp only [term, Term.demands, List.mem_cons, List.mem_map]
    exact or_congr_right (exists_congr fun x => and_congr_left fun _ => h x)
  | exports =>
    have hformats := (h.map Text.lowered).filter fun f => exportFormats.contains f
    simp only [demands_term_exports, List.mem_cons, List.mem_map (f := Demand.format)]
    exact or_congr_right (exists_congr fun x => and_congr_left fun _ => hformats x)

/-- The values of a list can stand in two directives. -/
theorem mem_demands_append (demand : Demand) :
    demand ∈ (key.term (v ++ "," ++ w)).demands ↔
      demand ∈ (key.term v).demands ∨ demand ∈ (key.term w).demands := by
  cases key with
  | names list =>
    simp only [term, Term.demands, Text.commaParts_append, List.map_append, List.mem_cons,
      List.mem_append]
    tauto
  | exports =>
    simp only [demands_term_exports, Text.commaParts_append, List.map_append, List.filter_append,
      List.mem_cons, List.mem_append]
    tauto

end ListKey

/-! ### Rearranging -/

/-- The group of a list directive. -/
def Group.directive (key : ListKey) (value : String) : Group :=
  .word (key.token value) (key.takesPath_token value)

/-- **Rearranged groups.**  As the order is free, it is enough to say of the first group how the
values of a directive can change. -/
inductive Rearranged : List Group → List Group → Prop
  /-- the groups stand in another order -/
  | perm {groups groups' : List Group} (h : groups.Perm groups') : Rearranged groups groups'
  /-- the values of a directive stand in two -/
  | split (key : ListKey) (v w : String) (rest : List Group) :
    Rearranged (.directive key (v ++ "," ++ w) :: rest)
      (.directive key v :: .directive key w :: rest)
  /-- the values of two directives stand in one -/
  | merge (key : ListKey) (v w : String) (rest : List Group) :
    Rearranged (.directive key v :: .directive key w :: rest)
      (.directive key (v ++ "," ++ w) :: rest)
  /-- the values of a directive stand in another order, or are repeated -/
  | values (key : ListKey) {v w : String} (rest : List Group)
    (h : SameMembers (Text.commaParts v) (Text.commaParts w)) :
    Rearranged (.directive key v :: rest) (.directive key w :: rest)
  /-- one change after another -/
  | trans {groups groups' groups'' : List Group} (h : Rearranged groups groups')
    (h' : Rearranged groups' groups'') : Rearranged groups groups''

theorem Rearranged.symm {groups groups' : List Group} (h : Rearranged groups groups') :
    Rearranged groups' groups := by
  induction h with
  | perm h => exact .perm h.symm
  | split key v w rest => exact .merge key v w rest
  | merge key v w rest => exact .split key v w rest
  | values key rest h => exact .values key rest fun x => (h x).symm
  | trans _ _ ih ih' => exact .trans ih' ih

theorem Group.readAs_directive_cons_iff {key : ListKey} {value : String} {rest : List Group}
    {terms : List Term} :
    ReadAs (.directive key value :: rest) terms ↔
      ∃ more, ReadAs rest more ∧ terms = key.term value :: more := by
  have hread : ∀ term, (Group.directive key value).read = .ok term ↔ term = key.term value := by
    intro term
    rw [Group.directive, Group.read, key.readOne_token, Except.ok.injEq]
    exact eq_comm
  rw [ReadAs, List.forall₂_cons_left_iff]
  simp only [hread]
  constructor
  · rintro ⟨_, more, rfl, hmore, rfl⟩
    exact ⟨more, hmore, rfl⟩
  · rintro ⟨more, hmore, rfl⟩
    exact ⟨_, more, rfl, hmore, rfl⟩

/-- **Rearranged groups** are read to terms that demand the same. -/
theorem Rearranged.sameDemands {groups groups' : List Group} {terms : List Term}
    (h : Rearranged groups groups') (hread : Group.ReadAs groups terms) :
    ∃ terms', Group.ReadAs groups' terms' ∧ SameDemands terms terms' := by
  -- a changed directive is read to another term, and everything behind it as before
  induction h generalizing terms with
  | perm h =>
    obtain ⟨terms', hread', hperm⟩ := List.perm_comp_forall₂ h.symm hread
    exact ⟨terms', hread', sameDemands_of_perm hperm.symm⟩
  | split key v w rest =>
    obtain ⟨more, hmore, rfl⟩ := Group.readAs_directive_cons_iff.1 hread
    refine ⟨key.term v :: key.term w :: more, ?_, fun demand => ?_⟩
    · have hsecond : Group.ReadAs (.directive key w :: rest) (key.term w :: more) :=
        Group.readAs_directive_cons_iff.2 ⟨more, hmore, rfl⟩
      exact Group.readAs_directive_cons_iff.2 ⟨_, hsecond, rfl⟩
    · simp only [List.flatMap_cons, List.mem_append, ListKey.mem_demands_append, or_assoc]
  | merge key v w rest =>
    obtain ⟨_, hrest, rfl⟩ := Group.readAs_directive_cons_iff.1 hread
    obtain ⟨more, hmore, rfl⟩ := Group.readAs_directive_cons_iff.1 hrest
    refine ⟨key.term (v ++ "," ++ w) :: more, ?_, fun demand => ?_⟩
    · exact Group.readAs_directive_cons_iff.2 ⟨more, hmore, rfl⟩
    · simp only [List.flatMap_cons, List.mem_append, ListKey.mem_demands_append, or_assoc]
  | values key rest h =>
    obtain ⟨more, hmore, rfl⟩ := Group.readAs_directive_cons_iff.1 hread
    refine ⟨_, Group.readAs_directive_cons_iff.2 ⟨more, hmore, rfl⟩, fun demand => ?_⟩
    simp only [List.flatMap_cons, List.mem_append, ListKey.mem_demands_congr h]
  | trans _ _ ih ih' =>
    obtain ⟨terms', hread', hsame⟩ := ih hread
    obtain ⟨terms'', hread'', hsame'⟩ := ih' hread'
    exact ⟨terms'', hread'', fun demand => (hsame demand).trans (hsame' demand)⟩

variable {words words' : List String} {groups groups' : List Group}

/-- **The order of a command does not matter.**  Of two lists of tokens with rearranged groups both
are commands or neither is, and if they are, the commands are alike and select the same functions
from any registry, or both ask for the same unknown names under strict names. -/
theorem Command.ofTokens_rearranged (r : Registry) (hgroups : Group.ofTokens? words = some groups)
    (hgroups' : Group.ofTokens? words' = some groups') (h : Rearranged groups groups') :
    Agreeing (fun _ _ => True)
      (fun c d => c.Alike d ∧
        Agreeing (fun e e' => SameMembers e.names e'.names) Selection.Alike
          (r.select c) (r.select d))
      (ofTokens words) (ofTokens words') := by
  obtain rfl := Group.ofTokens?_eq_some_iff.1 hgroups
  obtain rfl := Group.ofTokens?_eq_some_iff.1 hgroups'
  -- one list is read if the other is
  have hreads : ∀ {groups groups' : List Group} {terms : List Term}, Rearranged groups groups' →
      Term.readAll (Group.written groups) = .ok terms →
      ∃ terms', Term.readAll (Group.written groups') = .ok terms' ∧ SameDemands terms terms' := by
    intro groups groups' terms h hterms
    obtain ⟨terms', hread, hsame⟩ := h.sameDemands (Group.readAll_written_eq_ok_iff.1 hterms)
    exact ⟨terms', Group.readAll_written_eq_ok_iff.2 hread, hsame⟩
  unfold ofTokens
  cases hterms : Term.readAll (Group.written groups) with
  | ok terms =>
    obtain ⟨terms', hterms', hsame⟩ := hreads h hterms
    have halike := ofTerms_alike hsame
    rw [hterms']
    exact .ok ⟨halike, r.select_agrees halike⟩
  | error error =>
    cases hterms' : Term.readAll (Group.written groups') with
    | ok terms' =>
      obtain ⟨terms, hok, -⟩ := hreads h.symm hterms'
      rw [hterms] at hok
      cases hok
    | error error' => exact .error trivial

/-- A list of names that is split, with a name repeated, behind the rest of the command. -/
theorem Command.split_list_agrees :
    ∃ groups groups',
      Group.ofTokens? ["include=map,keys", "-o", "a.js", "legacy"] = some groups ∧
      Group.ofTokens? ["legacy", "-o", "a.js", "include=keys", "include=map, map"] =
        some groups' ∧
      Rearranged groups groups' ∧
      (ofTokens ["include=map,keys", "-o", "a.js", "legacy"]).isOk = true ∧
      Agreeing (fun _ _ => True)
        (fun c d => c.Alike d ∧
          Agreeing (fun e e' => SameMembers e.names e'.names) Selection.Alike
            (Registry.sample.select c) (Registry.sample.select d))
        (ofTokens ["include=map,keys", "-o", "a.js", "legacy"])
        (ofTokens ["legacy", "-o", "a.js", "include=keys", "include=map, map"]) := by
  let included : String → Group := Group.directive (.names .included)
  let path : Group := .output "-o" "a.js" (by decide)
  let mode : Group := .word "legacy" (by decide)
  have hgroups : Group.ofTokens? ["include=map,keys", "-o", "a.js", "legacy"] =
      some [included "map,keys", path, mode] := Group.ofTokens?_eq_some_iff.2 (by decide)
  have hgroups' : Group.ofTokens? ["legacy", "-o", "a.js", "include=keys", "include=map, map"] =
      some [mode, path, included "keys", included "map, map"] :=
    Group.ofTokens?_eq_some_iff.2 (by decide)
  have hvalues : SameMembers (Text.commaParts "map") (Text.commaParts "map, map") := by
    have honce : Text.commaParts "map" = ["map"] := by decide
    have htwice : Text.commaParts "map, map" = ["map", "map"] := by decide
    intro x
    simp [honce, htwice]
  have hsplit : Rearranged [included "map,keys", path, mode]
      [included "map", included "keys", path, mode] :=
    .split (.names .included) "map" "keys" [path, mode]
  have hrepeat : Rearranged [included "map", included "keys", path, mode]
      [included "map, map", included "keys", path, mode] :=
    .values (.names .included) [included "keys", path, mode] hvalues
  have hreverse : Rearranged [included "map, map", included "keys", path, mode]
      [mode, path, included "keys", included "map, map"] :=
    .perm (List.reverse_perm _).symm
  have h := (hsplit.trans hrepeat).trans hreverse
  exact ⟨_, _, hgroups, hgroups', h, by decide,
    ofTokens_rearranged Registry.sample hgroups hgroups' h⟩

end CustomBuild
