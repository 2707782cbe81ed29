import CustomBuild.Proofs.Command.Flags

/-!
# Commands without their delivery

Where a result goes and what is said on the way is one part of a command, what it is made of is the
other.  The terms of the first part are `Term.isDelivery`, and on tokens `withoutDelivery` deletes
them in one pass from left to right: the flags, and the output options with their paths.

The tokens that are left tell all of the second part, errors included
(`Command.map_withoutDelivery_ofTokens`).  An output option that is left has no path, so reading
what is left (`Term.readLeft`) refuses it even if a token that could be a path has come to stand
behind it.
-/

namespace CustomBuild

/-! ### Terms of delivery -/

/-- Whether a term is about the delivery alone. -/
def Term.isDelivery : Term → Bool
  | .output _ => true
  | .stdout => true
  | .silent => true
  | _ => false

/-- The command without its delivery. -/
def Command.withoutDelivery (c : Command) : Command :=
  { c with outputPath := none, stdout := false, silent := false }

section Terms

variable {α : Type} (terms : List Term)

/-- What is collected from the other terms does not change without those of the delivery. -/
theorem filterMap_filter_isDelivery {f : Term → Option α}
    (h : ∀ term, term.isDelivery = true → f term = none) :
    (terms.filter fun term => !term.isDelivery).filterMap f = terms.filterMap f := by
  rw [List.filterMap_filter]
  congr 1
  funext term
  cases hterm : term.isDelivery with
  | false => rfl
  | true => exact (h term hterm).symm

theorem flatMap_filter_isDelivery {f : Term → List α}
    (h : ∀ term, term.isDelivery = true → f term = []) :
    (terms.filter fun term => !term.isDelivery).flatMap f = terms.flatMap f := by
  induction terms with
  | nil => rfl
  | cons term rest ih =>
    rw [List.filter_cons, List.flatMap_cons]
    cases hterm : term.isDelivery with
    | false => exact congrArg (f term ++ ·) ih
    | true =>
      rw [h term hterm]
      exact ih

theorem any_filter_isDelivery {p : Term → Bool}
    (h : ∀ term, term.isDelivery = true → p term = false) :
    (terms.filter fun term => !term.isDelivery).any p = terms.any p := by
  rw [List.any_filter]
  congr 1
  funext term
  cases hterm : term.isDelivery with
  | false => rfl
  | true => exact (h term hterm).symm

/-- **The command of the other terms** is the command without its delivery. -/
theorem Command.ofTerms_filter_isDelivery :
    ofTerms (terms.filter fun term => !term.isDelivery) = (ofTerms terms).withoutDelivery := by
  have hnames : ∀ (list : NameList) (term : Term), term.isDelivery = true →
      term.namesFor list = [] := by
    intro list term hterm
    cases term <;> first | rfl | cases hterm
  have hflag : ∀ flag : Term, flag.isDelivery = false →
      (terms.filter fun term => !term.isDelivery).contains flag = terms.contains flag := by
    intro flag hflag
    rw [Bool.eq_iff_iff, List.contains_iff_mem, List.contains_iff_mem, List.mem_filter]
    exact and_iff_left_of_imp fun _ => by rw [hflag]; rfl
  have hnone : ∀ flag : Term, flag.isDelivery = true →
      (terms.filter fun term => !term.isDelivery).contains flag = false := by
    intro flag hflag
    rw [← Bool.not_eq_true, List.contains_iff_mem, List.mem_filter, hflag]
    exact fun h => Bool.false_ne_true h.2
  have hpath : (terms.filter fun term => !term.isDelivery).filterMap Term.path? = [] := by
    rw [List.filterMap_eq_nil_iff]
    intro term hterm
    have hkept := (List.mem_filter.1 hterm).2
    cases term <;> first | rfl | cases hkept
  -- the collections that are about the module, one for each way of collecting
  have hkeyword := filterMap_filter_isDelivery terms (f := Term.keyword?)
    fun term hterm => by cases term <;> first | rfl | cases hterm
  have hwrapper := filterMap_filter_isDelivery terms (f := Term.wrapper?)
    fun term hterm => by cases term <;> first | rfl | cases hterm
  have hformats := filterMap_filter_isDelivery terms (f := Term.formats?)
    fun term hterm => by cases term <;> first | rfl | cases hterm
  have hwords := filterMap_filter_isDelivery terms (f := Term.bannerWord?)
    fun term hterm => by cases term <;> first | rfl | cases hterm
  have hlist := any_filter_isDelivery terms (p := Term.isFor .included)
    fun term hterm => by cases term <;> first | rfl | cases hterm
  unfold ofTerms withoutDelivery exportsOf
  simp only [hkeyword, hwrapper, hformats, hwords, hlist, hpath, hnone .stdout rfl,
    hnone .silent rfl, hflag .minify rfl, hflag .strictNames rfl,
    flatMap_filter_isDelivery terms (hnames _), List.getLast?_nil]

end Terms

/-! ### Tokens of delivery -/

/-- Whether a token is to be deleted for itself: a flag of the delivery, or an output option with
a path in it. -/
def isDeliveryWord (deletable : String → Bool) (token : String) : Bool :=
  (Term.stdout.spellings ++ Term.silent.spellings).contains token
    || (Text.beginsWith token "--output="
      && !(Text.cut '=' token).2.2.isEmpty && deletable (Text.cut '=' token).2.2)

/-- **Deleting the tokens of the delivery** from left to right, as far as their paths are to be
deleted.  An output option without a path stays. -/
def withoutDelivery (deletable : String → Bool) : List String → List String
  | [] => []
  | token :: rest =>
    if token == "-o" || token == "--output" then
      match rest with
      | path :: more =>
        if Term.isPath path && deletable path then withoutDelivery deletable more
        else token :: withoutDelivery deletable (path :: more)
      | [] => [token]
    else if isDeliveryWord deletable token then withoutDelivery deletable rest
    else token :: withoutDelivery deletable rest

namespace Term

variable {token path : String} {tokens : List String} {term : Term}

/-- Reads what is left without the tokens of the delivery: an output option has lost its path, if it
ever had one. -/
def readLeft : List String → Except CommandError (List Term)
  | [] => .ok []
  | token :: rest =>
    if token == "-o" || token == "--output" then .error (.missingPath token)
    else
      match readOne token with
      | .ok term => (readLeft rest).map (term :: ·)
      | .error error => .error error

/-- A token is read as an output option if its path is in it. -/
theorem readOne_eq_output_iff :
    readOne token = .ok (.output path) ↔
      Text.beginsWith token "--output=" = true ∧ (Text.cut '=' token).2.2 = path ∧ path ≠ "" := by
  rw [readOne_eq_ok_iff]
  constructor
  · intro h
    cases h with
    | pathWithin hne => exact ⟨Text.beginsWith_append _ path, by rw [cut_output], hne⟩
    | flag h => cases h
  · rintro ⟨hbegins, hpath, hne⟩
    obtain ⟨rest, rfl⟩ := Text.exists_of_beginsWith hbegins
    rw [cut_output] at hpath
    obtain rfl : rest = path := hpath
    exact .pathWithin hne

/-- **The tokens of the delivery** are those that are read as its terms. -/
theorem isDeliveryWord_iff :
    isDeliveryWord (fun _ => true) token = true ↔
      ∃ term, readOne token = .ok term ∧ term.isDelivery = true := by
  -- flags are read by their spellings, and output options by how they begin
  have hstdout : readOne token = .ok .stdout ↔ token ∈ Term.stdout.spellings :=
    readOne_eq_ok_iff_of_flag (List.cons_ne_nil _ _)
  have hsilent : readOne token = .ok .silent ↔ token ∈ Term.silent.spellings :=
    readOne_eq_ok_iff_of_flag (List.cons_ne_nil _ _)
  rw [isDeliveryWord, Bool.or_eq_true, List.contains_iff_mem, List.mem_append, ← hstdout, ← hsilent,
    Bool.and_true, Bool.and_eq_true]
  constructor
  · rintro ((h | h) | ⟨hbegins, hpath⟩)
    · exact ⟨_, h, rfl⟩
    · exact ⟨_, h, rfl⟩
    · exact ⟨_, readOne_eq_output_iff.2 ⟨hbegins, rfl, by simpa using hpath⟩, rfl⟩
  · rintro ⟨term, h, hterm⟩
    cases term with
    | output path =>
      obtain ⟨hbegins, rfl, hne⟩ := readOne_eq_output_iff.1 h
      exact Or.inr ⟨hbegins, by simpa using hne⟩
    | stdout => exact Or.inl (Or.inl h)
    | silent => exact Or.inl (Or.inr h)
    | _ => cases hterm

/-- **Reading and deleting.**  The terms that are not about the delivery, or the error of the first
token that is no term, are what is read without the tokens of the delivery. -/
theorem map_filter_readAll :
    (readAll tokens).map (fun terms => terms.filter fun term => !term.isDelivery) =
      readLeft (withoutDelivery (fun _ => true) tokens) := by
  induction tokens using readAll.induct with
  | case1 => rfl
  | case2 token htakes path rest hpath ih =>
    rw [readAll, if_pos htakes, if_pos hpath, withoutDelivery, if_pos htakes, hpath]
    rw [Bool.and_true, if_pos rfl, ← ih]
    cases readAll rest <;> rfl
  | case3 token htakes path rest hpath =>
    -- the option stays without a path, and is the first error in both ways
    rw [readAll, if_pos htakes, if_neg hpath, withoutDelivery, if_pos htakes,
      Bool.eq_false_iff.2 hpath]
    rw [Bool.false_and, if_neg Bool.false_ne_true, readLeft, if_pos htakes]
    rfl
  | case4 token htakes =>
    rw [readAll, if_pos htakes, withoutDelivery, if_pos htakes, readLeft, if_pos htakes]
    rfl
  | case5 token rest htakes first hfirst ih =>
    rw [readAll.eq_def, withoutDelivery.eq_def]
    simp only [if_neg htakes, hfirst]
    cases hdelivery : first.isDelivery with
    | true =>
      rw [if_pos (isDeliveryWord_iff.2 ⟨first, hfirst, hdelivery⟩), ← ih]
      cases readAll rest with
      | error error => rfl
      | ok terms => simp [Except.map, hdelivery]
    | false =>
      have hword : ¬ isDeliveryWord (fun _ => true) token = true := by
        rw [isDeliveryWord_iff]
        rintro ⟨term, hterm, htrue⟩
        obtain rfl := Except.ok.inj (hfirst.symm.trans hterm)
        rw [hdelivery] at htrue
        cases htrue
      rw [if_neg hword, readLeft, if_neg htakes, ← ih]
      simp only [hfirst]
      cases readAll rest with
      | error error => rfl
      | ok terms => simp [Except.map, hdelivery]
  | case6 token rest htakes error herror =>
    have hword : ¬ isDeliveryWord (fun _ => true) token = true := by
      rw [isDeliveryWord_iff]
      rintro ⟨term, hterm, -⟩
      rw [herror] at hterm
      cases hterm
    rw [readAll.eq_def, withoutDelivery.eq_def]
    simp only [if_neg htakes, herror]
    rw [if_neg hword, readLeft, if_neg htakes]
    simp only [herror]
    rfl

end Term

/-! ### Commands -/

/-- **A command without its delivery** is what the tokens tell that are left without those of the
delivery. -/
theorem Command.map_withoutDelivery_ofTokens {tokens : List String} :
    (ofTokens tokens).map withoutDelivery =
      (Term.readLeft (CustomBuild.withoutDelivery (fun _ => true) tokens)).map ofTerms := by
  rw [← Term.map_filter_readAll, ofTokens]
  cases Term.readAll tokens with
  | error error => rfl
  | ok terms => exact congrArg Except.ok (ofTerms_filter_isDelivery terms).symm

end CustomBuild
