import CustomBuild.CommandLine.Program
import CustomBuild.Proofs.Command.Leftover
import CustomBuild.Proofs.Text.Basic

/-!
# Where the characters of a path come from

What is read from a command line is made of the characters of its arguments: directives are
arguments as they are, and the value of an option is an argument or the end of one
(`madeOf_of_read`).  So a file that the program writes is named by characters of the arguments, or
has one of the two usual names (`madeOf_destination`).

`Text.MadeOf kind` says of a text that all of its characters are of a kind, and every step of the
reading is shown to keep to the kind.
-/

namespace CustomBuild

variable {kind : Char → Prop} {text spelling path : String} {texts tokens : List String}

/-! ### Texts -/

namespace Text

/-- **A text is made of characters** of a kind. -/
def MadeOf (kind : Char → Prop) (text : String) : Prop :=
  ∀ c ∈ text.toList, kind c

theorem madeOf_empty : MadeOf kind "" :=
  nofun

theorem MadeOf.ofList {cs : List Char} (h : MadeOf kind text) (hsub : cs ⊆ text.toList) :
    MadeOf kind (String.ofList cs) := by
  intro c hc
  rw [String.toList_ofList] at hc
  exact h c (hsub hc)

/-- The end of a text that is cut is made of its characters. -/
theorem MadeOf.cut (h : MadeOf kind text) (mark : Char) :
    MadeOf kind (Text.cut mark text).2.2 := by
  unfold Text.cut
  split
  · next before after hcut => exact h.ofList (suffix_of_cut? hcut).subset
  · exact madeOf_empty

end Text

/-! ### Paths of commands -/

namespace Term

/-- A token that gives no path: it neither stands behind an output option nor has a path in it. -/
def GivesNoPath (token : String) : Prop :=
  isPath token = false ∧ Text.beginsWith token "--output=" = false

/-- **The paths of terms** are made of tokens. -/
theorem madeOf_of_readAll {terms : List Term}
    (h : ∀ token ∈ tokens, Text.MadeOf kind token ∨ GivesNoPath token)
    (hread : readAll tokens = .ok terms) :
    ∀ path, .output path ∈ terms → Text.MadeOf kind path := by
  induction tokens using readAll.induct generalizing terms with
  | case1 =>
    cases hread
    exact fun _ hmem => absurd hmem List.not_mem_nil
  | case2 token htakes first rest hpath ih =>
    rw [readAll, if_pos htakes, if_pos hpath] at hread
    obtain ⟨more, hrest, rfl⟩ := exists_of_map_eq_ok hread
    obtain ⟨-, hfirst, hothers⟩ : _ ∧ _ ∧ _ := by simpa only [List.forall_mem_cons] using h
    intro path hmem
    rcases List.mem_cons.1 hmem with heq | hmem
    · -- the path is the token behind an output option
      obtain rfl := Term.output.inj heq
      refine hfirst.resolve_right fun hnone => ?_
      rw [hnone.1] at hpath
      cases hpath
    · exact ih hothers hrest path hmem
  | case3 token htakes path rest hpath =>
    rw [readAll, if_pos htakes, if_neg hpath] at hread
    cases hread
  | case4 token htakes =>
    rw [readAll, if_pos htakes] at hread
    cases hread
  | case5 token rest htakes first hfirst ih =>
    rw [readAll.eq_def] at hread
    simp only [if_neg htakes, hfirst] at hread
    obtain ⟨more, hrest, rfl⟩ := exists_of_map_eq_ok hread
    obtain ⟨htoken, hothers⟩ := List.forall_mem_cons.1 h
    intro path hmem
    rcases List.mem_cons.1 hmem with rfl | hmem
    · -- the path stands behind the equals sign of its token
      obtain ⟨hbegins, hvalue, -⟩ := readOne_eq_output_iff.1 hfirst
      rcases htoken with htoken | hnone
      · rw [← hvalue]
        exact htoken.cut '='
      · rw [hnone.2] at hbegins
        cases hbegins
    · exact ih hothers hrest path hmem
  | case6 token rest htakes error herror =>
    rw [readAll.eq_def] at hread
    simp only [if_neg htakes, herror] at hread
    cases hread

end Term

/-- **Where a command writes** is named by characters of its tokens, or is one of the two usual
files. -/
theorem Command.madeOf_destination {c : Command}
    (h : ∀ token ∈ tokens, Text.MadeOf kind token ∨ Term.GivesNoPath token)
    (hc : Command.ofTokens tokens = .ok c) (hpath : c.destination = some path) :
    Text.MadeOf kind path ∨ path = defaultOutput ∨ path = defaultReducedOutput := by
  obtain ⟨terms, hread, rfl⟩ := exists_terms_of_ofTokens hc
  unfold destination at hpath
  have husual : ∀ minify : Bool, some (if minify then defaultReducedOutput else defaultOutput) =
      some path → path = defaultOutput ∨ path = defaultReducedOutput := by
    rintro (_ | _) heq
    · exact Or.inl (Option.some.inj heq).symm
    · exact Or.inr (Option.some.inj heq).symm
  split at hpath
  · cases hpath
  · split at hpath
    · next given hgiven =>
      split at hpath
      · exact Or.inr (husual _ hpath)
      · obtain rfl := Option.some.inj hpath
        have hmem := List.mem_of_getLast? hgiven
        obtain ⟨term, hterm, hvalue⟩ := List.mem_filterMap.1 hmem
        cases term with
        | output other =>
          obtain rfl := Option.some.inj hvalue
          exact Or.inl (Term.madeOf_of_readAll h hread _ hterm)
        | _ => cases hvalue
    · exact Or.inr (husual _ hpath)

/-! ### Arguments -/

namespace CommandLine

variable {flag : Flag} {value : Option String} {argument : Argument} {p p' : Pass}
  {arguments rest : List (String × Argument)} {found : Uses} {takesDirectives : Bool}
  {settled : Settled}

/-- The value in an argument is made of characters of a kind. -/
def Argument.MadeOf (kind : Char → Prop) : Argument → Prop
  | .option _ _ (some value) => Text.MadeOf kind value
  | _ => True

theorem madeOf_of_mem_longCandidates {candidate : String × Flag × Option String}
    (h : Text.MadeOf kind text) (hmem : candidate ∈ longCandidates text) :
    (Argument.option candidate.1 candidate.2.1 candidate.2.2).MadeOf kind := by
  obtain ⟨row, -, rfl⟩ := List.mem_map.1 hmem
  have hcut := h.cut '='
  simp only
  split_ifs
  · exact hcut
  · trivial

theorem madeOf_of_mem_shortCandidates {candidate : String × Flag × Option String}
    (h : Text.MadeOf kind text) (hmem : candidate ∈ shortCandidates text) :
    (Argument.option candidate.1 candidate.2.1 candidate.2.2).MadeOf kind := by
  obtain ⟨row, -, rfl⟩ := List.mem_map.1 hmem
  exact h.ofList (List.drop_subset 2 _)

/-- **The value in an argument** is made of the argument. -/
theorem madeOf_of_classify (h : Text.MadeOf kind text) (hclassify : classify text = .ok argument) :
    argument.MadeOf kind := by
  -- an argument has a value behind an equals sign, or as the rest of a spelling that is cut short
  unfold classify at hclassify
  split at hclassify
  · cases hclassify
    trivial
  split at hclassify
  · cases hclassify
    trivial
  split at hclassify
  · cases hclassify
    trivial
  split at hclassify
  · cases hclassify
    trivial
  simp only at hclassify
  split at hclassify
  · -- the value stands behind the equals sign
    cases hclassify
    exact h.cut '='
  have hcandidate : ∀ candidate ∈ (if Text.beginsWith text "--" then longCandidates text
      else shortCandidates text),
      (Argument.option candidate.1 candidate.2.1 candidate.2.2).MadeOf kind := by
    intro candidate hmem
    split at hmem
    · exact madeOf_of_mem_longCandidates h hmem
    · exact madeOf_of_mem_shortCandidates h hmem
  split at hclassify
  · next spelling flag value hone =>
    cases hclassify
    exact hcandidate (spelling, flag, value) (by rw [hone]; exact List.mem_singleton_self _)
  · split at hclassify
    · cases hclassify
      trivial
    · cases hclassify
      trivial
  · cases hclassify

/-- Arguments are made of characters of a kind, and so are the values in them. -/
def MadeOf (kind : Char → Prop) (arguments : List (String × Argument)) : Prop :=
  ∀ a ∈ arguments, Text.MadeOf kind a.1 ∧ a.2.MadeOf kind

theorem MadeOf.sublist (h : MadeOf kind arguments) (hrest : rest.Sublist arguments) :
    MadeOf kind rest :=
  fun a ha => h a (hrest.subset ha)

theorem MadeOf.map_fst (h : MadeOf kind arguments) :
    ∀ text ∈ arguments.map Prod.fst, Text.MadeOf kind text := by
  intro text htext
  obtain ⟨a, ha, rfl⟩ := List.mem_map.1 htext
  exact (h a ha).1

theorem madeOf_of_classifyAll (h : ∀ text ∈ texts, Text.MadeOf kind text)
    (hclassify : classifyAll texts = .ok arguments) : MadeOf kind arguments := by
  induction texts generalizing arguments with
  | nil =>
    cases hclassify
    exact nofun
  | cons text others ih =>
    obtain ⟨htext, hothers⟩ := List.forall_mem_cons.1 h
    rw [classifyAll] at hclassify
    obtain ⟨argument, hargument, hclassify⟩ := exists_of_bind_eq_ok hclassify
    have hfirst := madeOf_of_classify htext hargument
    split_ifs at hclassify
    · -- after an end mark every argument is plain
      cases hclassify
      refine List.forall_mem_cons.2 ⟨⟨htext, hfirst⟩, fun a ha => ?_⟩
      obtain ⟨other, hother, rfl⟩ := List.mem_map.1 ha
      exact ⟨hothers other hother, trivial⟩
    · obtain ⟨more, hrest, hclassify⟩ := exists_of_bind_eq_ok hclassify
      cases hclassify
      exact List.forall_mem_cons.2 ⟨⟨htext, hfirst⟩, ih hothers hrest⟩

/-! ### Options -/

/-- The values of options are made of characters of a kind. -/
def Uses.MadeOf (kind : Char → Prop) (uses : List Use) : Prop :=
  ∀ use ∈ uses, Text.MadeOf kind use.value

theorem madeOf_of_joined {cs : List Char} (h : ∀ c ∈ cs, kind c)
    (hjoined : joined flag cs = .ok found) : Uses.MadeOf kind found.uses := by
  induction cs generalizing flag found with
  | nil =>
    cases hjoined
    exact List.forall_mem_singleton.2 Text.madeOf_empty
  | cons c cs ih =>
    rw [joined] at hjoined
    split at hjoined
    · cases hjoined
      refine List.forall_mem_singleton.2 fun x hx => ?_
      rw [String.toList_ofList] at hx
      exact h x hx
    · split at hjoined
      · cases hjoined
      · obtain ⟨more, hmore, rfl⟩ := exists_of_map_eq_ok hjoined
        exact List.forall_mem_cons.2
          ⟨Text.madeOf_empty, ih (List.forall_mem_cons.1 h).2 hmore⟩

/-- **The values of the options in an argument** are made of it. -/
theorem madeOf_of_usesOf (h : (Argument.option spelling flag value).MadeOf kind)
    (huses : usesOf spelling flag value = .ok found) : Uses.MadeOf kind found.uses := by
  cases value with
  | none =>
    cases huses
    exact List.forall_mem_singleton.2 Text.madeOf_empty
  | some value =>
    rw [usesOf] at huses
    split at huses
    · cases huses
      exact List.forall_mem_singleton.2 h
    · split at huses
      · cases huses
      · exact madeOf_of_joined h huses

theorem Uses.MadeOf.withValue {uses : List Use} {value : String} (h : Uses.MadeOf kind uses)
    (hvalue : Text.MadeOf kind value) :
    Uses.MadeOf kind (CommandLine.withValue value uses) := by
  induction uses using CommandLine.withValue.induct with
  | case1 => exact h
  | case2 use => exact List.forall_mem_singleton.2 hvalue
  | case3 use rest hrest ih =>
    obtain ⟨huse, hothers⟩ := List.forall_mem_cons.1 h
    rw [CommandLine.withValue.eq_3 _ _ _ hrest]
    exact List.forall_mem_cons.2 ⟨huse, ih hothers⟩

/-! ### Passes -/

/-- **What a pass has settled and left** is made of characters of a kind. -/
structure Pass.MadeOf (kind : Char → Prop) (p : Pass) : Prop where
  /-- the directives -/
  directives : ∀ text ∈ p.settled.directives, Text.MadeOf kind text
  /-- the path -/
  output : ∀ path, p.settled.output = some path → Text.MadeOf kind path
  /-- the arguments that are left -/
  left : ∀ text ∈ p.left, Text.MadeOf kind text

theorem Pass.MadeOf.act {use : Use} (h : p.MadeOf kind) (huse : Text.MadeOf kind use.value)
    (hact : p.act use = .ok p') : p'.MadeOf kind := by
  unfold Pass.act at hact
  split at hact
  · cases hact
  · simp only at hact
    split at hact
    · cases hact
    · cases hact
    · cases hact
      refine ⟨h.directives, fun path hpath => ?_, h.left⟩
      have hvalue : pathOf use.value = some path := hpath
      rw [pathOf] at hvalue
      split at hvalue
      · cases hvalue
      · cases hvalue
        exact huse
    all_goals
      cases hact
      exact ⟨h.directives, h.output, h.left⟩

/-- A pass that leaves texts of a kind is still of this kind. -/
theorem Pass.MadeOf.leave {texts : List String} (h : p.MadeOf kind)
    (htexts : ∀ text ∈ texts, Text.MadeOf kind text) :
    Pass.MadeOf kind { p with left := p.left ++ texts } := by
  refine ⟨h.directives, h.output, fun text htext => ?_⟩
  rcases List.mem_append.1 htext with htext | htext
  · exact h.left text htext
  · exact htexts text htext

theorem Pass.MadeOf.foldlM_act {uses : List Use} (h : p.MadeOf kind)
    (huses : Uses.MadeOf kind uses) (hact : uses.foldlM Pass.act p = .ok p') :
    p'.MadeOf kind := by
  induction uses generalizing p with
  | nil =>
    cases hact
    exact h
  | cons use rest ih =>
    obtain ⟨huse, hrest⟩ := List.forall_mem_cons.1 huses
    rw [List.foldlM_cons] at hact
    obtain ⟨next, hstep, hact⟩ := exists_of_bind_eq_ok hact
    exact ih (h.act huse hstep) hrest hact

theorem Pass.MadeOf.takeRun (h : p.MadeOf kind) (harguments : CommandLine.MadeOf kind arguments)
    (takesDirectives : Bool) :
    (p.takeRun takesDirectives arguments).1.MadeOf kind ∧
      CommandLine.MadeOf kind (p.takeRun takesDirectives arguments).2 := by
  unfold Pass.takeRun
  split
  · exact ⟨h, harguments⟩
  · split
    · refine ⟨⟨fun text htext => ?_, h.output, h.left⟩, harguments.sublist (List.drop_sublist _ _)⟩
      have hrun := harguments.sublist (List.takeWhile_sublist fun a => !a.2.isOption)
      exact hrun.map_fst text (List.mem_of_mem_erase htext)
    · split
      · exact ⟨⟨h.directives, h.output, h.left⟩, harguments.sublist (List.sublist_cons_self _ _)⟩
      · exact ⟨⟨h.directives, h.output, h.left⟩, harguments⟩

theorem Pass.MadeOf.leaveRun (h : p.MadeOf kind) (harguments : CommandLine.MadeOf kind arguments) :
    (p.leaveRun arguments).1.MadeOf kind ∧ CommandLine.MadeOf kind (p.leaveRun arguments).2 :=
  have hrun := harguments.sublist (List.takeWhile_sublist fun a => !a.2.isOption)
  ⟨h.leave hrun.map_fst, harguments.sublist (List.drop_sublist _ _)⟩

theorem Pass.MadeOf.takeOption (h : p.MadeOf kind)
    (harguments : CommandLine.MadeOf kind arguments)
    (htake : p.takeOption arguments = .ok (p', rest)) :
    p'.MadeOf kind ∧ CommandLine.MadeOf kind rest := by
  unfold Pass.takeOption at htake
  split at htake
  · next text others =>
    obtain ⟨⟨htext, -⟩, hothers⟩ := List.forall_mem_cons.1 harguments
    cases htake
    exact ⟨h.leave (List.forall_mem_singleton.2 htext), hothers⟩
  · next text spelling flag value others =>
    obtain ⟨⟨-, hvalue⟩, hothers⟩ := List.forall_mem_cons.1 harguments
    split at htake
    · cases htake
    · next found hfound =>
      have huses := madeOf_of_usesOf hvalue hfound
      split at htake
      · split at htake
        · next next more =>
          -- the value is the argument behind the option
          obtain ⟨⟨hnext, -⟩, hmore⟩ := List.forall_mem_cons.1 hothers
          obtain ⟨acted, hact, heq⟩ := exists_of_map_eq_ok htake
          cases heq
          exact ⟨h.foldlM_act (huses.withValue hnext) hact, hmore⟩
        · cases htake
      · obtain ⟨acted, hact, heq⟩ := exists_of_map_eq_ok htake
        cases heq
        exact ⟨h.foldlM_act huses hact, hothers⟩
  · cases htake
    exact ⟨h, harguments⟩

/-- **A turn of a pass** that goes through acts on the option at the front, takes and leaves a run
of other arguments, or is the last one, as there are no more options. -/
theorem Pass.exists_of_run_succ {steps : ℕ}
    (hrun : Pass.run takesDirectives (steps + 1) p arguments = .ok p') :
    (∃ acted rest, p.takeOption arguments = .ok (acted, rest) ∧
        Pass.run takesDirectives steps acted rest = .ok p') ∨
      (∃ taken rest, p.takeRun takesDirectives arguments = (taken, rest) ∧
        (Pass.run takesDirectives steps (taken.leaveRun rest).1 (taken.leaveRun rest).2 = .ok p' ∨
          p' = { taken with left := taken.left ++ rest.map Prod.fst })) := by
  rw [Pass.run.eq_def] at hrun
  simp only at hrun
  split at hrun
  · split at hrun
    · split at hrun
      · split at hrun
        · cases hrun
        · next acted rest htake => exact .inl ⟨acted, rest, htake, hrun⟩
      · exact .inr ⟨_, _, rfl, .inl hrun⟩
    · next hany => exact absurd hany Bool.false_ne_true
  · exact .inr ⟨_, _, rfl, .inr (Except.ok.inj hrun).symm⟩

/-- **A pass** settles and leaves what is made of its arguments.  The induction is on the steps,
each of which acts on an option or takes a run of other arguments. -/
theorem Pass.MadeOf.run {steps : ℕ} (h : p.MadeOf kind)
    (harguments : CommandLine.MadeOf kind arguments)
    (hrun : Pass.run takesDirectives steps p arguments = .ok p') : p'.MadeOf kind := by
  induction steps generalizing p arguments with
  | zero =>
    cases hrun
    exact h.leave harguments.map_fst
  | succ steps ih =>
    obtain ⟨acted, rest, htake, hrun⟩ | ⟨taken, rest, htake, hrun⟩ := Pass.exists_of_run_succ hrun
    · obtain ⟨hacted, hrest⟩ := h.takeOption harguments htake
      exact ih hacted hrest hrun
    · obtain ⟨htaken, hrest⟩ := h.takeRun harguments takesDirectives
      rw [htake] at htaken hrest
      rcases hrun with hrun | rfl
      · obtain ⟨hleft, hmore⟩ := htaken.leaveRun hrest
        exact ih hleft hmore hrun
      · exact htaken.leave hrest.map_fst

theorem madeOf_of_pass (hsettled : Pass.MadeOf kind { settled })
    (htexts : ∀ text ∈ texts, Text.MadeOf kind text)
    (hpass : pass takesDirectives settled texts = .ok p) : p.MadeOf kind := by
  unfold pass at hpass
  split at hpass
  · cases hpass
  · next arguments hclassify =>
    exact hsettled.run (madeOf_of_classifyAll htexts hclassify) hpass

/-- **What is read from a command line** is made of its arguments. -/
theorem madeOf_of_read (htexts : ∀ text ∈ texts, Text.MadeOf kind text)
    (hread : read texts = .ok settled) :
    (∀ text ∈ settled.directives, Text.MadeOf kind text) ∧
      ∀ path, settled.output = some path → Text.MadeOf kind path := by
  rw [read] at hread
  obtain ⟨first, hfirst, hread⟩ := exists_of_bind_eq_ok hread
  obtain ⟨second, hsecond, hread⟩ := exists_of_bind_eq_ok hread
  have hmade := madeOf_of_pass ⟨nofun, nofun, nofun⟩ htexts hfirst
  -- the second pass reads what the first one has left
  have hboth := madeOf_of_pass ⟨hmade.directives, hmade.output, nofun⟩ hmade.left hsecond
  split at hread
  · cases hread
    exact ⟨hboth.directives, hboth.output⟩
  · cases hread

/-- **The tokens** that the program writes are directives, the path, and flags. -/
theorem mem_tokens {token : String} (h : token ∈ settled.tokens) :
    token ∈ settled.directives ∨ settled.output = some token ∨
      token ∈ ["-o", "-c", "-s", "-m", "--strict-names"] := by
  have hflag : ∀ (given : Bool) {flag : String}, token ∈ (if given then [flag] else []) →
      token = flag := by
    rintro (_ | _) flag hmem
    · cases hmem
    · exact List.mem_singleton.1 hmem
  simp only [Settled.tokens, List.mem_append] at h
  -- the directives come first, then the path with its option, and then the flags that are set
  rcases h with ((((hdirective | houtput) | hstdout) | hsilent) | hminify) | hstrict
  · exact Or.inl hdirective
  · right
    split at houtput
    · next path hpath =>
      split at houtput
      · cases houtput
      · rcases List.mem_cons.1 houtput with rfl | htoken
        · exact Or.inr (by decide)
        · rw [hpath, List.mem_singleton.1 htoken]
          exact Or.inl rfl
    · cases houtput
  · rw [hflag _ hstdout]
    exact Or.inr (Or.inr (by decide))
  · rw [hflag _ hsilent]
    exact Or.inr (Or.inr (by decide))
  · rw [hflag _ hminify]
    exact Or.inr (Or.inr (by decide))
  · rw [hflag _ hstrict]
    exact Or.inr (Or.inr (by decide))

/-- **Where the program writes** is named by characters of its arguments, or is one of the two usual
files. -/
theorem madeOf_destination {c : Command} (htexts : ∀ text ∈ texts, Text.MadeOf kind text)
    (hread : read texts = .ok settled) (hc : Command.ofTokens settled.tokens = .ok c)
    (hpath : c.destination = some path) :
    Text.MadeOf kind path ∨ path = Command.defaultOutput ∨ path = Command.defaultReducedOutput := by
  obtain ⟨hdirectives, houtput⟩ := madeOf_of_read htexts hread
  have hflags : ∀ token ∈ ["-o", "-c", "-s", "-m", "--strict-names"], Term.GivesNoPath token := by
    unfold Term.GivesNoPath
    decide
  refine Command.madeOf_destination (fun token htoken => ?_) hc hpath
  rcases mem_tokens htoken with hdirective | hgiven | hflag
  · exact Or.inl (hdirectives token hdirective)
  · exact Or.inl (houtput token hgiven)
  · exact Or.inr (hflags token hflag)

end CommandLine

end CustomBuild
