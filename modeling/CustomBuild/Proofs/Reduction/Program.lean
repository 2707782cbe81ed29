import CustomBuild.Proofs.Reduction.Strip

/-!
# What stripping leaves of a program

The program of a text is what stands outside its comments, blanks left out (`program`).  A reader
finds comments wherever they begin (`read`).  Stripping goes by the beginnings of lines, so it
overlooks a comment that begins behind something else and runs on, and takes the lines inside it for
code.  These are kept then, and the comment with them, which is as good as dropping it; but not if
one of the lines begins like a comment itself (`Misleading`).

A scanned line leaves the scanner and the readers of both texts in places that agree
(`follows_scanLine`), so the program of the kept lines is that of all lines (`follows_scanLines`).
Stripping keeps the program of every text that is not misread in this way (`program_strip`).
-/

namespace CustomBuild.Strip

/-! ### Reading a program -/

/-- Where the reader of a program stands. -/
inductive Place where
  /-- outside comments -/
  | code
  /-- inside a comment that goes to the end of the line -/
  | line
  /-- inside a block comment -/
  | block
deriving DecidableEq, Repr

/-- **Reading a program**: the text without its comments, and where the reader stands after it. -/
def read : Place → List Char → List Char × Place
  | place, [] => ([], place)
  | .code, '/' :: '/' :: cs => read .line cs
  | .code, '/' :: '*' :: cs => read .block cs
  | .code, c :: cs => (c :: (read .code cs).1, (read .code cs).2)
  | .line, '\n' :: cs => ('\n' :: (read .code cs).1, (read .code cs).2)
  | .line, _ :: cs => read .line cs
  | .block, '*' :: '/' :: cs => read .code cs
  | .block, _ :: cs => read .block cs

/-- The characters that are no blanks. -/
def visible (cs : List Char) : List Char :=
  cs.filter fun c => !Text.isBlank c

/-- **The program of a text**: its characters outside comments that are no blanks. -/
def program (text : String) : List Char :=
  visible (read .code text.toList).1

variable {state : State} {place place' : Place} {c : Char} {cs rest line : List Char}

/-- A character that begins no comment is left. -/
theorem read_code_cons (h : c = '/' → ∀ d ∈ cs.head?, d ≠ '/' ∧ d ≠ '*') :
    read .code (c :: cs) = (c :: (read .code cs).1, (read .code cs).2) := by
  rw [read]
  · rintro more rfl rfl
    exact (h rfl '/' rfl).1 rfl
  · rintro more rfl rfl
    exact (h rfl '*' rfl).2 rfl

/-- A line comment goes on up to a line feed. -/
theorem read_line_cons (h : c ≠ '\n') : read .line (c :: cs) = read .line cs := by
  rw [read]
  exact h

/-- A block comment goes on up to its end mark. -/
theorem read_block_cons (h : c = '*' → ∀ d ∈ cs.head?, d ≠ '/') :
    read .block (c :: cs) = read .block cs := by
  rw [read]
  rintro more rfl rfl
  exact h rfl '/' rfl rfl

/-- **Reading is compositional**: a text that begins with no part of a mark is read from where the
reader stands after the text before it. -/
theorem read_append (h : ∀ d ∈ rest.head?, d ≠ '/' ∧ d ≠ '*') (place : Place) (cs : List Char) :
    read place (cs ++ rest) =
      ((read place cs).1 ++ (read (read place cs).2 rest).1, (read (read place cs).2 rest).2) := by
  have hhead : ∀ cs : List Char, ∀ d ∈ (cs ++ rest).head?, d ∈ cs.head? ∨ d ≠ '/' ∧ d ≠ '*' := by
    intro cs d hd
    cases cs with
    | nil => exact Or.inr (h d hd)
    | cons e more => exact Or.inl hd
  fun_induction read place cs with
  | case1 place => rfl
  | case2 cs ih => exact ih
  | case3 cs ih => exact ih
  | case4 c cs hline hblock ih =>
    rw [List.cons_append, read_code_cons, ih, List.cons_append]
    rintro rfl d hd
    -- a slash at the end of the text makes no mark with what comes after it
    refine (hhead cs d hd).elim (fun hcs => ?_) id
    obtain ⟨more, rfl⟩ : ∃ more, cs = d :: more := List.head?_eq_some_iff.1 hcs
    exact ⟨fun hd => hline more rfl (hd ▸ rfl), fun hd => hblock more rfl (hd ▸ rfl)⟩
  | case5 cs ih => rw [List.cons_append, read, ih, List.cons_append]
  | case6 c cs hc ih => rw [List.cons_append, read_line_cons hc, ih]
  | case7 cs ih => exact ih
  | case8 c cs hc ih =>
    rw [List.cons_append, read_block_cons, ih]
    rintro rfl d hd
    refine (hhead cs d hd).elim (fun hcs => ?_) And.left
    obtain ⟨more, rfl⟩ : ∃ more, cs = d :: more := List.head?_eq_some_iff.1 hcs
    exact fun hd => hc more rfl (hd ▸ rfl)

/-! ### Line by line -/

/-- Where the reader goes on in the next line. -/
def Place.nextLine : Place → Place
  | .line => .code
  | place => place

/-- Reading a line: its program, and where the reader stands at the start of the next one. -/
def readLine (place : Place) (line : List Char) : List Char × Place :=
  (visible (read place line).1, (read place line).2.nextLine)

/-- Reading lines one after the other. -/
def readLines : Place → List (List Char) → List Char × Place
  | place, [] => ([], place)
  | place, line :: rest =>
    ((readLine place line).1 ++ (readLines (readLine place line).2 rest).1,
      (readLines (readLine place line).2 rest).2)

theorem nextLine_ne_line (place : Place) : place.nextLine ≠ .line := by
  cases place <;> decide

theorem visible_append (first second : List Char) :
    visible (first ++ second) = visible first ++ visible second :=
  List.filter_append first second

/-- A line feed is no part of the program and leads to the next line. -/
theorem visible_read_feed (place : Place) (cs : List Char) :
    visible (read place ('\n' :: cs)).1 = visible (read place.nextLine cs).1 := by
  cases place with
  | code =>
    rw [read_code_cons fun h => absurd h (by decide)]
    rfl
  | line => rfl
  | block =>
    rw [read_block_cons fun h => absurd h (by decide)]
    rfl

/-- **The program of lines** is that of each of them. -/
theorem visible_read_intercalate {lines : List (List Char)} (place : Place) (hne : lines ≠ []) :
    visible (read place (List.intercalate ['\n'] lines)).1 = (readLines place lines).1 := by
  induction lines generalizing place with
  | nil => exact absurd rfl hne
  | cons line rest ih =>
    cases rest with
    | nil =>
      rw [List.intercalate_singleton, readLines, readLines, List.append_nil]
      rfl
    | cons second rest =>
      have hfeed : ∀ d ∈ (['\n'] ++ List.intercalate ['\n'] (second :: rest)).head?,
          d ≠ '/' ∧ d ≠ '*' := by
        rintro d hd
        cases hd
        decide
      rw [List.intercalate_cons_cons, List.append_assoc, read_append hfeed, visible_append,
        List.singleton_append, visible_read_feed, ih _ (List.cons_ne_nil _ _)]
      rfl

/-- **The program of a text** is that of its lines. -/
theorem program_eq (text : String) : program text = (readLines .code (Text.charLines text)).1 := by
  rw [← visible_read_intercalate _ (Text.charLines_ne_nil text), program, Text.charLines,
    Text.intercalate_splitWhere]

theorem readLines_append (place : Place) (first second : List (List Char)) :
    readLines place (first ++ second) =
      ((readLines place first).1 ++ (readLines (readLines place first).2 second).1,
        (readLines (readLines place first).2 second).2) := by
  induction first generalizing place with
  | nil => rfl
  | cons line rest ih =>
    rw [List.cons_append, readLines, ih, readLines, List.append_assoc]

/-- **The program of a stripped text** is that of the kept lines. -/
theorem program_strip_eq (source : String) :
    program (strip source) = (readLines .code (keptLines source)).1 := by
  rw [program_eq]
  by_cases hkept : keptLines source = []
  · unfold strip
    rw [hkept]
    split_ifs <;> rfl
  · by_cases hend : Text.endsWith source "\n" = true
    · rw [charLines_strip hkept hend, readLines_append]
      exact List.append_nil _
    · rw [charLines_strip_of_not hkept hend]

/-! ### Trimming -/

/-- A blank is no part of the marks of comments. -/
theorem ne_of_isBlank (h : Text.isBlank c = true) : c ≠ '/' ∧ c ≠ '*' := by
  constructor <;> rintro rfl <;> cases h

/-- Blanks before a line are no part of its program. -/
theorem readLine_blank_append {blanks : List Char} (hblanks : ∀ c ∈ blanks, Text.isBlank c = true)
    (hplace : place ≠ .line) : readLine place (blanks ++ cs) = readLine place cs := by
  induction blanks with
  | nil => rfl
  | cons c rest ih =>
    obtain ⟨hc, hrest⟩ := List.forall_mem_cons.1 hblanks
    obtain ⟨hslash, hstar⟩ := ne_of_isBlank hc
    rw [← ih hrest, List.cons_append]
    unfold readLine
    cases place with
    | code =>
      rw [read_code_cons fun h => absurd h hslash]
      have hvisible : visible (c :: (read .code (rest ++ cs)).1) =
          visible (read .code (rest ++ cs)).1 := List.filter_cons_of_neg (by simp [hc])
      rw [hvisible]
    | line => exact absurd rfl hplace
    | block => rw [read_block_cons fun h => absurd h hstar]

/-- Blanks alone have no program, and lead nowhere else in a line. -/
theorem read_blanks {blanks : List Char} (hblanks : ∀ c ∈ blanks, Text.isBlank c = true)
    (hfeed : '\n' ∉ blanks) (place : Place) :
    visible (read place blanks).1 = [] ∧ (read place blanks).2 = place := by
  induction blanks with
  | nil => cases place <;> exact ⟨rfl, rfl⟩
  | cons c rest ih =>
    obtain ⟨hc, hrest⟩ := List.forall_mem_cons.1 hblanks
    rw [List.mem_cons, not_or] at hfeed
    obtain ⟨hvisible, hlast⟩ := ih hrest hfeed.2
    obtain ⟨hslash, hstar⟩ := ne_of_isBlank hc
    cases place with
    | code =>
      rw [read_code_cons fun h => absurd h hslash]
      exact ⟨(List.filter_cons_of_neg (by simp [hc])).trans hvisible, hlast⟩
    | line =>
      rw [read_line_cons (Ne.symm hfeed.1)]
      exact ⟨hvisible, hlast⟩
    | block =>
      rw [read_block_cons fun h => absurd h hstar]
      exact ⟨hvisible, hlast⟩

/-- **A line is read as it is when trimmed.** -/
theorem readLine_trimChars (hplace : place ≠ .line) (hfeed : '\n' ∉ line) :
    readLine place (Text.trimChars line) = readLine place line := by
  obtain ⟨lead, trail, hline, hlead, htrail⟩ := Text.exists_trimChars_eq line
  have htrailfeed : '\n' ∉ trail := fun hmem => hfeed (by rw [hline]; simp [hmem])
  have hhead : ∀ d ∈ trail.head?, d ≠ '/' ∧ d ≠ '*' :=
    fun d hd => ne_of_isBlank (htrail d (List.mem_of_mem_head? hd))
  have hright : readLine place (Text.trimChars line ++ trail) =
      readLine place (Text.trimChars line) := by
    obtain ⟨hvisible, hlast⟩ := read_blanks htrail htrailfeed (read place (Text.trimChars line)).2
    unfold readLine
    rw [read_append hhead, visible_append, hvisible, hlast, List.append_nil]
  conv_rhs => rw [hline]
  rw [readLine_blank_append hlead hplace, hright]

/-! ### Block comments -/

/-- A block comment without an end. -/
theorem read_block_of_cut?_eq_none (h : Text.cut? commentEnd cs = none) :
    read .block cs = ([], .block) := by
  induction cs with
  | nil => rfl
  | cons c rest ih =>
    unfold Text.cut? at h
    split_ifs at h with hend
    rw [read_block_cons, ih (Option.map_eq_none_iff.1 h)]
    rintro rfl d hd rfl
    obtain ⟨more, rfl⟩ := List.head?_eq_some_iff.1 hd
    exact hend rfl

/-- **A block comment goes up to its end.** -/
theorem read_block_of_cut?_eq_some {before after : List Char}
    (h : Text.cut? commentEnd cs = some (before, after)) : read .block cs = read .code after := by
  induction cs generalizing before with
  | nil => cases h
  | cons c rest ih =>
    unfold Text.cut? at h
    split_ifs at h with hend
    · obtain ⟨more, hmore⟩ := List.isPrefixOf_iff_prefix.1 hend
      obtain ⟨rfl, rfl⟩ := List.cons.inj hmore
      cases h
      rfl
    · obtain ⟨⟨front, back⟩, hrest, heq⟩ := Option.map_eq_some_iff.1 h
      cases heq
      rw [read_block_cons, ih hrest]
      rintro rfl d hd rfl
      obtain ⟨more, rfl⟩ := List.head?_eq_some_iff.1 hd
      exact hend rfl

/-- The rest of a line is no part of the program behind the mark of a line comment. -/
theorem read_line_of_not_mem (hfeed : '\n' ∉ cs) : read .line cs = ([], .line) := by
  induction cs with
  | nil => rfl
  | cons c rest ih =>
    rw [List.mem_cons, not_or] at hfeed
    rw [read_line_cons (Ne.symm hfeed.1), ih hfeed.2]

/-! ### Scanner and readers -/

/-- **Where the scanner and the readers stand** before a line: the reader of the source, and that of
the lines that are kept. -/
inductive Agrees : State → Place → Place → Prop
  /-- outside comments, or inside one that the scanner has overlooked -/
  | code {place : Place} (h : place ≠ .line) : Agrees .code place place
  /-- inside a comment of which nothing is kept -/
  | comment : Agrees .comment .block .code
  /-- inside a banner -/
  | banner : Agrees .banner .block .block

/-- What is kept of a line has the program of the line, and scanner and readers agree after it. -/
structure Follows (scanned : State × Option (List Char)) (place place' : Place)
    (line : List Char) : Prop where
  /-- the program is the same -/
  same : (readLine place line).1 = (readLines place' scanned.2.toList).1
  /-- scanner and readers agree at the start of the next line -/
  agrees : Agrees scanned.1 (readLine place line).2 (readLines place' scanned.2.toList).2

/-- **A misleading line**, if it stands inside a comment that the scanner has overlooked: it begins
like a block comment that is dropped, or like a line comment although a block comment ends in it. -/
def Misleading (line : List Char) : Prop :=
  (['/', '*'] <+: line ∧ ¬ ['/', '*', '!'] <+: line) ∨ (['/', '/'] <+: line ∧ commentEnd <:+: line)

instance : Decidable (Misleading line) :=
  inferInstanceAs (Decidable (_ ∨ _))

theorem readLines_singleton (place : Place) (line : List Char) :
    readLines place [line] = readLine place line := by
  rw [readLines, readLines, List.append_nil]

/-- Lines that are read alike can stand for each other. -/
theorem Follows.of_readLine_eq {scanned : State × Option (List Char)} {other : List Char}
    {place'' : Place} (h : Follows scanned place'' place' other)
    (hread : readLine place line = readLine place'' other) :
    Follows scanned place place' line :=
  ⟨hread ▸ h.same, hread ▸ h.agrees⟩

/-- A line that is kept where both readers stand at the same place. -/
theorem follows_kept (place : Place) (line : List Char) :
    Follows (.code, some line) place place line := by
  constructor
  · rw [Option.toList_some, readLines_singleton]
  · rw [Option.toList_some, readLines_singleton]
    exact .code (nextLine_ne_line _)

/-- A line that is dropped where there is no program in it. -/
theorem follows_dropped (hplace : place ≠ .line) (h : readLine place line = ([], place)) :
    Follows (.code, none) place place line := by
  constructor
  · rw [h]
    rfl
  · rw [h]
    exact .code hplace

/-- An empty line is dropped. -/
theorem follows_nil (hplace : place ≠ .line) : Follows (.code, none) place place [] := by
  refine follows_dropped hplace ?_
  cases place with
  | line => exact absurd rfl hplace
  | code | block => rfl

/-- A line of a banner is kept; the banner goes on unless it ends there. -/
theorem follows_banner (hread : read place line = read .block rest) :
    Follows (if Text.occurs commentEnd rest then .code else .banner, some line) place place
      line := by
  split_ifs with hend
  · exact follows_kept place line
  · have hnone : Text.cut? commentEnd rest = none :=
      Text.cut?_eq_none_iff.2 (mt Text.occurs_iff_isInfix.2 hend)
    have hline : readLine place line = ([], .block) := by
      rw [readLine, hread, read_block_of_cut?_eq_none hnone]
      rfl
    constructor
    · rw [Option.toList_some, readLines_singleton]
    · rw [Option.toList_some, readLines_singleton, hline]
      exact .banner

/-- A line that begins like a line comment is dropped. -/
theorem follows_slashes (hplace : place ≠ .line) (hfeed : '\n' ∉ rest)
    (hline : place = .block → ¬ Misleading ('/' :: '/' :: rest)) :
    Follows (.code, none) place place ('/' :: '/' :: rest) := by
  refine follows_dropped hplace ?_
  cases place with
  | line => exact absurd rfl hplace
  | code =>
    have hread : read .code ('/' :: '/' :: rest) = ([], .line) := read_line_of_not_mem hfeed
    rw [readLine, hread]
    rfl
  | block =>
    have hnone : Text.cut? commentEnd ('/' :: '/' :: rest) = none :=
      Text.cut?_eq_none_iff.2 fun hend => hline rfl (Or.inr ⟨⟨rest, rfl⟩, hend⟩)
    rw [readLine, read_block_of_cut?_eq_none hnone]
    rfl

/-- A block comment at the start of a line is dropped; what comes after it on the line is kept,
unless there is nothing. -/
theorem follows_block (hfeed : '\n' ∉ rest) :
    Follows
      (match Text.cut? commentEnd rest with
        | none => (.comment, none)
        | some (_, after) =>
          (.code, if (Text.trimChars after).isEmpty then none else some (Text.trimChars after)))
      .code .code ('/' :: '*' :: rest) := by
  have hread : read .code ('/' :: '*' :: rest) = read .block rest := rfl
  cases hcut : Text.cut? commentEnd rest with
  | none =>
    have hline : readLine .code ('/' :: '*' :: rest) = ([], .block) := by
      rw [readLine, hread, read_block_of_cut?_eq_none hcut]
      rfl
    exact ⟨by rw [hline]; rfl, by rw [hline]; exact .comment⟩
  | some parts =>
    obtain ⟨before, after⟩ := parts
    have hafter : '\n' ∉ after := fun hmem => hfeed ((Text.suffix_of_cut? hcut).subset hmem)
    have hline : readLine .code ('/' :: '*' :: rest) = readLine .code (Text.trimChars after) := by
      rw [readLine_trimChars (by decide) hafter, readLine, hread, read_block_of_cut?_eq_some hcut]
      rfl
    simp only
    split_ifs with hempty
    · rw [List.isEmpty_iff.1 hempty] at hline
      exact (follows_nil (by decide)).of_readLine_eq hline
    · exact (follows_kept .code _).of_readLine_eq hline

/-- **Scanning a line outside comments**, or inside one that the scanner has overlooked. -/
theorem follows_scanCode (hplace : place ≠ .line) (hfeed : '\n' ∉ line)
    (hline : place = .block → ¬ Misleading line) : Follows (scanCode line) place place line := by
  unfold scanCode
  by_cases hdropped : (line.isEmpty || ['/', '/'].isPrefixOf line) = true
  · rw [if_pos hdropped]
    rcases Bool.or_eq_true_iff.1 hdropped with hempty | hslashes
    · rw [List.isEmpty_iff.1 hempty]
      exact follows_nil hplace
    · obtain ⟨rest, rfl⟩ := List.isPrefixOf_iff_prefix.1 hslashes
      exact follows_slashes hplace (fun hmem => hfeed (List.mem_append_right _ hmem)) hline
  rw [if_neg hdropped]
  by_cases hbanner : ['/', '*', '!'].isPrefixOf line = true
  · rw [if_pos hbanner]
    obtain ⟨rest, rfl⟩ := List.isPrefixOf_iff_prefix.1 hbanner
    have hread : read place ('/' :: '*' :: '!' :: rest) = read .block rest := by
      cases place with
      | line => exact absurd rfl hplace
      | code | block => rfl
    exact follows_banner hread
  rw [if_neg hbanner]
  by_cases hblock : ['/', '*'].isPrefixOf line = true
  · rw [if_pos hblock]
    -- inside a comment such a line is misleading
    have hcode : place = .code := by
      cases place with
      | code => rfl
      | line => exact absurd rfl hplace
      | block =>
        refine absurd (Or.inl ⟨List.isPrefixOf_iff_prefix.1 hblock, ?_⟩) (hline rfl)
        exact fun h => hbanner (List.isPrefixOf_iff_prefix.2 h)
    obtain ⟨rest, rfl⟩ := List.isPrefixOf_iff_prefix.1 hblock
    rw [hcode]
    exact follows_block fun hmem => hfeed (List.mem_append_right _ hmem)
  rw [if_neg hblock]
  exact follows_kept place line

/-- **Scanning a line.** -/
theorem follows_scanLine (h : Agrees state place place') (hfeed : '\n' ∉ line)
    (hline : state = .code → place = .block → ¬ Misleading (Text.trimChars line)) :
    Follows (scanLine state line) place place' line := by
  have htrimmed : '\n' ∉ Text.trimChars line := fun hmem =>
    hfeed ((Text.trimChars_isInfix line).subset hmem)
  cases h with
  | code hplace =>
    have hscan := follows_scanCode hplace htrimmed (hline rfl)
    exact hscan.of_readLine_eq (readLine_trimChars hplace hfeed).symm
  | comment =>
    have hread : readLine .block (Text.trimChars line) = readLine .block line :=
      readLine_trimChars (by decide) hfeed
    unfold scanLine
    simp only
    cases hcut : Text.cut? commentEnd (Text.trimChars line) with
    | none =>
      rw [readLine, read_block_of_cut?_eq_none hcut] at hread
      exact ⟨by rw [← hread]; rfl, by rw [← hread]; exact .comment⟩
    | some parts =>
      -- what comes after the comment is scanned like a line outside comments
      obtain ⟨before, after⟩ := parts
      have hafter : '\n' ∉ after := fun hmem => htrimmed ((Text.suffix_of_cut? hcut).subset hmem)
      have hrest : '\n' ∉ Text.trimChars after := fun hmem =>
        hafter ((Text.trimChars_isInfix after).subset hmem)
      have hscan : Follows (scanCode (Text.trimChars after)) .code .code (Text.trimChars after) :=
        follows_scanCode (by decide) hrest nofun
      refine hscan.of_readLine_eq ?_
      rw [readLine_trimChars (by decide) hafter, ← hread, readLine, read_block_of_cut?_eq_some hcut]
      rfl
  | banner =>
    have hscan : Follows _ .block .block (Text.trimChars line) := follows_banner rfl
    exact hscan.of_readLine_eq (readLine_trimChars (by decide) hfeed).symm

/-- **Scanning lines**: what is kept has the program of all of them, and scanner and readers agree
at the end, if no line is misleading where a comment is overlooked. -/
theorem follows_scanLines {lines : List (List Char)} (h : Agrees state place place')
    (hfeed : ∀ line ∈ lines, '\n' ∉ line)
    (hlines : ∀ n, ∀ hn : n < lines.length, (scanLines state (lines.take n)).2 = .code →
      (readLines place (lines.take n)).2 = .block → ¬ Misleading (Text.trimChars lines[n])) :
    (readLines place lines).1 = (readLines place' (scanLines state lines).1).1 ∧
      Agrees (scanLines state lines).2 (readLines place lines).2
        (readLines place' (scanLines state lines).1).2 := by
  induction lines generalizing state place place' with
  | nil => exact ⟨rfl, h⟩
  | cons line rest ih =>
    obtain ⟨hline, hrest⟩ := List.forall_mem_cons.1 hfeed
    have hstep : Follows (scanLine state line) place place' line :=
      follows_scanLine h hline (hlines 0 (Nat.succ_pos _))
    -- scanner and readers agree after the line, which is what the rest is to start from
    obtain ⟨hsame, hagrees⟩ :=
      ih hstep.agrees hrest fun n hn => hlines (n + 1) (Nat.succ_lt_succ hn)
    rw [scanLines_cons, readLines_append, readLines, hstep.same, hsame]
    exact ⟨rfl, hagrees⟩

/-! ### The program of a stripped text -/

/-- **The scanner overlooks a comment** that is open after the given lines, because it began behind
something else in its line. -/
def Overlooks (lines : List (List Char)) : Prop :=
  (scanLines .code lines).2 = .code ∧ (readLines .code lines).2 = .block

/-- **A text is misread** if a line is misleading that stands inside an overlooked comment. -/
def Misreads (source : String) : Prop :=
  ∃ n, ∃ h : n < (Text.charLines source).length,
    Overlooks ((Text.charLines source).take n) ∧
      Misleading (Text.trimChars (Text.charLines source)[n])

instance {lines : List (List Char)} : Decidable (Overlooks lines) :=
  inferInstanceAs (Decidable (_ ∧ _))

instance {source : String} : Decidable (Misreads source) :=
  inferInstanceAs (Decidable (∃ n, ∃ _ : n < (Text.charLines source).length, _))

/-- **Stripping keeps the program**, unless the text is misread. -/
theorem program_strip {source : String} (h : ¬ Misreads source) :
    program (strip source) = program source := by
  rw [program_strip_eq, program_eq]
  refine (follows_scanLines (.code (by decide)) (fun _ => Text.not_mem_of_mem_charLines) ?_).1.symm
  exact fun n hn hstate hplace hline => h ⟨n, hn, ⟨hstate, hplace⟩, hline⟩

/-- A text with a banner, a block comment at the start of a line, and one that is overlooked. -/
def commentedSource : String :=
  "/*!\n * Lib\n */\nvar a; /* one\n  // two\n */ b(); // c\n/* d\n */ e();\n"

theorem commentedSource_keeps_program :
    ¬ Misreads commentedSource ∧ program (strip commentedSource) = program commentedSource ∧
      program commentedSource = "vara;b();e();".toList := by
  have hread : ¬ Misreads commentedSource := by decide +kernel
  exact ⟨hread, program_strip hread, by decide +kernel⟩

/-- A text with a comment that is overlooked and ends behind two slashes. -/
def overlookedSource : String :=
  "var a; /* one\n// two */ var b;\n"

/-- **An overlooked comment loses code**: the line with its end is dropped with all that comes after
the comment.  The text has no quotes, so nothing in it is a string. -/
theorem overlooked_comment_loses_code :
    strip overlookedSource = "var a; /* one\n" ∧
      program overlookedSource = "vara;varb;".toList ∧
      program (strip overlookedSource) = "vara;".toList ∧
      ∀ c ∈ overlookedSource.toList, c.toNat ∉ [34, 39, 96] := by
  have hquotes : overlookedSource.toList.all fun c => !([34, 39, 96].contains c.toNat) := by decide
  refine ⟨by decide, by decide, by decide, fun c hc hmem => ?_⟩
  have hplain := List.all_eq_true.1 hquotes c hc
  rw [List.contains_iff_mem.2 hmem] at hplain
  cases hplain

end CustomBuild.Strip
