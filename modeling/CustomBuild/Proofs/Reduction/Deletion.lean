import CustomBuild.Proofs.Reduction.Normal
import Mathlib.Data.List.Range

/-!
# Stripping only deletes

Each kept line comes from a line of the source, and the kept lines come in the order of the source.
So they can be written next to the numbers of their source lines (`keptRows`).  What is kept of a
line ends the trimmed line, since the scanner cuts texts at their front only
(`suffix_of_scanLine`).

Lines of banners are the exception to the rule that only lines with something in them are kept.  A
banner is described by where the scanner enters it and by what has no end of a comment since then
(`BannerReaches`), and the scanner is in a banner before a line exactly if some banner reaches the
line (`stateBefore_eq_banner_iff`).
-/

namespace CustomBuild.Strip

variable {state : State} {line kept rest : List Char} {lines : List (List Char)} {n : ℕ}
  {source : String}

/-! ### What is kept of a line -/

/-- A trimmed text has nothing to drop at either end. -/
theorem dropWhile_eq_of_trimmed (htrimmed : Text.trimChars line = line) :
    line.dropWhile Text.isBlank = line ∧ line.rdropWhile Text.isBlank = line := by
  have htrim : (line.dropWhile Text.isBlank).rdropWhile Text.isBlank = line := htrimmed
  -- the text is a beginning of what is left of it at the front, so nothing is dropped there
  have hbegins := List.rdropWhile_prefix Text.isBlank (line.dropWhile Text.isBlank)
  rw [htrim] at hbegins
  have hshort := (List.dropWhile_suffix (l := line) Text.isBlank).length_le
  have hfront : line.dropWhile Text.isBlank = line := (hbegins.eq_of_length_le hshort).symm
  exact ⟨hfront, by rwa [hfront] at htrim⟩

/-- An end of a trimmed text is trimmed at its front only. -/
theorem trimChars_suffix_of_suffix {cs : List Char} (htrimmed : Text.trimChars line = line)
    (h : cs <:+ line) : Text.trimChars cs <:+ line := by
  have hback : cs.dropWhile Text.isBlank <:+ line := (List.dropWhile_suffix _).trans h
  have hsame : Text.trimChars cs = cs.dropWhile Text.isBlank := by
    refine List.rdropWhile_eq_self_iff.2 fun hne => ?_
    have hlast := List.rdropWhile_eq_self_iff.1 (dropWhile_eq_of_trimmed htrimmed).2
      (hback.ne_nil hne)
    rwa [hback.getLast hne]
  rw [hsame]
  exact hback

theorem suffix_of_scanCode (htrimmed : Text.trimChars line = line)
    (h : (scanCode line).2 = some kept) : kept <:+ line := by
  unfold scanCode at h
  split at h
  · cases h
  split at h
  · rw [Option.some.inj h]
  split at h
  · split at h
    · cases h
    · next before after hcut =>
      have hafter : after <:+ line := (Text.suffix_of_cut? hcut).trans (List.drop_suffix 2 line)
      simp only at h
      split_ifs at h
      rw [← Option.some.inj h]
      exact trimChars_suffix_of_suffix htrimmed hafter
  · rw [Option.some.inj h]

/-- **What is kept of a line** ends the trimmed line. -/
theorem suffix_of_scanLine (h : (scanLine state line).2 = some kept) :
    kept <:+ Text.trimChars line := by
  have htrimmed := Text.trimChars_trimChars line
  unfold scanLine at h
  cases state with
  | code => exact suffix_of_scanCode htrimmed h
  | comment =>
    simp only at h
    split at h
    · cases h
    · next before after hcut =>
      have hafter := trimChars_suffix_of_suffix htrimmed (Text.suffix_of_cut? hcut)
      exact (suffix_of_scanCode (Text.trimChars_trimChars after) h).trans hafter
  | banner =>
    rw [Option.some.inj h]

theorem Outcome.trimmed {scanned : State × Option (List Char)} {text? : Option (List Char)}
    (h : Outcome scanned text?) (hkept : scanned.2 = some kept) :
    Text.trimChars kept = kept := by
  cases h with
  | dropped hnext => cases hkept
  | uncovered htrimmed =>
    simp only at hkept
    split_ifs at hkept
    rwa [← Option.some.inj hkept]
  | plain htrimmed hne hline hblock => rwa [← Option.some.inj hkept]
  | banner htrimmed => rwa [← Option.some.inj hkept]

/-- What is kept of a line is trimmed. -/
theorem trimmed_of_scanLine (h : (scanLine state line).2 = some kept) :
    Text.trimChars kept = kept := by
  by_cases hstate : state = .banner
  · subst hstate
    rw [← Option.some.inj h]
    exact Text.trimChars_trimChars line
  · exact (outcome_scanLine hstate line).trimmed h

/-- A trimmed text neither begins nor ends with a blank. -/
theorem not_isBlank_of_trimmed (htrimmed : Text.trimChars line = line) :
    (∀ c ∈ line.head?, Text.isBlank c = false) ∧ ∀ c ∈ line.getLast?, Text.isBlank c = false := by
  obtain ⟨hfront, hback⟩ := dropWhile_eq_of_trimmed htrimmed
  constructor
  · cases line with
    | nil => nofun
    | cons first rest =>
      intro c hc
      obtain rfl := Option.some.inj hc
      by_contra hblank
      rw [Bool.not_eq_false] at hblank
      rw [List.dropWhile_cons_of_pos hblank] at hfront
      -- dropping the blank would make the line shorter
      have hshort := (List.dropWhile_suffix (l := rest) Text.isBlank).length_le
      rw [hfront, List.length_cons] at hshort
      omega
  · intro c hc
    obtain ⟨hne, rfl⟩ := List.mem_getLast?_eq_getLast hc
    exact Bool.eq_false_iff.2 (List.rdropWhile_eq_self_iff.1 hback hne)

/-! ### Places in a source -/

/-- Where the scanner stands before a line. -/
def stateBefore (lines : List (List Char)) (n : ℕ) : State :=
  (scanLines .code (lines.take n)).2

theorem stateBefore_succ (h : lines[n]? = some line) :
    stateBefore lines (n + 1) = (scanLine (stateBefore lines n) line).1 := by
  unfold stateBefore
  rw [List.take_add_one, h, Option.toList_some, scanLines_concat_snd]

/-- What the scanner keeps of a line. -/
def keptOfLine (lines : List (List Char)) (n : ℕ) : Option (List Char) :=
  lines[n]?.bind fun line => (scanLine (stateBefore lines n) line).2

/-- **The kept lines with the numbers of their source lines.** -/
def keptRows (lines : List (List Char)) : List (ℕ × List Char) :=
  (List.range lines.length).filterMap fun n => (keptOfLine lines n).map fun kept => (n, kept)

theorem mem_keptRows_iff :
    (n, kept) ∈ keptRows lines ↔
      ∃ line, lines[n]? = some line ∧ (scanLine (stateBefore lines n) line).2 = some kept := by
  unfold keptRows keptOfLine
  rw [List.mem_filterMap]
  constructor
  · rintro ⟨number, -, hrow⟩
    obtain ⟨other, hother, heq⟩ := Option.map_eq_some_iff.1 hrow
    cases heq
    exact Option.bind_eq_some_iff.1 hother
  · rintro ⟨line, hline, hkept⟩
    obtain ⟨hlt, -⟩ := List.getElem?_eq_some_iff.1 hline
    refine ⟨n, List.mem_range.2 hlt, ?_⟩
    rw [hline, Option.bind_some, hkept, Option.map_some]

/-- The numbers of the source lines increase. -/
theorem pairwise_keptRows (lines : List (List Char)) :
    ((keptRows lines).map Prod.fst).Pairwise (· < ·) := by
  unfold keptRows
  rw [List.pairwise_map]
  refine List.Pairwise.filterMap _ ?_ List.pairwise_lt_range
  intro first second hlt row hrow other hother
  obtain ⟨-, -, rfl⟩ := Option.map_eq_some_iff.1 hrow
  obtain ⟨-, -, rfl⟩ := Option.map_eq_some_iff.1 hother
  exact hlt

/-- **The rows have the kept lines.** -/
theorem map_snd_keptRows (lines : List (List Char)) :
    (keptRows lines).map Prod.snd = keptOf lines := by
  induction lines using List.reverseRecOn with
  | nil => rfl
  | append_singleton lines line ih =>
    -- a line at the end does not change what is kept of those before it
    have hfront : ∀ n ∈ List.range lines.length,
        keptOfLine (lines ++ [line]) n = keptOfLine lines n := by
      intro n hn
      have hlt := List.mem_range.1 hn
      unfold keptOfLine stateBefore
      rw [List.getElem?_append_left hlt, List.take_append_of_le_length (Nat.le_of_lt hlt)]
    have hlast : keptOfLine (lines ++ [line]) lines.length =
        (scanLine (scanLines .code lines).2 line).2 := by
      unfold keptOfLine stateBefore
      rw [List.getElem?_concat_length, Option.bind_some, List.take_left]
    have hrows := List.filterMap_congr (f := fun n =>
      (keptOfLine (lines ++ [line]) n).map fun kept => (n, kept)) fun n hn =>
        congrArg (Option.map fun kept => (n, kept)) (hfront n hn)
    rw [keptOf_concat, ← ih]
    unfold keptRows
    rw [List.length_append, List.length_singleton, List.range_succ, List.filterMap_append, hrows,
      List.map_append]
    refine congrArg _ ?_
    rw [List.filterMap_cons, hlast]
    cases (scanLine (scanLines .code lines).2 line).2 <;> rfl

/-! ### Banners -/

/-- Blanks before a text do not help to find a mark without blanks in it. -/
theorem isInfix_of_isInfix_blank_append {mark blanks cs : List Char} (hne : mark ≠ [])
    (hmark : ∀ c ∈ mark, Text.isBlank c = false) (hblanks : ∀ c ∈ blanks, Text.isBlank c = true)
    (h : mark <:+: blanks ++ cs) : mark <:+: cs := by
  induction blanks with
  | nil => exact h
  | cons c rest ih =>
    obtain ⟨hc, hrest⟩ := List.forall_mem_cons.1 hblanks
    rw [List.cons_append, List.infix_cons_iff] at h
    rcases h with hbegins | hfound
    · cases mark with
      | nil => exact absurd rfl hne
      | cons first more =>
        -- the mark would begin with a blank
        obtain ⟨rfl, -⟩ := List.cons_prefix_cons.1 hbegins
        have hfirst := hmark first List.mem_cons_self
        rw [hc] at hfirst
        cases hfirst
    · exact ih hrest hfound

/-- **Trimming** takes no end of a comment away. -/
theorem isInfix_trimChars_iff :
    commentEnd <:+: Text.trimChars line ↔ commentEnd <:+: line := by
  refine ⟨fun h => h.trans (Text.trimChars_isInfix line), fun h => ?_⟩
  obtain ⟨lead, trail, hline, hlead, htrail⟩ := Text.exists_trimChars_eq line
  have hmark : ∀ c ∈ commentEnd, Text.isBlank c = false := by
    simp only [commentEnd, List.forall_mem_cons]
    exact ⟨rfl, rfl, List.forall_mem_nil _⟩
  rw [hline] at h
  have hback := isInfix_of_isInfix_blank_append (by decide) hmark hlead h
  -- the blanks at the end are blanks at the front of the reversed text
  rw [← List.reverse_infix, List.reverse_append] at hback
  have hfront := isInfix_of_isInfix_blank_append (by decide)
    (fun c hc => hmark c (List.mem_reverse.1 hc))
    (fun c hc => htrail c (List.mem_reverse.1 hc)) hback
  exact List.reverse_infix.1 hfront

/-- What the scanner looks at to see whether a comment begins: outside comments the whole line, in
a comment what stands behind its end, in a banner nothing. -/
def exposed? (state : State) (line : List Char) : Option (List Char) :=
  match state with
  | .code => some (Text.trimChars line)
  | .comment =>
    (Text.cut? commentEnd (Text.trimChars line)).map fun parts => Text.trimChars parts.2
  | .banner => none

/-- **The scanner enters a banner** in line `n`; the banner begins with `/*!`, and `rest` stands
behind that in the line. -/
def EntersBanner (lines : List (List Char)) (n : ℕ) (rest : List Char) : Prop :=
  ∃ line, lines[n]? = some line ∧
    exposed? (stateBefore lines n) line = some ('/' :: '*' :: '!' :: rest)

/-- **A banner reaches a line**: it is entered in line `first`, and has no end of a comment before
line `n`. -/
structure BannerReaches (lines : List (List Char)) (first n : ℕ) (rest : List Char) : Prop where
  /-- the banner is entered before the line -/
  lt : first < n
  /-- this is where it is entered -/
  enters : EntersBanner lines first rest
  /-- it does not end where it is entered -/
  open_first : ¬ commentEnd <:+: rest
  /-- nor does it end later on -/
  open_between : ∀ k line, first < k → k < n → lines[k]? = some line → ¬ commentEnd <:+: line

theorem scanLine_of_exposed (h : exposed? state line = some ('/' :: '*' :: '!' :: rest)) :
    scanLine state line =
      (if Text.occurs commentEnd rest then .code else .banner,
        some ('/' :: '*' :: '!' :: rest)) := by
  have hcode : scanCode ('/' :: '*' :: '!' :: rest) =
      (if Text.occurs commentEnd rest then .code else .banner,
        some ('/' :: '*' :: '!' :: rest)) := rfl
  unfold exposed? at h
  unfold scanLine
  cases state with
  | code =>
    simp only
    rw [Option.some.inj h]
    exact hcode
  | comment =>
    obtain ⟨parts, hcut, hparts⟩ := Option.map_eq_some_iff.1 h
    simp only [hcut]
    rw [hparts]
    exact hcode
  | banner => cases h

theorem exists_of_scanCode_eq_banner (h : (scanCode line).1 = .banner) :
    ∃ rest, line = '/' :: '*' :: '!' :: rest ∧ ¬ commentEnd <:+: rest := by
  unfold scanCode at h
  split at h
  · cases h
  split at h
  · next hstart =>
    obtain ⟨rest, rfl⟩ := List.isPrefixOf_iff_prefix.1 hstart
    refine ⟨rest, rfl, fun hend => ?_⟩
    have hoccurs : Text.occurs commentEnd rest = true := Text.occurs_iff_isInfix.2 hend
    simp [hoccurs] at h
  split at h
  · split at h <;> cases h
  · cases h

/-- Only an opening leads into a banner, and it has no end of a comment behind it. -/
theorem exists_of_scanLine_eq_banner (hstate : state ≠ .banner)
    (h : (scanLine state line).1 = .banner) :
    ∃ rest, exposed? state line = some ('/' :: '*' :: '!' :: rest) ∧ ¬ commentEnd <:+: rest := by
  unfold scanLine at h
  unfold exposed?
  cases state with
  | code =>
    obtain ⟨rest, hline, hrest⟩ := exists_of_scanCode_eq_banner h
    exact ⟨rest, congrArg some hline, hrest⟩
  | comment =>
    simp only at h
    split at h
    · cases h
    · next before after hcut =>
      obtain ⟨rest, hline, hrest⟩ := exists_of_scanCode_eq_banner h
      simp only [hcut, Option.map_some]
      exact ⟨rest, congrArg some hline, hrest⟩
  | banner => exact absurd rfl hstate

theorem scanLine_banner_eq_banner_iff :
    (scanLine .banner line).1 = .banner ↔ ¬ commentEnd <:+: line := by
  rw [← isInfix_trimChars_iff, ← Text.occurs_iff_isInfix]
  unfold scanLine
  simp only
  split_ifs with hend <;> simp [hend]

/-- **The scanner is in a banner** before a line exactly if a banner reaches the line. -/
theorem stateBefore_eq_banner_iff (hn : n ≤ lines.length) :
    stateBefore lines n = .banner ↔ ∃ first rest, BannerReaches lines first n rest := by
  -- the induction is on the place: a banner reaches it from the line before, or begins there
  induction n with
  | zero =>
    refine iff_of_false (fun h => ?_) fun ⟨first, rest, h⟩ => Nat.not_lt_zero _ h.lt
    unfold stateBefore at h
    cases h
  | succ n ih =>
    have hline : lines[n]? = some lines[n] := List.getElem?_eq_getElem hn
    rw [stateBefore_succ hline]
    constructor
    · intro hnext
      by_cases hstate : stateBefore lines n = .banner
      · obtain ⟨first, rest, h⟩ := (ih (Nat.le_of_succ_le hn)).1 hstate
        rw [hstate, scanLine_banner_eq_banner_iff] at hnext
        refine ⟨first, rest, Nat.lt_succ_of_lt h.lt, h.enters, h.open_first, ?_⟩
        intro k line hfirst hk hget
        rcases Nat.lt_succ_iff_lt_or_eq.1 hk with hk | rfl
        · exact h.open_between k line hfirst hk hget
        · rw [hline] at hget
          rwa [← Option.some.inj hget]
      · obtain ⟨rest, hexposed, hopen⟩ := exists_of_scanLine_eq_banner hstate hnext
        refine ⟨n, rest, Nat.lt_succ_self n, ⟨_, hline, hexposed⟩, hopen, ?_⟩
        intro k line hfirst hk
        omega
    · rintro ⟨first, rest, h⟩
      rcases Nat.lt_succ_iff_lt_or_eq.1 h.lt with hlt | rfl
      · have hbefore : BannerReaches lines first n rest :=
          ⟨hlt, h.enters, h.open_first, fun k line hfirst hk =>
            h.open_between k line hfirst (Nat.lt_succ_of_lt hk)⟩
        rw [(ih (Nat.le_of_succ_le hn)).2 ⟨first, rest, hbefore⟩, scanLine_banner_eq_banner_iff]
        exact h.open_between n _ hlt (Nat.lt_succ_self n) hline
      · obtain ⟨line, hget, hexposed⟩ := h.enters
        rw [hline] at hget
        rw [Option.some.inj hget, scanLine_of_exposed hexposed]
        exact if_neg (mt Text.occurs_iff_isInfix.1 h.open_first)

/-! ### The stripped text -/

/-- **The lines of a stripped text**, the line feed left aside that is put back at its end.  There
are none if nothing else is left. -/
def strippedLines (source : String) : List (List Char) :=
  let text := (strip source).toList
  let body := if Text.endsWith source "\n" then text.dropLast else text
  if body.isEmpty then [] else Text.splitWhere (· == '\n') body

/-- The first kept line is not empty, unless the scanner starts in a banner. -/
theorem scanLines_fst_ne_nil_cons (hstate : state ≠ .banner) (rest : List (List Char)) :
    (scanLines state lines).1 ≠ [] :: rest := by
  induction lines generalizing state with
  | nil => nofun
  | cons line more ih =>
    have houtcome := outcome_scanLine hstate line
    rw [scanLines_cons]
    cases hkept : (scanLine state line).2 with
    | none => exact ih (houtcome.next_ne_banner hkept)
    | some kept =>
      intro heq
      have hempty : kept = [] := (List.cons.inj heq).1
      exact houtcome.kept_ne_nil (hempty ▸ hkept)

theorem strippedLines_eq (source : String) : strippedLines source = keptLines source := by
  have hbody : (if Text.endsWith source "\n" then (strip source).toList.dropLast
      else (strip source).toList) =
        (Text.unlines ((keptLines source).map String.ofList)).toList := by
    unfold strip
    split_ifs
    · rw [String.toList_append]
      exact List.dropLast_concat
    · rw [String.append_empty]
  unfold strippedLines
  simp only [hbody]
  by_cases hnone : keptLines source = []
  · rw [hnone]
    rfl
  · have hlines := Text.charLines_unlines_ofList hnone fun _ h => not_mem_of_mem_keptLines h
    have hne : (Text.unlines ((keptLines source).map String.ofList)).toList ≠ [] := by
      intro hempty
      -- a text without characters has one empty line, which is not kept
      unfold Text.charLines at hlines
      rw [hempty] at hlines
      exact scanLines_fst_ne_nil_cons (by decide) [] hlines.symm
    rw [if_neg (mt List.isEmpty_iff.1 hne)]
    exact hlines

/-- **Stripping only deletes.**  The lines of a stripped text come from lines of the source, in
increasing order: each ends its source line once that is trimmed, and has no blanks at either end.
Only lines inside a banner may be empty.  Of a banner that the scanner enters every line is kept, up
to and including the one with its end. -/
theorem strip_only_deletes (source : String) :
    ∃ rows : List (ℕ × List Char),
      rows.map Prod.snd = strippedLines source ∧
      (rows.map Prod.fst).Pairwise (· < ·) ∧
      (∀ row ∈ rows, ∃ line, (Text.charLines source)[row.1]? = some line ∧
        row.2 <:+ Text.trimChars line ∧
        (∀ c ∈ row.2.head?, Text.isBlank c = false) ∧
        (∀ c ∈ row.2.getLast?, Text.isBlank c = false) ∧
        (row.2 = [] → ∃ first rest, BannerReaches (Text.charLines source) first row.1 rest)) ∧
      (∀ n rest, EntersBanner (Text.charLines source) n rest →
        (n, '/' :: '*' :: '!' :: rest) ∈ rows) ∧
      ∀ first rest n line, BannerReaches (Text.charLines source) first n rest →
        (Text.charLines source)[n]? = some line → (n, Text.trimChars line) ∈ rows := by
  refine ⟨keptRows (Text.charLines source), ?_, pairwise_keptRows _, ?_, ?_, ?_⟩
  · rw [map_snd_keptRows, strippedLines_eq, keptLines_eq]
  · rintro ⟨n, kept⟩ hrow
    obtain ⟨line, hline, hkept⟩ := mem_keptRows_iff.1 hrow
    obtain ⟨hfirst, hlast⟩ := not_isBlank_of_trimmed (trimmed_of_scanLine hkept)
    refine ⟨line, hline, suffix_of_scanLine hkept, hfirst, hlast, fun hempty => ?_⟩
    obtain ⟨hlt, -⟩ := List.getElem?_eq_some_iff.1 hline
    refine (stateBefore_eq_banner_iff (Nat.le_of_lt hlt)).1 ?_
    by_contra hstate
    obtain rfl : kept = [] := hempty
    exact (outcome_scanLine hstate line).kept_ne_nil hkept
  · rintro n rest ⟨line, hline, hexposed⟩
    refine mem_keptRows_iff.2 ⟨line, hline, ?_⟩
    rw [scanLine_of_exposed hexposed]
  · intro first rest n line hreaches hline
    obtain ⟨hlt, -⟩ := List.getElem?_eq_some_iff.1 hline
    have hstate := (stateBefore_eq_banner_iff (Nat.le_of_lt hlt)).2 ⟨first, rest, hreaches⟩
    refine mem_keptRows_iff.2 ⟨line, hline, ?_⟩
    rw [hstate]
    rfl

/-- The second line of a banner is kept though nothing is left of it; the empty line after the
banner is dropped, and so is the indentation. -/
example : strip "  /*! a\n \n*/\n\n  b\n" = "/*! a\n\n*/\nb\n" := by
  decide

end CustomBuild.Strip
