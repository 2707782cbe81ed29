import CustomBuild.Proofs.Reduction.Strip
import CustomBuild.Reduction.Contract

/-!
# The number of lines of a stripped text

A stripped text has a line feed between any two kept lines, and one at the end if the source has
(`lineFeeds_strip`).  The source has one line more than line feeds, so the number of line feeds can
only grow if the source ends with a line feed and every line is kept, the empty one after that line
feed included.  An empty line is kept in a banner only (`scanLine_nil`).

So stripping gains a line, and never more than one, exactly for a text that ends with a line feed
inside a banner and of which nothing is dropped (`lineFeeds_strip_le_iff`).
-/

namespace CustomBuild.Strip

variable {state : State} {source : String}

/-! ### Counting -/

/-- A text that ends with a line feed has an empty line at the end, and others before it. -/
theorem exists_charLines_eq (h : Text.endsWith source "\n" = true) :
    ∃ front, front ≠ [] ∧ Text.charLines source = front ++ [[]] := by
  unfold Text.endsWith at h
  obtain ⟨front, hfront⟩ := List.isSuffixOf_iff_suffix.1 h
  have hsource : source = String.ofList front ++ "\n" ++ "" := by
    apply String.toList_inj.1
    rw [String.append_empty, String.toList_append, String.toList_ofList, hfront]
  rw [hsource, Text.charLines_append, Text.charLines_empty]
  exact ⟨_, Text.charLines_ne_nil _, rfl⟩

/-- **The line feeds of a stripped text** stand between the kept lines and at its end. -/
theorem lineFeeds_strip (source : String) :
    Text.lineFeeds (strip source) =
      (keptLines source).length - 1 + if Text.endsWith source "\n" then 1 else 0 := by
  have hcount := Text.length_charLines (strip source)
  by_cases hkept : keptLines source = []
  · -- nothing is left but the final line feed
    unfold strip
    rw [hkept]
    split_ifs <;> rfl
  · have hpos : 0 < (keptLines source).length := List.length_pos_iff.2 hkept
    by_cases hend : Text.endsWith source "\n" = true
    · rw [charLines_strip hkept hend, List.length_append, List.length_singleton] at hcount
      rw [if_pos hend]
      omega
    · rw [charLines_strip_of_not hkept hend] at hcount
      rw [if_neg hend]
      omega

/-! ### The empty line at the end -/

/-- An empty line is kept in a banner only, and leads nowhere else. -/
theorem scanLine_nil (state : State) :
    scanLine state [] = (state, if state = .banner then some [] else none) := by
  cases state <;> rfl

/-- **Whether a text ends inside a banner** that has not come to its end. -/
def EndsInBanner (source : String) : Prop :=
  (scanLines .code (Text.charLines source)).2 = .banner

/-- If every line of a text with a line feed at its end is kept, it ends inside a banner. -/
theorem endsInBanner_of_keeps (hend : Text.endsWith source "\n" = true)
    (hkept : (keptLines source).length = (Text.charLines source).length) :
    EndsInBanner source := by
  obtain ⟨front, -, hfront⟩ := exists_charLines_eq hend
  have hle := length_scanLines_le .code front
  unfold EndsInBanner
  rw [keptLines_eq, keptOf, hfront, scanLines_append, List.length_append, List.length_append,
    scanLines_cons, scanLine_nil] at hkept
  rw [hfront, scanLines_append, scanLines_cons, scanLine_nil]
  by_contra hstate
  have hcode : (scanLines .code front).2 ≠ .banner := hstate
  simp only [if_neg hcode, scanLines, Option.toList_none, List.append_nil, List.length_nil,
    List.length_singleton] at hkept
  omega

/-! ### Growth -/

/-- Stripping a text gains a line if the text ends with a line feed and every line is kept, and
never otherwise. -/
theorem lineFeeds_strip_cases (source : String) :
    (Text.endsWith source "\n" = true ∧
        (keptLines source).length = (Text.charLines source).length ∧
        Text.lineFeeds (strip source) = Text.lineFeeds source + 1) ∨
      ¬ (Text.endsWith source "\n" = true ∧
        (keptLines source).length = (Text.charLines source).length) ∧
        Text.lineFeeds (strip source) ≤ Text.lineFeeds source := by
  have hcount := Text.length_charLines source
  have hle : (keptLines source).length ≤ (Text.charLines source).length :=
    length_scanLines_le .code _
  rw [lineFeeds_strip]
  by_cases hend : Text.endsWith source "\n" = true
  · obtain ⟨front, hne, hfront⟩ := exists_charLines_eq hend
    have hfeed : 0 < Text.lineFeeds source := by
      have hpos := List.length_pos_iff.2 hne
      rw [hfront, List.length_append, List.length_singleton] at hcount
      omega
    rw [if_pos hend]
    by_cases hall : (keptLines source).length = (Text.charLines source).length
    · exact Or.inl ⟨hend, hall, by omega⟩
    · exact Or.inr ⟨fun h => hall h.2, by omega⟩
  · rw [if_neg hend]
    exact Or.inr ⟨fun h => hend h.1, by omega⟩

/-- The contract of reductions is broken by growth exactly if there are more lines than before. -/
theorem linesGrew_mem_iff {reduced marker : String} {before after : ℕ} :
    .linesGrew before after ∈ contractViolations source reduced marker ↔
      (Text.lineFeeds source = before ∧ Text.lineFeeds reduced = after) ∧ before < after := by
  have hmarker : .linesGrew before after ∉
      if Text.contains source marker && !Text.contains reduced marker then
        [Violation.markerLost marker] else [] := by
    split_ifs <;> simp
  unfold contractViolations
  rw [List.mem_append, or_iff_right hmarker]
  split_ifs with hgrew
  · rw [List.mem_singleton, Violation.linesGrew.injEq]
    constructor
    · rintro ⟨rfl, rfl⟩
      exact ⟨⟨rfl, rfl⟩, hgrew⟩
    · rintro ⟨⟨rfl, rfl⟩, -⟩
      exact ⟨rfl, rfl⟩
  · refine iff_of_false List.not_mem_nil ?_
    rintro ⟨⟨rfl, rfl⟩, hlt⟩
    exact hgrew hlt

/-- **Stripping does not increase the number of lines**, unless the source ends with a line feed
inside a banner and nothing of it is dropped.  Then there is one line more, which breaks the
contract of reductions whatever the version is. -/
theorem lineFeeds_strip_le_iff (source : String) :
    (Text.lineFeeds (strip source) ≤ Text.lineFeeds source ↔
        ¬ (Text.endsWith source "\n" = true ∧ EndsInBanner source ∧
          (keptLines source).length = (Text.charLines source).length)) ∧
      Text.lineFeeds (strip source) ≤ Text.lineFeeds source + 1 ∧
      ∀ marker, (∃ before after, .linesGrew before after ∈
          contractViolations source (strip source) marker) ↔
        ¬ Text.lineFeeds (strip source) ≤ Text.lineFeeds source := by
  refine ⟨?_, ?_, fun marker => ?_⟩
  · rcases lineFeeds_strip_cases source with ⟨hend, hall, hfeeds⟩ | ⟨hnot, hfeeds⟩
    · refine iff_of_false (by omega) fun h => h ⟨hend, endsInBanner_of_keeps hend hall, hall⟩
    · exact iff_of_true hfeeds fun h => hnot ⟨h.1, h.2.2⟩
  · rcases lineFeeds_strip_cases source with ⟨-, -, hfeeds⟩ | ⟨-, hfeeds⟩ <;> omega
  · rw [Nat.not_le]
    constructor
    · rintro ⟨before, after, hmem⟩
      obtain ⟨⟨rfl, rfl⟩, hlt⟩ := linesGrew_mem_iff.1 hmem
      exact hlt
    · exact fun hlt => ⟨_, _, linesGrew_mem_iff.2 ⟨⟨rfl, rfl⟩, hlt⟩⟩

/-- A banner without an end gains an empty line. -/
theorem open_banner_gains_line :
    strip "/*!\n" = "/*!\n\n" ∧ ¬ Text.lineFeeds (strip "/*!\n") ≤ Text.lineFeeds "/*!\n" := by
  decide

end CustomBuild.Strip
