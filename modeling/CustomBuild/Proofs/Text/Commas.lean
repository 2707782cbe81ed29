import CustomBuild.Proofs.Text.Breaks

/-!
# Comma lists

What a comma list says can be told without scanning it: some pieces without commas are joined to it
by commas, each of them is freed from the blanks at its ends, and those of blanks alone are passed
over (`IsCommaList`).  Blanks are told by their code points.  There is one list of parts of this
kind, and it is the one that the scanner finds (`isCommaList_iff`).
-/

namespace CustomBuild.Text

variable {text kept value : String} {pieces parts : List String} {chars blanks : List Char}

/-! ### Trimming -/

/-- **What trimming leaves of a text**: blanks stand before and behind it, and none at its ends. -/
structure IsTrimmed (text kept : String) : Prop where
  /-- nothing but blanks is taken off -/
  exists_eq : ∃ lead trail : String, text = lead ++ kept ++ trail ∧
    (∀ c ∈ lead.toList, c.toNat ∈ blankCodes) ∧ ∀ c ∈ trail.toList, c.toNat ∈ blankCodes
  /-- the first character is no blank -/
  front : ∀ c ∈ kept.toList.head?, c.toNat ∉ blankCodes
  /-- the last character is no blank -/
  back : ∀ c ∈ kept.toList.getLast?, c.toNat ∉ blankCodes

/-- **Trimming** leaves the text between the blanks at both ends. -/
theorem isTrimmed_iff : IsTrimmed text kept ↔ kept = trim text := by
  have hblanks (blanks : List Char) : (∀ c ∈ blanks, c.toNat ∈ blankCodes) ↔
      ∀ c ∈ blanks, isBlank c = true :=
    forall₂_congr fun _ _ => mem_blankCodes_iff
  have hend (end? : Option Char) : (∀ c ∈ end?, c.toNat ∉ blankCodes) ↔
      ∀ c ∈ end?, isBlank c = false :=
    forall₂_congr fun c _ => by rw [mem_blankCodes_iff, Bool.not_eq_true]
  constructor
  · rintro ⟨⟨lead, trail, rfl, hlead, htrail⟩, hfront, hback⟩
    rw [hblanks] at hlead htrail
    rw [hend] at hfront hback
    rw [trim, String.toList_append, String.toList_append, List.append_assoc,
      trimChars_blank_append hlead, trimChars_append_blank htrail hfront hback,
      String.ofList_toList]
  · rintro rfl
    obtain ⟨lead, trail, heq, hlead, htrail⟩ := exists_trimChars_eq text.toList
    obtain ⟨hfront, hback⟩ := isBlank_ends_trimChars text.toList
    refine ⟨⟨String.ofList lead, String.ofList trail, ?_, ?_, ?_⟩, ?_, ?_⟩
    · apply String.toList_inj.1
      simpa [trim] using heq
    · rwa [String.toList_ofList, hblanks]
    · rwa [String.toList_ofList, hblanks]
    · rwa [trim, String.toList_ofList, hend]
    · rwa [trim, String.toList_ofList, hend]

/-! ### Parts -/

/-- **The parts that pieces come to**: each is trimmed, and those of blanks are left out. -/
inductive PartsOf : List String → List String → Prop where
  /-- no pieces have no parts -/
  | nil : PartsOf [] []
  /-- a piece with something else than blanks -/
  | keep {piece part : String} {pieces parts : List String} (htrimmed : IsTrimmed piece part)
    (hne : part ≠ "") (h : PartsOf pieces parts) : PartsOf (piece :: pieces) (part :: parts)
  /-- a piece of blanks -/
  | drop {piece : String} {pieces parts : List String}
    (hblank : ∀ c ∈ piece.toList, c.toNat ∈ blankCodes) (h : PartsOf pieces parts) :
    PartsOf (piece :: pieces) parts

/-- **A comma list** with the given parts: pieces between commas, each of them trimmed, and those of
blanks left out. -/
def IsCommaList (value : String) (parts : List String) : Prop :=
  ∃ pieces : List String, (∀ piece ∈ pieces, ',' ∉ piece.toList) ∧
    value = ",".intercalate pieces ∧ PartsOf pieces parts

/-- Trimming leaves nothing of a text of blanks, and something of every other one. -/
theorem trim_eq_empty_iff : trim text = "" ↔ ∀ c ∈ text.toList, c.toNat ∈ blankCodes := by
  simp only [mem_blankCodes_iff]
  rw [trim, ← String.toList_eq_nil_iff, String.toList_ofList]
  constructor
  · intro hnil
    obtain ⟨lead, trail, heq, hlead, htrail⟩ := exists_trimChars_eq text.toList
    rw [hnil, List.nil_append] at heq
    rw [heq]
    exact List.forall_mem_append.2 ⟨hlead, htrail⟩
  · exact trimChars_eq_nil

/-- The parts of pieces are what trimming leaves of them, as far as it leaves anything. -/
theorem partsOf_iff : PartsOf pieces parts ↔ parts = (pieces.map trim).filter (· ≠ "") := by
  constructor
  · intro h
    induction h with
    | nil => rfl
    | keep htrimmed hne _ ih =>
      rw [isTrimmed_iff] at htrimmed
      rw [List.map_cons, ← htrimmed, List.filter_cons_of_pos (by simpa using hne), ih]
    | drop hblank _ ih =>
      rw [List.map_cons, trim_eq_empty_iff.2 hblank, List.filter_cons_of_neg (by simp), ih]
  · rintro rfl
    induction pieces with
    | nil => exact .nil
    | cons piece rest ih =>
      rw [List.map_cons]
      by_cases hpiece : trim piece = ""
      · rw [List.filter_cons_of_neg (by simpa using hpiece)]
        exact .drop (trim_eq_empty_iff.1 hpiece) ih
      · rw [List.filter_cons_of_pos (by simpa using hpiece)]
        exact .keep (isTrimmed_iff.2 rfl) hpiece ih

theorem commaParts_of_splitWhere
    (h : splitWhere (· == ',') value.toList = pieces.map String.toList) :
    commaParts value = (pieces.map trim).filter (· ≠ "") := by
  rw [commaParts, h]
  clear h
  induction pieces with
  | nil => rfl
  | cons piece rest ih =>
    simp only [List.map_cons, List.filterMap_cons, List.filter_cons, ih]
    by_cases hpiece : trimChars piece.toList = [] <;> simp [trim, hpiece]

/-- **The parts of a comma list** are those that the scanner finds. -/
theorem isCommaList_iff : IsCommaList value parts ↔ parts = commaParts value := by
  constructor
  · rintro ⟨pieces, hcommas, rfl, hparts⟩
    rw [partsOf_iff] at hparts
    by_cases hne : pieces = []
    · rw [hparts, hne]
      rfl
    rw [hparts]
    refine (commaParts_of_splitWhere ?_).symm
    -- no piece has a comma, so the text is split where the pieces were joined
    rw [String.toList_intercalate]
    refine splitWhere_intercalate rfl (mt List.map_eq_nil_iff.1 hne) fun cs hcs c hc => ?_
    obtain ⟨piece, hpiece, rfl⟩ := List.mem_map.1 hcs
    exact beq_false_of_ne fun heq => hcommas piece hpiece (heq ▸ hc)
  · rintro rfl
    have hlists : splitWhere (· == ',') value.toList =
        ((splitWhere (· == ',') value.toList).map String.ofList).map String.toList := by
      simp
    refine ⟨(splitWhere (· == ',') value.toList).map String.ofList, ?_, ?_, ?_⟩
    · intro piece hpiece
      obtain ⟨cs, hcs, rfl⟩ := List.mem_map.1 hpiece
      rw [String.toList_ofList]
      exact fun hmem => by simpa using not_separator_of_mem_splitWhere hcs _ hmem
    · apply String.toList_inj.1
      rw [String.toList_intercalate, ← hlists]
      exact (intercalate_splitWhere ',' value.toList).symm
    · exact partsOf_iff.2 (commaParts_of_splitWhere hlists)

end CustomBuild.Text
