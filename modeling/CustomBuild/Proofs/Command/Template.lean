import CustomBuild.Command.Basic
import CustomBuild.Proofs.Text.Occurrences

/-!
# Wrapper templates

Whether a template is a term is decided by counting its output marks, but it is rendered by cutting
it at the first of them.  A mark can overlap with the next one, as its first and its last character
are the same, and counting passes over the second of two such marks.  Both still come to one thing:
there is exactly one occurrence if the mark does not come again behind its first place
(`WrapperTemplate.hasOneMark_iff`).

The body stands on lines of its own between the two parts, and the mark has no line feed, so the
marks of a rendered text are those of its body (`CutAt.occurrences_render`).
-/

namespace CustomBuild

namespace WrapperTemplate

variable {template : WrapperTemplate} {before after : String}

/-- **A template is cut at its first output mark** into these two parts. -/
structure CutAt (template : WrapperTemplate) (before after : String) : Prop where
  /-- the parts and the mark are the template -/
  text_eq : template.text = before ++ outputMark ++ after
  /-- no mark begins earlier -/
  first : ∀ front back, template.text = front ++ outputMark ++ back → before.length ≤ front.length

theorem outputMark_ne_empty : outputMark ≠ "" := by decide

theorem feed_not_mem_outputMark : '\n' ∉ outputMark.toList := by decide

/-- The two parts of a template are those at which its text is cut. -/
theorem cutAt_iff :
    template.CutAt before after ↔
      Text.cut? outputMark.toList template.text.toList = some (before.toList, after.toList) := by
  have htext (front back : String) : template.text = front ++ outputMark ++ back ↔
      template.text.toList = front.toList ++ (outputMark.toList ++ back.toList) := by
    rw [← String.toList_inj, String.toList_append, String.toList_append, List.append_assoc]
  rw [Text.cut?_eq_some_iff]
  constructor
  · intro h
    refine ⟨(htext _ _).1 h.text_eq, fun front back hfront => ?_⟩
    have hle := h.first (String.ofList front) (String.ofList back) ((htext _ _).2 (by simpa))
    rwa [← String.length_toList, ← String.length_toList, String.toList_ofList] at hle
  · rintro ⟨hcut, hfirst⟩
    refine ⟨(htext _ _).2 hcut, fun front back hfront => ?_⟩
    rw [← String.length_toList, ← String.length_toList]
    exact hfirst _ _ ((htext _ _).1 hfront)

/-- There is one output mark exactly if none comes behind the first. -/
theorem occurrences_eq_one_iff :
    Text.occurrences outputMark template.text = 1 ↔
      ∃ before after, template.CutAt before after ∧ Text.contains after outputMark = false := by
  rw [Text.occurrences,
    Text.occurrencesAfter_eq_one_iff (mt String.toList_eq_nil_iff.1 outputMark_ne_empty)]
  simp only [cutAt_iff, ← Bool.not_eq_true, Text.contains_iff_isInfix]
  constructor
  · rintro ⟨before, after, hcut, hafter⟩
    exact ⟨String.ofList before, String.ofList after, by simpa using hcut, by simpa using hafter⟩
  · rintro ⟨before, after, hcut, hafter⟩
    exact ⟨before.toList, after.toList, hcut, hafter⟩

/-- **A template has one output mark**: the mark does not come again behind its first place. -/
def HasOneMark (template : WrapperTemplate) : Prop :=
  ∃ before after, template.CutAt before after ∧ ∀ front back, after ≠ front ++ outputMark ++ back

/-- **One output mark** is what counting the marks without overlap comes to. -/
theorem hasOneMark_iff :
    template.HasOneMark ↔ Text.occurrences outputMark template.text = 1 := by
  rw [occurrences_eq_one_iff]
  refine exists₂_congr fun before after => and_congr_right fun _ => ?_
  rw [← Bool.not_eq_true, Text.contains_iff_exists]
  simp only [not_exists]

/-- A template has an output mark exactly if it can be cut. -/
theorem contains_iff_exists_cutAt :
    Text.contains template.text outputMark = true ↔
      ∃ before after, template.CutAt before after := by
  simp only [cutAt_iff, Text.contains_iff_isInfix]
  rw [← not_iff_not, ← Text.cut?_eq_none_iff, Option.eq_none_iff_forall_ne_some]
  constructor
  · rintro hnone ⟨before, after, hcut⟩
    exact hnone _ hcut
  · rintro hnone ⟨before, after⟩ hcut
    exact hnone ⟨String.ofList before, String.ofList after, by simpa using hcut⟩

namespace CutAt

/-- A template is cut at one place only. -/
theorem unique {front back : String} (h : template.CutAt before after)
    (hother : template.CutAt front back) : before = front ∧ after = back := by
  have hparts := Option.some.inj ((cutAt_iff.1 h).symm.trans (cutAt_iff.1 hother))
  exact ⟨String.toList_inj.1 (Prod.mk.inj hparts).1, String.toList_inj.1 (Prod.mk.inj hparts).2⟩

/-- The mark is not in the part before it. -/
theorem contains_before (h : template.CutAt before after) :
    Text.contains before outputMark = false := by
  rw [← Bool.not_eq_true, Text.contains_iff_isInfix]
  exact Text.not_isInfix_of_cut? (mt String.toList_eq_nil_iff.1 outputMark_ne_empty) (cutAt_iff.1 h)

/-- **The body stands on lines of its own** between the two parts. -/
theorem render_eq (h : template.CutAt before after) (body : String) :
    template.render body = before ++ "\n" ++ body ++ "\n" ++ after := by
  rw [render, cutAt_iff.1 h]
  simp

/-- **Rendering adds no mark** if there is only one in the template. -/
theorem occurrences_render (h : template.CutAt before after)
    (hafter : Text.contains after outputMark = false) (body : String) :
    Text.occurrences outputMark (template.render body) = Text.occurrences outputMark body := by
  have hfeed (front rest : String) : Text.occurrences outputMark (front ++ "\n" ++ rest) =
      Text.occurrences outputMark front + Text.occurrences outputMark rest :=
    Text.occurrences_append_feed outputMark_ne_empty feed_not_mem_outputMark front rest
  have hzero {part : String} (hpart : Text.contains part outputMark = false) :
      Text.occurrences outputMark part = 0 :=
    (Text.occurrences_eq_zero_iff outputMark_ne_empty).2 hpart
  rw [h.render_eq, hfeed, hfeed, hzero h.contains_before, hzero hafter, Nat.zero_add, Nat.add_zero]

/-- **Different bodies** are rendered differently. -/
theorem render_injective (h : template.CutAt before after) :
    Function.Injective template.render := by
  intro body other heq
  rw [h.render_eq, h.render_eq] at heq
  apply String.toList_inj.1
  have hlists := congrArg String.toList heq
  simpa only [String.toList_append, List.append_cancel_right_eq,
    List.append_cancel_left_eq] using hlists

end CutAt

/-- **A template with one output mark**, cut into the two parts, and what rendering it does. -/
structure Wraps (template : WrapperTemplate) (before after : String) : Prop where
  /-- the template is cut at its first mark -/
  cut : template.CutAt before after
  /-- the mark is not in the first part -/
  contains_before : Text.contains before outputMark = false
  /-- the mark is not in the second part -/
  contains_after : Text.contains after outputMark = false
  /-- the body stands on lines of its own between the parts -/
  render_eq : ∀ body, template.render body = before ++ "\n" ++ body ++ "\n" ++ after
  /-- what is rendered has as many marks as the body -/
  occurrences_render : ∀ body,
    Text.occurrences outputMark (template.render body) = Text.occurrences outputMark body
  /-- different bodies are rendered differently -/
  render_injective : Function.Injective template.render

theorem CutAt.wraps (h : template.CutAt before after)
    (hafter : Text.contains after outputMark = false) : template.Wraps before after where
  cut := h
  contains_before := h.contains_before
  contains_after := hafter
  render_eq := h.render_eq
  occurrences_render := h.occurrences_render hafter
  render_injective := h.render_injective

/-- A template that has not exactly one output mark has none, or has one behind the first. -/
theorem occurrences_ne_one (h : Text.contains template.text outputMark = false ∨
    ∃ before after, template.CutAt before after ∧ Text.contains after outputMark = true) :
    Text.occurrences outputMark template.text ≠ 1 := by
  intro hone
  obtain ⟨before, after, hcut, hafter⟩ := occurrences_eq_one_iff.1 hone
  rcases h with hnone | ⟨front, back, hother, hback⟩
  · rw [contains_iff_exists_cutAt.2 ⟨before, after, hcut⟩] at hnone
    cases hnone
  · obtain ⟨-, rfl⟩ := hcut.unique hother
    rw [hafter] at hback
    cases hback

end WrapperTemplate

end CustomBuild
