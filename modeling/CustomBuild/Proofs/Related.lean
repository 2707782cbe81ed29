import Mathlib.Data.List.Forall2
import Mathlib.Data.List.Perm.Basic

/-!
# Related lists

Two lists are related (`List.Forall₂`) if they are equally long and their members are related, place
by place.  Functions that do not tell related members apart have the same values along both lists.
-/

namespace CustomBuild

variable {α β γ : Type} {R : α → β → Prop} {as : List α} {bs : List β} {a : α}

/-- Related lists have the same images under functions that do not tell related elements apart. -/
theorem map_eq_of_forall₂ {f : α → γ} {g : β → γ} (hfg : ∀ a b, R a b → f a = g b)
    (h : List.Forall₂ R as bs) : as.map f = bs.map g := by
  rw [← List.forall₂_eq_eq_eq]
  exact List.rel_map hfg h

/-- **A relation that is a function** relates a list to its image. -/
theorem eq_map_of_forall₂ {f : α → β} (hf : ∀ a b, R a b → b = f a) (h : List.Forall₂ R as bs) :
    bs = as.map f := by
  have himage := map_eq_of_forall₂ (f := f) (g := id) (fun a b hab => (hf a b hab).symm) h
  rw [himage, List.map_id]

theorem flatMap_eq_of_forall₂ {f : α → List γ} {g : β → List γ} (hfg : ∀ a b, R a b → f a = g b)
    (h : List.Forall₂ R as bs) : as.flatMap f = bs.flatMap g := by
  rw [List.flatMap_def, List.flatMap_def, map_eq_of_forall₂ hfg h]

theorem findSome?_eq_of_forall₂ {f : α → Option γ} {g : β → Option γ}
    (hfg : ∀ a b, R a b → f a = g b) (h : List.Forall₂ R as bs) :
    as.findSome? f = bs.findSome? g := by
  induction h with
  | nil => rfl
  | cons hab _ ih => rw [List.findSome?_cons, List.findSome?_cons, hfg _ _ hab, ih]

theorem perm_flatMap_of_forall₂ {f : α → List γ} {g : β → List γ}
    (hfg : ∀ a b, R a b → (f a).Perm (g b)) (h : List.Forall₂ R as bs) :
    (as.flatMap f).Perm (bs.flatMap g) := by
  induction h with
  | nil => exact .nil
  | cons hab _ ih =>
    rw [List.flatMap_cons, List.flatMap_cons]
    exact (hfg _ _ hab).append ih

/-- Every member of a list is related to one of the other list. -/
theorem exists_mem_of_forall₂ (h : List.Forall₂ R as bs) (ha : a ∈ as) : ∃ b ∈ bs, R a b := by
  induction h with
  | nil => cases ha
  | cons hfirst _ ih =>
    rcases List.mem_cons.1 ha with rfl | ha
    · exact ⟨_, List.mem_cons_self, hfirst⟩
    · obtain ⟨b, hb, hab⟩ := ih ha
      exact ⟨b, List.mem_cons_of_mem _ hb, hab⟩

end CustomBuild
