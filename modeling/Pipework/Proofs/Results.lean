import Mathlib.Data.List.Forall2

/-!
# Lists of results

A list is read element by element, and the first fault ends it. What is read is the list of what each
element gives (`mapM_eq_ok`).
-/

namespace Pipework

variable {ε α β : Type} {f : α → Except ε β}

theorem mapM_eq_ok {items : List α} {results : List β} :
    items.mapM f = .ok results ↔ List.Forall₂ (fun a b => f a = .ok b) items results := by
  induction items generalizing results with
  | nil =>
    rw [List.forall₂_nil_left_iff, List.mapM_nil]
    exact ⟨fun h => (Except.ok.inj h).symm, fun h => h ▸ rfl⟩
  | cons a items ih =>
    rw [List.mapM_cons, List.forall₂_cons_left_iff]
    cases ha : f a with
    | error why => exact ⟨nofun, fun ⟨_, _, h, _⟩ => nomatch h⟩
    | ok b =>
      cases hrest : items.mapM f with
      | error why =>
        refine ⟨nofun, fun ⟨_, others, _, hothers, _⟩ => ?_⟩
        cases hrest.symm.trans (ih.mpr hothers)
      | ok others =>
        refine ⟨fun h => ?_, fun ⟨b', others', hb, hothers, h⟩ => ?_⟩
        · cases h
          exact ⟨b, others, rfl, ih.mp hrest, rfl⟩
        · cases hb
          cases hrest.symm.trans (ih.mpr hothers)
          rw [h]
          rfl

/-- Two lists are read one behind the other when each of them is. -/
theorem mapM_append_eq_ok {items items' : List α} {results : List β} :
    (items ++ items').mapM f = .ok results ↔ ∃ front behind, items.mapM f = .ok front ∧
      items'.mapM f = .ok behind ∧ results = front ++ behind := by
  rw [List.mapM_append]
  cases items.mapM f with
  | error why => exact ⟨nofun, fun ⟨_, _, h, _⟩ => nomatch h⟩
  | ok front =>
    cases items'.mapM f with
    | error why => exact ⟨nofun, fun ⟨_, _, _, h, _⟩ => nomatch h⟩
    | ok behind =>
      refine ⟨fun h => ⟨front, behind, rfl, rfl, (Except.ok.inj h).symm⟩, ?_⟩
      rintro ⟨_, _, ⟨⟩, ⟨⟩, rfl⟩
      rfl

/-- Results for all items are found one by one. -/
theorem exists_forall₂_iff {R : α → β → Prop} {items : List α} :
    (∃ results, List.Forall₂ R items results) ↔ ∀ a ∈ items, ∃ b, R a b := by
  induction items with
  | nil => exact iff_of_true ⟨[], .nil⟩ nofun
  | cons a rest ih =>
    rw [List.forall_mem_cons, ← ih]
    refine ⟨fun ⟨results, h⟩ => ?_, fun ⟨⟨b, hb⟩, results, h⟩ => ⟨b :: results, .cons hb h⟩⟩
    cases h with
    | cons hb h => exact ⟨⟨_, hb⟩, _, h⟩

end Pipework
