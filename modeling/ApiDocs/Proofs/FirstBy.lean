import Mathlib.Data.List.Basic
import Mathlib.Data.List.Nodup

/-!
# First occurrences

A list with only the first entry under each key, in the order of the list.
-/

namespace ApiDocs

variable {α β γ : Type} [DecidableEq β] [DecidableEq γ]

/-- The entries of a list whose key no earlier entry has. -/
def firstBy (key : α → β) : List α → List α
  | [] => []
  | a :: rest => a :: (firstBy key rest).filter fun b => key b ≠ key a

theorem mem_map_firstBy (key : α → β) (l : List α) (k : β) :
    k ∈ (firstBy key l).map key ↔ k ∈ l.map key := by
  induction l with
  | nil => rfl
  | cons a rest ih =>
    by_cases h : k = key a
    · simp [firstBy, h]
    · have hr : k ∈ ((firstBy key rest).filter fun b => key b ≠ key a).map key ↔
          k ∈ (firstBy key rest).map key := by
        simp only [List.mem_map, List.mem_filter, decide_eq_true_eq]
        constructor
        · rintro ⟨b, ⟨hb, _⟩, rfl⟩
          exact ⟨b, hb, rfl⟩
        · rintro ⟨b, hb, rfl⟩
          exact ⟨b, ⟨hb, h⟩, rfl⟩
      rw [firstBy, List.map_cons, List.mem_cons, hr, ih, List.map_cons, List.mem_cons]

/-- A new last entry stays unless its key has occurred. -/
theorem firstBy_concat (key : α → β) (l : List α) (a : α) :
    firstBy key (l ++ [a]) = firstBy key l ++ if key a ∈ l.map key then [] else [a] := by
  induction l with
  | nil => rfl
  | cons b rest ih =>
    simp only [List.cons_append, firstBy, ih, List.filter_append, List.map_cons, List.mem_cons]
    by_cases hb : key a = key b
    · simp only [hb, true_or, if_true]
      split <;> simp [hb]
    · simp only [hb, false_or]
      split <;> simp [hb]

theorem firstBy_of_nodup (key : α → β) {l : List α} (h : (l.map key).Nodup) :
    firstBy key l = l := by
  induction l with
  | nil => rfl
  | cons a rest ih =>
    rw [List.map_cons, List.nodup_cons] at h
    rw [firstBy, ih h.2, List.filter_eq_self.mpr]
    intro b hb
    exact decide_eq_true fun hk => h.1 (hk ▸ List.mem_map_of_mem hb)

theorem mem_of_mem_firstBy {key : α → β} {l : List α} {a : α} (h : a ∈ firstBy key l) :
    a ∈ l := by
  induction l with
  | nil => exact h
  | cons b rest ih =>
    rw [firstBy, List.mem_cons] at h
    exact h.elim (fun h => h ▸ List.mem_cons_self)
      fun h => List.mem_cons_of_mem _ (ih (List.mem_filter.mp h).1)

/-- What depends on the key alone can be filtered before or after. -/
theorem filter_firstBy (key : α → β) (p : β → Bool) (l : List α) :
    (firstBy key l).filter (fun a => p (key a)) =
      firstBy key (l.filter fun a => p (key a)) := by
  induction l with
  | nil => rfl
  | cons a rest ih =>
    rw [firstBy, List.filter_cons, List.filter_cons]
    by_cases h : p (key a)
    · rw [if_pos h, if_pos h, firstBy, ← ih, List.filter_filter, List.filter_filter]
      simp only [Bool.and_comm]
    · rw [if_neg h, if_neg h, ← ih, List.filter_filter]
      refine List.filter_congr fun b _ => ?_
      by_cases hb : key b = key a <;> simp [hb, h]

/-- Keys that tell the same entries of a list apart keep the same ones. -/
theorem map_firstBy {δ : Type} (key : α → β) (other : δ → γ) (f : α → δ) {l : List α}
    (h : ∀ a ∈ l, ∀ b ∈ l, key a = key b ↔ other (f a) = other (f b)) :
    (firstBy key l).map f = firstBy other (l.map f) := by
  induction l with
  | nil => rfl
  | cons a rest ih =>
    have hr := ih fun b hb c hc => h b (List.mem_cons_of_mem _ hb) c (List.mem_cons_of_mem _ hc)
    rw [firstBy, List.map_cons, List.map_cons, firstBy, ← hr, List.filter_map]
    congr 2
    refine List.filter_congr fun b hb => ?_
    have hk := h b (List.mem_cons_of_mem _ (mem_of_mem_firstBy hb)) a List.mem_cons_self
    simp [hk]

end ApiDocs
