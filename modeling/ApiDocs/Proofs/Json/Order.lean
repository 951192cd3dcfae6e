import ApiDocs.Json.Reader
import ApiDocs.Proofs.Except
import ApiDocs.Proofs.Schema.Violations

/-!
# Values as they are read

A reader gives values whose objects hold their entries in the order of their keys, at every depth.
Sorting such a value changes nothing.
-/

namespace ApiDocs.Json

variable {negative : Bool} {digits depth : Nat} {exponent : Int} {s rest : List Char} {v : Json}

/-- Whether a value is a number. -/
def IsNumber : Json → Prop
  | integer _ | real _ => True
  | _ => False

theorem IsNumber.sorted_eq (h : v.IsNumber) : v.sorted = v := by
  cases v with
  | array items => exact h.elim
  | object entries => exact h.elim
  | _ => rfl

theorem isNumber_wholeNumber (negative : Bool) (digits : Nat) :
    (wholeNumber negative digits).IsNumber := by
  unfold wholeNumber
  split
  · split <;> trivial
  · trivial

theorem isNumber_of_realAt (h : realAt negative digits exponent s = .ok (v, rest)) :
    v.IsNumber := by
  unfold realAt at h
  split at h <;> cases h
  trivial

theorem isNumber_of_exponentPart (h : exponentPart negative digits exponent s = .ok (v, rest)) :
    v.IsNumber := by
  unfold exponentPart at h
  grind [isNumber_of_realAt, IsNumber]

theorem isNumber_of_maybeExponent (h : maybeExponent negative digits exponent s = .ok (v, rest)) :
    v.IsNumber := by
  unfold maybeExponent at h
  split at h
  · exact isNumber_of_exponentPart h
  · exact isNumber_of_exponentPart h
  · exact isNumber_of_realAt h

theorem isNumber_of_fractionPart {exponent : Nat}
    (h : fractionPart negative digits exponent s = .ok (v, rest)) : v.IsNumber := by
  unfold fractionPart at h
  grind [isNumber_of_maybeExponent]

theorem isNumber_of_afterWhole (h : afterWhole negative digits s = .ok (v, rest)) :
    v.IsNumber := by
  unfold afterWhole at h
  split at h
  · exact isNumber_of_fractionPart h
  · exact isNumber_of_exponentPart h
  · exact isNumber_of_exponentPart h
  · cases h
    exact isNumber_wholeNumber negative digits

theorem isNumber_of_number (h : number negative s = .ok (v, rest)) : v.IsNumber := by
  unfold number at h
  grind [isNumber_of_afterWhole, isNumber_of_fractionPart, isNumber_of_maybeExponent]

theorem eq_of_word {letters : List Char} {w : Json} (h : word w letters s = .ok (v, rest)) :
    v = w := by
  fun_induction word w letters s <;> simp_all

theorem sorted_of_scalarAt {c : Char} (h : scalarAt c s = .ok (v, rest)) : v.sorted = v := by
  unfold scalarAt at h
  split at h
  · rw [eq_of_word h]; rfl
  split at h
  · rw [eq_of_word h]; rfl
  split at h
  · rw [eq_of_word h]; rfl
  split at h
  · exact (isNumber_of_number h).sorted_eq
  split at h
  · exact (isNumber_of_number h).sorted_eq
  split at h
  · obtain ⟨read, -, he⟩ := map_eq_ok.mp h
    cases he
    rfl
  · cases h

theorem sortedEntries_eq_self {list : List (String × Json)} :
    sortedEntries list = list ↔ ∀ entry ∈ list, entry.2.sorted = entry.2 := by
  induction list with
  | nil => simp [sortedEntries]
  | cons entry more ih =>
    obtain ⟨key, value⟩ := entry
    rw [sortedEntries, List.forall_mem_cons, ← ih]
    simp

/-- A table of values that are sorted inside stays as it is. -/
theorem sorted_object_ofList {list : List (String × Json)} (h : sortedEntries list = list) :
    (object (Dict.ofList list)).sorted = object (Dict.ofList list) := by
  have ho := Dict.ordered_ofList list
  have hs : sortedEntries (Dict.ofList list) = Dict.ofList list := by
    rw [sortedEntries_eq_self] at h ⊢
    exact fun entry he => h entry (Dict.mem_of_mem_ofList he)
  rw [sorted, hs]
  refine congrArg object ((Dict.ordered_ofList _).ext ho fun key => ?_)
  rw [Dict.get?_ofList ho.nodup_keys]

mutual

theorem sorted_of_value (depth : Nat) (s : List Char) {v : Json} {rest : Text.Rest s}
    (h : value depth s = .ok (v, rest)) : v.sorted = v := by
  have hl := skipBlanks_length s
  unfold value at h
  split at h
  · cases h
  · rename_i t ht
    split at h
    · cases h
    · have hl' := skipBlanks_length t
      split at h
      · cases h
      · cases h
        rfl
      · split at h
        · rename_i hi
          cases h
          rw [sorted, sorted_of_items _ _ hi]
        · cases h
  · rename_i t ht
    split at h
    · cases h
    · have hl' := skipBlanks_length t
      split at h
      · cases h
      · cases h
        rfl
      · split at h
        · rename_i hi
          cases h
          exact sorted_object_ofList (sorted_of_entries _ _ hi)
        · cases h
      · cases h
  · split at h
    · rename_i hs
      cases h
      exact sorted_of_scalarAt hs
    · cases h
termination_by (s.length, 0)
decreasing_by all_goals (simp_wf; grind)

theorem sorted_of_items (depth : Nat) (s : List Char) {list : List Json} {rest : Text.Rest s}
    (h : items depth s = .ok (list, rest)) : sortedItems list = list := by
  unfold items at h
  split at h
  · cases h
  · rename_i item t hr hi
    have hs := sorted_of_value _ _ hi
    have hl := skipBlanks_length t
    split at h
    · cases h
    · cases h
      rw [sortedItems, hs]
      rfl
    · rename_i u hu
      have hl' := skipBlanks_length u
      split at h
      · cases h
      · cases h
      · split at h
        · rename_i hm
          cases h
          rw [sortedItems, hs, sorted_of_items _ _ hm]
        · cases h
    · cases h
termination_by (s.length, 1)
decreasing_by all_goals (simp_wf; grind)

theorem sorted_of_entries (depth : Nat) (s : List Char) {list : List (String × Json)}
    {rest : Text.Rest s} (h : entries depth s = .ok (list, rest)) : sortedEntries list = list := by
  unfold entries at h
  split at h
  · cases h
  · rename_i key t hk
    have hb := stringBody_length hk
    have hl := skipBlanks_length t
    split at h
    · cases h
    · split at h
      · cases h
      · rename_i u hu read w hw hi
        have hs := sorted_of_value _ _ hi
        have hl' := skipBlanks_length w
        split at h
        · cases h
        · cases h
          rw [sortedEntries, hs]
          rfl
        · rename_i x hx
          have hl'' := skipBlanks_length x
          split at h
          · cases h
          · split at h
            · rename_i hm
              cases h
              rw [sortedEntries, hs, sorted_of_entries _ _ hm]
            · cases h
          · cases h
          · cases h
        · cases h
    · cases h
termination_by (s.length, 2)
decreasing_by all_goals grind

end

/-- A text gives a value that is sorted. -/
theorem sorted_of_parse {text : String} (h : parse text = .ok v) : v.sorted = v := by
  have hd := mapError_eq_ok.mp h
  unfold document at hd
  split at hd
  · cases hd
  · rename_i hv
    split at hd
    · cases hd
      exact sorted_of_value _ _ hv
    · cases hd

end ApiDocs.Json
