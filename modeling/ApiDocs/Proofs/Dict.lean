import ApiDocs.Dict
import Mathlib.Data.List.Nodup
import Mathlib.Data.List.Perm.Basic

/-!
# Look-up in tables sorted by key

Sorting a list of entries with distinct keys loses none of them, and each key keeps its value. A
sorted table has each key once, so it is determined by what look-up finds in it. The order of the
keys is that of their bytes.
-/

namespace ApiDocs.Dict

variable {α β : Type}

def keys (entries : List (String × α)) : List String :=
  entries.map Prod.fst

theorem keys_append (entries more : List (String × α)) :
    keys (entries ++ more) = keys entries ++ keys more :=
  List.map_append

theorem get?_cons (key k : String) (v : α) (rest : List (String × α)) :
    get? key ((k, v) :: rest) = if key = k then some v else get? key rest := by
  rw [get?, List.lookup_cons]
  by_cases h : key = k
  · simp [h]
  · simp only [beq_false_of_ne h, if_neg h, get?]

theorem get?_insert (key k : String) (v : α) (entries : List (String × α)) :
    get? key (insert k v entries) = if key = k then some v else get? key entries := by
  induction entries with
  | nil => exact get?_cons key k v []
  | cons entry rest ih =>
    obtain ⟨other, value⟩ := entry
    rw [insert]
    by_cases hlt : k < other
    · rw [if_pos hlt, get?_cons]
    · rw [if_neg hlt]
      by_cases heq : k = other
      · rw [if_pos heq, get?_cons, get?_cons, ← heq]
        split_ifs <;> rfl
      · rw [if_neg heq, get?_cons, ih, get?_cons]
        split_ifs with ho hk
        · exact absurd (hk.symm.trans ho) heq
        all_goals rfl

theorem isSome_get?_insert {key : String} {entries : List (String × α)}
    (h : (get? key entries).isSome) (k : String) (v : α) :
    (get? key (insert k v entries)).isSome := by
  rw [get?_insert]
  split_ifs
  · rfl
  · exact h

theorem get?_append (key : String) (entries more : List (String × α)) :
    get? key (entries ++ more) = (get? key entries).or (get? key more) := by
  induction entries with
  | nil => rfl
  | cons entry rest ih =>
    rw [List.cons_append, get?_cons, get?_cons, ih]
    split <;> rfl

theorem get?_eq_none {key : String} {entries : List (String × α)} :
    get? key entries = none ↔ key ∉ keys entries := by
  induction entries with
  | nil => simp [get?, keys]
  | cons entry rest ih =>
    rw [get?_cons, keys, List.map_cons, List.mem_cons, ← keys]
    split <;> simp_all

theorem mem_of_get? {key : String} {value : α} {entries : List (String × α)}
    (h : get? key entries = some value) : (key, value) ∈ entries := by
  induction entries with
  | nil => cases h
  | cons entry rest ih =>
    obtain ⟨k, v⟩ := entry
    rw [get?_cons] at h
    split at h
    · cases h
      subst_vars
      exact List.mem_cons_self
    · exact List.mem_cons_of_mem _ (ih h)

/-- With distinct keys the entries are what look-up finds. -/
theorem get?_eq_some {entries : List (String × α)} (h : (keys entries).Nodup) {key : String}
    {value : α} : get? key entries = some value ↔ (key, value) ∈ entries := by
  refine ⟨mem_of_get?, fun hm => ?_⟩
  induction entries with
  | nil => cases hm
  | cons entry rest ih =>
    obtain ⟨k, v⟩ := entry
    rw [keys, List.map_cons, List.nodup_cons] at h
    rw [get?_cons]
    rcases List.mem_cons.mp hm with he | hm
    · cases he
      rw [if_pos rfl]
    · have hk : key ≠ k := by
        intro he
        exact h.1 (List.mem_map.mpr ⟨_, hm, he⟩)
      rw [if_neg hk, ih h.2 hm]

theorem get?_map (f : α → β) (key : String) (entries : List (String × α)) :
    get? key (entries.map fun entry => (entry.1, f entry.2)) = (get? key entries).map f := by
  induction entries with
  | nil => rfl
  | cons entry rest ih =>
    rw [List.map_cons, get?_cons, get?_cons, ih]
    split <;> rfl

theorem keys_map (f : α → β) (entries : List (String × α)) :
    keys (entries.map fun entry => (entry.1, f entry.2)) = keys entries := by
  simp [keys]

theorem insert_perm {key : String} {entries : List (String × α)} (h : key ∉ keys entries)
    (value : α) : (insert key value entries).Perm ((key, value) :: entries) := by
  induction entries with
  | nil => rfl
  | cons entry rest ih =>
    obtain ⟨k, v⟩ := entry
    rw [keys, List.map_cons, List.mem_cons, not_or] at h
    rw [insert, if_neg h.1]
    split
    · rfl
    · exact ((ih h.2).cons _).trans (List.Perm.swap _ _ _)

theorem extend_perm {entries additions : List (String × α)}
    (h : (keys (entries ++ additions)).Nodup) :
    (extend entries additions).Perm (entries ++ additions) := by
  induction additions generalizing entries with
  | nil => simp [extend]
  | cons entry rest ih =>
    obtain ⟨k, v⟩ := entry
    have hn : (keys ((k, v) :: (entries ++ rest))).Nodup :=
      (List.perm_middle.map Prod.fst).nodup_iff.mp h
    have hk : k ∉ keys entries := by
      intro hm
      rw [keys, List.map_cons, List.nodup_cons, List.map_append] at hn
      exact hn.1 (List.mem_append_left _ hm)
    have hp := insert_perm hk v
    have hr : (keys (insert k v entries ++ rest)).Nodup :=
      ((hp.append_right rest).map Prod.fst).nodup_iff.mpr hn
    exact (ih hr).trans ((hp.append_right rest).trans List.perm_middle.symm)

/-- Entries with distinct keys are put in order and not changed. -/
theorem ofList_perm {entries : List (String × α)} (h : (keys entries).Nodup) :
    (ofList entries).Perm entries :=
  @extend_perm α [] entries h

theorem nodup_keys_ofList {entries : List (String × α)} (h : (keys entries).Nodup) :
    (keys (ofList entries)).Nodup :=
  ((ofList_perm h).map Prod.fst).nodup_iff.mpr h

theorem get?_ofList {entries : List (String × α)} (h : (keys entries).Nodup) (key : String) :
    get? key (ofList entries) = get? key entries := by
  ext value
  rw [get?_eq_some (nodup_keys_ofList h), get?_eq_some h, (ofList_perm h).mem_iff]

/-- What is put into a table counts, and the rest of the table stays. -/
theorem get?_extend {additions : List (String × α)} (h : (keys additions).Nodup) (key : String)
    (entries : List (String × α)) :
    get? key (extend entries additions) = (get? key additions).or (get? key entries) := by
  induction additions generalizing entries with
  | nil => rfl
  | cons entry rest ih =>
    obtain ⟨k, v⟩ := entry
    obtain ⟨hk, hr⟩ := List.nodup_cons.mp h
    have hi := ih hr (insert k v entries)
    rw [get?_insert] at hi
    rw [get?_cons]
    by_cases he : key = k
    · subst he
      rw [if_pos rfl, get?_eq_none.mpr hk] at hi
      rw [if_pos rfl]
      exact hi
    · rw [if_neg he] at hi
      rw [if_neg he]
      exact hi

theorem ofNat_lt_ofNat {m n : Nat} (hm : m < 256) (hn : n < 256) :
    UInt8.ofNat m < UInt8.ofNat n ↔ m < n := by
  rw [UInt8.lt_iff_toNat_lt, UInt8.toNat_ofNat_of_lt' hm, UInt8.toNat_ofNat_of_lt' hn]

theorem ofNat_eq_ofNat {m n : Nat} (hm : m < 256) (hn : n < 256) :
    UInt8.ofNat m = UInt8.ofNat n ↔ m = n := by
  rw [← UInt8.toNat_inj, UInt8.toNat_ofNat_of_lt' hm, UInt8.toNat_ofNat_of_lt' hn]

/-- The bytes of characters tell which of them is the greater one, whatever stands behind. -/
theorem utf8EncodeChar_lt {c d : Char} (h : c < d) (s t : List UInt8) :
    String.utf8EncodeChar c ++ s < String.utf8EncodeChar d ++ t := by
  have hlt : c.val.toNat < d.val.toNat := h
  have hmax : d.val.toNat < 0x110000 := by
    rcases d.valid with hd | hd <;> omega
  simp only [String.utf8EncodeChar]
  generalize c.val.toNat = v at hlt
  generalize d.val.toNat = w at hlt hmax
  -- The digits of a greater number to base 64 come later in order, the first one counting most.
  have hv : v / 4096 = v / 64 / 64 ∧ v / 262144 = v / 4096 / 64 := by omega
  have hw : w / 4096 = w / 64 / 64 ∧ w / 262144 = w / 4096 / 64 := by omega
  split_ifs <;> try omega
  all_goals
    simp (disch := omega) only [List.cons_append, List.cons_lt_cons_iff, ofNat_lt_ofNat,
      ofNat_eq_ofNat, Nat.add_lt_add_iff_right, Nat.add_right_cancel_iff, Nat.mod_eq_of_lt]
    omega

theorem append_lt_append_iff (front s t : List UInt8) : front ++ s < front ++ t ↔ s < t := by
  induction front with
  | nil => rfl
  | cons b front ih =>
    have hb : ¬ b < b := Nat.lt_irrefl _
    rw [List.cons_append, List.cons_append, List.cons_lt_cons_iff, ih, and_iff_right rfl,
      or_iff_right hb]

theorem flatMap_utf8EncodeChar_lt_iff {s t : List Char} :
    s.flatMap String.utf8EncodeChar < t.flatMap String.utf8EncodeChar ↔ s < t := by
  induction s generalizing t with
  | nil =>
    cases t with
    | nil => simp
    | cons d t =>
      obtain ⟨b, bytes, hb⟩ := List.exists_cons_of_ne_nil (@String.utf8EncodeChar_ne_nil d)
      simp [hb]
  | cons c s ih =>
    cases t with
    | nil => simp
    | cons d t =>
      rw [List.flatMap_cons, List.flatMap_cons, List.cons_lt_cons_iff]
      rcases Nat.lt_trichotomy c.toNat d.toNat with hlt | he | hgt
      · exact iff_of_true (utf8EncodeChar_lt hlt _ _) (.inl hlt)
      · obtain rfl := Char.toNat_inj.mp he
        have hc : ¬ c < c := Nat.lt_irrefl _
        rw [append_lt_append_iff, ih, and_iff_right rfl, or_iff_right hc]
      · have hn : ¬ c < d := Nat.lt_asymm hgt
        refine iff_of_false (List.lt_asymm (utf8EncodeChar_lt hgt _ _)) ?_
        rintro (hlt | ⟨rfl, -⟩)
        · exact hn hlt
        · exact Nat.lt_irrefl _ hgt

/-- The order of strings is that of their bytes. -/
theorem lt_iff_bytes {s t : String} :
    s < t ↔ s.toUTF8.data.toList < t.toUTF8.data.toList := by
  have hb : ∀ s : String, s.toUTF8.data.toList = s.toList.flatMap String.utf8EncodeChar := by
    intro s
    change s.toByteArray.data.toList = _
    rw [← String.utf8Encode_toList, List.utf8Encode, List.toList_data_toByteArray]
  rw [hb, hb, flatMap_utf8EncodeChar_lt_iff, String.lt_iff]

/-- Whether each key is greater than those before it. -/
def Ordered (entries : List (String × α)) : Prop :=
  entries.Pairwise fun entry next => entry.1 < next.1

theorem Ordered.nodup_keys {entries : List (String × α)} (h : Ordered entries) :
    (keys entries).Nodup := by
  rw [keys, List.Nodup, List.pairwise_map]
  refine h.imp ?_
  intro entry next hlt he
  exact String.lt_irrefl _ (he ▸ hlt)

theorem mem_insert {key : String} {value : α} {entries : List (String × α)} {entry : String × α}
    (h : entry ∈ insert key value entries) : entry = (key, value) ∨ entry ∈ entries := by
  induction entries with
  | nil => exact .inl (List.mem_singleton.mp h)
  | cons first rest ih =>
    rw [insert] at h
    split at h
    · exact List.mem_cons.mp h
    split at h
    · exact (List.mem_cons.mp h).imp_right (List.mem_cons_of_mem _)
    · rcases List.mem_cons.mp h with rfl | h
      · exact .inr List.mem_cons_self
      · exact (ih h).imp_right (List.mem_cons_of_mem _)

theorem Ordered.insert {entries : List (String × α)} (h : Ordered entries) (key : String)
    (value : α) : Ordered (Dict.insert key value entries) := by
  induction entries with
  | nil => exact List.pairwise_singleton _ _
  | cons first rest ih =>
    obtain ⟨k, v⟩ := first
    obtain ⟨hk, hr⟩ := List.pairwise_cons.mp h
    rw [Dict.insert]
    split
    · rename_i hlt
      exact List.pairwise_cons.mpr
        ⟨List.forall_mem_cons.mpr ⟨hlt, fun next hm => String.lt_trans hlt (hk next hm)⟩, h⟩
    split
    · rename_i he
      exact List.pairwise_cons.mpr ⟨fun next hm => he ▸ hk next hm, hr⟩
    · rename_i hge hne
      have hlt : k < key := by
        rw [← String.not_le]
        exact fun hle => hne (String.le_antisymm hle (String.not_lt.mp hge))
      refine List.pairwise_cons.mpr ⟨fun next hm => ?_, ih hr⟩
      rcases mem_insert hm with rfl | hm
      · exact hlt
      · exact hk next hm

theorem Ordered.extend {entries : List (String × α)} (h : Ordered entries)
    (additions : List (String × α)) : Ordered (Dict.extend entries additions) := by
  induction additions generalizing entries with
  | nil => exact h
  | cons entry rest ih => exact ih (h.insert entry.1 entry.2)

theorem ordered_ofList (entries : List (String × α)) : Ordered (ofList entries) :=
  Ordered.extend List.Pairwise.nil entries

theorem mem_of_mem_extend {entries additions : List (String × α)} {entry : String × α}
    (h : entry ∈ extend entries additions) : entry ∈ entries ∨ entry ∈ additions := by
  induction additions generalizing entries with
  | nil => exact .inl h
  | cons first rest ih =>
    rcases ih h with h | h
    · rcases mem_insert h with rfl | h
      · exact .inr List.mem_cons_self
      · exact .inl h
    · exact .inr (List.mem_cons_of_mem _ h)

/-- A table has no entries but those that it was made of. -/
theorem mem_of_mem_ofList {entries : List (String × α)} {entry : String × α}
    (h : entry ∈ ofList entries) : entry ∈ entries :=
  (mem_of_mem_extend h).resolve_left List.not_mem_nil

/-- A search through a sorted table ends at the least key that passes. -/
theorem Ordered.find?_eq_some {entries : List (String × α)} (h : Ordered entries)
    {p : String × α → Bool} {entry : String × α} :
    entries.find? p = some entry ↔ entry ∈ entries ∧ p entry = true ∧
      ∀ other ∈ entries, other.1 < entry.1 → p other = false := by
  rw [List.find?_eq_some_iff_append]
  constructor
  · rintro ⟨hp, front, back, rfl, hf⟩
    obtain ⟨-, hb, -⟩ := List.pairwise_append.mp h
    refine ⟨by simp, hp, fun other hm hlt => ?_⟩
    rcases List.mem_append.mp hm with hm | hm
    · simpa using hf other hm
    · rcases List.mem_cons.mp hm with rfl | hm
      · exact absurd hlt (String.lt_irrefl _)
      · exact absurd hlt (String.lt_asymm ((List.pairwise_cons.mp hb).1 other hm))
  · rintro ⟨hm, hp, hleast⟩
    obtain ⟨front, back, rfl⟩ := List.append_of_mem hm
    obtain ⟨-, -, hf⟩ := List.pairwise_append.mp h
    refine ⟨hp, front, back, rfl, fun other ho => ?_⟩
    rw [hleast other (by simp [ho]) (hf other ho entry (by simp))]
    rfl

/-- Sorted tables in which look-up finds the same are the same. -/
theorem Ordered.ext {entries more : List (String × α)} (h : Ordered entries) (h' : Ordered more)
    (hl : ∀ key, get? key entries = get? key more) : entries = more := by
  refine List.Perm.eq_of_pairwise ?_ h h' ?_
  · exact fun a b _ _ hab hba => absurd hba (String.lt_asymm hab)
  · refine (List.perm_ext_iff_of_nodup (h.nodup_keys.of_map _) (h'.nodup_keys.of_map _)).mpr ?_
    intro entry
    rw [← get?_eq_some h.nodup_keys, ← get?_eq_some h'.nodup_keys, hl]

theorem get?_filter {entries : List (String × α)} (h : (keys entries).Nodup)
    (p : String × α → Bool) (key : String) :
    get? key (entries.filter p) = (get? key entries).filter fun value => p (key, value) := by
  have hf : (keys (entries.filter p)).Nodup := (List.filter_sublist.map Prod.fst).nodup h
  ext value
  rw [get?_eq_some hf, List.mem_filter, Option.filter_eq_some_iff, get?_eq_some h]

end ApiDocs.Dict
