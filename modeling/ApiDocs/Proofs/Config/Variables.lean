import ApiDocs.Config.Variable
import ApiDocs.Proofs.Config.Overlay
import ApiDocs.Proofs.Text
import Mathlib.Tactic.SplitIfs

/-!
# What variables set

The name of a variable selects a section and a field in any case and an alias letter by letter. Its
value goes to the end of that path, and the tables in it are sorted.
-/

namespace ApiDocs.Config.Variable

open Value (Tidy)

theorem ne_table_of_simple? {s : List Char} {value : Value} {rest : Text.Unread s}
    (h : simple? s = some (value, rest)) (entries : Entries) : value ≠ .table entries := by
  rw [simple?.eq_def] at h
  split at h
  · cases h
    nofun
  · cases h
    nofun
  · split at h
    · obtain ⟨read, -, he⟩ := Option.map_eq_some_iff.mp h
      cases he
      nofun
    · cases h
      nofun
    · cases h
    · cases h
      rw [bareValue]
      intro he
      split at he
      · cases he
      · split at he
        · split_ifs at he
        · cases he

mutual

theorem tidy_of_value? {s : List Char} {value : Value} {rest : Text.Unread s}
    (h : value? s = some (value, rest)) : value.Tidy := by
  have hs := skipBlanks_length s
  rw [value?.eq_def] at h
  simp only at h
  split at h
  · split at h
    · cases h
      exact .other nofun
    · cases h
  · rename_i inner hb
    have hlt : inner.length < s.length := by
      rw [hb] at hs
      exact hs
    split at h
    · rename_i read _ _ hr
      cases h
      refine .table (Dict.ordered_ofList read) fun entry hm => ?_
      exact tidy_of_entries? hr entry (Dict.mem_of_mem_ofList hm)
    · cases h
  · split at h
    · rename_i hr
      cases h
      exact .other (ne_table_of_simple? hr)
    · cases h
termination_by (s.length, 0)
decreasing_by exact Prod.Lex.left _ _ hlt

theorem tidy_of_entries? {s : List Char} {read : Entries} {rest : Text.Rest s}
    (h : entries? s = some (read, rest)) : ∀ entry ∈ read, entry.2.Tidy := by
  have hs := skipBlanks_length s
  rw [entries?.eq_def] at h
  split at h
  · cases h
    exact fun _ hm => absurd hm List.not_mem_nil
  · simp only at h
    split at h
    · cases h
    · rename_i key left hk _
      split at h
      · rename_i text he
        have hb := length_lt_of_entry hs hk (skipBlanks_length left) he
        split at h
        · cases h
        · rename_i item unread hitem
          have ht := tidy_of_value? hitem
          split at h
          · cases h
            exact List.forall_mem_singleton.mpr ht
          · rename_i behind hv
            have hc := length_lt_of_cons_of_lt unread hv hb
            split at h
            · rename_i more _ _ hmore
              cases h
              exact List.forall_mem_cons.mpr ⟨ht, tidy_of_entries? hmore⟩
            · cases h
          · cases h
      · cases h
termination_by (s.length, 1)
decreasing_by
  · exact Prod.Lex.left _ _ hb
  · exact Prod.Lex.left _ _ hc

end

theorem tidy_valueOf (text : String) : (valueOf text).Tidy := by
  rw [valueOf]
  split
  · rename_i h
    exact tidy_of_value? h
  · exact .other nofun

def additions (setting : String × String) : Entries :=
  match path? setting.1 with
  | some path =>
    match Value.nested path (valueOf setting.2) with
    | .table entries => entries
    | _ => []
  | none => []

theorem tidy_additions (setting : String × String) : Tidy (.table (additions setting)) := by
  rw [additions]
  split
  · rename_i path _
    have ht : (Value.nested path (valueOf setting.2)).Tidy :=
      Value.tidy_nested (tidy_valueOf setting.2)
    split
    · rename_i h
      rwa [h] at ht
    · exact Value.tidy_nil
  · exact Value.tidy_nil

theorem normalKeys_ne_nil {keys : List (List Char)} (h : keys ≠ []) : normalKeys keys ≠ [] := by
  rw [normalKeys.eq_def]
  split
  · split_ifs
    · exact List.cons_ne_nil _ _
    · exact List.cons_ne_nil _ _
  · exact fun hn => h (List.map_eq_nil_iff.mp hn)

theorem ne_nil_of_path? {name : String} {path : List String} (h : path? name = some path) :
    path ≠ [] := by
  unfold path? at h
  extract_lets s front keys at h
  split_ifs at h
  cases h
  exact fun hn => normalKeys_ne_nil (List.splitOn_ne_nil _ _) (List.map_eq_nil_iff.mp hn)

/-- A variable with a text sets it at the path of its name and nowhere else. -/
theorem textAt?_additions {name text s : String} {path : List String} (hp : path? name = some path)
    (hs : valueOf text = .text s) (key : List String) :
    Value.textAt? key (.table (additions (name, text))) = if key = path then some s else none := by
  have hne := ne_nil_of_path? hp
  obtain ⟨first, rest, rfl⟩ := List.exists_cons_of_ne_nil hne
  have ha : additions (name, text) = [(first, Value.nested rest (.text s))] := by
    simp only [additions, hp, hs, Value.nested]
  rw [ha]
  exact Value.textAt?_nested (first :: rest) key s

theorem toLower_eq_or (c : Char) :
    c.toLower = c ∨ 65 ≤ c.toNat ∧ c.toNat ≤ 90 ∧ c.toLower.toNat = c.toNat + 32 := by
  by_cases h : c.val ≥ 'A'.val ∧ c.val ≤ 'Z'.val
  · obtain ⟨hl, hu⟩ := h
    refine .inr ⟨UInt32.le_iff_toNat_le.mp hl, UInt32.le_iff_toNat_le.mp hu, ?_⟩
    have he : c.toLower = ⟨c.val + ('a'.val - 'A'.val), _⟩ := dif_pos ⟨hl, hu⟩
    rw [he]
    have hn : c.val.toNat ≤ 90 := UInt32.le_iff_toNat_le.mp hu
    change (c.val.toNat + 32) % 2 ^ 32 = c.val.toNat + 32
    exact Nat.mod_eq_of_lt (by omega)
  · exact .inl (dif_neg h)

/-- A mark is no letter, so making capitals small neither adds nor removes one. -/
theorem toLower_eq_iff {c mark : Char} (hm : mark.toNat < 65 ∨ mark.toNat = 95) :
    c.toLower = mark ↔ c = mark := by
  rcases toLower_eq_or c with he | ⟨hl, hu, he⟩
  · rw [he]
  · constructor
    · rintro rfl
      omega
    · rintro rfl
      omega

theorem isWhite_toLower (c : Char) : Unicode.isWhite c.toLower = Unicode.isWhite c := by
  rcases toLower_eq_or c with he | ⟨hl, hu, he⟩
  · rw [he]
  · have hc : (c == ' ') = false := by
      rw [beq_eq_false_iff_ne]
      rintro rfl
      exact absurd hl (by decide)
    have hd : (c.toLower == ' ') = false := by
      rw [beq_eq_false_iff_ne]
      intro hd
      rw [hd] at he
      exact absurd he (by change 32 ≠ _; omega)
    rw [Unicode.isWhite, Unicode.isWhite, if_pos (by omega), if_pos (by omega), hc, hd, he]
    simp only [Bool.false_or]
    rw [decide_eq_false (by omega : ¬ c.toNat + 32 ≤ 13),
      decide_eq_false (by omega : ¬ c.toNat ≤ 13), Bool.and_false, Bool.and_false]

theorem trim_asciiLower (s : List Char) :
    Text.trim (Text.asciiLower s) = Text.asciiLower (Text.trim s) := by
  have hw : Unicode.isWhite ∘ Char.toLower = Unicode.isWhite := funext isWhite_toLower
  rw [Text.trim, Text.trimEnd, Text.dropEndWhile, Text.trimStart, Text.asciiLower,
    List.dropWhile_map, hw, ← List.map_reverse, List.dropWhile_map, hw, ← List.map_reverse]
  rfl

theorem pointed_asciiLower (s : List Char) :
    pointed (Text.asciiLower s) = Text.asciiLower (pointed s) := by
  fun_induction pointed s with
  | case1 rest ih =>
    change pointed ('_' :: '_' :: Text.asciiLower rest) = '.' :: Text.asciiLower (pointed rest)
    rw [pointed, ih]
  | case2 c rest h ih =>
    change pointed (c.toLower :: Text.asciiLower rest) = c.toLower :: Text.asciiLower (pointed rest)
    rw [pointed, ih]
    intro behind hc hr
    obtain ⟨d, more, rfl, hd, -⟩ := List.map_eq_cons_iff.mp hr
    exact h more ((toLower_eq_iff (.inr rfl)).mp hc) (by rw [(toLower_eq_iff (.inr rfl)).mp hd])
  | case3 => rfl

theorem splitOn_asciiLower (s : List Char) :
    (Text.asciiLower s).splitOn '.' = (s.splitOn '.').map Text.asciiLower := by
  induction s with
  | nil => rfl
  | cons c rest ih =>
    have hc : (c.toLower == '.') = (c == '.') := by
      rw [Bool.eq_iff_iff, beq_iff_eq, beq_iff_eq]
      exact toLower_eq_iff (.inl (by decide))
    rw [Text.asciiLower, List.map_cons, List.splitOn_cons_eq_if_modifyHead,
      List.splitOn_cons_eq_if_modifyHead, hc, ← Text.asciiLower, ih]
    split_ifs
    · rfl
    · cases rest.splitOn '.' <;> rfl

/-- A text without underscores behind another one is left as it is. -/
theorem pointed_append {s : List Char} (hs : '_' ∉ s) (front : List Char) :
    pointed (front ++ s) = pointed front ++ s := by
  fun_induction pointed front with
  | case1 rest ih => rw [List.cons_append, List.cons_append, pointed, ih, List.cons_append]
  | case2 c rest h ih =>
    rw [List.cons_append, pointed, ih, List.cons_append]
    intro behind hc hr
    cases rest with
    | nil =>
      rw [List.nil_append] at hr
      exact hs (hr ▸ List.mem_cons_self)
    | cons d more =>
      cases hr
      exact h more hc rfl
  | case3 =>
    induction s with
    | nil => rfl
    | cons c rest ih =>
      rw [List.mem_cons, not_or] at hs
      rw [List.nil_append, pointed]
      · exact congrArg (c :: ·) (ih hs.2)
      · exact fun _ hc _ => hs.1 hc.symm

/-- The keys that a name spells behind its prefix, as they stand. -/
def spelled (name : List Char) : List (List Char) :=
  (pointed (Text.trim (name.drop prefixText.length))).splitOn '.'

theorem spelled_asciiLower (name : List Char) :
    spelled (Text.asciiLower name) = (spelled name).map Text.asciiLower := by
  rw [spelled, spelled, Text.asciiLower, ← List.map_drop, ← Text.asciiLower, trim_asciiLower,
    pointed_asciiLower, splitOn_asciiLower]

theorem path?_eq_some {name : String} {keys : List (List Char)}
    (hf : (Text.asciiLower (Text.trim name.toList)).take prefixText.length =
      Text.asciiLower prefixText.toList)
    (hk : normalKeys (spelled (Text.trim name.toList)) = keys) (hne : [] ∉ keys) :
    path? name = some (keys.map String.ofList) := by
  rw [Text.asciiLower, ← List.map_take] at hf
  subst hk
  exact if_pos ⟨hf, hne⟩

/-- A name selects a field of a section in any case. -/
theorem path?_field {name : String} {outer inner : List Char}
    (hf : (Text.trim (Text.asciiLower name.toList)).take prefixText.length =
      Text.asciiLower prefixText.toList)
    (hk : spelled (Text.trim (Text.asciiLower name.toList)) = [outer, inner])
    (hne : [] ∉ [outer, inner]) :
    path? name = some [String.ofList outer, String.ofList inner] := by
  rw [trim_asciiLower] at hf hk
  rw [spelled_asciiLower] at hk
  refine path?_eq_some hf ?_ hne
  obtain ⟨a, rest, he, rfl, hr⟩ := List.map_eq_cons_iff.mp hk
  obtain ⟨b, more, rfl, rfl, hm⟩ := List.map_eq_cons_iff.mp hr
  rw [List.map_eq_nil_iff.mp hm] at he
  rw [he]
  rfl

/-- A text behind another one that starts with a letter keeps its place when it is trimmed. -/
theorem trim_append {front s : List Char} {c : Char} {rest : List Char}
    (hf : Text.asciiLower front = c :: rest) (hc : Unicode.isWhite c = false) (hne : s ≠ [])
    (hs : ∀ c ∈ s, Unicode.isWhite c = false) : Text.trim (front ++ s) = front ++ s := by
  obtain ⟨d, more, rfl, rfl, -⟩ := List.map_eq_cons_iff.mp hf
  rw [isWhite_toLower] at hc
  refine Text.Tight.trim_eq ⟨fun e he => ?_, fun e he => ?_⟩
  · cases he
    exact hc
  · rw [List.getLast?_append_of_ne_nil _ hne] at he
    exact hs e (List.mem_of_getLast? he)

section Alias

variable {front s : List Char} (hf : Text.asciiLower front = "doclint_slugs__aliases__".toList)
include hf

theorem length_prefixText_le : prefixText.length ≤ front.length := by
  have hl := congrArg List.length hf
  rw [Text.asciiLower, List.length_map] at hl
  rw [hl]
  decide

theorem asciiLower_drop_prefixText :
    Text.asciiLower (front.drop prefixText.length) = "slugs__aliases__".toList := by
  rw [Text.asciiLower, List.map_drop, ← Text.asciiLower, hf]
  decide

/-- Behind the prefix stand the two sections, in any case, and then a point. -/
theorem exists_sections :
    ∃ sections, pointed (front.drop prefixText.length) = sections ++ ['.'] ∧
      Text.asciiLower sections = "slugs.aliases".toList := by
  have hpoints : Text.asciiLower (pointed (front.drop prefixText.length)) =
      "slugs.aliases".toList ++ ['.'] := by
    rw [← pointed_asciiLower, asciiLower_drop_prefixText hf]
    decide
  obtain ⟨sections, points, hsplit, hsections, hpoint⟩ := List.map_eq_append_iff.mp hpoints
  obtain ⟨point, none, rfl, hc, hnone⟩ := List.map_eq_cons_iff.mp hpoint
  rw [toLower_eq_iff (.inl (by decide))] at hc
  rw [List.map_eq_nil_iff.mp hnone, hc] at hsplit
  exact ⟨sections, hsplit, hsections⟩

/-- The keys of an alias are those of the two sections, in any case, and the name as it stands. -/
theorem exists_spelled_alias (hne : s ≠ [])
    (hs : ∀ c ∈ s, c ≠ '_' ∧ c ≠ '.' ∧ Unicode.isWhite c = false) :
    ∃ outer inner, spelled (front ++ s) = [outer, inner, s] ∧
      Text.asciiLower outer = "slugs".toList ∧ Text.asciiLower inner = "aliases".toList := by
  have hu : '_' ∉ s := fun h => (hs '_' h).1 rfl
  have hp : '.' ∉ s := fun h => (hs '.' h).2.1 rfl
  obtain ⟨sections, hsplit, hsections⟩ := exists_sections hf
  have hlower : (sections.splitOn '.').map Text.asciiLower =
      ["slugs".toList, "aliases".toList] := by
    rw [← splitOn_asciiLower, hsections]
    decide
  obtain ⟨outer, rest, he, houter, hr⟩ := List.map_eq_cons_iff.mp hlower
  obtain ⟨inner, more, rfl, hinner, hm⟩ := List.map_eq_cons_iff.mp hr
  rw [List.map_eq_nil_iff.mp hm] at he
  refine ⟨outer, inner, ?_, houter, hinner⟩
  rw [spelled, List.drop_append_of_le_length (length_prefixText_le hf),
    trim_append (asciiLower_drop_prefixText hf) (by decide) hne fun c hc => (hs c hc).2.2,
    pointed_append hu, hsplit, List.append_assoc, List.singleton_append,
    List.splitOn_append_cons_self, he, List.splitOn_eq_singleton hp]
  rfl

/-- A name selects the alias of a name letter by letter. -/
theorem path?_alias (hne : s ≠ [])
    (hs : ∀ c ∈ s, c ≠ '_' ∧ c ≠ '.' ∧ Unicode.isWhite c = false) :
    path? (String.ofList (front ++ s)) = some ["slugs", "aliases", String.ofList s] := by
  have htrim : Text.trim (String.ofList (front ++ s)).toList = front ++ s := by
    rw [String.toList_ofList]
    exact trim_append hf (by decide) hne fun c hc => (hs c hc).2.2
  obtain ⟨outer, inner, hspelled, houter, hinner⟩ := exists_spelled_alias hf hne hs
  change _ = some (["slugs".toList, "aliases".toList, s].map String.ofList)
  refine path?_eq_some ?_ ?_ ?_
  · rw [htrim, Text.asciiLower, List.map_append, ← Text.asciiLower, hf,
      List.take_append_of_le_length (by decide)]
    decide
  · rw [htrim, hspelled]
    exact if_pos ⟨houter, hinner⟩
  · simp [hne.symm]

end Alias

end ApiDocs.Config.Variable
