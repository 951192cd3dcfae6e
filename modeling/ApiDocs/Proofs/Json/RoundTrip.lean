import ApiDocs.Json.Printer
import ApiDocs.Json.Reader

/-!
# Reading what was written

A value without numbers that is written over several lines is read back with its entries in order,
if it does not nest too deeply.
-/

namespace ApiDocs.Json

open ApiDocs.Text (Rest)

theorem hexWord?_hexDigits : ∀ code < 32,
    hexWord? (Nat.digitChar (code / 4096 % 16)) (Nat.digitChar (code / 256 % 16))
      (Nat.digitChar (code / 16 % 16)) (Nat.digitChar (code % 16)) = some code := by
  decide

theorem stringBody_escaped (c : Char) (rest : List Char) :
    stringBody (escaped c ++ rest) = consChar c (stringBody rest) := by
  unfold escaped
  split
  · subst_vars; rfl
  split
  · subst_vars; rfl
  split
  · subst_vars; rfl
  split
  · subst_vars; rfl
  split
  · subst_vars; rfl
  split
  · subst_vars; rfl
  split
  · subst_vars; rfl
  split
  · rename_i h
    have hc := hexWord?_hexDigits c.toNat h
    simp only [hexDigits, List.map_cons, List.map_nil, List.cons_append, List.nil_append]
    rw [stringBody]
    simp only [hc]
    rw [if_neg, if_neg, Char.ofNat_toNat]
    · simp [isLeading]; omega
    · simp [isTrailing]; omega
  · rename_i hq hb _ _ _ _ _ hc
    rw [List.singleton_append, stringBody, if_neg hc]
    all_goals simp [hq, hb]

theorem stringBody_quoted (s rest : List Char) :
    stringBody (s.flatMap escaped ++ '"' :: rest) = .ok (s, rest) := by
  induction s with
  | nil => rfl
  | cons c s ih => rw [List.flatMap_cons, List.append_assoc, stringBody_escaped, ih]; rfl

mutual

/-- A value in which no number stands. -/
def Numberless : Json → Prop
  | integer _ | real _ => False
  | array items => NumberlessItems items
  | object entries => NumberlessEntries entries
  | _ => True

def NumberlessItems : List Json → Prop
  | [] => True
  | item :: rest => item.Numberless ∧ NumberlessItems rest

def NumberlessEntries : List (String × Json) → Prop
  | [] => True
  | (_, value) :: rest => value.Numberless ∧ NumberlessEntries rest

end

theorem numberlessItems_iff {list : List Json} :
    NumberlessItems list ↔ ∀ item ∈ list, item.Numberless := by
  induction list with
  | nil => simp [NumberlessItems]
  | cons item more ih => rw [NumberlessItems, ih, List.forall_mem_cons]

theorem numberlessEntries_iff {list : List (String × Json)} :
    NumberlessEntries list ↔ ∀ entry ∈ list, entry.2.Numberless := by
  induction list with
  | nil => simp [NumberlessEntries]
  | cons entry more ih => rw [NumberlessEntries, ih, List.forall_mem_cons]

mutual

/-- How many arrays and objects stand inside one another. -/
def nesting : Json → Nat
  | array items => nestingItems items + 1
  | object entries => nestingEntries entries + 1
  | _ => 0

def nestingItems : List Json → Nat
  | [] => 0
  | item :: rest => max item.nesting (nestingItems rest)

def nestingEntries : List (String × Json) → Nat
  | [] => 0
  | (_, value) :: rest => max value.nesting (nestingEntries rest)

end

theorem skipBlanks_newLine (level : Nat) (s : List Char) :
    skipBlanks (newLine level ++ s) = skipBlanks s := by
  refine List.dropWhile_append_of_pos fun c hc => ?_
  rcases List.mem_cons.mp hc with rfl | hc
  · rfl
  · rw [List.eq_of_mem_replicate hc]
    rfl

theorem skipBlanks_cons {c : Char} (h : isBlank c = false) (s : List Char) :
    skipBlanks (c :: s) = c :: s := by
  rw [skipBlanks, List.dropWhile_cons, h]
  rfl

/-- A value starts with a character that is no blank and closes nothing. -/
theorem prettyChars_eq_cons {v : Json} (h : v.Numberless) (level : Nat) :
    ∃ c s, v.prettyChars level = c :: s ∧ isBlank c = false ∧ c ≠ ']' := by
  cases v with
  | null => exact ⟨_, _, rfl, rfl, by decide⟩
  | bool b => cases b <;> exact ⟨_, _, rfl, rfl, by decide⟩
  | integer n => exact h.elim
  | real x => exact h.elim
  | string s => exact ⟨_, _, rfl, rfl, by decide⟩
  | array items => cases items <;> exact ⟨_, _, rfl, rfl, by decide⟩
  | object entries => cases entries <;> exact ⟨_, _, rfl, rfl, by decide⟩

/-- A reader gives a result and leaves some of the text. -/
def Reads {α : Type} {s : List Char} (read : Except Failure (α × Rest s)) (result : α)
    (rest : List Char) : Prop :=
  ∃ r : Rest s, read = .ok (result, r) ∧ r.val = rest

variable {depth : Nat} {s t rest : List Char}

theorem value_of_scalarAt {c : Char} {v : Json} (hs : skipBlanks s = c :: t)
    (ha : c ≠ '[') (ho : c ≠ '\x7b') (h : scalarAt c t = .ok (v, rest)) :
    Reads (value depth s) v rest := by
  rw [value]
  split
  · simp_all
  · rename_i hs'
    cases hs.symm.trans hs'
    exact absurd rfl ha
  · rename_i hs'
    cases hs.symm.trans hs'
    exact absurd rfl ho
  · rename_i hs'
    cases hs.symm.trans hs'
    split
    · rename_i h'
      cases h.symm.trans h'
      exact ⟨_, rfl, rfl⟩
    · rename_i h'
      cases h.symm.trans h'

theorem value_of_emptyArray (hs : skipBlanks s = '[' :: t) (hd : 1 < depth)
    (ht : skipBlanks t = ']' :: rest) : Reads (value depth s) (.array []) rest := by
  rw [value]
  split
  · simp_all
  · rename_i hs'
    cases hs.symm.trans hs'
    rw [if_neg (by omega)]
    split
    · simp_all
    · rename_i ht'
      cases ht.symm.trans ht'
      exact ⟨_, rfl, rfl⟩
    · simp_all
  · simp_all
  · simp_all

theorem value_of_items {c : Char} {u : List Char} {read : List Json}
    (hs : skipBlanks s = '[' :: t) (hd : 1 < depth) (ht : skipBlanks t = c :: u) (hc : c ≠ ']')
    (h : Reads (items (depth - 1) (c :: u)) read rest) :
    Reads (value depth s) (.array read) rest := by
  obtain ⟨r, h, rfl⟩ := h
  rw [value]
  split
  · simp_all
  · rename_i hs'
    cases hs.symm.trans hs'
    rw [if_neg (by omega)]
    split
    · simp_all
    · rename_i ht'
      cases ht.symm.trans ht'
      exact absurd rfl hc
    · rename_i ht'
      cases ht.symm.trans ht'
      rw [h]
      exact ⟨_, rfl, rfl⟩
  · simp_all
  · simp_all

theorem value_of_emptyObject (hs : skipBlanks s = '\x7b' :: t) (hd : 1 < depth)
    (ht : skipBlanks t = '\x7d' :: rest) : Reads (value depth s) (.object []) rest := by
  rw [value]
  split
  · simp_all
  · simp_all
  · rename_i hs'
    cases hs.symm.trans hs'
    rw [if_neg (by omega)]
    split
    · simp_all
    · rename_i ht'
      cases ht.symm.trans ht'
      exact ⟨_, rfl, rfl⟩
    · simp_all
    · simp_all
  · simp_all

theorem value_of_entries {u : List Char} {read : List (String × Json)}
    (hs : skipBlanks s = '\x7b' :: t) (hd : 1 < depth) (ht : skipBlanks t = '"' :: u)
    (h : Reads (entries (depth - 1) u) read rest) :
    Reads (value depth s) (.object (Dict.ofList read)) rest := by
  obtain ⟨r, h, rfl⟩ := h
  rw [value]
  split
  · simp_all
  · simp_all
  · rename_i hs'
    cases hs.symm.trans hs'
    rw [if_neg (by omega)]
    split
    · simp_all
    · simp_all
    · rename_i ht'
      cases ht.symm.trans ht'
      rw [h]
      exact ⟨_, rfl, rfl⟩
    · simp_all
  · simp_all

theorem items_of_last {v : Json} (hv : Reads (value depth s) v t)
    (ht : skipBlanks t = ']' :: rest) : Reads (items depth s) [v] rest := by
  obtain ⟨r, hv, rfl⟩ := hv
  rw [items, hv]
  dsimp only
  split
  · simp_all
  · rename_i ht'
    cases ht.symm.trans ht'
    exact ⟨_, rfl, rfl⟩
  · simp_all
  · simp_all

theorem items_of_cons {c : Char} {u w : List Char} {v : Json} {more : List Json}
    (hv : Reads (value depth s) v t) (ht : skipBlanks t = ',' :: u) (hu : skipBlanks u = c :: w)
    (hc : c ≠ ']') (h : Reads (items depth (c :: w)) more rest) :
    Reads (items depth s) (v :: more) rest := by
  obtain ⟨r, hv, rfl⟩ := hv
  obtain ⟨r', h, rfl⟩ := h
  rw [items, hv]
  dsimp only
  split
  · simp_all
  · simp_all
  · rename_i ht'
    cases ht.symm.trans ht'
    split
    · simp_all
    · rename_i hu'
      cases hu.symm.trans hu'
      exact absurd rfl hc
    · rename_i hu'
      cases hu.symm.trans hu'
      rw [h]
      exact ⟨_, rfl, rfl⟩
  · simp_all

theorem entries_of_last {key u w : List Char} {v : Json} (hk : stringBody s = .ok (key, t))
    (ht : skipBlanks t = ':' :: u) (hv : Reads (value depth u) v w)
    (hw : skipBlanks w = '\x7d' :: rest) :
    Reads (entries depth s) [(String.ofList key, v)] rest := by
  obtain ⟨r, hv, rfl⟩ := hv
  rw [entries]
  split
  · simp_all
  · rename_i hk'
    cases hk.symm.trans hk'
    split
    · simp_all
    · rename_i ht'
      cases ht.symm.trans ht'
      rw [hv]
      dsimp only
      split
      · simp_all
      · rename_i hw'
        cases hw.symm.trans hw'
        exact ⟨_, rfl, rfl⟩
      · simp_all
      · simp_all
    · simp_all

theorem entries_of_cons {key u w x y : List Char} {v : Json} {more : List (String × Json)}
    (hk : stringBody s = .ok (key, t)) (ht : skipBlanks t = ':' :: u)
    (hv : Reads (value depth u) v w) (hw : skipBlanks w = ',' :: x) (hx : skipBlanks x = '"' :: y)
    (h : Reads (entries depth y) more rest) :
    Reads (entries depth s) ((String.ofList key, v) :: more) rest := by
  obtain ⟨r, hv, rfl⟩ := hv
  obtain ⟨r', h, rfl⟩ := h
  rw [entries]
  split
  · simp_all
  · rename_i hk'
    cases hk.symm.trans hk'
    split
    · simp_all
    · rename_i ht'
      cases ht.symm.trans ht'
      rw [hv]
      dsimp only
      split
      · simp_all
      · simp_all
      · rename_i hw'
        cases hw.symm.trans hw'
        split
        · simp_all
        · rename_i hx'
          cases hx.symm.trans hx'
          rw [h]
          exact ⟨_, rfl, rfl⟩
        · simp_all
        · simp_all
      · simp_all
    · simp_all

theorem skipBlanks_prettyChars {v : Json} (h : v.Numberless) (level : Nat) (s : List Char) :
    skipBlanks (v.prettyChars level ++ s) = v.prettyChars level ++ s := by
  obtain ⟨c, u, hc, hb, -⟩ := prettyChars_eq_cons h level
  rw [hc, List.cons_append, skipBlanks_cons hb]

theorem prettyItems_eq_cons {item : Json} (h : item.Numberless) (level : Nat)
    (more : List Json) :
    ∃ c s, prettyItems level (item :: more) = c :: s ∧ isBlank c = false ∧ c ≠ ']' := by
  obtain ⟨c, s, hc, hb⟩ := prettyChars_eq_cons h level
  cases more with
  | nil => exact ⟨c, s, by rw [prettyItems, hc], hb⟩
  | cons next more =>
    refine ⟨c, s ++ ',' :: newLine level ++ prettyItems level (next :: more), ?_, hb⟩
    simp [prettyItems, hc]

theorem prettyEntries_eq_cons (level : Nat) (entry : String × Json)
    (more : List (String × Json)) :
    ∃ s, prettyEntries level (entry :: more) = '"' :: s := by
  cases more with
  | nil => exact ⟨_, rfl⟩
  | cons next more => exact ⟨_, rfl⟩

mutual

/-- The reader takes the written form of a value and nothing behind it. -/
theorem value_prettyChars (v : Json) (h : v.Numberless) (level depth : Nat)
    (hd : v.nesting < depth) {s rest : List Char}
    (hs : skipBlanks s = v.prettyChars level ++ rest) :
    Reads (value depth s) v.sorted rest := by
  match v with
  | null => exact value_of_scalarAt hs (by decide) (by decide) rfl
  | bool true => exact value_of_scalarAt hs (by decide) (by decide) rfl
  | bool false => exact value_of_scalarAt hs (by decide) (by decide) rfl
  | integer n => exact h.elim
  | real x => exact h.elim
  | string str =>
    refine value_of_scalarAt hs (by decide) (by decide) ?_
    have hq := stringBody_quoted str.toList rest
    simp [scalarAt, hq, Except.map, sorted]
  | array [] => exact value_of_emptyArray hs (by simpa [nesting, nestingItems] using hd) rfl
  | object [] => exact value_of_emptyObject hs (by simpa [nesting, nestingEntries] using hd) rfl
  | array (item :: more) =>
    obtain ⟨c, u, hc, hb, hn⟩ := prettyItems_eq_cons h.1 (level + 1) more
    rw [nesting] at hd
    have ht : skipBlanks (newLine (level + 1) ++ (prettyItems (level + 1) (item :: more) ++
        newLine level ++ ']' :: rest)) = c :: (u ++ newLine level ++ ']' :: rest) := by
      rw [skipBlanks_newLine, hc]
      exact skipBlanks_cons hb _
    refine value_of_items (hs.trans ?_) (by omega) ht hn ?_
    · simp [prettyChars]
    · refine items_prettyItems (item :: more) (by simp) h (level + 1) (depth - 1) (by omega) ?_
        ((skipBlanks_newLine level _).trans (skipBlanks_cons (c := ']') rfl rest))
      simp [hc]
  | object ((key, v) :: more) =>
    obtain ⟨u, hu⟩ := prettyEntries_eq_cons (level + 1) (key, v) more
    rw [nesting] at hd
    have ht : skipBlanks (newLine (level + 1) ++ (prettyEntries (level + 1) ((key, v) :: more) ++
        newLine level ++ '\x7d' :: rest)) = '"' :: (u ++ newLine level ++ '\x7d' :: rest) := by
      rw [skipBlanks_newLine, hu]
      exact skipBlanks_cons rfl _
    refine value_of_entries (hs.trans ?_) (by omega) ht ?_
    · simp [prettyChars]
    · refine entries_prettyEntries ((key, v) :: more) h (level + 1) (depth - 1) (by omega) ?_
        ((skipBlanks_newLine level _).trans (skipBlanks_cons (c := '\x7d') rfl rest))
      simp [hu]
termination_by sizeOf v

theorem items_prettyItems (list : List Json) (hl : list ≠ []) (h : NumberlessItems list)
    (level depth : Nat) (hd : nestingItems list < depth) {s t rest : List Char}
    (hs : s = prettyItems level list ++ t) (ht : skipBlanks t = ']' :: rest) :
    Reads (items depth s) (sortedItems list) rest := by
  match list with
  | [] => exact absurd rfl hl
  | [item] =>
    rw [nestingItems] at hd
    have hv : skipBlanks s = item.prettyChars level ++ t := by
      rw [hs, prettyItems, skipBlanks_prettyChars h.1]
    exact items_of_last (value_prettyChars item h.1 level depth (by omega) hv) ht
  | item :: next :: more =>
    rw [nestingItems] at hd
    obtain ⟨c, w, hc, hb, hn⟩ := prettyItems_eq_cons h.2.1 level more
    have hv : skipBlanks s = item.prettyChars level ++
        ',' :: (newLine level ++ (prettyItems level (next :: more) ++ t)) := by
      rw [hs, ← skipBlanks_prettyChars h.1 level]
      simp [prettyItems]
    have hu : skipBlanks (newLine level ++ (prettyItems level (next :: more) ++ t)) =
        c :: (w ++ t) := by
      rw [skipBlanks_newLine, hc]
      exact skipBlanks_cons hb _
    exact items_of_cons (value_prettyChars item h.1 level depth (by omega) hv) rfl hu hn
      (items_prettyItems (next :: more) (by simp) h.2 level depth (by omega) (by rw [hc]; rfl) ht)
termination_by sizeOf list

theorem entries_prettyEntries (list : List (String × Json)) (h : NumberlessEntries list)
    (level depth : Nat) (hd : nestingEntries list < depth) {s t rest : List Char}
    (hs : '"' :: s = prettyEntries level list ++ t) (ht : skipBlanks t = '\x7d' :: rest) :
    Reads (entries depth s) (sortedEntries list) rest := by
  match list with
  | [] =>
    rw [prettyEntries, List.nil_append] at hs
    rw [← hs, skipBlanks_cons rfl] at ht
    cases ht
  | [(key, v)] =>
    rw [nestingEntries] at hd
    have hb := skipBlanks_prettyChars h.1 level t
    have hk : stringBody s = .ok (key.toList, ':' :: ' ' :: (v.prettyChars level ++ t)) := by
      rw [← stringBody_quoted]
      simp_all [prettyEntries, quoted]
    have hr := entries_of_last hk rfl (value_prettyChars v h.1 level depth (by omega) hb) ht
    rwa [String.ofList_toList] at hr
  | (key, v) :: next :: more =>
    rw [nestingEntries] at hd
    obtain ⟨y, hy⟩ := prettyEntries_eq_cons level next more
    have hb := skipBlanks_prettyChars h.1 level
      (',' :: (newLine level ++ (prettyEntries level (next :: more) ++ t)))
    have hk : stringBody s = .ok (key.toList, ':' :: ' ' :: (v.prettyChars level ++
        ',' :: (newLine level ++ (prettyEntries level (next :: more) ++ t)))) := by
      rw [← stringBody_quoted]
      simp_all [prettyEntries, quoted]
    have hx : skipBlanks (newLine level ++ (prettyEntries level (next :: more) ++ t)) =
        '"' :: (y ++ t) := by
      rw [skipBlanks_newLine, hy]
      exact skipBlanks_cons rfl _
    have hm := entries_prettyEntries (next :: more) h.2 level depth (by omega) (s := y ++ t)
      (by rw [hy]; rfl) ht
    have hr := entries_of_cons hk rfl (value_prettyChars v h.1 level depth (by omega) hb) rfl hx hm
    rwa [String.ofList_toList] at hr
termination_by sizeOf list

end

/-- A value without numbers is read back from its lines, its entries in the order of their keys. -/
theorem parse_pretty {v : Json} (h : v.Numberless) (hd : v.nesting < maxDepth) :
    parse v.pretty = .ok v.sorted := by
  have hs : skipBlanks (v.prettyChars 0) = v.prettyChars 0 ++ [] := by
    simpa only [List.append_nil] using skipBlanks_prettyChars h 0 []
  obtain ⟨⟨rest, hr⟩, hv, rfl⟩ := value_prettyChars v h 0 maxDepth hd hs
  rw [parse, pretty, String.toList_ofList, document, hv]
  rfl

end ApiDocs.Json
