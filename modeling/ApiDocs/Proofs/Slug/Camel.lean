import ApiDocs.Proofs.Slug.Idempotence

/-!
# Stems read back from camel form

The camel form of a stem has a capital for each hyphen, and the slug of it has a hyphen for each
capital that starts a word. So the stem comes back when each word behind a hyphen shows in camel
form where it starts: it starts with a letter, and where the word in front of it is such a word of
one letter, its second character is a letter too.
-/

namespace ApiDocs

open Unicode

/-- A word with a capital at its front. -/
def capitalized : List Char → List Char
  | [] => []
  | c :: rest => c.toUpper :: rest

namespace Slug

/-- The characters of words. -/
def wordChars : List Char :=
  "abcdefghijklmnopqrstuvwxyz0123456789".toList

theorem mem_wordChars {c : Char} (h : isWordChar c = true) : c ∈ wordChars := by
  have hall : ∀ code < 128, isWordChar (Char.ofNat code) = true →
      Char.ofNat code ∈ wordChars := by decide
  have hc : c.toNat < 128 := by
    rcases isWordChar_iff.mp h with ⟨-, hle⟩ | ⟨-, hle⟩
    · exact Nat.lt_of_le_of_lt (UInt32.le_iff_toNat_le.mp hle) (by decide)
    · exact Nat.lt_of_le_of_lt (UInt32.le_iff_toNat_le.mp hle) (by decide)
  rw [← Char.ofNat_toNat c] at h ⊢
  exact hall _ hc h

/-- What the scans see of a character of words and of its capital. -/
@[mk_iff]
structure Scanned (c : Char) : Prop where
  kept_camel : (c == '-' || c == '_' || isWhite c) = false
  kept : isSeparator c = false
  alphanumeric : isAlphanumeric c = true
  small : isUppercase c = false
  closes : (isLowercase c || c.isDigit) = true
  lowercase : isLowercase c = c.isLower
  capital : toUppercase c = [c.toUpper]
  capital_alphanumeric : isAlphanumeric c.toUpper = true
  capital_not_lowercase : isLowercase c.toUpper = false

instance (c : Char) : Decidable (Scanned c) :=
  decidable_of_iff _ (scanned_iff c).symm

/-- Where a test passes on all characters of words, it passes on each. -/
theorem of_all_wordChars {test : Char → Bool} (hall : wordChars.all test = true) {c : Char}
    (h : isWordChar c = true) : test c = true :=
  List.all_eq_true.mp hall c (mem_wordChars h)

theorem scanned_of_isWordChar {c : Char} (h : isWordChar c = true) : Scanned c := by
  have hall : wordChars.all (fun c => decide (Scanned c)) = true := by decide
  exact of_decide_eq_true (of_all_wordChars hall h)

theorem capital_of_isLower {c : Char} (h : isWordChar c = true) (hl : c.isLower = true) :
    isUppercase c.toUpper = true ∧ c.toUpper.isDigit = false ∧ toLowercase c.toUpper = [c] := by
  have hall : wordChars.all (fun c => decide (c.isLower = true → isUppercase c.toUpper = true ∧
      c.toUpper.isDigit = false ∧ toLowercase c.toUpper = [c])) = true := by decide
  exact of_decide_eq_true (of_all_wordChars hall h) hl

theorem toUpper_of_not_isLower {c : Char} (h : isWordChar c = true) (hl : ¬ c.isLower = true) :
    c.toUpper = c := by
  have hall : wordChars.all (fun c => decide (¬ c.isLower = true → c.toUpper = c)) = true := by
    decide
  exact of_decide_eq_true (of_all_wordChars hall h) hl

end Slug

open Slug

theorem camelScan_word {w : List Char} (hw : ∀ c ∈ w, isWordChar c = true)
    (done rest : List Char) :
    camelScan done false (w ++ rest) = camelScan (w.reverse ++ done) false rest := by
  induction w generalizing done with
  | nil => rfl
  | cons c w ih =>
    obtain ⟨hc, hw⟩ := List.forall_mem_cons.mp hw
    rw [List.cons_append, camelScan, (scanned_of_isWordChar hc).kept_camel,
      if_neg Bool.false_ne_true, if_neg Bool.false_ne_true, ih hw]
    simp

theorem camelScan_hyphen {w : List Char} (hw : w ∈ word) {done : List Char} (hd : done ≠ [])
    (rest : List Char) :
    camelScan done false ('-' :: (w ++ rest)) =
      camelScan ((capitalized w).reverse ++ done) false rest := by
  obtain ⟨hne, hw⟩ := hw
  cases w with
  | nil => exact absurd rfl hne
  | cons c w =>
    obtain ⟨hc, hw⟩ := List.forall_mem_cons.mp hw
    have he : (!done.isEmpty) = true := by simpa using hd
    have hh : camelScan done false ('-' :: (c :: w ++ rest)) =
        camelScan done (!done.isEmpty) (c :: w ++ rest) := rfl
    rw [hh, he, List.cons_append, camelScan, (scanned_of_isWordChar hc).kept_camel,
      if_neg Bool.false_ne_true, if_pos rfl, (scanned_of_isWordChar hc).capital, camelScan_word hw]
    simp [capitalized]

theorem camelScan_words {words : List (List Char)} (hw : ∀ w ∈ words, w ∈ word)
    {done : List Char} (hd : done ≠ []) :
    camelScan done false (words.map (['-'] ++ ·)).flatten =
      done.reverse ++ words.flatMap capitalized := by
  induction words generalizing done with
  | nil => simp [camelScan]
  | cons w words ih =>
    obtain ⟨hw, hws⟩ := List.forall_mem_cons.mp hw
    have hh : ((w :: words).map (['-'] ++ ·)).flatten =
        '-' :: (w ++ (words.map (['-'] ++ ·)).flatten) := rfl
    rw [hh, camelScan_hyphen hw hd, ih hws (by simp [hd])]
    simp

namespace Slug

theorem append_wordChar {c : Char} (hc : isWordChar c = true) (done : List Char)
    (previous next : Option Char) : append done previous c next = c :: done := by
  have h := scanned_of_isWordChar hc
  simp [append, h.kept, h.alphanumeric, h.small]

theorem append_capital {c : Char} (hc : isWordChar c = true) (done : List Char)
    (previous next : Option Char) :
    append done previous c.toUpper next =
      c :: if c.isLower && startsWord previous next then hyphenate done else done := by
  by_cases hl : c.isLower
  · have ha := (scanned_of_isWordChar hc).capital_alphanumeric
    simp [append, isSeparator_of_isAlphanumeric ha, ha, capital_of_isLower hc hl, hl]
  · rw [toUpper_of_not_isLower hc hl, append_wordChar hc]
    simp [hl]

theorem scan_word {w : List Char} (hw : ∀ c ∈ w, isWordChar c = true) (done : List Char)
    (previous : Option Char) (rest : List Char) :
    scan done previous (w ++ rest) = scan (w.reverse ++ done) (w.getLast?.or previous) rest := by
  induction w generalizing done previous with
  | nil => simp
  | cons c w ih =>
    obtain ⟨hc, hw⟩ := List.forall_mem_cons.mp hw
    rw [List.cons_append, scan, append_wordChar hc, ih hw, List.getLast?_cons]
    cases w.getLast? <;> simp

theorem scan_capitalized {c : Char} {w : List Char} (hw : ∀ d ∈ c :: w, isWordChar d = true)
    (done : List Char) (previous : Option Char) (rest : List Char) :
    scan done previous (capitalized (c :: w) ++ rest) =
      scan ((c :: w).reverse ++
          if c.isLower && startsWord previous (w ++ rest).head? then hyphenate done else done)
        (w.getLast?.or c.toUpper) rest := by
  obtain ⟨hc, hw⟩ := List.forall_mem_cons.mp hw
  rw [capitalized, List.cons_append, scan, append_capital hc, scan_word hw]
  simp

theorem head?_scan_ne {name : List Char} (ha : ∀ c ∈ name, isAlphanumeric c = true)
    {done : List Char} (hd : done.head? ≠ some '-') (previous : Option Char) :
    (scan done previous name).head? ≠ some '-' := by
  induction name generalizing done previous with
  | nil => exact hd
  | cons c rest ih =>
    obtain ⟨hc, hr⟩ := List.forall_mem_cons.mp ha
    refine ih hr ?_ _
    have hsmall : ∀ behind, ((small c).reverse ++ behind).head? ≠ some '-' := by
      intro behind hh
      obtain ⟨d, front, he⟩ :=
        List.exists_cons_of_ne_nil (mt List.reverse_eq_nil_iff.mp (small_ne_nil hc))
      have hm : d ∈ small c := List.mem_reverse.mp (he ▸ List.mem_cons_self)
      rw [he] at hh
      cases hh
      exact absurd (isSeparator_of_mem_small hc hm) (by decide)
    rcases append_cases done previous c rest.head? with ⟨hn, -⟩ | ⟨-, he | he⟩
    · rw [hn] at hc
      cases hc
    · exact he ▸ hsmall _
    · exact he ▸ hsmall _

theorem kebab_eq_iff {name : List Char} (ha : ∀ c ∈ name, isAlphanumeric c = true)
    (s : List Char) : kebab name = s ↔ scan [] none name = s.reverse := by
  rw [kebab_eq_reverse (head?_scan_ne ha (by simp) none), List.reverse_eq_iff]

/-- Whether the first character of a word is a letter. -/
def StartsWithLetter (w : List Char) : Prop :=
  w.head?.any Char.isLower = true

/-- Whether the second character of a word is a letter where the word in front of it has only one
character. -/
def PartsFrom (v w : List Char) : Prop :=
  v.length = 1 → w[1]?.any Char.isLower = true

/-- Whether a character can end the camel form of a word behind a hyphen: the capital of a word of
one letter, or what ends any other word. -/
def Ends (v : List Char) (p : Char) : Prop :=
  if v.length = 1 then isUppercase p = true ∧ isLowercase p = false ∧ p.isDigit = false
  else (isLowercase p || p.isDigit) = true

theorem startsWord_iff {v : List Char} {p : Char} (hp : Ends v p) (next : Option Char) :
    startsWord (some p) next = true ↔ (v.length = 1 → next.any isLowercase = true) := by
  rw [Ends] at hp
  split at hp
  · rename_i hv
    simp [startsWord, hp, hv]
  · rename_i hv
    simp only [Bool.or_eq_true] at hp
    simp [startsWord, hp, hv]

/-- Behind the capital of a word only a letter of the same word is a small one. -/
theorem any_isLowercase {w : List Char} (hw : ∀ d ∈ w, isWordChar d = true)
    {words : List (List Char)} (hws : ∀ v ∈ words, v ∈ word) :
    (w ++ words.flatMap capitalized).head?.any isLowercase = w.head?.any Char.isLower := by
  cases w with
  | cons d w =>
    exact (scanned_of_isWordChar (hw d List.mem_cons_self)).lowercase
  | nil =>
    cases words with
    | nil => rfl
    | cons v words =>
      obtain ⟨hne, hv⟩ := hws v List.mem_cons_self
      cases v with
      | nil => exact absurd rfl hne
      | cons d v =>
        exact (scanned_of_isWordChar (hv d List.mem_cons_self)).capital_not_lowercase

theorem ends_getLast? {c : Char} {w : List Char} (hl : c.isLower = true)
    (hw : ∀ d ∈ c :: w, isWordChar d = true) :
    ∃ p, w.getLast?.or c.toUpper = some p ∧ Ends (c :: w) p := by
  cases hlast : w.getLast? with
  | none =>
    have hc := hw c List.mem_cons_self
    obtain ⟨hu, hd, -⟩ := capital_of_isLower hc hl
    rw [List.getLast?_eq_none_iff.mp hlast]
    refine ⟨c.toUpper, rfl, ?_⟩
    rw [Ends, if_pos (by rfl)]
    exact ⟨hu, (scanned_of_isWordChar hc).capital_not_lowercase, hd⟩
  | some p =>
    have hm := List.mem_of_getLast? hlast
    have hs := (scanned_of_isWordChar (hw p (List.mem_cons_of_mem _ hm))).closes
    have hlen : (c :: w).length ≠ 1 := by
      rw [List.length_cons]
      have := List.length_pos_of_mem hm
      omega
    refine ⟨p, rfl, ?_⟩
    rw [Ends, if_neg hlen]
    exact hs

/-- A word that was scanned without a hyphen does not get one later. -/
theorem scan_ne {w : List Char} (hw : w ∈ word) (done : List Char) (previous : Option Char)
    (rest more : List Char) :
    scan (w.reverse ++ done) previous rest ≠ more ++ (w.reverse ++ '-' :: done) := by
  intro he
  have hs : w.reverse ++ done <:+ more ++ (w.reverse ++ '-' :: done) :=
    he ▸ suffix_scan (w.reverse ++ done) previous rest
  have hh : w.reverse ++ '-' :: done <:+ more ++ (w.reverse ++ '-' :: done) :=
    List.suffix_append _ _
  obtain ⟨front, hf⟩ := List.suffix_of_suffix_length_le hs hh (by simp)
  have hc : front ++ w.reverse = w.reverse ++ ['-'] := by
    rw [← List.append_left_inj done]
    simpa using hf
  have hl := congrArg List.getLast? hc
  rw [List.getLast?_concat, List.getLast?_append, List.getLast?_reverse,
    List.head?_eq_some_head hw.1, Option.some_or, Option.some.injEq] at hl
  exact absurd (hw.2 '-' (hl ▸ List.head_mem hw.1)) (by decide)

theorem hyphenate_word {w : List Char} (hw : w ∈ word) (done : List Char) :
    hyphenate (w.reverse ++ done) = '-' :: (w.reverse ++ done) := by
  have hh : (w.reverse ++ done).head? = some (w.getLast hw.1) := by
    rw [List.head?_append, List.head?_reverse, List.getLast?_eq_some_getLast hw.1, Option.some_or]
  refine hyphenate_of_head? hh fun he => ?_
  exact absurd (hw.2 _ (List.getLast_mem hw.1)) (by rw [he]; decide)

/-- The scan puts back the hyphens in front of words, `p` being the last character in front of them
and `v` the word that it ends, exactly when each shows where it starts. -/
theorem scan_words {words : List (List Char)} (hw : ∀ w ∈ words, w ∈ word) {v done : List Char}
    {p : Char} (hd : hyphenate done = '-' :: done) (hp : Ends v p) :
    scan done (some p) (words.flatMap capitalized) =
        (words.map (['-'] ++ ·)).flatten.reverse ++ done ↔
      (∀ w ∈ words, StartsWithLetter w) ∧ (v :: words).IsChain PartsFrom := by
  induction words generalizing v done p with
  | nil => simp [scan]
  | cons w words ih =>
    obtain ⟨hw, hws⟩ := List.forall_mem_cons.mp hw
    have hback : ((w :: words).map (['-'] ++ ·)).flatten.reverse ++ done =
        (words.map (['-'] ++ ·)).flatten.reverse ++ (w.reverse ++ '-' :: done) := by simp
    rw [hback, List.flatMap_cons, List.isChain_cons_cons, List.forall_mem_cons]
    cases w with
    | nil => exact absurd rfl hw.1
    | cons c w =>
      have hnext : startsWord (some p) (w ++ words.flatMap capitalized).head? = true ↔
          PartsFrom v (c :: w) := by
        rw [startsWord_iff hp, any_isLowercase (List.forall_mem_cons.mp hw.2).2 hws, PartsFrom,
          List.getElem?_cons_succ, List.head?_eq_getElem?]
      rw [scan_capitalized hw.2]
      by_cases hstart : c.isLower = true ∧ PartsFrom v (c :: w)
      · obtain ⟨q, hq, hends⟩ := ends_getLast? hstart.1 hw.2
        have hgap : (c.isLower && startsWord (some p) (w ++ words.flatMap capitalized).head?) =
            true := Bool.and_eq_true_iff.mpr ⟨hstart.1, hnext.mpr hstart.2⟩
        rw [if_pos hgap, hd, hq, ih hws (hyphenate_word hw _) hends]
        constructor
        · rintro ⟨hletters, hchain⟩
          exact ⟨⟨hstart.1, hletters⟩, hstart.2, hchain⟩
        · rintro ⟨⟨-, hletters⟩, -, hchain⟩
          exact ⟨hletters, hchain⟩
      · have hgap : ¬ (c.isLower &&
            startsWord (some p) (w ++ words.flatMap capitalized).head?) = true := by
          rwa [Bool.and_eq_true, hnext]
        rw [if_neg hgap]
        refine iff_of_false (scan_ne hw done _ _ _) ?_
        rintro ⟨⟨hletter, -⟩, hparts, -⟩
        exact hstart ⟨hletter, hparts⟩

/-- Whether each word behind a hyphen starts with a letter, and with two letters where the word in
front of it stands behind a hyphen and has only one character. -/
@[mk_iff]
structure Traceable (stem : List Char) : Prop where
  letter : ∀ w ∈ (stem.splitOn '-').tail, StartsWithLetter w
  parted : (stem.splitOn '-').tail.IsChain PartsFrom

instance (w : List Char) : Decidable (StartsWithLetter w) :=
  inferInstanceAs (Decidable (_ = _))

instance (v w : List Char) : Decidable (PartsFrom v w) :=
  inferInstanceAs (Decidable (_ → _))

instance (stem : List Char) : Decidable (Traceable stem) :=
  decidable_of_iff _ (traceable_iff stem).symm

theorem isChain_nil_cons {words : List (List Char)} :
    ([] :: words).IsChain PartsFrom ↔ words.IsChain PartsFrom := by
  cases words with
  | nil => simp
  | cons w words =>
    rw [List.isChain_cons_cons]
    exact and_iff_right fun hl => absurd hl (by decide)

theorem exists_splitOn {stem : String} (h : IsSlug stem) :
    ∃ first rest, stem.toList.splitOn '-' = first :: rest ∧ first ∈ word ∧
      ∀ w ∈ rest, w ∈ word := by
  have hw := mem_pattern.mp (isSlug_iff.mp h)
  obtain ⟨first, rest, hs⟩ := List.exists_cons_of_ne_nil (List.splitOn_ne_nil '-' stem.toList)
  rw [hs, List.forall_mem_cons] at hw
  exact ⟨first, rest, hs, hw⟩

theorem isAlphanumeric_capitalized {w : List Char} (hw : ∀ c ∈ w, isWordChar c = true) :
    ∀ c ∈ capitalized w, isAlphanumeric c = true := by
  cases w with
  | nil => exact fun _ hc => absurd hc List.not_mem_nil
  | cons d w =>
    rw [List.forall_mem_cons] at hw
    rw [capitalized, List.forall_mem_cons]
    exact ⟨(scanned_of_isWordChar hw.1).capital_alphanumeric,
      fun c hc => (scanned_of_isWordChar (hw.2 c hc)).alphanumeric⟩

section

variable {stem : String} {first : List Char} {rest : List (List Char)}

theorem toList_camel (hs : stem.toList.splitOn '-' = first :: rest) (hfirst : first ∈ word)
    (hrest : ∀ w ∈ rest, w ∈ word) :
    (camel stem).toList = first ++ rest.flatMap capitalized := by
  rw [camel, String.toList_ofList, eq_of_splitOn hs, camelScan_word hfirst.2, List.append_nil,
    camelScan_words hrest (mt List.reverse_eq_nil_iff.mp hfirst.1), List.reverse_reverse]

theorem isAlphanumeric_camel (hs : stem.toList.splitOn '-' = first :: rest) (hfirst : first ∈ word)
    (hrest : ∀ w ∈ rest, w ∈ word) : ∀ c ∈ (camel stem).toList, isAlphanumeric c = true := by
  intro c hc
  rw [toList_camel hs hfirst hrest] at hc
  rcases List.mem_append.mp hc with hc | hc
  · exact (scanned_of_isWordChar (hfirst.2 c hc)).alphanumeric
  · obtain ⟨w, hw, hc⟩ := List.mem_flatMap.mp hc
    exact isAlphanumeric_capitalized (hrest w hw).2 c hc

end

/-- A stem is the slug of its camel form exactly when its words show where they start. -/
theorem ofName_camel_eq_iff {stem : String} (h : IsSlug stem) :
    ofName (camel stem) = stem ↔ Traceable stem.toList := by
  obtain ⟨first, rest, hs, hfirst, hrest⟩ := exists_splitOn h
  have hlast := List.getLast?_eq_some_getLast hfirst.1
  have hends : Ends [] (first.getLast hfirst.1) :=
    (scanned_of_isWordChar (hfirst.2 _ (List.getLast_mem hfirst.1))).closes
  have hd : hyphenate first.reverse = '-' :: first.reverse := by
    have hh := hyphenate_word hfirst []
    rwa [List.append_nil] at hh
  have hstem := eq_of_splitOn hs
  rw [← String.toList_inj, ofName, String.toList_ofList,
    kebab_eq_iff (isAlphanumeric_camel hs hfirst hrest), toList_camel hs hfirst hrest,
    scan_word hfirst.2, hlast, Option.some_or, List.append_nil, traceable_iff, hs, List.tail_cons,
    hstem, List.reverse_append, scan_words hrest hd hends, isChain_nil_cons]

-- Of the capitals in `xAB` only the first starts a word.
example : Traceable "x-a".toList ∧ ¬ Traceable "x-a-b".toList := by
  decide

end Slug

end ApiDocs
