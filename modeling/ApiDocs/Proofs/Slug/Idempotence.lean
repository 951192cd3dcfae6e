import ApiDocs.Proofs.Slug.Letters

/-!
# Slugs of slugs

A text is its own slug when its hyphens only part letters and digits, each of which is its own small
form, and no capital among them starts a word. The slug of a slug is the slug itself but for two
kinds of names: those with a dotted capital I, whose small form carries a mark that is no letter, and
those where a capital without a small form starts a word in the slug that it did not start in the
name.
-/

namespace ApiDocs.Slug

open Unicode

/-- Whether a capital of a text starts a word. -/
def CapitalStarts (s : List Char) : Prop :=
  ∃ front c behind, s = front ++ c :: behind ∧ isUppercase c = true ∧
    startsWord front.getLast? behind.head? = true

/-- Whether a character is kept as it is. -/
def Stays (c : Char) : Prop :=
  c = '-' ∨ isAlphanumeric c = true ∧ small c = [c]

theorem hyphenate_of_head? {done : List Char} {c : Char} (h : done.head? = some c) (hc : c ≠ '-') :
    hyphenate done = '-' :: done := by
  cases done with
  | nil => cases h
  | cons d rest =>
    cases h
    rw [hyphenate, if_neg (by simpa using hc)]

theorem hyphenate_of_joined {done : List Char} (h : Joined ('-' :: done)) :
    hyphenate done = '-' :: done := by
  cases done with
  | nil => exact absurd rfl h.last_ne
  | cons c rest =>
    refine hyphenate_of_head? rfl ?_
    rintro rfl
    exact h.single ⟨[], rest, rfl⟩

/-- A character that stays and starts no word is added as it is. -/
theorem append_of_stays {done : List Char} {previous next : Option Char} {c : Char}
    (hj : Joined (c :: done)) (hc : Stays c)
    (hw : isUppercase c = true → startsWord previous next = false) :
    append done previous c next = c :: done := by
  rcases hc with rfl | ⟨ha, hs⟩
  · have hsep : isSeparator '-' = true := by decide
    rw [append, if_pos hsep, hyphenate_of_joined hj]
  · have hsep := isSeparator_of_isAlphanumeric ha
    by_cases hu : isUppercase c
    · rw [small, if_pos hu] at hs
      simp [append, hsep, ha, hu, hs, hw hu]
    · simp [append, hsep, ha, hu]

theorem scan_of_stays {front rest : List Char} (hj : Joined (front ++ rest).reverse)
    (hs : ∀ c ∈ rest, Stays c) (hw : ¬ CapitalStarts (front ++ rest)) :
    scan front.reverse front.getLast? rest = (front ++ rest).reverse := by
  induction rest generalizing front with
  | nil => rw [List.append_nil]; rfl
  | cons c rest ih =>
    rw [List.forall_mem_cons] at hs
    have happend : front ++ c :: rest = front ++ [c] ++ rest := by simp
    have hc : Joined (c :: front.reverse) := by
      refine hj.of_suffix ⟨rest.reverse, ?_⟩
      simp
    have hstep := append_of_stays hc hs.1 fun hu =>
      eq_false_of_ne_true fun hstart => hw ⟨front, c, rest, rfl, hu, hstart⟩
    rw [happend] at hj hw ⊢
    rw [scan, hstep, ← ih hj hs.2 hw]
    simp

theorem flatMap_eq_self {f : Char → List Char} {l : List Char} (hf : ∀ c ∈ l, ∃ d, f c = [d])
    (h : l.flatMap f = l) : ∀ c ∈ l, f c = [c] := by
  induction l with
  | nil => exact fun _ hc => absurd hc List.not_mem_nil
  | cons c rest ih =>
    rw [List.forall_mem_cons] at hf ⊢
    obtain ⟨⟨d, hd⟩, hf⟩ := hf
    rw [List.flatMap_cons, hd, List.singleton_append, List.cons.injEq] at h
    exact ⟨by rw [hd, h.1], ih hf h.2⟩

theorem length_flatMap_eq {f : Char → List Char} {l : List Char}
    (hf : ∀ c ∈ l, ∃ d, f c = [d]) : (l.flatMap f).length = l.length := by
  induction l with
  | nil => rfl
  | cons c rest ih =>
    rw [List.forall_mem_cons] at hf
    obtain ⟨⟨d, hd⟩, hf⟩ := hf
    rw [List.flatMap_cons, hd, List.length_append, ih hf, List.length_cons, Nat.add_comm]
    rfl

theorem dotted_notMem_kebab (name : List Char) : 'İ' ∉ kebab name := by
  intro h
  obtain ⟨c, -, ha, hd⟩ := mem_letters.mp ((mem_kebab_iff (by decide)).mp h)
  by_cases hc : c = 'İ'
  · rw [hc, small_dotted] at hd
    revert hd
    decide
  · obtain ⟨d, he, -, hs⟩ := exists_small hc ha
    rw [he, List.mem_singleton] at hd
    rw [← hd, small_dotted] at hs
    revert hs
    decide

theorem stays_of_kebab_eq {s : List Char} (h : kebab s = s) : ∀ c ∈ s, Stays c := by
  have hf : ∀ c ∈ s.filter isAlphanumeric, ∃ d, small c = [d] := by
    intro c hc
    obtain ⟨hm, ha⟩ := List.mem_filter.mp hc
    have hne : c ≠ 'İ' := by
      rintro rfl
      exact dotted_notMem_kebab s (h.symm ▸ hm)
    obtain ⟨d, hd, -⟩ := exists_small hne ha
    exact ⟨d, hd⟩
  have hl : (s.filter isAlphanumeric).flatMap small = s.filter (· != '-') := by
    rw [← letters, ← kebab_filter, h]
  -- No letter takes more than one place, so nothing but letters stands between hyphens.
  have hsub : (s.filter isAlphanumeric).Sublist (s.filter (· != '-')) := by
    refine List.monotone_filter_right s fun c ha => ?_
    rw [bne_iff_ne]
    rintro rfl
    revert ha
    decide
  have he := hsub.eq_of_length (by rw [← hl, length_flatMap_eq hf])
  rw [← he] at hl
  intro c hc
  by_cases hd : c = '-'
  · exact .inl hd
  · have hm : c ∈ s.filter isAlphanumeric := by
      rw [he, List.mem_filter]
      exact ⟨hc, by simpa using hd⟩
    exact .inr ⟨(List.mem_filter.mp hm).2, flatMap_eq_self hf hl c hm⟩

theorem suffix_hyphenate (done : List Char) : done <:+ hyphenate done := by
  cases done with
  | nil => exact List.suffix_refl _
  | cons c rest =>
    rw [hyphenate]
    split
    · exact List.suffix_refl _
    · exact List.suffix_cons _ _

theorem suffix_scan (done : List Char) (previous : Option Char) (name : List Char) :
    done <:+ scan done previous name := by
  induction name generalizing done previous with
  | nil => exact List.suffix_refl _
  | cons c rest ih =>
    refine List.IsSuffix.trans ?_ (ih _ _)
    have hh := suffix_hyphenate done
    rcases append_cases done previous c rest.head? with ⟨-, he | he⟩ | ⟨-, he | he⟩
    · rw [he]
    · exact he ▸ hh
    · exact he ▸ List.suffix_append _ _
    · exact he ▸ List.IsSuffix.trans hh (List.suffix_append _ _)

theorem startsWord_previous {previous next : Option Char} (h : startsWord previous next = true) :
    ∃ p, previous = some p ∧ p ≠ '-' := by
  cases previous with
  | none => cases h
  | some p =>
    refine ⟨p, rfl, ?_⟩
    rintro rfl
    have hl : isLowercase '-' = false := by decide
    have hu : isUppercase '-' = false := by decide
    simp [startsWord, hl, hu] at h

/-- A capital that starts a word gets a hyphen in front of it. -/
theorem append_of_start {front : List Char} {c : Char} {next : Option Char} (hc : Stays c)
    (hu : isUppercase c = true) (hw : startsWord front.getLast? next = true) :
    append front.reverse front.getLast? c next = c :: '-' :: front.reverse := by
  obtain ⟨p, hp, hne⟩ := startsWord_previous hw
  have hh := hyphenate_of_head? (List.head?_reverse.trans hp) hne
  rcases hc with rfl | ⟨ha, hs⟩
  · exact absurd hu (by decide)
  · have hsep := isSeparator_of_isAlphanumeric ha
    rw [small, if_pos hu] at hs
    simp [append, hsep, ha, hu, hs, hw, hh]

/-- Where the text itself stands in its scan, no hyphen was put in front of a capital. -/
theorem startsWord_of_suffix_scan {front rest : List Char} (hj : Joined (front ++ rest).reverse)
    (hs : ∀ c ∈ rest, Stays c)
    (h : (front ++ rest).reverse <:+ scan front.reverse front.getLast? rest)
    {before behind : List Char} {c : Char} (hr : rest = before ++ c :: behind)
    (hu : isUppercase c = true) :
    startsWord (front ++ before).getLast? behind.head? = false := by
  induction rest generalizing front before with
  | nil => exact absurd hr (by simp)
  | cons d rest ih =>
    rw [List.forall_mem_cons] at hs
    have hassoc : front ++ d :: rest = front ++ [d] ++ rest := by simp
    have hd : d :: front.reverse <:+ (front ++ d :: rest).reverse := ⟨rest.reverse, by simp⟩
    have hstart : isUppercase d = true → startsWord front.getLast? rest.head? = false := by
      intro hd'
      refine eq_false_of_ne_true fun hw => ?_
      -- The scan has a hyphen in the place of the capital.
      rw [scan, append_of_start hs.1 hd' hw] at h
      have hhyphen := List.IsSuffix.trans (List.suffix_cons d ('-' :: front.reverse))
        (suffix_scan _ (some d) rest)
      have he := (List.suffix_of_suffix_length_le hhyphen (List.IsSuffix.trans hd h)
        (by simp)).eq_of_length (by simp)
      cases he
      exact absurd hd' (by decide)
    cases before with
    | nil =>
      cases hr
      rw [List.append_nil]
      exact hstart hu
    | cons e before =>
      cases hr
      have hstep := append_of_stays (hj.of_suffix hd) hs.1 hstart
      rw [scan, hstep, hassoc] at h
      rw [hassoc] at hj
      have hnext := ih hj hs.2 (by simpa using h) rfl
      rwa [List.append_assoc] at hnext

/-- Where no hyphen ends the scan, the slug is the scan. -/
theorem kebab_eq_reverse {name : List Char} (h : (scan [] none name).head? ≠ some '-') :
    kebab name = (scan [] none name).reverse := by
  rw [kebab]
  cases hs : scan [] none name with
  | nil => rfl
  | cons c rest =>
    rw [hs] at h
    rw [List.dropWhile_cons_of_neg (by simpa using h)]

/-- A text is its own slug exactly when its hyphens only part other characters, these stay, and no
capital among them starts a word. -/
theorem kebab_eq_self_iff {s : List Char} :
    kebab s = s ↔ Hyphenated s ∧ (∀ c ∈ s, Stays c) ∧ ¬ CapitalStarts s := by
  constructor
  · intro h
    have hh := hyphenated_kebab s
    have hs := stays_of_kebab_eq h
    rw [h] at hh
    refine ⟨hh, hs, ?_⟩
    rintro ⟨front, c, behind, hf, hu, hw⟩
    have hsuffix : s.reverse <:+ scan [] none s := by
      have hk := congrArg List.reverse h
      rw [kebab, List.reverse_reverse] at hk
      exact hk ▸ List.dropWhile_suffix _
    have hn := @startsWord_of_suffix_scan [] s hh.reverse hs hsuffix front behind c hf hu
    rw [List.nil_append, hw] at hn
    cases hn
  · rintro ⟨hh, hs, hw⟩
    have hscan := @scan_of_stays [] s hh.reverse hs hw
    rw [List.nil_append, List.reverse_nil, List.getLast?_nil] at hscan
    have hlast : (scan [] none s).head? ≠ some '-' := by
      rw [hscan, List.head?_reverse]
      exact hh.last_ne
    rw [kebab_eq_reverse hlast, hscan, List.reverse_reverse]

/-- Only the dotted capital I has a small form that does not stay. -/
theorem stays_kebab_iff {name : List Char} : (∀ c ∈ kebab name, Stays c) ↔ 'İ' ∉ name := by
  constructor
  · intro h hm
    have hmark : '\u0307' ∈ kebab name := by
      refine (mem_kebab_iff (by decide)).mpr (mem_letters.mpr ⟨'İ', hm, by decide +kernel, ?_⟩)
      rw [small_dotted]
      decide
    rcases h _ hmark with hd | ⟨ha, -⟩
    · revert hd
      decide
    · revert ha
      decide +kernel
  · intro h c hc
    by_cases hd : c = '-'
    · exact .inl hd
    · obtain ⟨e, he, ha, hce⟩ := mem_letters.mp ((mem_kebab_iff hd).mp hc)
      obtain ⟨d, hsmall, halpha, hstays⟩ := exists_small (by rintro rfl; exact h he) ha
      rw [hsmall, List.mem_singleton] at hce
      rw [hce]
      exact .inr ⟨halpha, hstays⟩

/-- The slug of the slug of a name is the slug exactly when the name has no dotted capital I and no
capital without a small form starts a word in the slug. -/
theorem ofName_ofName_iff (name : String) :
    ofName (ofName name) = ofName name ↔
      'İ' ∉ name.toList ∧ ¬ CapitalStarts (ofName name).toList := by
  have hs : (ofName name).toList = kebab name.toList := String.toList_ofList
  have he : ofName (ofName name) = ofName name ↔
      kebab (kebab name.toList) = kebab name.toList := by
    rw [← String.toList_inj, ofName, String.toList_ofList, hs]
  rw [he, hs, kebab_eq_self_iff, stays_kebab_iff]
  exact and_iff_right (hyphenated_kebab _)

/-- The small form of the dotted capital I has a mark that the slug of the slug drops. -/
theorem ofName_ofName_dotted : ofName (ofName "İ") ≠ ofName "İ" := by
  decide +kernel

-- A capital of mathematics has no small form. Dropping the comma moves it behind a small letter.
example : CapitalStarts (ofName "a,𝐀").toList :=
  ⟨['a'], '𝐀', [], by decide +kernel, by decide +kernel, by decide +kernel⟩

end ApiDocs.Slug
