import ApiDocs.Proofs.Schema.Gaps
import ApiDocs.Proofs.Slug.Pattern
import ApiDocs.Proofs.Unicode

/-!
# What slugs are made of

The slug of a name keeps the letters and digits of the name in their order, capitals in their small
form, and adds hyphens that only part them. It has the form that the schema asks for exactly when
there is a letter or digit and all of them have small forms in ASCII.
-/

namespace ApiDocs.Slug

open Unicode

/-- The small form of a character that is a capital, any other character as it is. -/
def small (c : Char) : List Char :=
  if isUppercase c then toLowercase c else [c]

/-- The letters and digits of a name, capitals in their small form. -/
def letters (name : List Char) : List Char :=
  (name.filter isAlphanumeric).flatMap small

theorem isAlphanumeric_of_isSeparator {c : Char} (h : isSeparator c = true) :
    isAlphanumeric c = false := by
  simp only [isSeparator, Bool.or_eq_true, beq_iff_eq] at h
  rcases h with ((rfl | rfl) | rfl) | h
  · decide
  · decide
  · decide
  · exact isAlphanumeric_of_isWhite h

theorem isSeparator_of_isAlphanumeric {c : Char} (h : isAlphanumeric c = true) :
    isSeparator c = false := by
  refine eq_false_of_ne_true fun hs => ?_
  rw [isAlphanumeric_of_isSeparator hs] at h
  cases h

theorem small_dotted : small 'İ' = ['i', '\u0307'] := by
  decide +kernel

/-- The small form of a letter is one letter, which has no other small form. -/
theorem exists_small {c : Char} (hc : c ≠ 'İ') (ha : isAlphanumeric c = true) :
    ∃ d, small c = [d] ∧ isAlphanumeric d = true ∧ small d = [d] := by
  by_cases hu : isUppercase c
  · obtain ⟨d, hd, halpha, hsame⟩ := exists_toLowercase hc
    refine ⟨d, by rw [small, if_pos hu, hd], halpha ha, ?_⟩
    by_cases hud : isUppercase d
    · rw [small, if_pos hud, hsame hud, hd, hsame hud]
    · rw [small, if_neg hud]
  · have hs : small c = [c] := by rw [small, if_neg hu]
    exact ⟨c, hs, ha, hs⟩

theorem small_ne_nil {c : Char} (ha : isAlphanumeric c = true) : small c ≠ [] := by
  by_cases hc : c = 'İ'
  · rw [hc, small_dotted]
    exact List.cons_ne_nil _ _
  · obtain ⟨d, hd, -⟩ := exists_small hc ha
    rw [hd]
    exact List.cons_ne_nil _ _

theorem isSeparator_of_mem_small {c d : Char} (ha : isAlphanumeric c = true) (hd : d ∈ small c) :
    isSeparator d = false := by
  by_cases hc : c = 'İ'
  · rw [hc, small_dotted, List.mem_cons, List.mem_singleton] at hd
    rcases hd with rfl | rfl <;> decide
  · obtain ⟨e, he, halpha, -⟩ := exists_small hc ha
    rw [he, List.mem_singleton] at hd
    rw [hd]
    exact isSeparator_of_isAlphanumeric halpha

theorem mem_letters {name : List Char} {d : Char} :
    d ∈ letters name ↔ ∃ c ∈ name, isAlphanumeric c = true ∧ d ∈ small c := by
  simp only [letters, List.mem_flatMap, List.mem_filter, and_assoc]

theorem isSeparator_of_mem_letters {name : List Char} {d : Char} (hd : d ∈ letters name) :
    isSeparator d = false := by
  obtain ⟨c, -, ha, hd⟩ := mem_letters.mp hd
  exact isSeparator_of_mem_small ha hd

theorem letters_cons (c : Char) (rest : List Char) :
    letters (c :: rest) = (if isAlphanumeric c then small c else []) ++ letters rest := by
  rw [letters, List.filter_cons]
  split <;> rfl

theorem Joined.cons {done : List Char} (h : Joined done) {c : Char} (hc : c ≠ '-') :
    Joined (c :: done) := by
  constructor
  · rw [List.getLast?_cons]
    cases hl : done.getLast? with
    | none => simpa using hc
    | some d => simpa [hl] using h.last_ne
  · rw [List.infix_cons_iff, not_or]
    exact ⟨fun hp => hc (List.cons_prefix_cons.mp hp).1.symm, h.single⟩

theorem Joined.append {done : List Char} (h : Joined done) {more : List Char}
    (hm : '-' ∉ more) : Joined (more ++ done) := by
  induction more with
  | nil => exact h
  | cons c rest ih =>
    rw [List.mem_cons, not_or] at hm
    exact (ih hm.2).cons (Ne.symm hm.1)

theorem Joined.hyphenate {done : List Char} (h : Joined done) : Joined (hyphenate done) := by
  cases done with
  | nil => exact h
  | cons c rest =>
    rw [Slug.hyphenate]
    split
    · exact h
    · rename_i hc
      rw [beq_iff_eq] at hc
      constructor
      · rw [List.getLast?_cons_cons]
        exact h.last_ne
      · rw [List.infix_cons_iff, not_or]
        refine ⟨fun hp => hc ?_, h.single⟩
        exact (List.cons_prefix_cons.mp (List.cons_prefix_cons.mp hp).2).1.symm

theorem filter_hyphenate (done : List Char) :
    (hyphenate done).filter (· != '-') = done.filter (· != '-') := by
  cases done with
  | nil => rfl
  | cons c rest =>
    rw [hyphenate]
    split
    · rfl
    · rw [List.filter_cons_of_neg (by decide)]

/-- What one character adds: letters in their small form, perhaps behind a hyphen. -/
theorem append_cases (done : List Char) (previous : Option Char) (c : Char) (next : Option Char) :
    isAlphanumeric c = false ∧
        (append done previous c next = done ∨ append done previous c next = hyphenate done) ∨
      isAlphanumeric c = true ∧
        (append done previous c next = (small c).reverse ++ done ∨
          append done previous c next = (small c).reverse ++ hyphenate done) := by
  by_cases ha : isAlphanumeric c
  · refine .inr ⟨ha, ?_⟩
    have hs := isSeparator_of_isAlphanumeric ha
    by_cases hu : isUppercase c
    · by_cases hw : startsWord previous next
      · exact .inr (by simp [append, small, hs, ha, hu, hw])
      · exact .inl (by simp [append, small, hs, ha, hu, hw])
    · exact .inl (by simp [append, small, hs, ha, hu])
  · refine .inl ⟨eq_false_of_ne_true ha, ?_⟩
    by_cases hs : isSeparator c
    · exact .inr (by simp [append, hs])
    · exact .inl (by simp [append, hs, ha])

theorem Joined.step {done : List Char} (h : Joined done) (previous : Option Char) (c : Char)
    (next : Option Char) : Joined (Slug.append done previous c next) := by
  rcases append_cases done previous c next with ⟨-, he | he⟩ | ⟨ha, he | he⟩
  all_goals rw [he]
  · exact h
  · exact h.hyphenate
  all_goals
    have hm : '-' ∉ (small c).reverse := fun hm =>
      absurd (isSeparator_of_mem_small ha (List.mem_reverse.mp hm)) (by decide)
  · exact h.append hm
  · exact h.hyphenate.append hm

theorem Joined.scan {done : List Char} (h : Joined done) (previous : Option Char)
    (name : List Char) : Joined (Slug.scan done previous name) := by
  induction name generalizing done previous with
  | nil => exact h
  | cons c rest ih => exact ih (h.step previous c rest.head?) (some c)

theorem filter_small {c : Char} (ha : isAlphanumeric c = true) :
    (small c).reverse.filter (· != '-') = (small c).reverse := by
  refine List.filter_eq_self.mpr fun d hd => ?_
  rw [bne_iff_ne]
  rintro rfl
  exact absurd (isSeparator_of_mem_small ha (List.mem_reverse.mp hd)) (by decide)

theorem filter_append (done : List Char) (previous : Option Char) (c : Char)
    (next : Option Char) :
    (append done previous c next).filter (· != '-') =
      (if isAlphanumeric c then small c else []).reverse ++ done.filter (· != '-') := by
  rcases append_cases done previous c next with ⟨ha, he | he⟩ | ⟨ha, he | he⟩
  · rw [he, ha]
    rfl
  · rw [he, ha, filter_hyphenate]
    rfl
  · rw [he, if_pos ha, List.filter_append, filter_small ha]
  · rw [he, if_pos ha, List.filter_append, filter_small ha, filter_hyphenate]

/-- Without its hyphens the slug is what the letters of the name are in small form. -/
theorem filter_scan (done : List Char) (previous : Option Char) (name : List Char) :
    (scan done previous name).filter (· != '-') =
      (letters name).reverse ++ done.filter (· != '-') := by
  induction name generalizing done previous with
  | nil => rfl
  | cons c rest ih =>
    rw [scan, ih, filter_append, letters_cons, List.reverse_append, List.append_assoc]

theorem kebab_filter (name : List Char) : (kebab name).filter (· != '-') = letters name := by
  have hs := filter_scan [] none name
  rw [List.filter_nil, List.append_nil] at hs
  rw [kebab, List.filter_reverse, List.reverse_eq_iff, ← hs]
  generalize scan [] none name = l
  induction l with
  | nil => rfl
  | cons c rest ih =>
    by_cases hc : c = '-'
    · rw [List.dropWhile_cons_of_pos (by simpa using hc), ih, List.filter_cons_of_neg (by simpa)]
    · rw [List.dropWhile_cons_of_neg (by simpa using hc)]

theorem hyphenated_kebab (name : List Char) : Hyphenated (kebab name) := by
  have hj : Joined ((scan [] none name).dropWhile (· == '-')) :=
    (joined_nil.scan none name).of_suffix (List.dropWhile_suffix _)
  have hh := List.head?_dropWhile_not (· == '-') (scan [] none name)
  rw [kebab]
  refine ⟨⟨fun hl => ?_, fun hi => hj.single ?_⟩, by rw [List.head?_reverse]; exact hj.last_ne⟩
  · rw [List.getLast?_reverse] at hl
    rw [hl] at hh
    cases hh
  · have hr := List.reverse_infix.mpr hi
    rwa [List.reverse_reverse] at hr

/-- A character of a slug other than a hyphen is a letter of its name. -/
theorem mem_kebab_iff {name : List Char} {c : Char} (hc : c ≠ '-') :
    c ∈ kebab name ↔ c ∈ letters name := by
  rw [← kebab_filter, List.mem_filter, bne_iff_ne]
  exact (and_iff_left hc).symm

theorem kebab_eq_nil_iff {name : List Char} : kebab name = [] ↔ letters name = [] := by
  rw [← kebab_filter, List.filter_eq_nil_iff]
  constructor
  · intro h
    rw [h]
    exact fun _ hc => absurd hc List.not_mem_nil
  · intro h
    by_contra hne
    refine (hyphenated_kebab name).head_ne ?_
    rw [List.head?_eq_some_head hne]
    simpa using h _ (List.head_mem hne)

theorem letters_eq_nil_iff {name : List Char} :
    letters name = [] ↔ ∀ c ∈ name, isAlphanumeric c = false := by
  rw [letters, List.flatMap_eq_nil_iff]
  constructor
  · intro h c hc
    refine eq_false_of_ne_true fun ha => ?_
    exact small_ne_nil ha (h c (List.mem_filter.mpr ⟨hc, ha⟩))
  · intro h c hc
    obtain ⟨hm, ha⟩ := List.mem_filter.mp hc
    rw [h c hm] at ha
    cases ha

/-- The slug of a name has the form of slugs when the name has letters or digits and the small form
of each is in ASCII. -/
theorem kebab_mem_pattern_iff {name : List Char} :
    kebab name ∈ pattern ↔ (∃ c ∈ name, isAlphanumeric c = true) ∧
      ∀ c ∈ name, isAlphanumeric c = true → ∀ d ∈ small c, isWordChar d = true := by
  have hne : kebab name ≠ [] ↔ ∃ c ∈ name, isAlphanumeric c = true := by
    rw [ne_eq, kebab_eq_nil_iff, letters_eq_nil_iff]
    simp
  rw [(hyphenated_kebab name).mem_pattern_iff, kebab_filter, hne]
  refine and_congr_right fun _ => ⟨fun h c hc ha d hd => ?_, fun h d hd => ?_⟩
  · exact h d (mem_letters.mpr ⟨c, hc, ha, hd⟩)
  · obtain ⟨c, hc, ha, hd⟩ := mem_letters.mp hd
    exact h c hc ha d hd

theorem isWordChar_small_ascii : ∀ code < 128, isAlphanumeric (Char.ofNat code) = true →
    (small (Char.ofNat code)).all isWordChar = true := by
  decide +kernel

/-- The slug of a name is made of its letters and digits in their order, each capital in its small
form, with hyphens that only part them and nothing else. It has the form that the schema asks for
exactly when there are letters or digits and their small forms are in ASCII, as in every name in
ASCII that has one. -/
theorem ofName_canonical (name : String) :
    Hyphenated (ofName name).toList ∧
      (∀ c ∈ (ofName name).toList, c ≠ '_' ∧ c ≠ '.' ∧ isWhite c = false) ∧
      (ofName name).toList.filter (· != '-') =
        (name.toList.filter isAlphanumeric).flatMap small ∧
      ((ofName name).toList ∈ pattern ↔
        (∃ c ∈ name.toList, isAlphanumeric c = true) ∧
          ∀ c ∈ name.toList, isAlphanumeric c = true → ∀ d ∈ small c, isWordChar d = true) ∧
      ((Schema.formed .slug).violations (.string (ofName name)) = [] ↔
        (ofName name).toList ∈ pattern) ∧
      ((∀ c ∈ name.toList, c.toNat < 128) → (∃ c ∈ name.toList, c.isAlphanum = true) →
        (Schema.formed .slug).violations (.string (ofName name)) = []) := by
  have hs : (ofName name).toList = kebab name.toList := String.toList_ofList
  have hv : (Schema.formed .slug).violations (.string (ofName name)) = [] ↔
      kebab name.toList ∈ pattern := by
    rw [Schema.violations_slug, slugGap_eq_nil, isSlug_iff, hs]
  rw [hs, hv]
  refine ⟨hyphenated_kebab _, fun c hc => ?_, kebab_filter _, kebab_mem_pattern_iff, Iff.rfl,
    fun hascii halpha => kebab_mem_pattern_iff.mpr ⟨?_, fun c hc ha => ?_⟩⟩
  · by_cases hd : c = '-'
    · rw [hd]
      decide
    · have hsep := isSeparator_of_mem_letters ((mem_kebab_iff hd).mp hc)
      simp only [isSeparator, Bool.or_eq_false_iff, beq_eq_false_iff_ne] at hsep
      exact ⟨hsep.1.1.1, hsep.1.2, hsep.2⟩
  · obtain ⟨c, hc, ha⟩ := halpha
    exact ⟨c, hc, by rw [isAlphanumeric, if_pos (hascii c hc), ha]⟩
  · have hw := isWordChar_small_ascii c.toNat (hascii c hc)
    rw [Char.ofNat_toNat] at hw
    exact List.all_eq_true.mp (hw ha)

theorem ofName_canonical_request :
    (∀ c ∈ "URLRequest 2.0".toList, c.toNat < 128) ∧
      (∃ c ∈ "URLRequest 2.0".toList, c.isAlphanum = true) ∧
      (Schema.formed .slug).violations (.string (ofName "URLRequest 2.0")) = [] := by
  have hall : ("URLRequest 2.0".toList.all fun c => decide (c.toNat < 128)) = true := by decide
  have ha : ∀ c ∈ "URLRequest 2.0".toList, c.toNat < 128 :=
    fun c hc => of_decide_eq_true (List.all_eq_true.mp hall c hc)
  have hl : ∃ c ∈ "URLRequest 2.0".toList, c.isAlphanum = true := ⟨'U', by decide, by decide⟩
  obtain ⟨-, -, -, -, -, hv⟩ := ofName_canonical "URLRequest 2.0"
  exact ⟨ha, hl, hv ha hl⟩

end ApiDocs.Slug
