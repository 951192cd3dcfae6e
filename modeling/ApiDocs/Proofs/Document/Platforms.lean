import ApiDocs.Proofs.Document.Shape
import ApiDocs.Proofs.Text

/-!
# Platforms that markers name

A marker is a list of terms between commas and white space. Writing each `OS X` as one word before
the text is cut makes no other text a marker and takes none away: the two words must stand whole,
one space apart. What a member is restricted to is what the markers in its heading name.
-/

namespace ApiDocs

namespace Platform

/-- Whether a character stands between the terms of a marker. -/
def isGap (c : Char) : Bool :=
  c == ',' || Unicode.isWhite c

inductive Term where
  | macOS
  | windows
  | linux
  | osx
  | osX
  | conjunction

namespace Term

def text : Term → List Char
  | macOS => ['m', 'a', 'c', 'O', 'S']
  | windows => ['W', 'i', 'n', 'd', 'o', 'w', 's']
  | linux => ['L', 'i', 'n', 'u', 'x']
  | osx => ['O', 'S', 'X']
  | osX => ['O', 'S', ' ', 'X']
  | conjunction => ['a', 'n', 'd']

def platform? : Term → Option Platform
  | macOS | osx | osX => some .macOS
  | windows => some .windows
  | linux => some .linux
  | conjunction => none

/-- A term written as one word. -/
def word : Term → List Char
  | osX => osx.text
  | term => term.text

end Term

/-- Whether a text is a list of terms, each of which is a whole: a gap or an end of the text stands
on either side. -/
inductive Lists : List Char → List Term → Prop
  | done : Lists [] []
  | gap {c : Char} {rest : List Char} {terms : List Term} (hc : isGap c = true)
      (hr : Lists rest terms) : Lists (c :: rest) terms
  | term {rest : List Char} {terms : List Term} (t : Term)
      (hg : ∀ c ∈ rest.head?, isGap c = true) (hr : Lists rest terms) :
      Lists (t.text ++ rest) (t :: terms)

/-- The platforms that terms name, as often as they do. -/
def mentioned (terms : List Term) : List Platform :=
  terms.filterMap Term.platform?

/-- Whether a list has each platform that is mentioned, at its first mention. -/
structure ByFirstMention (mentions found : List Platform) : Prop where
  mem_iff : ∀ p, p ∈ found ↔ p ∈ mentions
  ordered : found.Pairwise fun p q => mentions.idxOf p < mentions.idxOf q

theorem Term.word_ne (t : Term) : t.word ≠ [] := by
  cases t <;> exact List.cons_ne_nil _ _

theorem Term.isGap_word (t : Term) : ∀ c ∈ t.word, isGap c = false := by
  have h : t.word.all (!isGap ·) = true := by cases t <;> decide
  simpa using h

theorem ofWord?_word {t : Term} (h : t ≠ .conjunction) :
    ofWord? (String.ofList t.word) = t.platform? := by
  cases t with
  | conjunction => exact absurd rfl h
  | _ => decide

theorem ofWord?_eq_some {word : List Char} {p : Platform} (hw : ∀ c ∈ word, isGap c = false)
    (h : ofWord? (String.ofList word) = some p) :
    ∃ t : Term, t.word = word ∧ t.platform? = some p := by
  have hwhite : ∀ c ∈ word, Unicode.isWhite c = false := fun c hc =>
    (Bool.or_eq_false_iff.mp (hw c hc)).2
  have ht : Text.Tight word :=
    ⟨fun c hc => hwhite c (List.mem_of_head? hc), fun c hc => hwhite c (List.mem_of_getLast? hc)⟩
  rw [ofWord?, trimmed, String.toList_ofList, ht.trim_eq] at h
  split at h
  · rename_i hx
    cases h
    rw [← String.toList_inj, ← String.toList_inj, String.toList_ofList] at hx
    rcases hx with rfl | rfl
    · exact absurd (hw ' ' (by decide)) (by decide)
    · exact ⟨.osx, rfl, rfl⟩
  · have hn := List.find?_some h
    rw [beq_iff_eq, ← String.toList_inj, String.toList_ofList] at hn
    subst hn
    cases p with
    | macOS => exact ⟨.macOS, rfl, rfl⟩
    | windows => exact ⟨.windows, rfl, rfl⟩
    | linux => exact ⟨.linux, rfl, rfl⟩

theorem head?_joinOsx (s : List Char) : (joinOsx s).head? = s.head? := by
  rw [joinOsx.eq_def]
  split <;> rfl

theorem joinOsx_cons {c : Char} {rest : List Char}
    (h : ¬ (c = 'O' ∧ ['S', ' ', 'X'] <+: rest)) : joinOsx (c :: rest) = c :: joinOsx rest := by
  rw [joinOsx]
  rintro behind rfl rfl
  exact h ⟨rfl, behind, rfl⟩

theorem joinOsx_append {front : List Char} (h : 'O' ∉ front) (rest : List Char) :
    joinOsx (front ++ rest) = front ++ joinOsx rest := by
  induction front with
  | nil => rfl
  | cons c front ih =>
    obtain ⟨hc, hf⟩ := not_or.mp (List.mem_cons.not.mp h)
    rw [List.cons_append, joinOsx_cons fun hx => hc hx.1.symm, ih hf]
    rfl

theorem joinOsx_eq_cons {s behind : List Char} {c : Char} (h : joinOsx s = c :: behind) :
    (∃ rest, s = c :: rest ∧ joinOsx rest = behind) ∨
      c = 'O' ∧ ∃ rest, s = ['O', 'S', ' ', 'X'] ++ rest ∧ behind = ['S', 'X'] ++ joinOsx rest := by
  rw [joinOsx.eq_def] at h
  split at h
  · cases h
    exact .inr ⟨rfl, _, rfl, rfl⟩
  · cases h
    exact .inl ⟨_, rfl, rfl⟩
  · cases h

theorem joinOsx_eq_append {front s behind : List Char} (h : 'O' ∉ front)
    (hs : joinOsx s = front ++ behind) : ∃ rest, s = front ++ rest ∧ joinOsx rest = behind := by
  induction front generalizing s with
  | nil => exact ⟨s, rfl, hs⟩
  | cons c front ih =>
    obtain ⟨hc, hf⟩ := not_or.mp (List.mem_cons.not.mp h)
    obtain ⟨tail, rfl, ht⟩ | ⟨rfl, -⟩ := joinOsx_eq_cons hs
    · obtain ⟨rest, rfl, hr⟩ := ih hf ht
      exact ⟨rest, rfl, hr⟩
    · exact absurd rfl hc

theorem Term.head_text (t : Term) : ∃ c rest, t.text = c :: rest ∧ c ≠ ' ' ∧ c ≠ 'X' := by
  cases t <;> exact ⟨_, _, rfl, by decide, by decide⟩

namespace Lists

variable {s : List Char} {terms : List Term}

theorem head?_ne_x (h : Lists s terms) : s.head? ≠ some 'X' := by
  cases h with
  | done => nofun
  | gap hc _ =>
    rintro ⟨⟩
    exact absurd hc (by decide)
  | term t _ _ =>
    obtain ⟨c, rest, ht, -, hx⟩ := t.head_text
    rw [ht]
    rintro ⟨⟩
    exact hx rfl

/-- A lone `X` is no term, so no `OS` at the end of one is joined with what follows. -/
theorem not_lone_x (h : Lists s terms) : ¬ [' ', 'X'] <+: s := by
  intro hp
  cases h with
  | done => exact absurd (List.prefix_nil.mp hp) (List.cons_ne_nil _ _)
  | gap _ hr =>
    obtain ⟨behind, hb⟩ := (List.cons_prefix_cons.mp hp).2
    exact hr.head?_ne_x (hb ▸ rfl)
  | term t _ _ =>
    obtain ⟨c, rest, ht, hs, -⟩ := t.head_text
    rw [ht] at hp
    exact hs (List.cons_prefix_cons.mp hp).1.symm

theorem joinOsx_append (h : Lists s terms) (t : Term) :
    joinOsx (t.text ++ s) = t.word ++ joinOsx s := by
  cases t with
  | macOS =>
    have hx : ¬ ('O' = 'O' ∧ ['S', ' ', 'X'] <+: ['S'] ++ s) := fun hx =>
      h.not_lone_x (List.cons_prefix_cons.mp hx.2).2
    calc joinOsx (['m', 'a', 'c'] ++ 'O' :: (['S'] ++ s))
      _ = ['m', 'a', 'c'] ++ joinOsx ('O' :: (['S'] ++ s)) := Platform.joinOsx_append (by decide) _
      _ = ['m', 'a', 'c'] ++ 'O' :: joinOsx (['S'] ++ s) := by rw [joinOsx_cons hx]
      _ = ['m', 'a', 'c'] ++ 'O' :: (['S'] ++ joinOsx s) := by
        rw [Platform.joinOsx_append (by decide : 'O' ∉ ['S'])]
  | osx =>
    have hx : ¬ ('O' = 'O' ∧ ['S', ' ', 'X'] <+: ['S', 'X'] ++ s) := by simp
    calc joinOsx ('O' :: (['S', 'X'] ++ s))
      _ = 'O' :: joinOsx (['S', 'X'] ++ s) := joinOsx_cons hx
      _ = 'O' :: (['S', 'X'] ++ joinOsx s) := by
        rw [Platform.joinOsx_append (by decide : 'O' ∉ ['S', 'X'])]
  | osX => rfl
  | windows => exact Platform.joinOsx_append (by decide) s
  | linux => exact Platform.joinOsx_append (by decide) s
  | conjunction => exact Platform.joinOsx_append (by decide) s

end Lists

/-- A whole word in the joined text is a term of the text. -/
theorem exists_term {s behind : List Char} {t : Term} (hg : ∀ c ∈ behind.head?, isGap c = true)
    (h : joinOsx s = t.word ++ behind) :
    ∃ (u : Term) (rest : List Char), s = u.text ++ rest ∧ joinOsx rest = behind := by
  cases t with
  | macOS =>
    obtain ⟨s', rfl, hmac⟩ := joinOsx_eq_append (by decide : 'O' ∉ ['m', 'a', 'c']) h
    obtain ⟨s'', rfl, ho⟩ | ⟨-, rest, -, ho⟩ := joinOsx_eq_cons hmac
    · obtain ⟨rest, rfl, hr⟩ := joinOsx_eq_append (by decide : 'O' ∉ ['S']) ho
      exact ⟨.macOS, rest, rfl, hr⟩
    · -- The end of the word, made of `OS X`, would have the `X` behind it.
      obtain rfl := (List.cons.inj ho).2
      exact absurd (hg 'X' rfl) (by decide)
  | windows => exact ⟨.windows, joinOsx_eq_append (by decide) h⟩
  | linux => exact ⟨.linux, joinOsx_eq_append (by decide) h⟩
  | conjunction => exact ⟨.conjunction, joinOsx_eq_append (by decide) h⟩
  | _ =>
    obtain ⟨s', rfl, ho⟩ | ⟨-, rest, hs, ho⟩ := joinOsx_eq_cons h
    · obtain ⟨rest, rfl, hr⟩ := joinOsx_eq_append (by decide : 'O' ∉ ['S', 'X']) ho
      exact ⟨.osx, rest, rfl, hr⟩
    · exact ⟨.osX, rest, hs, (List.append_cancel_left ho).symm⟩

/-- A text is a list of terms where every word of the joined text is the word of one. The induction
is on the runs of the joined text. -/
theorem exists_lists {s : List Char}
    (h : ∀ word ∈ Text.runs isGap (joinOsx s), ∃ t : Term, t.word = word) :
    ∃ terms, Lists s terms := by
  generalize hj : joinOsx s = joined at h
  induction joined using Text.runs_induction isGap generalizing s with
  | nil =>
    have hs : s.head? = none := by
      rw [← head?_joinOsx, hj]
      rfl
    rw [List.head?_eq_none_iff.mp hs]
    exact ⟨[], .done⟩
  | gap c behind hc ih =>
    rw [Text.runs_cons hc] at h
    obtain ⟨rest, rfl, hr⟩ | ⟨rfl, -⟩ := joinOsx_eq_cons hj
    · obtain ⟨terms, ht⟩ := ih hr h
      exact ⟨terms, .gap hc ht⟩
    · exact absurd hc (by decide)
  | run word behind hne hw hg ih =>
    rw [Text.runs_append hne hw hg, List.forall_mem_cons] at h
    obtain ⟨⟨t, rfl⟩, h⟩ := h
    obtain ⟨u, rest, rfl, rfl⟩ := exists_term hg hj
    obtain ⟨terms, ht⟩ := ih rfl h
    rw [head?_joinOsx] at hg
    exact ⟨u :: terms, .term u hg ht⟩

/-- The words of the joined text are those of the terms, one each. -/
theorem Lists.runs_eq {s : List Char} {terms : List Term} (h : Lists s terms) :
    Text.runs isGap (joinOsx s) = terms.map Term.word := by
  induction h with
  | done => exact Text.runs_nil
  | gap hc _ ih =>
    rw [joinOsx_cons, Text.runs_cons hc, ih]
    rintro ⟨rfl, -⟩
    exact absurd hc (by decide)
  | term t hg hr ih =>
    rw [hr.joinOsx_append, Text.runs_append t.word_ne t.isGap_word, ih, List.map_cons]
    rwa [head?_joinOsx]

namespace ByFirstMention

variable {mentions found : List Platform}

theorem nodup (h : ByFirstMention mentions found) : found.Nodup := by
  refine List.Pairwise.imp ?_ h.ordered
  rintro p _ hlt rfl
  exact Nat.lt_irrefl _ hlt

theorem of_distinct (mentions : List Platform) : ByFirstMention mentions (distinct mentions) := by
  induction mentions with
  | nil => exact ⟨fun p => Iff.rfl, .nil⟩
  | cons p rest ih =>
    constructor
    · intro q
      rw [distinct, List.mem_cons, List.mem_filter, ih.mem_iff, List.mem_cons]
      by_cases hq : q = p <;> simp [hq]
    · rw [distinct, List.pairwise_cons]
      have hne : ∀ {q}, q ∈ (distinct rest).filter (· ≠ p) → p ≠ q := fun hq =>
        Ne.symm (of_decide_eq_true (List.mem_filter.mp hq).2)
      constructor
      · intro q hq
        rw [List.idxOf_cons_self, List.idxOf_cons_ne _ (hne hq)]
        exact Nat.succ_pos _
      · refine (ih.ordered.filter _).imp_of_mem fun hq hr hlt => ?_
        rw [List.idxOf_cons_ne _ (hne hq), List.idxOf_cons_ne _ (hne hr)]
        exact Nat.succ_lt_succ hlt

/-- There is one such list. -/
theorem eq_distinct (h : ByFirstMention mentions found) : found = distinct mentions := by
  have hd := of_distinct mentions
  refine List.Perm.eq_of_pairwise (fun p q _ _ hp hq => absurd hq (Nat.lt_asymm hp)) h.ordered
    hd.ordered ?_
  rw [List.perm_ext_iff_of_nodup h.nodup hd.nodup]
  exact fun p => (h.mem_iff p).trans (hd.mem_iff p).symm

end ByFirstMention

theorem distinct_eq_nil {platforms : List Platform} : distinct platforms = [] ↔ platforms = [] := by
  cases platforms with
  | nil => exact Iff.rfl
  | cons p rest => exact iff_of_false (List.cons_ne_nil _ _) (List.cons_ne_nil _ _)

theorem markerWords_eq (text : String) :
    markerWords text =
      ((Text.runs isGap (joinOsx text.toList)).filter (· ≠ Term.conjunction.word)).map
        String.ofList := by
  rw [markerWords, List.filter_map, Text.runs, List.filter_filter]
  refine congrArg _ (List.filter_congr fun word _ => ?_)
  have he : String.ofList word = "" ↔ word = [] := String.ofList_eq_empty_iff
  have ha : String.ofList word = "and" ↔ word = Term.conjunction.word := by
    rw [← String.toList_inj, String.toList_ofList]
    exact Iff.rfl
  simp [he, ha, Bool.and_comm]

theorem mapM_ofWord? (terms : List Term) :
    (((terms.map Term.word).filter (· ≠ Term.conjunction.word)).map String.ofList).mapM ofWord? =
      some (mentioned terms) := by
  induction terms with
  | nil => rfl
  | cons t rest ih =>
    have hw := @ofWord?_word t
    cases t with
    | conjunction =>
      rw [List.map_cons, List.filter_cons_of_neg (by decide), ih]
      rfl
    | _ =>
      rw [List.map_cons, List.filter_cons_of_pos (by decide), List.map_cons, List.mapM_cons,
        hw nofun, ih]
      rfl

theorem exists_ofWord? {words : List String} {platforms : List Platform}
    (h : words.mapM ofWord? = some platforms) : ∀ word ∈ words, ∃ p, ofWord? word = some p := by
  induction words generalizing platforms with
  | nil => exact fun _ hw => absurd hw List.not_mem_nil
  | cons word rest ih =>
    rw [List.mapM_cons] at h
    simp only [Option.bind_eq_bind, Option.bind_eq_some_iff] at h
    obtain ⟨p, hp, platforms, hr, -⟩ := h
    exact List.forall_mem_cons.mpr ⟨⟨p, hp⟩, ih hr⟩

theorem mapM_markerWords_eq_some {text : String} {platforms : List Platform} :
    (markerWords text).mapM ofWord? = some platforms ↔
      ∃ terms, Lists text.toList terms ∧ mentioned terms = platforms := by
  have hl {terms : List Term} (h : Lists text.toList terms) :
      (markerWords text).mapM ofWord? = some (mentioned terms) := by
    rw [markerWords_eq, h.runs_eq, mapM_ofWord?]
  constructor
  · intro h
    obtain ⟨terms, ht⟩ : ∃ terms, Lists text.toList terms := by
      refine exists_lists fun word hw => ?_
      by_cases ha : word = Term.conjunction.word
      · exact ⟨.conjunction, ha.symm⟩
      · have hm : String.ofList word ∈ markerWords text := by
          rw [markerWords_eq]
          exact List.mem_map_of_mem (List.mem_filter.mpr ⟨hw, decide_eq_true ha⟩)
        obtain ⟨p, hp⟩ := exists_ofWord? h _ hm
        obtain ⟨t, ht, -⟩ := ofWord?_eq_some (Text.forall_mem_runs hw) hp
        exact ⟨t, ht⟩
    exact ⟨terms, ht, Option.some.inj ((hl ht).symm.trans h)⟩
  · rintro ⟨terms, ht, rfl⟩
    exact hl ht

theorem ofMarker?_eq_some {text : String} {found : List Platform} :
    ofMarker? text = some found ↔
      ∃ terms, Lists text.toList terms ∧ mentioned terms ≠ [] ∧
        ByFirstMention (mentioned terms) found := by
  have hm := @mapM_markerWords_eq_some text
  have hd : ofMarker? text = some found ↔
      ∃ platforms, (markerWords text).mapM ofWord? = some platforms ∧ platforms ≠ [] ∧
        found = distinct platforms := by
    rw [ofMarker?]
    cases (markerWords text).mapM ofWord? with
    | none => simp
    | some platforms => cases platforms <;> simp [eq_comm]
  rw [hd]
  constructor
  · rintro ⟨platforms, h, hne, rfl⟩
    obtain ⟨terms, ht, rfl⟩ := hm.mp h
    exact ⟨terms, ht, hne, .of_distinct _⟩
  · rintro ⟨terms, ht, hne, hf⟩
    exact ⟨mentioned terms, hm.mpr ⟨terms, ht, rfl⟩, hne, hf.eq_distinct⟩

/-- Two words that stand apart otherwise, or not whole, are not made one. -/
example : ["macOS X", "OS XOS X", "OS  X", "OS,X", "and"].filterMap ofMarker? = [] := by
  decide

end Platform

def emphasized (title : List Inline) : List String :=
  title.filterMap fun inline =>
    match inline with
    | .emphasis content => some (plainText content)
    | _ => none

open Platform

theorem flatMap_emphasis (title : List Inline) :
    (title.flatMap fun inline =>
      match inline with
      | .emphasis content => (ofMarker? (plainText content)).getD []
      | _ => []) = ((emphasized title).filterMap ofMarker?).flatten := by
  induction title with
  | nil => rfl
  | cons inline rest ih =>
    rw [List.flatMap_cons, ih]
    cases inline with
    | emphasis content =>
      have he : emphasized (.emphasis content :: rest) = plainText content :: emphasized rest := rfl
      rw [he, List.filterMap_cons]
      dsimp only
      cases ofMarker? (plainText content) <;> rfl
    | _ => rfl

theorem headingPlatforms_eq (title : List Inline) :
    headingPlatforms title =
      match distinct ((emphasized title).filterMap ofMarker?).flatten with
      | [] => none
      | found => some found := by
  rw [← flatMap_emphasis]
  rfl

theorem headingPlatforms_cases (title : List Inline) :
    (headingPlatforms title = none ∧ ∀ text ∈ emphasized title, ofMarker? text = none) ∨
    ∃ found, headingPlatforms title = some found ∧ found ≠ [] ∧ found.Nodup ∧
      ByFirstMention ((emphasized title).filterMap ofMarker?).flatten found := by
  rw [headingPlatforms_eq]
  split
  · rename_i he
    refine .inl ⟨rfl, fun text ht => ?_⟩
    rw [distinct_eq_nil, List.flatten_eq_nil_iff] at he
    rw [Option.eq_none_iff_forall_ne_some]
    intro found hf
    obtain ⟨terms, -, hne, hm⟩ := ofMarker?_eq_some.mp hf
    have hn := he found (List.mem_filterMap.mpr ⟨text, ht, hf⟩)
    rw [hm.eq_distinct, distinct_eq_nil] at hn
    exact hne hn
  · rename_i hne
    have hf := ByFirstMention.of_distinct ((emphasized title).filterMap ofMarker?).flatten
    exact .inr ⟨_, rfl, hne, hf.nodup, hf⟩

theorem Section.platforms_member {s : Section} {collection : Collection} {owner : String}
    {m : Member} (h : (s.member collection owner).1 = some m) :
    m.platforms = headingPlatforms s.title := by
  rw [member] at h
  split at h
  · cases h
  cases h
  cases collection.memberKind with
  | method => rfl
  | property => rfl
  | event =>
    dsimp only
    rw [event]
    split <;> rfl

/-- A text is a marker exactly when it is a list of terms and one of them names a platform; what is
read from it has each of the platforms at its first mention. So a member is restricted to nothing
where no text in its heading is a marker, and else to what the markers name in turn. -/
theorem Platform.ofMarker?_lists :
    (∀ text : String, (ofMarker? text).isSome ↔
      ∃ terms, Lists text.toList terms ∧ mentioned terms ≠ []) ∧
    (∀ (text : String) (found : List Platform), ofMarker? text = some found ↔
      ∃ terms, Lists text.toList terms ∧ mentioned terms ≠ [] ∧
        ByFirstMention (mentioned terms) found) ∧
    ∀ (s : Section) (collection : Collection) (owner : String) (m : Member),
      (s.member collection owner).1 = some m →
        (m.platforms = none ∧ ∀ text ∈ emphasized s.title, ofMarker? text = none) ∨
        ∃ found, m.platforms = some found ∧ found ≠ [] ∧ found.Nodup ∧
          ByFirstMention ((emphasized s.title).filterMap ofMarker?).flatten found := by
  refine ⟨fun text => ?_, fun text found => ofMarker?_eq_some, fun s collection owner m h => ?_⟩
  · rw [Option.isSome_iff_exists]
    constructor
    · rintro ⟨found, hf⟩
      obtain ⟨terms, ht, hne, -⟩ := ofMarker?_eq_some.mp hf
      exact ⟨terms, ht, hne⟩
    · rintro ⟨terms, ht, hne⟩
      exact ⟨_, ofMarker?_eq_some.mpr ⟨terms, ht, hne, .of_distinct _⟩⟩
  · rw [Section.platforms_member h]
    exact headingPlatforms_cases s.title

/-- A method whose heading tells its platforms in two places. -/
def iconSection : Section where
  level := 4
  title :=
    [.code "win.setIcon(icon)", .emphasis [.text "OS X and macOS"],
      .emphasis [.text "Experimental"], .emphasis [.text "Linux, OSX"]]
  body := []
  children := []

theorem Platform.ofMarker?_lists_iconSection :
    ∃ m, (iconSection.member .instanceMethods "win").1 = some m ∧
      m.platforms = some [.macOS, .linux] ∧
      ByFirstMention [.macOS, .linux, .macOS] [.macOS, .linux] := by
  have hs : (iconSection.member .instanceMethods "win").1.isSome := by decide
  have ha : ((emphasized iconSection.title).filterMap ofMarker?).flatten =
      [.macOS, .linux, .macOS] := by
    decide
  have hx : ofMarker? "OS X and macOS" ≠ none := by decide
  obtain ⟨m, hm⟩ := Option.isSome_iff_exists.mp hs
  obtain ⟨-, hn⟩ | ⟨found, hf, -, -, hb⟩ :=
    ofMarker?_lists.2.2 iconSection .instanceMethods "win" m hm
  · exact absurd (hn "OS X and macOS" (by decide)) hx
  · rw [ha] at hb
    obtain rfl := hb.eq_distinct
    exact ⟨m, hm, hf, hb⟩

end ApiDocs
