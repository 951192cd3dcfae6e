import ApiDocs.Text.Basic
import Mathlib.Data.List.DropRight

/-!
# Trimming and cutting texts

What is found again when a text was put together: trimming takes no more than the white space at the
ends, and a mark is found at its first place.
-/

namespace ApiDocs.Text

open ApiDocs.Unicode

/-- A text without white space at either end. -/
structure Tight (s : List Char) : Prop where
  head : ∀ c ∈ s.head?, isWhite c = false
  last : ∀ c ∈ s.getLast?, isWhite c = false

theorem trimStart_of_head {s : List Char} (h : ∀ c ∈ s.head?, isWhite c = false) :
    trimStart s = s := by
  cases s with
  | nil => rfl
  | cons c rest => rw [trimStart, List.dropWhile_cons_of_neg (by simp [h c rfl])]

theorem trimEnd_of_last {s : List Char} (h : ∀ c ∈ s.getLast?, isWhite c = false) :
    trimEnd s = s := by
  refine List.rdropWhile_eq_self_iff.mpr fun hne => ?_
  simp [h _ (List.getLast?_eq_some_getLast hne)]

theorem trimEnd_prefix (s : List Char) : trimEnd s <+: s :=
  List.rdropWhile_prefix isWhite s

theorem Tight.trim_eq {s : List Char} (h : Tight s) : trim s = s := by
  rw [trim, trimStart_of_head h.head, trimEnd_of_last h.last]

theorem tight_trim (s : List Char) : Tight (trim s) := by
  have hh := List.head?_dropWhile_not isWhite s
  constructor
  · intro c hc
    obtain ⟨behind, hb⟩ := trimEnd_prefix (trimStart s)
    have hd : (s.dropWhile isWhite).head? = some c := by
      change (trimStart s).head? = some c
      rw [← hb, List.head?_append, ← trim, Option.mem_def.mp hc, Option.some_or]
    simpa [hd] using hh
  · intro c hc
    have hne : trim s ≠ [] := by
      rintro he
      rw [he] at hc
      cases hc
    have hl := List.rdropWhile_last_not isWhite (trimStart s) hne
    rw [Option.mem_def, List.getLast?_eq_some_getLast hne, Option.some.injEq] at hc
    rw [← hc]
    exact eq_false_of_ne_true hl

theorem tight_iff {s : List Char} : Tight s ↔ trim s = s :=
  ⟨Tight.trim_eq, fun h => h ▸ tight_trim s⟩

theorem Tight.reverse {s : List Char} (h : Tight s) : Tight s.reverse :=
  ⟨fun c hc => h.last c (List.head?_reverse ▸ hc),
    fun c hc => h.head c (List.getLast?_reverse ▸ hc)⟩

theorem tight_nil : Tight [] :=
  ⟨fun _ h => absurd h (Option.not_mem_none _), fun _ h => absurd h (Option.not_mem_none _)⟩

/-- Between two ends that are not white anything may stand. -/
theorem tight_cons_append {c : Char} {s : List Char} (hc : isWhite c = false) (hs : Tight s)
    (hne : s ≠ []) (between : List Char) : Tight (c :: between ++ s) := by
  refine ⟨fun d hd => ?_, fun d hd => hs.last d ?_⟩
  · cases hd
    exact hc
  · rwa [List.getLast?_append_of_ne_nil _ hne] at hd

/-- Trimming stops at a front that does not end in white space. -/
theorem trimEnd_append {front : List Char} (h : ∀ c ∈ front.getLast?, isWhite c = false)
    (behind : List Char) :
    trimEnd (front ++ behind) = front ++ trimEnd behind := by
  have hf := trimEnd_of_last h
  rw [trimEnd, dropEndWhile, List.reverse_eq_iff] at hf
  rw [trimEnd, dropEndWhile, List.reverse_append, List.dropWhile_append, hf, trimEnd, dropEndWhile]
  split
  · rename_i he
    rw [List.isEmpty_iff.mp he, List.reverse_reverse, List.reverse_nil, List.append_nil]
  · rw [List.reverse_append, List.reverse_reverse]

theorem Tight.trim_append {front : List Char} (h : Tight front) (hne : front ≠ [])
    (behind : List Char) : trim (front ++ behind) = front ++ trimEnd behind := by
  rw [trim, trimStart_of_head, trimEnd_append h.last]
  rw [List.head?_append_of_ne_nil _ hne]
  exact h.head

theorem Tight.trimmed_eq {s : String} (h : Tight s.toList) : trimmed s = s := by
  rw [trimmed, h.trim_eq, String.ofList_toList]

theorem tight_of_trimmed {s : String} (h : trimmed s = s) : Tight s.toList := by
  rw [tight_iff, ← String.toList_ofList (l := trim s.toList)]
  exact congrArg String.toList h

theorem trimStart_append {space : List Char} (h : ∀ c ∈ space, isWhite c = true) (s : List Char) :
    trimStart (space ++ s) = trimStart s :=
  List.dropWhile_append_of_pos h

theorem trim_append {space : List Char} (h : ∀ c ∈ space, isWhite c = true) (s : List Char) :
    trim (space ++ s) = trim s := by
  rw [trim, trimStart_append h, trim]

theorem trim_space (s : List Char) : trim (' ' :: s) = trim s :=
  trim_append (List.forall_mem_singleton.mpr (by decide)) s

theorem trimEnd_white {space : List Char} (h : ∀ c ∈ space, isWhite c = true) :
    trimEnd space = [] :=
  List.rdropWhile_eq_nil_iff.mpr h

/-- Trimming takes white space from both ends. -/
theorem exists_trim (s : List Char) :
    ∃ front back, s = front ++ (trim s ++ back) ∧ ∀ c ∈ front ++ back, isWhite c = true := by
  have hs := List.takeWhile_append_dropWhile (p := isWhite) (l := s)
  have ht := List.takeWhile_append_dropWhile (p := isWhite) (l := (trimStart s).reverse)
  rw [← List.reverse_inj, List.reverse_append, List.reverse_reverse] at ht
  refine ⟨s.takeWhile isWhite, ((trimStart s).reverse.takeWhile isWhite).reverse, ?_, ?_⟩
  · exact hs.symm.trans (congrArg (s.takeWhile isWhite ++ ·) ht.symm)
  · refine List.forall_mem_append.mpr ⟨fun c => List.mem_takeWhile_imp, fun c hc => ?_⟩
    exact List.mem_takeWhile_imp (List.mem_reverse.mp hc)

section Runs

variable {α : Type} {p : α → Bool}

/-- A text is empty, or an element that satisfies the test stands in front, or a maximal run without
one does. -/
@[elab_as_elim]
theorem runs_induction {motive : List α → Prop} (p : α → Bool) (nil : motive [])
    (gap : ∀ c rest, p c = true → motive rest → motive (c :: rest))
    (run : ∀ run rest, run ≠ [] → (∀ c ∈ run, p c = false) → (∀ c ∈ rest.head?, p c = true) →
      motive rest → motive (run ++ rest)) (s : List α) : motive s := by
  match s with
  | [] => exact nil
  | c :: rest =>
    by_cases hc : p c = true
    · exact gap c rest hc (runs_induction p nil gap run rest)
    have ht : (c :: rest).takeWhile (!p ·) = c :: rest.takeWhile (!p ·) :=
      List.takeWhile_cons_of_pos (by simpa using hc)
    have hd : (c :: rest).dropWhile (!p ·) = rest.dropWhile (!p ·) :=
      List.dropWhile_cons_of_pos (by simpa using hc)
    have hh := List.head?_dropWhile_not (!p ·) rest
    rw [← List.takeWhile_append_dropWhile (p := (!p ·)) (l := c :: rest), ht, hd]
    refine run _ _ (List.cons_ne_nil _ _) (fun d hm => ?_) (fun d hm => ?_)
      (runs_induction p nil gap run _)
    · rw [← ht] at hm
      simpa using List.mem_takeWhile_imp hm
    · rw [Option.mem_def.mp hm] at hh
      simpa using hh
termination_by s.length
decreasing_by
  · exact Nat.lt_succ_self _
  · exact Nat.lt_succ_of_le (List.dropWhile_suffix _).length_le

/-- The maximal runs without an element that satisfies the test. -/
def runs (p : α → Bool) (s : List α) : List (List α) :=
  (s.splitOnP p).filter (· ≠ [])

theorem runs_nil : runs p [] = [] := by
  simp [runs]

theorem runs_cons {c : α} (hc : p c = true) (rest : List α) : runs p (c :: rest) = runs p rest := by
  rw [runs, List.splitOnP_cons_eq_if_modifyHead, if_pos hc, List.filter_cons_of_neg (by simp), runs]

theorem runs_append {run rest : List α} (hne : run ≠ []) (hr : ∀ c ∈ run, p c = false)
    (hn : ∀ c ∈ rest.head?, p c = true) : runs p (run ++ rest) = run :: runs p rest := by
  cases rest with
  | nil =>
    rw [List.append_nil, runs, List.splitOnP_eq_singleton hr]
    exact List.filter_cons_of_pos (by simpa using hne)
  | cons c rest =>
    have hc := hn c rfl
    rw [runs_cons hc, runs, List.splitOnP_append_cons_of_forall_mem hr c hc,
      List.filter_cons_of_pos (by simpa using hne), runs]

/-- The first run stands behind elements that satisfy the test and ends at one or with the text. -/
theorem head?_runs {s run : List α} : (runs p s).head? = some run ↔
    run ≠ [] ∧ (∀ c ∈ run, p c = false) ∧ ∃ gap back, s = gap ++ (run ++ back) ∧
      (∀ c ∈ gap, p c = true) ∧ ∀ c ∈ back.head?, p c = true := by
  constructor
  · intro h
    induction s using runs_induction p with
    | nil =>
      rw [runs_nil] at h
      cases h
    | gap c rest hc ih =>
      rw [runs_cons hc] at h
      obtain ⟨hne, hr, gap, back, rfl, hg, hb⟩ := ih h
      exact ⟨hne, hr, c :: gap, back, rfl, List.forall_mem_cons.mpr ⟨hc, hg⟩, hb⟩
    | run first rest hne hr hn ih =>
      rw [runs_append hne hr hn] at h
      cases h
      exact ⟨hne, hr, [], rest, rfl, nofun, hn⟩
  · rintro ⟨hne, hr, gap, back, rfl, hg, hb⟩
    induction gap with
    | nil => rw [List.nil_append, runs_append hne hr hb, List.head?_cons]
    | cons c gap ih =>
      rw [List.forall_mem_cons] at hg
      rw [List.cons_append, runs_cons hg.1]
      exact ih hg.2

theorem forall_mem_runs {s run : List α} (h : run ∈ runs p s) : ∀ c ∈ run, p c = false := by
  induction s using runs_induction p with
  | nil =>
    rw [runs_nil] at h
    cases h
  | gap c rest hc ih =>
    rw [runs_cons hc] at h
    exact ih h
  | run first rest hne hr hn ih =>
    rw [runs_append hne hr hn, List.mem_cons] at h
    rcases h with rfl | h
    · exact hr
    · exact ih h

end Runs

theorem after?_append (beginning : String) (s : List Char) :
    after? beginning (beginning.toList ++ s) = some s :=
  List.isPrefixOf?_eq_some_iff_append_eq.mpr rfl

theorem after?_eq_none {beginning : String} {s : List Char} (h : ¬ beginning.toList <+: s) :
    after? beginning s = none := by
  rw [Option.eq_none_iff_forall_ne_some]
  intro rest hr
  exact h ⟨rest, List.isPrefixOf?_eq_some_iff_append_eq.mp hr⟩

theorem after?_eq_some {beginning : String} {s rest : List Char} :
    after? beginning s = some rest ↔ s = beginning.toList ++ rest := by
  rw [after?, List.isPrefixOf?_eq_some_iff_append_eq, eq_comm]

theorem before?_eq_some {ending : String} {s front : List Char} :
    before? ending s = some front ↔ s = front ++ ending.toList := by
  rw [before?, Option.map_eq_some_iff]
  constructor
  · rintro ⟨back, hb, rfl⟩
    rw [List.isPrefixOf?_eq_some_iff_append_eq, ← List.reverse_eq_iff] at hb
    simpa using hb.symm
  · rintro rfl
    refine ⟨front.reverse, ?_, List.reverse_reverse front⟩
    rw [List.isPrefixOf?_eq_some_iff_append_eq, List.reverse_append]

theorem cut?_mark {mark : Char} {front : List Char} (h : mark ∉ front) (behind : List Char) :
    cut? [mark] (front ++ mark :: behind) = some (front, behind) := by
  induction front with
  | nil => simp [cut?, List.isPrefixOf?]
  | cons c rest ih =>
    rw [List.mem_cons, not_or] at h
    rw [List.cons_append, cut?, ih h.2]
    simp [List.isPrefixOf?, h.1]

theorem cut?_eq_none {mark : Char} {s : List Char} (h : mark ∉ s) : cut? [mark] s = none := by
  induction s with
  | nil => rfl
  | cons c rest ih =>
    rw [List.mem_cons, not_or] at h
    rw [cut?, ih h.2]
    simp [List.isPrefixOf?, h.1]

theorem bne_of_notMem {mark : Char} {s : List Char} (h : mark ∉ s) :
    ∀ c ∈ s, (c != mark) = true := by
  intro c hc
  rw [bne_iff_ne]
  rintro rfl
  exact h hc

/-- Joined pieces are the first one, then the others behind a mark each. -/
theorem intercalate_cons (mark : Char) (first : List Char) (rest : List (List Char)) :
    [mark].intercalate (first :: rest) = first ++ (rest.map ([mark] ++ ·)).flatten := by
  induction rest generalizing first with
  | nil => simp
  | cons next rest ih => simp [List.intercalate_cons_cons, ih]

/-- A beginning without a mark lies before the first mark. -/
theorem prefix_of_mark {beginning front behind : List Char} {mark : Char}
    (hm : mark ∉ beginning) (h : beginning <+: front ++ mark :: behind) : beginning <+: front := by
  have hf : front ++ [mark] <+: front ++ mark :: behind := ⟨behind, by simp⟩
  refine List.prefix_of_prefix_length_le h (List.prefix_append _ _)
    (Nat.le_of_not_lt fun hl => hm ?_)
  have hlen : (front ++ [mark]).length ≤ beginning.length := by
    rw [List.length_append]
    exact hl
  exact (List.prefix_of_prefix_length_le hf h hlen).subset (by simp)

theorem holds_iff {pattern s : List Char} : holds pattern s = true ↔ pattern <:+: s := by
  induction s with
  | nil => rw [holds, List.isEmpty_iff, List.infix_nil]
  | cons c rest ih =>
    rw [holds, Bool.or_eq_true, List.isPrefixOf_iff_prefix, ih, List.infix_cons_iff]

theorem trim_infix (s : List Char) : trim s <:+: s := by
  have hp := trimEnd_prefix (trimStart s)
  exact hp.isInfix.trans (List.dropWhile_suffix isWhite).isInfix

/-- The first piece of a text stands at its front, the other ones further behind. -/
theorem splitOnP_eq_cons {α : Type} (p : α → Bool) (s : List α) :
    ∃ first rest, s.splitOnP p = first :: rest ∧ first <+: s ∧ ∀ piece ∈ rest, piece <:+: s := by
  induction s with
  | nil => exact ⟨[], [], rfl, List.prefix_refl _, fun _ h => absurd h List.not_mem_nil⟩
  | cons c s ih =>
    obtain ⟨first, rest, he, hf, hr⟩ := ih
    rw [List.splitOnP_cons_eq_if_modifyHead, he]
    split
    · refine ⟨[], first :: rest, rfl, List.nil_prefix, List.forall_mem_cons.mpr ⟨?_, ?_⟩⟩
      · exact List.infix_cons hf.isInfix
      · exact fun piece hp => List.infix_cons (hr piece hp)
    · exact ⟨c :: first, rest, rfl, List.prefix_cons_inj c |>.mpr hf,
        fun piece hp => List.infix_cons (hr piece hp)⟩

theorem splitOnP_filter {α : Type} {p q : α → Bool} (h : ∀ x, p x = true → q x = true)
    (l : List α) : (l.filter q).splitOnP p = (l.splitOnP p).map fun piece => piece.filter q := by
  induction l with
  | nil => rfl
  | cons x rest ih =>
    obtain ⟨first, pieces, hp, -⟩ := splitOnP_eq_cons p rest
    rw [hp] at ih
    rw [List.splitOnP_cons_eq_if_modifyHead, hp]
    by_cases hx : q x
    · rw [List.filter_cons_of_pos hx, List.splitOnP_cons_eq_if_modifyHead, ih]
      split <;> simp [hx]
    · rw [List.filter_cons_of_neg hx, ih, if_neg fun hs => hx (h x hs)]
      simp [hx]

theorem splitOnP_map {α β : Type} (f : α → β) (p : β → Bool) (l : List α) :
    (l.map f).splitOnP p = (l.splitOnP fun x => p (f x)).map (List.map f) := by
  induction l with
  | nil => rfl
  | cons x rest ih =>
    obtain ⟨first, pieces, hp, -⟩ := splitOnP_eq_cons (fun x => p (f x)) rest
    rw [hp] at ih
    rw [List.map_cons, List.splitOnP_cons_eq_if_modifyHead, ih,
      List.splitOnP_cons_eq_if_modifyHead, hp]
    split <;> rfl

theorem infix_of_mem_words {s word : List Char} (h : word ∈ words s) : word <:+: s := by
  obtain ⟨first, rest, he, hf, hr⟩ := splitOnP_eq_cons isWhite s
  have hm := List.mem_of_mem_filter h
  rw [he, List.mem_cons] at hm
  rcases hm with rfl | hm
  · exact hf.isInfix
  · exact hr word hm

end ApiDocs.Text
