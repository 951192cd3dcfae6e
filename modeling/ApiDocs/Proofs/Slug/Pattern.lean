import ApiDocs.Proofs.Text
import ApiDocs.Slug
import Mathlib.Computability.Language

/-!
# The form of slugs

A slug is a word of small letters and digits of ASCII, then more words behind a hyphen each. So its
hyphens only part other characters, and a text with such hyphens is a slug when there are other
characters and all of them are of that kind.
-/

namespace ApiDocs.Slug

open Computability

/-- Whether no hyphen stands at the back of a text and no two stand together. -/
structure Joined (s : List Char) : Prop where
  last_ne : s.getLast? ≠ some '-'
  single : ¬ ['-', '-'] <:+: s

/-- Whether hyphens only part other characters: none stands at an end and no two stand together. -/
structure Hyphenated (s : List Char) : Prop extends Joined s where
  head_ne : s.head? ≠ some '-'

theorem joined_nil : Joined [] :=
  ⟨by simp, by simp⟩

theorem Joined.of_suffix {s t : List Char} (h : Joined s) (ht : t <:+ s) : Joined t := by
  refine ⟨fun hl => h.last_ne ?_, fun hi => h.single (List.IsInfix.trans hi ht.isInfix)⟩
  obtain ⟨front, rfl⟩ := ht
  rw [List.getLast?_append, hl, Option.some_or]

theorem Hyphenated.reverse {s : List Char} (h : Hyphenated s) : Joined s.reverse := by
  refine ⟨by rw [List.getLast?_reverse]; exact h.head_ne, fun hi => h.single ?_⟩
  have hr := List.reverse_infix.mpr hi
  rwa [List.reverse_reverse] at hr

/-- Of the pieces between hyphens only the first can be empty. -/
theorem Joined.nil_notMem_splitOn {s : List Char} (h : Joined s) :
    [] ∉ (s.splitOn '-').tail ∧
      ((s.splitOn '-').head? = some [] → s = [] ∨ s.head? = some '-') := by
  induction s with
  | nil => exact ⟨by simp, fun _ => .inl rfl⟩
  | cons c rest ih =>
    obtain ⟨htail, hhead⟩ := ih (h.of_suffix (List.suffix_cons _ _))
    rw [List.splitOn_eq_splitOnP] at htail hhead ⊢
    rw [List.splitOnP_cons_eq_if_modifyHead]
    cases hp : rest.splitOnP (· == '-') with
    | nil => exact absurd hp (List.splitOnP_ne_nil _ _)
    | cons first pieces =>
      rw [hp] at htail hhead
      by_cases hc : c = '-'
      · rw [if_pos (by simpa using hc)]
        refine ⟨?_, fun _ => .inr (by rw [hc]; rfl)⟩
        rw [List.tail_cons, List.mem_cons, not_or]
        refine ⟨fun hf => ?_, htail⟩
        rcases hhead (by rw [← hf]; rfl) with hr | hr
        · exact h.last_ne (by rw [hr, hc]; rfl)
        · cases rest with
          | nil => cases hr
          | cons d rest =>
            cases hr
            exact h.single ⟨[], rest, by rw [hc]; rfl⟩
      · rw [if_neg (by simpa using hc)]
        exact ⟨htail, fun he => by cases he⟩

theorem Hyphenated.nil_notMem_splitOn {s : List Char} (h : Hyphenated s) (hne : s ≠ []) :
    [] ∉ s.splitOn '-' := by
  obtain ⟨htail, hhead⟩ := h.toJoined.nil_notMem_splitOn
  cases hp : s.splitOn '-' with
  | nil => exact List.not_mem_nil
  | cons first pieces =>
    rw [hp] at htail hhead
    rw [List.mem_cons, not_or]
    refine ⟨fun hf => ?_, htail⟩
    rcases hhead (by rw [← hf]; rfl) with hs | hs
    · exact hne hs
    · exact h.head_ne hs

theorem isWordChar_iff {c : Char} :
    isWordChar c = true ↔ ('a' ≤ c ∧ c ≤ 'z') ∨ ('0' ≤ c ∧ c ≤ '9') := by
  have hs : isWordChar c = (decide ('a' ≤ c) && decide (c ≤ 'z') ||
    decide ('0' ≤ c) && decide (c ≤ '9')) := rfl
  simp [hs]

def word : Language Char :=
  {w | w ≠ [] ∧ ∀ c ∈ w, isWordChar c = true}

/-- The texts that `^[a-z0-9]+(-[a-z0-9]+)*$` describes: a word, then words behind a hyphen each. -/
def pattern : Language Char :=
  word * ({['-']} * word)∗

theorem exists_words {pieces : List (List Char)}
    (h : ∀ piece ∈ pieces, piece ∈ ({['-']} : Language Char) * word) :
    ∃ rest : List (List Char), pieces = rest.map (['-'] ++ ·) ∧ ∀ w ∈ rest, w ∈ word := by
  induction pieces with
  | nil => exact ⟨[], rfl, fun _ h => absurd h List.not_mem_nil⟩
  | cons piece pieces ih =>
    rw [List.forall_mem_cons] at h
    obtain ⟨dash, rfl, w, hw, rfl⟩ := Language.mem_mul.mp h.1
    obtain ⟨rest, rfl, hrest⟩ := ih h.2
    exact ⟨w :: rest, rfl, List.forall_mem_cons.mpr ⟨hw, hrest⟩⟩

theorem eq_of_splitOn {s first : List Char} {rest : List (List Char)}
    (h : s.splitOn '-' = first :: rest) : s = first ++ (rest.map (['-'] ++ ·)).flatten := by
  rw [← Text.intercalate_cons, ← h, List.intercalate_splitOn]

theorem mem_pattern {s : List Char} : s ∈ pattern ↔ ∀ w ∈ s.splitOn '-', w ∈ word := by
  constructor
  · intro h
    obtain ⟨first, hfirst, tail, htail, rfl⟩ := Language.mem_mul.mp h
    obtain ⟨pieces, rfl, hpieces⟩ := Language.mem_kstar.mp htail
    obtain ⟨rest, rfl, hrest⟩ := exists_words hpieces
    have hall : ∀ w ∈ first :: rest, w ∈ word := List.forall_mem_cons.mpr ⟨hfirst, hrest⟩
    have hdash : ∀ w ∈ first :: rest, '-' ∉ w := fun w hw hm =>
      absurd ((hall w hw).2 '-' hm) (by decide)
    rwa [← Text.intercalate_cons, List.splitOn_intercalate '-' hdash (List.cons_ne_nil _ _)]
  · intro h
    cases hp : s.splitOn '-' with
    | nil => exact absurd hp (List.splitOn_ne_nil _ _)
    | cons first rest =>
      rw [hp, List.forall_mem_cons] at h
      rw [eq_of_splitOn hp]
      refine Language.mem_mul.mpr ⟨first, h.1, _, Language.join_mem_kstar fun piece hm => ?_, rfl⟩
      obtain ⟨w, hw, rfl⟩ := List.mem_map.mp hm
      exact Language.mem_mul.mpr ⟨['-'], rfl, w, h.2 w hw, rfl⟩

theorem isSlug_iff {s : String} : IsSlug s ↔ s.toList ∈ pattern :=
  mem_pattern.symm

theorem flatten_splitOn (s : List Char) : (s.splitOn '-').flatten = s.filter (· != '-') := by
  induction s with
  | nil => rfl
  | cons c rest ih =>
    rw [List.splitOn_eq_splitOnP] at ih ⊢
    rw [List.splitOnP_cons_eq_if_modifyHead]
    by_cases hc : c = '-'
    · rw [if_pos (by simpa using hc), List.filter_cons_of_neg (by simpa), ← ih]
      rfl
    · rw [if_neg (by simpa using hc), List.filter_cons_of_pos (by simpa), ← ih]
      cases hp : rest.splitOnP (· == '-') with
      | nil => exact absurd hp (List.splitOnP_ne_nil _ _)
      | cons first pieces => rfl

/-- A text whose hyphens only part other characters has the form of slugs when there are such
characters and all of them are small letters and digits of ASCII. -/
theorem Hyphenated.mem_pattern_iff {s : List Char} (h : Hyphenated s) :
    s ∈ pattern ↔ s ≠ [] ∧ ∀ c ∈ s.filter (· != '-'), isWordChar c = true := by
  rw [mem_pattern, ← flatten_splitOn]
  simp only [List.forall_mem_flatten]
  constructor
  · intro hw
    refine ⟨?_, fun w hm => (hw w hm).2⟩
    rintro rfl
    exact (hw [] (by simp)).1 rfl
  · rintro ⟨hne, hc⟩ w hw
    refine ⟨?_, hc w hw⟩
    rintro rfl
    exact h.nil_notMem_splitOn hne hw

end ApiDocs.Slug
