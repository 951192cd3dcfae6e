import ApiDocs.Proofs.Slug.Pattern
import ApiDocs.Schema.Basic

/-!
# The form of slugs as a regular expression

The schema asks for the form of slugs in a regular expression. The texts that it describes are
those whose pieces between hyphens are words of small letters and digits.
-/

namespace ApiDocs

open Computability

/-- Regular expressions, as far as forms of text need them. -/
inductive Expression where
  | char (c : Char)
  /-- One character that lies in some of the spans. -/
  | oneOf (spans : List (Char × Char))
  | seq (first second : Expression)
  | star (repeated : Expression)
  | plus (repeated : Expression)

namespace Expression

/-- The texts that an expression describes. -/
def language : Expression → Language Char
  | char c => {[c]}
  | oneOf spans => {s | ∃ c, s = [c] ∧ ∃ span ∈ spans, span.1 ≤ c ∧ c ≤ span.2}
  | seq first second => first.language * second.language
  | star repeated => repeated.language∗
  | plus repeated => repeated.language * repeated.language∗

def isSingle : Expression → Bool
  | char _ => true
  | oneOf _ => true
  | _ => false

def written : Expression → List Char
  | char c => [c]
  | oneOf spans => '[' :: spans.flatMap (fun span => [span.1, '-', span.2]) ++ [']']
  | seq first second => first.written ++ second.written
  | star repeated =>
    (if repeated.isSingle then repeated.written else '(' :: repeated.written ++ [')']) ++ ['*']
  | plus repeated =>
    (if repeated.isSingle then repeated.written else '(' :: repeated.written ++ [')']) ++ ['+']

theorem mem_star_oneOf {spans : List (Char × Char)} {s : List Char} :
    s ∈ (star (oneOf spans)).language ↔ ∀ c ∈ s, ∃ span ∈ spans, span.1 ≤ c ∧ c ≤ span.2 := by
  rw [language, Language.mem_kstar]
  constructor
  · rintro ⟨pieces, rfl, hp⟩ c hc
    obtain ⟨piece, hm, hc⟩ := List.mem_flatten.mp hc
    obtain ⟨d, rfl, hd⟩ := hp piece hm
    rwa [List.mem_singleton.mp hc]
  · intro h
    have hs : (s.map fun c => [c]).flatten = s := by rw [← List.flatMap_def, List.flatMap_singleton']
    refine ⟨s.map fun c => [c], hs.symm, fun piece hm => ?_⟩
    obtain ⟨c, hc, rfl⟩ := List.mem_map.mp hm
    exact ⟨c, rfl, h c hc⟩

theorem mem_plus_oneOf {spans : List (Char × Char)} {s : List Char} :
    s ∈ (plus (oneOf spans)).language ↔
      s ≠ [] ∧ ∀ c ∈ s, ∃ span ∈ spans, span.1 ≤ c ∧ c ≤ span.2 := by
  rw [language, Language.mem_mul]
  constructor
  · rintro ⟨front, ⟨c, rfl, hc⟩, rest, hr, rfl⟩
    exact ⟨List.cons_ne_nil _ _, List.forall_mem_cons.mpr ⟨hc, mem_star_oneOf.mp hr⟩⟩
  · rintro ⟨hne, h⟩
    cases s with
    | nil => exact absurd rfl hne
    | cons c rest =>
      rw [List.forall_mem_cons] at h
      exact ⟨[c], ⟨c, rfl, h.1⟩, rest, mem_star_oneOf.mpr h.2, rfl⟩

end Expression

namespace Slug

/-- Words of small letters and digits of ASCII as an expression. -/
def wordExpression : Expression :=
  .plus (.oneOf [('a', 'z'), ('0', '9')])

/-- The expression for slugs: a word, then words behind a hyphen each. -/
def expression : Expression :=
  .seq wordExpression (.star (.seq (.char '-') wordExpression))

/-- The schema asks for this expression from the first to the last character. -/
theorem pattern_slug :
    (TextForm.pattern .slug).toList = '^' :: expression.written ++ ['$'] := by
  decide

theorem language_wordExpression : wordExpression.language = word := by
  ext s
  rw [wordExpression, Expression.mem_plus_oneOf]
  refine and_congr_right fun _ => forall₂_congr fun c _ => ?_
  simp [isWordChar_iff]

/-- Testing the pieces between the hyphens is matching the expression. -/
theorem isSlug_iff_language {s : String} : IsSlug s ↔ s.toList ∈ expression.language := by
  have hp : expression.language = pattern := by
    rw [expression, Expression.language, Expression.language, Expression.language,
      Expression.language, language_wordExpression, pattern]
  rw [isSlug_iff, hp]

end Slug

end ApiDocs
