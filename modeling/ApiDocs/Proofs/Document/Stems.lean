import ApiDocs.Proofs.Document.Localized
import ApiDocs.Proofs.Slug.Camel

/-!
# Localized documents of derived names

A document whose heading is no name gets its name from the stem of its file, and a localized
document of the stem goes with the record through the slug of that name. Where the stem is not the
slug of its camel form, only an alias of the name brings the two together.
-/

namespace ApiDocs

/-- Whether the localized documents of a stem go with a record. -/
def ApiSummary.GoesWith (summary : ApiSummary) (stem : String) : Prop :=
  summary.slug = stem ∨ Slug.ofName summary.name = stem

theorem ApiSummary.goesWith_iff {summary : ApiSummary} {stem : String} :
    (summary.slug == stem || Slug.ofName summary.name == stem) = true ↔ summary.GoesWith stem := by
  rw [Bool.or_eq_true, beq_iff_eq, beq_iff_eq, GoesWith]

theorem counterpart?_eq_none_iff {baseline : List ApiSummary} {stem : String} :
    counterpart? baseline stem = none ↔ ∀ summary ∈ baseline, ¬ summary.GoesWith stem := by
  simp only [counterpart?, List.find?_eq_none, ApiSummary.goesWith_iff]

/-- The only record that goes with a stem is found wherever it stands. -/
theorem counterpart?_eq_some {baseline : List ApiSummary} {stem : String} {summary : ApiSummary}
    (hm : summary ∈ baseline) (hg : summary.GoesWith stem)
    (ho : ∀ other ∈ baseline, other ≠ summary → ¬ other.GoesWith stem) :
    counterpart? baseline stem = some summary := by
  cases hc : counterpart? baseline stem with
  | none => exact absurd hg (counterpart?_eq_none_iff.mp hc summary hm)
  | some found =>
    have hf := List.find?_some hc
    rw [ApiSummary.goesWith_iff] at hf
    refine congrArg some (of_not_not fun hne => ?_)
    exact ho found (List.mem_of_find?_eq_some hc) hne hf

theorem slug_of_mem_lint {docs : List SourceDoc} {options : LintOptions} {validator : Validator}
    {linted : LintedApi} (h : linted ∈ lint docs options validator) :
    linted.api.slug = options.aliases.slugFor linted.api.name := by
  obtain ⟨doc, -, surface, -, rfl⟩ := mem_lint.mp h
  rfl

theorem goesWith_of_mem_lint {docs : List SourceDoc} {options : LintOptions} {validator : Validator}
    {linted : LintedApi} (h : linted ∈ lint docs options validator) (stem : String) :
    linted.api.summary.GoesWith stem ↔
      Slug.ofName linted.api.name = stem ∨ options.aliases.get? linted.api.name = some stem := by
  change linted.api.slug = stem ∨ Slug.ofName linted.api.name = stem ↔ _
  rw [slug_of_mem_lint h, Aliases.slugFor]
  cases options.aliases.get? linted.api.name with
  | none => simp
  | some slug => simp [or_comm]

/-- A stem is the slug of its camel form exactly when its words show where they start. So the
localized document of such a stem is checked against the record that has the camel form for its
name, and that of any other stem is left out unless the stem is an alias of the name. -/
theorem checkLocalized_camel {stem : String} (h : Slug.IsSlug stem) :
    (Slug.ofName (camel stem) = stem ↔ Slug.Traceable stem.toList) ∧
      ∀ docs options validator, ∀ linted ∈ lint docs options validator,
        linted.api.name = camel stem →
        ∀ baseline, linted.api.summary ∈ baseline →
          (∀ other ∈ baseline, other ≠ linted.api.summary → ¬ other.GoesWith stem) →
          ∀ markdown aliases, checkLocalized [⟨stem, markdown⟩] baseline aliases =
            if Slug.Traceable stem.toList ∨ options.aliases.get? (camel stem) = some stem then
              [.ofText (camel stem) markdown aliases]
            else [] := by
  have hback := Slug.ofName_camel_eq_iff h
  refine ⟨hback, fun docs options validator linted hl hn baseline hm ho markdown aliases => ?_⟩
  have hg := goesWith_of_mem_lint hl stem
  rw [hn, hback] at hg
  by_cases hs : linted.api.summary.GoesWith stem
  · rw [if_pos (hg.mp hs), ← hn]
    simp [checkLocalized, counterpart?_eq_some hm hs ho, Api.summary]
  · have hnone : counterpart? baseline stem = none := by
      refine counterpart?_eq_none_iff.mpr fun other hother => ?_
      by_cases he : other = linted.api.summary
      · exact he ▸ hs
      · exact ho other hother he
    rw [if_neg (mt hg.mpr hs)]
    simp [checkLocalized, hnone]

/-- A module named after a file whose stem does not come back. -/
def numberedDocs : List SourceDoc :=
  [⟨"view-3d", "# View in 3D\n\n> Render a scene.\n"⟩]

theorem checkLocalized_camel_numberedDocs :
    Slug.IsSlug "view-3d" ∧ Slug.ofName (camel "view-3d") ≠ "view-3d" ∧
      ∃ linted ∈ lint numberedDocs plainOptions .api, linted.api.name = camel "view-3d" ∧
        ∀ markdown aliases,
          checkLocalized [⟨"view-3d", markdown⟩] [linted.api.summary] aliases = [] := by
  have hs : Slug.IsSlug "view-3d" := by decide
  have ht : ¬ Slug.Traceable "view-3d".toList := by decide
  have ha : plainOptions.aliases.get? (camel "view-3d") ≠ some "view-3d" := by decide +kernel
  have hl : ∃ linted ∈ lint numberedDocs plainOptions .api,
      linted.api.name = camel "view-3d" := by decide +kernel
  obtain ⟨hback, hpairs⟩ := checkLocalized_camel hs
  obtain ⟨linted, hl, hn⟩ := hl
  refine ⟨hs, mt hback.mp ht, linted, hl, hn, fun markdown aliases => ?_⟩
  have hc := hpairs numberedDocs plainOptions .api linted hl hn [linted.api.summary]
    (List.mem_singleton_self _) (fun other ho hne => absurd (List.mem_singleton.mp ho) hne)
    markdown aliases
  rwa [if_neg (not_or.mpr ⟨ht, ha⟩)] at hc

end ApiDocs
