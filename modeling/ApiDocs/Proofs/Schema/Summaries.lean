import ApiDocs.Proofs.Json.Order
import ApiDocs.Proofs.Schema.Admitted
import ApiDocs.Proofs.Schema.Baseline

/-!
# What a baseline may say

The form of summaries admits the lists of objects that have a name, a slug, a kind and a version,
whatever else they have. From each such list the summaries are read, one for each object, so nothing
that passes the check fails afterwards.
-/

namespace ApiDocs

open Json (sorted)

/-- Whether a value is an object with what a summary says, under the keys of a summary. -/
structure Json.Summarizes (value : Json) (summary : ApiSummary) : Prop where
  name : value.get? "name" = some (.string summary.name)
  slug : value.get? "slug" = some (.string summary.slug)
  kind : value.get? "type" = some (.string summary.kind.name)
  version : value.get? "version" = some (.string summary.version)

theorem check_text_zero_eq_nil_iff {value : Json} :
    (Schema.text 0).check value = [] ↔ ∃ s, value = .string s := by
  cases value <;> simp [Schema.check, Schema.resolved, Schema.checkScalar]

theorem check_apiKind_eq_nil_iff {value : Json} :
    (Schema.reference .apiKind).check value = [] ↔ ∃ kind : ApiKind, value = .string kind.name := by
  have hk (s : String) : s ∈ ["Module", "Class"] ↔ ∃ kind : ApiKind, s = kind.name := by
    constructor
    · intro h
      rcases List.mem_cons.mp h with rfl | h
      · exact ⟨.moduleApi, rfl⟩
      · exact ⟨.classApi, List.mem_singleton.mp h⟩
    · rintro ⟨kind, rfl⟩
      cases kind <;> decide
  cases value with
  | string s =>
    simp only [Schema.check, Schema.resolved, Definition.schema, Schema.checkScalar,
      Json.string.injEq, ← hk]
    simp [or_iff_not_imp_left]
  | _ => simp [Schema.check, Schema.resolved, Definition.schema, Schema.checkScalar]

variable {table : List (String × Json)}

theorem check_apiSummary (table : List (String × Json)) :
    (Schema.reference .apiSummary).check (.object table) =
      Schema.checkEntries ApiSummary.fields table ++
        Schema.checkKeys ApiSummary.fields ["name", "slug", "type", "version"] false table := by
  rw [Schema.check]
  rfl

/-- An object that has the form of a summary says what some summary says. -/
theorem exists_summarizes (h : (Schema.reference .apiSummary).check (.object table) = []) :
    ∃ summary, (Json.object table).Summarizes summary := by
  rw [check_apiSummary, List.append_eq_nil_iff] at h
  have hv := Schema.checkEntries_eq_nil_iff.mp h.1
  have hr := (Schema.checkKeys_eq_nil_iff.mp h.2).2
  have hf (key : String) (hk : key ∈ ["name", "slug", "type", "version"]) {field : Schema}
      (hs : Dict.get? key ApiSummary.fields = some field) :
      ∃ value, Dict.get? key table = some value ∧ field.check value = [] := by
    obtain ⟨value, hg⟩ := Option.isSome_iff_exists.mp (hr key hk)
    exact ⟨value, hg, hv _ (Dict.mem_of_get? hg) field hs⟩
  obtain ⟨_, gn, hn⟩ := hf "name" (by decide) rfl
  obtain ⟨_, gs, hs⟩ := hf "slug" (by decide) rfl
  obtain ⟨_, gt, ht⟩ := hf "type" (by decide) rfl
  obtain ⟨_, gv, hv⟩ := hf "version" (by decide) rfl
  obtain ⟨name, rfl⟩ := check_text_zero_eq_nil_iff.mp hn
  obtain ⟨slug, rfl⟩ := check_text_zero_eq_nil_iff.mp hs
  obtain ⟨kind, rfl⟩ := check_apiKind_eq_nil_iff.mp ht
  obtain ⟨version, rfl⟩ := check_text_zero_eq_nil_iff.mp hv
  exact ⟨⟨name, slug, kind, version⟩, gn, gs, gt, gv⟩

theorem Json.Summarizes.check_eq_nil {summary : ApiSummary}
    (h : (Json.object table).Summarizes summary) (hn : (Dict.keys table).Nodup) :
    (Schema.reference .apiSummary).check (.object table) = [] := by
  rw [check_apiSummary, List.append_eq_nil_iff]
  refine ⟨Schema.checkEntries_eq_nil_iff.mpr fun entry he field hf => ?_,
    Schema.checkKeys_eq_nil_iff.mpr ⟨nofun, ?_⟩⟩
  · obtain ⟨key, value⟩ := entry
    have hg : (Json.object table).get? key = some value := (Dict.get?_eq_some hn).mpr he
    have hm := Dict.mem_of_get? hf
    simp only [ApiSummary.fields, List.mem_cons, Prod.mk.injEq, List.not_mem_nil, or_false] at hm
    rcases hm with ⟨rfl, rfl⟩ | ⟨rfl, rfl⟩ | ⟨rfl, rfl⟩ | ⟨rfl, rfl⟩
    · exact check_text_zero_eq_nil_iff.mpr ⟨_, Option.some.inj (hg.symm.trans h.name)⟩
    · exact check_text_zero_eq_nil_iff.mpr ⟨_, Option.some.inj (hg.symm.trans h.slug)⟩
    · exact check_apiKind_eq_nil_iff.mpr ⟨_, Option.some.inj (hg.symm.trans h.kind)⟩
    · exact check_text_zero_eq_nil_iff.mpr ⟨_, Option.some.inj (hg.symm.trans h.version)⟩
  · have hs {key : String} {value : Json} (hg : (Json.object table).get? key = some value) :
        (Dict.get? key table).isSome := Option.isSome_of_eq_some hg
    simpa using ⟨hs h.name, hs h.slug, hs h.kind, hs h.version⟩

/-- A value has the form of a summary when it says, its keys in order, what some summary says. -/
theorem violations_apiSummary_eq_nil_iff {value : Json} :
    (Schema.reference .apiSummary).violations value = [] ↔
      ∃ summary, value.sorted.Summarizes summary := by
  cases value with
  | object entries =>
    rw [Schema.violations, sorted]
    constructor
    · exact exists_summarizes
    · rintro ⟨summary, h⟩
      exact h.check_eq_nil (Dict.ordered_ofList _).nodup_keys
  | _ =>
    refine iff_of_false (List.cons_ne_nil _ _) ?_
    rintro ⟨summary, h⟩
    cases h.name

theorem Json.Summarizes.decode_eq {value : Json} {summary : ApiSummary}
    (h : value.Summarizes summary) : ApiSummary.decode value = .ok summary := by
  have hk : ApiKind.decode (.string summary.kind.name) = .ok summary.kind := by
    cases summary.kind <;> rfl
  cases value with
  | object entries =>
    have hn : Dict.get? "name" entries = _ := h.name
    have hs : Dict.get? "slug" entries = _ := h.slug
    have ht : Dict.get? "type" entries = _ := h.kind
    have hv : Dict.get? "version" entries = _ := h.version
    rw [ApiSummary.decode]
    simp only [Json.field?, hn, hs, ht, hv, hk]
    rfl
  | _ => cases h.name

theorem decodeAll_of_forall₂ {items : List Json} {summaries : List ApiSummary}
    (h : List.Forall₂ Json.Summarizes items summaries) :
    ApiSummary.decodeAll (.array items) = .ok summaries := by
  rw [ApiSummary.decodeAll, Json.decodeList]
  induction h with
  | nil => rfl
  | cons hi _ ih =>
    rw [List.mapM_cons, hi.decode_eq, ih]
    rfl

theorem exists_forall₂_iff {α β : Type} {p : α → β → Prop} {as : List α} :
    (∃ bs, List.Forall₂ p as bs) ↔ ∀ a ∈ as, ∃ b, p a b := by
  induction as with
  | nil => simp
  | cons a rest ih => simp [← ih, List.forall₂_cons_left_iff]

/-- The values of the form of a baseline are the lists of objects that say what summaries say. -/
theorem violations_summaries_eq_nil_iff {value : Json} :
    Schema.summaries.violations value = [] ↔
      ∃ items summaries, value.sorted = .array items ∧
        List.Forall₂ Json.Summarizes items summaries := by
  cases value with
  | array items =>
    have hl : Schema.checkLength (items.map sorted) 0 false = [] := rfl
    rw [Schema.violations_array rfl, hl, List.append_nil, List.flatMap_eq_nil_iff, sorted,
      Json.sortedItems_eq_map]
    simp only [violations_apiSummary_eq_nil_iff, Json.array.injEq, exists_eq_left', exists_and_left]
    rw [exists_forall₂_iff, List.forall_mem_map]
  | _ =>
    refine iff_of_false (List.cons_ne_nil _ _) ?_
    rintro ⟨items, summaries, he, -⟩
    cases he

/-- What a text that is JSON gives: the violations of the form of summaries, else the summaries. -/
theorem readBaseline_of_parse {text : String} {value : Json} (h : Json.parse text = .ok value) :
    (Schema.summaries.violations value ≠ [] ∧
        readBaseline text = .error (.invalid (Schema.summaries.violations value))) ∨
      ∃ items summaries, value = .array items ∧ List.Forall₂ Json.Summarizes items summaries ∧
        Schema.summaries.violations value = [] ∧ readBaseline text = .ok summaries := by
  have hr : readBaseline text = (do
      validate SchemaName.baseline.text value
      (ApiSummary.decodeAll value).mapError .undecoded) := by
    rw [readBaseline, h]
    rfl
  have hn : SchemaName.ofText? SchemaName.baseline.text = some .baseline := by decide
  rw [hr, validate, hn]
  dsimp only [SchemaName.schema]
  cases hv : Schema.summaries.violations value with
  | nil =>
    obtain ⟨items, summaries, he, hs⟩ := violations_summaries_eq_nil_iff.mp hv
    rw [Json.sorted_of_parse h] at he
    subst he
    refine .inr ⟨items, summaries, rfl, hs, rfl, ?_⟩
    rw [decodeAll_of_forall₂ hs]
    rfl
  | cons violation more => exact .inl ⟨List.cons_ne_nil _ _, rfl⟩

theorem readBaseline_of_error {text : String} {e : Json.SyntaxError}
    (h : Json.parse text = .error e) : readBaseline text = .error (.unreadable e) := by
  rw [readBaseline, h]
  rfl

theorem readBaseline_eq_ok_iff {text : String} {summaries : List ApiSummary} :
    readBaseline text = .ok summaries ↔
      ∃ items, Json.parse text = .ok (.array items) ∧
        List.Forall₂ Json.Summarizes items summaries := by
  constructor
  · intro h
    cases hp : Json.parse text with
    | error e => cases (readBaseline_of_error hp).symm.trans h
    | ok value =>
      rcases readBaseline_of_parse hp with ⟨-, hr⟩ | ⟨items, read, rfl, hs, -, hr⟩
      · cases hr.symm.trans h
      · cases hr.symm.trans h
        exact ⟨items, rfl, hs⟩
  · rintro ⟨items, hp, hs⟩
    rcases readBaseline_of_parse hp with ⟨hv, -⟩ | ⟨others, read, he, hs', -, hr⟩
    · exact absurd (violations_summaries_eq_nil_iff.mpr
        ⟨items, summaries, Json.sorted_of_parse hp, hs⟩) hv
    · cases he
      cases (decodeAll_of_forall₂ hs).symm.trans (decodeAll_of_forall₂ hs')
      exact hr

theorem readBaseline_eq_invalid_iff {text : String} {violations : List Violation} :
    readBaseline text = .error (.invalid violations) ↔
      ∃ value, Json.parse text = .ok value ∧ Schema.summaries.violations value = violations ∧
        violations ≠ [] := by
  cases hp : Json.parse text with
  | error e =>
    rw [readBaseline_of_error hp]
    simp
  | ok value =>
    rcases readBaseline_of_parse hp with ⟨hv, hr⟩ | ⟨items, summaries, -, -, hv, hr⟩
    · rw [hr]
      simp only [Except.error.injEq, SchemaError.invalid.injEq, Except.ok.injEq, exists_eq_left']
      exact ⟨fun h => ⟨h, h ▸ hv⟩, And.left⟩
    · rw [hr]
      simp [hv]

theorem readBaseline_eq_unreadable_iff {text : String} {e : Json.SyntaxError} :
    readBaseline text = .error (.unreadable e) ↔ Json.parse text = .error e := by
  refine ⟨fun h => ?_, readBaseline_of_error⟩
  cases hp : Json.parse text with
  | error f =>
    cases (readBaseline_of_error hp).symm.trans h
    rfl
  | ok value =>
    rcases readBaseline_of_parse hp with ⟨-, hr⟩ | ⟨items, summaries, -, -, -, hr⟩ <;>
      cases hr.symm.trans h

/-- A text that is no JSON value is refused with the fault of the reader, one whose value has not
the form of summaries with the violations, at least one, and every other text gives the summaries
that its objects say, in their order. Nothing else can happen: each value of that form is a list
from which the summaries are read. -/
theorem readBaseline_cases (text : String) :
    (∀ e, readBaseline text = .error (.unreadable e) ↔ Json.parse text = .error e) ∧
    (∀ violations, readBaseline text = .error (.invalid violations) ↔
      ∃ value, Json.parse text = .ok value ∧ Schema.summaries.violations value = violations ∧
        violations ≠ []) ∧
    (∀ summaries, readBaseline text = .ok summaries ↔
      ∃ items, Json.parse text = .ok (.array items) ∧
        List.Forall₂ Json.Summarizes items summaries) ∧
    ((∃ e, readBaseline text = .error (.unreadable e)) ∨
      (∃ violations, readBaseline text = .error (.invalid violations)) ∨
      ∃ summaries, readBaseline text = .ok summaries) ∧
    ∀ value : Json, Schema.summaries.violations value = [] ↔
      ∃ items summaries, value.sorted = .array items ∧
        List.Forall₂ Json.Summarizes items summaries ∧
        ApiSummary.decodeAll value.sorted = .ok summaries := by
  refine ⟨fun e => readBaseline_eq_unreadable_iff, fun violations => readBaseline_eq_invalid_iff,
    fun summaries => readBaseline_eq_ok_iff, ?_, fun value => ?_⟩
  · cases hp : Json.parse text with
    | error e => exact .inl ⟨e, readBaseline_of_error hp⟩
    | ok value =>
      rcases readBaseline_of_parse hp with ⟨-, hr⟩ | ⟨items, summaries, -, -, -, hr⟩
      · exact .inr (.inl ⟨_, hr⟩)
      · exact .inr (.inr ⟨summaries, hr⟩)
  · rw [violations_summaries_eq_nil_iff]
    refine exists₂_congr fun items summaries => and_congr_right fun he => ?_
    rw [he]
    exact (and_iff_left_of_imp decodeAll_of_forall₂).symm

end ApiDocs
