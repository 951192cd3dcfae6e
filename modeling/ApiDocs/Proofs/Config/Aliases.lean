import ApiDocs.Config.Settings
import ApiDocs.Proofs.Dict
import ApiDocs.Proofs.Schema.Gaps
import ApiDocs.Proofs.Slug.Expression

/-!
# Configured aliases

Configuration and schema mean the same by a slug. A table of aliases is taken when all of them match
the pattern of the schema, and each name with an alias then has a slug that the schema accepts. Else
the first name whose alias does not match is reported.
-/

namespace ApiDocs

/-- The schema accepts the slugs that its pattern describes. -/
theorem Schema.violations_slug_eq_nil {s : String} :
    (formed .slug).violations (.string s) = [] ↔ s.toList ∈ Slug.expression.language := by
  rw [violations_slug, slugGap_eq_nil, Slug.isSlug_iff_language]

namespace Config.SlugSettings

/-- The first entry whose alias is no slug. -/
def misfit? (settings : SlugSettings) : Option (String × String) :=
  settings.aliases.find? fun (_, slug) => !decide (Slug.IsSlug slug)

variable {settings : SlugSettings}

theorem misfit?_eq_none :
    settings.misfit? = none ↔ ∀ entry ∈ settings.aliases, Slug.IsSlug entry.2 := by
  simp [misfit?, List.find?_eq_none]

/-- The first misfit has the least name of all. -/
theorem misfit?_eq_some (h : Dict.Ordered settings.aliases) {name slug : String} :
    settings.misfit? = some (name, slug) ↔ (name, slug) ∈ settings.aliases ∧
      slug.toList ∉ Slug.expression.language ∧
      ∀ entry ∈ settings.aliases, entry.1 < name →
        entry.2.toList ∈ Slug.expression.language := by
  rw [misfit?, h.find?_eq_some]
  simp [Slug.isSlug_iff_language]

theorem table_eq (settings : SlugSettings) :
    settings.table = match settings.misfit? with
      | some (name, slug) => .error (.noSlug name slug)
      | none => .ok (Aliases.builtin.extend settings.aliases) :=
  rfl

theorem eq_of_table_eq_ok {table : Aliases} (h : settings.table = .ok table) :
    settings.misfit? = none ∧ table = Aliases.builtin.extend settings.aliases := by
  rw [table_eq] at h
  split at h
  · cases h
  · cases h
    exact ⟨‹_›, rfl⟩

theorem table_eq_error {error : InvalidSetting} :
    settings.table = .error error ↔
      ∃ name slug, settings.misfit? = some (name, slug) ∧ error = .noSlug name slug := by
  rw [table_eq]
  constructor
  · intro h
    split at h
    · cases h
      exact ⟨_, _, ‹_›, rfl⟩
    · cases h
  · rintro ⟨name, slug, hm, rfl⟩
    rw [hm]

/-- A configured alias goes before a built-in one. -/
theorem get?_extend_builtin (h : (Dict.keys settings.aliases).Nodup) (name : String) :
    (Aliases.builtin.extend settings.aliases).get? name =
      (Dict.get? name settings.aliases).or (Aliases.builtin.get? name) := by
  rw [Aliases.get?, Aliases.extend, Dict.get?_extend h, Aliases.get?]

theorem isSlug_of_get?_builtin {name slug : String} (h : Aliases.builtin.get? name = some slug) :
    Slug.IsSlug slug := by
  have hm : (name, slug) ∈ [("webviewTag", "webview")] := Dict.mem_of_get? h
  cases List.mem_singleton.mp hm
  decide

theorem isSlug_of_get? (h : settings.misfit? = none) {name slug : String}
    (hs : (Dict.get? name settings.aliases).or (Aliases.builtin.get? name) = some slug) :
    Slug.IsSlug slug := by
  rcases Option.or_eq_some_iff.mp hs with hc | ⟨-, hb⟩
  · exact misfit?_eq_none.mp h _ (Dict.mem_of_get? hc)
  · exact isSlug_of_get?_builtin hb

/-- Configuration takes for a slug what matches the pattern of the schema. A table of aliases, in
the order of its names, is taken exactly when all of them match. Else the error names the first one
in the order of bytes that does not match. From a table that is taken each name with an alias,
configured or built in, gets that alias as its slug, and the schema accepts it. -/
theorem table_pattern (settings : SlugSettings) (h : Dict.Ordered settings.aliases) :
    (TextForm.pattern .slug).toList = '^' :: Slug.expression.written ++ ['$'] ∧
      (∀ s, Slug.IsSlug s ↔ s.toList ∈ Slug.expression.language) ∧
      (∀ s, (Schema.formed .slug).violations (.string s) = [] ↔
        s.toList ∈ Slug.expression.language) ∧
      ((∃ table, settings.table = .ok table) ↔
        ∀ entry ∈ settings.aliases, entry.2.toList ∈ Slug.expression.language) ∧
      (∀ error, settings.table = .error error ↔
        ∃ name slug, error = .noSlug name slug ∧ error.field = "slugs.aliases." ++ name ∧
          (name, slug) ∈ settings.aliases ∧ slug.toList ∉ Slug.expression.language ∧
          ∀ entry ∈ settings.aliases, entry.1.toUTF8.data.toList < name.toUTF8.data.toList →
            entry.2.toList ∈ Slug.expression.language) ∧
      ∀ table, settings.table = .ok table → ∀ name slug,
        (Dict.get? name settings.aliases).or (Aliases.builtin.get? name) = some slug →
          table.slugFor name = slug ∧ (Schema.formed .slug).violations (.string slug) = [] := by
  refine ⟨Slug.pattern_slug, fun s => Slug.isSlug_iff_language,
    fun s => Schema.violations_slug_eq_nil, ?_, fun error => ?_, fun table ht name slug hs => ?_⟩
  · simp only [← Slug.isSlug_iff_language]
    rw [← misfit?_eq_none]
    constructor
    · rintro ⟨table, ht⟩
      exact (eq_of_table_eq_ok ht).1
    · intro hm
      exact ⟨Aliases.builtin.extend settings.aliases, by rw [table_eq, hm]⟩
  · simp only [← Dict.lt_iff_bytes]
    rw [table_eq_error]
    constructor
    · rintro ⟨name, slug, hm, rfl⟩
      exact ⟨name, slug, rfl, rfl, (misfit?_eq_some h).mp hm⟩
    · rintro ⟨name, slug, rfl, -, hm⟩
      exact ⟨name, slug, (misfit?_eq_some h).mpr hm, rfl⟩
  · obtain ⟨hm, rfl⟩ := eq_of_table_eq_ok ht
    refine ⟨?_, ?_⟩
    · rw [Aliases.slugFor, get?_extend_builtin h.nodup_keys, hs, Option.getD_some]
    · rw [Schema.violations_slug_eq_nil, ← Slug.isSlug_iff_language]
      exact isSlug_of_get? hm hs

/-- Aliases of which the first two by name are slugs. -/
def mixedAliases : SlugSettings :=
  ⟨[("app", "app-module"), ("ipc", "ipc2"), ("remote", "remote-"), ("tray", "Tray")]⟩

theorem table_pattern_mixedAliases :
    Dict.Ordered mixedAliases.aliases ∧
      mixedAliases.table = .error (.noSlug "remote" "remote-") ∧
      ("remote", "remote-") ∈ mixedAliases.aliases ∧
      "remote-".toList ∉ Slug.expression.language ∧
      Dict.Ordered (SlugSettings.mk [("app", "app-module")]).aliases ∧
      (SlugSettings.mk [("app", "app-module")]).table =
        .ok ⟨[("app", "app-module"), ("webviewTag", "webview")]⟩ ∧
      (Schema.formed .slug).violations (.string "app-module") = [] := by
  have ho : Dict.Ordered mixedAliases.aliases := by
    unfold Dict.Ordered
    decide
  have he : mixedAliases.table = .error (.noSlug "remote" "remote-") := by decide
  have ha : Dict.Ordered (SlugSettings.mk [("app", "app-module")]).aliases :=
    List.pairwise_singleton _ _
  have ht : (SlugSettings.mk [("app", "app-module")]).table =
      .ok ⟨[("app", "app-module"), ("webviewTag", "webview")]⟩ := by decide
  obtain ⟨-, -, -, -, herror, -⟩ := table_pattern mixedAliases ho
  obtain ⟨name, slug, hn, -, hm, hl, -⟩ := (herror _).mp he
  cases hn
  obtain ⟨-, -, -, -, -, hok⟩ := table_pattern ⟨[("app", "app-module")]⟩ ha
  exact ⟨ho, he, hm, hl, ha, ht, (hok _ ht "app" "app-module" (by decide)).2⟩

end Config.SlugSettings

end ApiDocs
