import ApiDocs.Proofs.Document.Accounting
import ApiDocs.Proofs.Document.Outline
import ApiDocs.Proofs.Document.Shape
import ApiDocs.Proofs.Schema.Gaps

/-!
# What the schema finds in records of documents

Every member heading of a surface is a heading of the document, so the members of a record have the
shapes of their kinds, and the schema finds nothing in the record but texts that are missing.
-/

namespace ApiDocs

namespace Section

mutual

theorem contents_classesAt_subset : ∀ (s : Section) (path : List Nat) {found : ClassHeading},
    found ∈ classesAt path s → found.place.entry.contents ⊆ s.contents
  | ⟨level, title, body, children⟩, path, found, h => by
    rw [classesAt] at h
    split at h
    · rename_i own hc
      obtain ⟨name, -, rfl⟩ := Option.map_eq_some_iff.mp hc
      rw [List.mem_singleton.mp h]
      exact List.Subset.refl _
    · exact List.subset_append_of_subset_right _ (contents_classesAll_subset children path 0 h)

theorem contents_classesAll_subset : ∀ (sections : List Section) (path : List Nat) (n : Nat)
    {found : ClassHeading}, found ∈ classesAll path n sections →
    found.place.entry.contents ⊆ contentsAll sections
  | [], _, _, _, h => by cases h
  | s :: rest, path, n, found, h => by
    rw [classesAll, List.mem_append] at h
    rw [contentsAll]
    rcases h with h | h
    · exact List.subset_append_of_subset_left _
        (List.subset_cons_of_subset _ (contents_classesAt_subset s _ h))
    · exact List.subset_append_of_subset_right _ (contents_classesAll_subset rest path _ h)

end

theorem contents_classes_subset {root : Section} {found : ClassHeading} (h : found ∈ root.classes) :
    found.place.entry.contents ⊆ root.contents := by
  rw [contents_eq root]
  exact List.subset_append_of_subset_right _ (contents_classesAll_subset root.children [] 0 h)

theorem contents_labeled_subset {s : Section} {entry : Collection × Section}
    (h : entry ∈ s.labeled) : entry.2.contents ⊆ s.contents := by
  obtain ⟨child, hc, he⟩ := List.mem_filterMap.mp h
  obtain ⟨collection, -, rfl⟩ := Option.map_eq_some_iff.mp he
  exact List.Subset.trans (List.subset_cons_self _ _) (contents_subset hc)

end Section

namespace Surface

theorem contents_sections_subset {root : Section} {stem : String} {surface : Surface}
    (hs : surface ∈ ofOutline root stem) {entry : Collection × Section}
    (he : entry ∈ surface.sections) : entry.2.contents ⊆ root.contents := by
  rw [ofOutline] at hs
  cases ht : root.top? with
  | none =>
    rw [ht] at hs
    rw [List.mem_singleton.mp hs] at he
    exact absurd he List.not_mem_nil
  | some top =>
    rw [ht] at hs
    have htop := Section.contents_top_subset ht
    rcases List.mem_append.mp hs with hs | hs
    · split at hs
      · rw [List.mem_singleton.mp hs] at he
        exact List.Subset.trans (Section.contents_labeled_subset he) htop
      · exact absurd hs List.not_mem_nil
    · obtain ⟨found, hf, rfl⟩ := List.mem_map.mp hs
      have hclass := Section.contents_classes_subset hf
      rcases List.mem_append.mp he with he | he
      · exact List.Subset.trans (Section.contents_labeled_subset he) hclass
      · split at he
        · exact List.Subset.trans (Section.contents_labeled_subset he) htop
        · exact absurd he List.not_mem_nil

/-- The sections of members stand in the document with all that they hold. -/
theorem contents_memberSections_subset {root : Section} {stem : String} {surface : Surface}
    (hs : surface ∈ ofOutline root stem) {entry : Collection × Section}
    (he : entry ∈ surface.memberSections) :
    .heading entry.2.level entry.2.title :: entry.2.contents ⊆ root.contents := by
  obtain ⟨labeled, hl, he⟩ := List.mem_flatMap.mp he
  obtain ⟨child, hc, rfl⟩ := List.mem_map.mp he
  exact List.Subset.trans (Section.contents_subset hc) (contents_sections_subset hs hl)

/-- The headings of members are headings of the document. -/
theorem heading_mem {root : Section} {stem : String} {surface : Surface}
    (hs : surface ∈ ofOutline root stem) {entry : Collection × Section}
    (he : entry ∈ surface.memberSections) :
    .heading entry.2.level entry.2.title ∈ root.contents :=
  contents_memberSections_subset hs he List.mem_cons_self

end Surface

theorem UrlTemplates.websiteUrl_ne (urls : UrlTemplates) (slug : String) :
    urls.websiteUrl slug ≠ "" := by
  simp [websiteUrl]

theorem UrlTemplates.repoUrl_ne (urls : UrlTemplates) (version slug : String) :
    urls.repoUrl version slug ≠ "" := by
  simp [repoUrl]

/-- Whether no code span in a heading holds a line feed. -/
def HeadingsOneLine (blocks : List Block) : Prop :=
  ∀ level title, .heading level title ∈ blocks → AllOneLine title

theorem Api.mem_gaps {api : Api} {v : Violation} (h : v ∈ api.gaps) :
    v = .tooShort (.string "") 1 ∨ v = .unmatched (.string api.slug) TextForm.slug.pattern := by
  have hb : ∀ {s : String}, v ∈ blank s → v = .tooShort (.string "") 1 := by
    intro s hv
    rw [blank] at hv
    split at hv
    · rename_i hs
      rw [List.mem_singleton.mp hv, hs]
    · exact absurd hv List.not_mem_nil
  simp only [gaps, List.mem_append, List.mem_flatMap, Member.gaps] at h
  rcases h with (((h | h) | h) | h) | ⟨_, -, m, -, h | ⟨p, -, h⟩⟩
  · exact .inl (hb h)
  · rw [slugGap] at h
    split at h
    · exact absurd h List.not_mem_nil
    · exact .inr (List.mem_singleton.mp h)
  all_goals exact .inl (hb h)

theorem Surface.record_shaped {blocks : List Block} (h : HeadingsOneLine blocks)
    {stem : String} {surface : Surface}
    (hs : surface ∈ Surface.ofOutline (Section.ofBlocks blocks) stem) (options : LintOptions)
    (validator : Validator) (collection : Collection) :
    ∀ m ∈ (surface.record options validator).api.collection collection,
      m.Shaped collection.memberKind := by
  intro m hm
  rw [surface.collection_record options validator collection] at hm
  obtain ⟨s, hmem, hread⟩ := mem_membersRead (mem_of_mem_firstBy hm)
  have ht := heading_mem hs hmem
  rw [Section.contents_ofBlocks] at ht
  exact Section.member_shaped (h _ _ ht) hread

/-- The members of a record have the shapes of their kinds. The schema finds the gaps of the record
and nothing else: empty texts, and a slug that is none. So it finds nothing exactly when nothing is
left unsaid. -/
theorem Surface.violations_record {blocks : List Block} (h : HeadingsOneLine blocks)
    {stem : String} {surface : Surface}
    (hs : surface ∈ Surface.ofOutline (Section.ofBlocks blocks) stem) (options : LintOptions)
    (validator : Validator) :
    let api := (surface.record options validator).api
    (∀ collection, ∀ m ∈ api.collection collection, m.Shaped collection.memberKind) ∧
    (Schema.api.violations api.toJson).Perm api.gaps ∧
    (∀ v ∈ Schema.api.violations api.toJson,
      v = .tooShort (.string "") 1 ∨ v = .unmatched (.string api.slug) TextForm.slug.pattern) ∧
    (Validator.api api.toJson = [] ↔ api.Complete) := by
  intro api
  have hm : ∀ collection, ∀ m ∈ api.collection collection, m.Shaped collection.memberKind :=
    surface.record_shaped h hs options validator
  have hp : (Schema.api.violations api.toJson).Perm api.gaps :=
    Api.violations_toJson (options.urls.websiteUrl_ne _) (options.urls.repoUrl_ne _ _) hm
  refine ⟨hm, hp, fun v hv => Api.mem_gaps (hp.mem_iff.mp hv), ?_⟩
  rw [Validator.api, List.map_eq_nil_iff, ← Api.gaps_eq_nil]
  exact ⟨fun hv => List.nil_perm.mp (hv ▸ hp), fun hg => List.perm_nil.mp (hg ▸ hp)⟩

/-- The blocks of a document about a module with one method. -/
def trayBlocks : List Block :=
  [.heading 1 [.text "tray"], .quote [.paragraph [.text "Add icons."]],
    .heading 2 [.text "Methods"], .heading 3 [.code "tray.setIcon(icon)"],
    .list false [[.paragraph [.code "icon", .text " Object - The icon."],
      .list false [[.paragraph [.code "size", .text " Integer"]]]]],
    .paragraph [.text "Sets the icon."]]

def traySurface : Surface :=
  .ofModule "tray" ⟨1, [.text "tray"], [.quote [.paragraph [.text "Add icons."]]],
    [⟨2, [.text "Methods"], [],
      [⟨3, [.code "tray.setIcon(icon)"],
        [.list false [[.paragraph [.code "icon", .text " Object - The icon."],
          .list false [[.paragraph [.code "size", .text " Integer"]]]]],
          .paragraph [.text "Sets the icon."]], []⟩]⟩]⟩

theorem violations_tray :
    HeadingsOneLine trayBlocks ∧
      traySurface ∈ Surface.ofOutline (Section.ofBlocks trayBlocks) "tray" ∧
      (Schema.api.violations
          (traySurface.record ⟨"", .builtin, .standard⟩ .acceptAll).api.toJson).Perm
        (traySurface.record ⟨"", .builtin, .standard⟩ .acceptAll).api.gaps := by
  have h : HeadingsOneLine trayBlocks := by
    intro level title hm
    simp only [trayBlocks, List.mem_cons, Block.heading.injEq, List.not_mem_nil, or_false,
      reduceCtorEq, false_or] at hm
    rcases hm with ⟨-, rfl⟩ | ⟨-, rfl⟩ | ⟨-, rfl⟩ <;> simp [AllOneLine, Inline.OneLine]
  have hs : traySurface ∈ Surface.ofOutline (Section.ofBlocks trayBlocks) "tray" :=
    List.mem_singleton.mpr rfl
  exact ⟨h, hs, (Surface.violations_record h hs ⟨"", .builtin, .standard⟩ .acceptAll).2.1⟩

end ApiDocs
