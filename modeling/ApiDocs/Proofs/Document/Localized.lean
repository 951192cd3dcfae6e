import ApiDocs.Document.Localized
import ApiDocs.Proofs.Document.Accounting
import ApiDocs.Proofs.Document.Segments
import ApiDocs.Proofs.Text

/-!
# Documents checked against their own records

The check of localized documents reads the heading that lint takes for the top one. A document that
was linted without errors and is checked against the summaries of what lint found passes when its
top heading names the record that it goes with. It may go astray only where that record is of a
class below the top heading or of another document, where its name was made from the name of the
file, or where an alias takes the place of the name.
-/

namespace ApiDocs

theorem findSome?_headingText? (level : Nat) (blocks : List Block) :
    blocks.findSome? (Block.headingText? level) =
      (Section.firstHeading? blocks level).map fun heading => plainText heading.2 := by
  induction blocks with
  | nil => rfl
  | cons block rest ih =>
    cases block with
    | heading l title =>
      rw [List.findSome?_cons, ih, Section.firstHeading?, Section.firstHeading?,
        List.filterMap_cons, Block.heading?, List.find?_cons, Block.headingText?]
      by_cases hl : l = level
      · rw [if_pos hl, beq_iff_eq.mpr hl]
        rfl
      · rw [if_neg hl, beq_eq_false_iff_ne.mpr hl]
    | _ => exact ih

/-- The heading that is checked is the top one of the outline. -/
theorem topHeading_eq (blocks : List Block) :
    Block.topHeading blocks =
      ((Section.ofBlocks blocks).top?.map fun p => p.entry.titleText).getD "" := by
  have ht := congrArg (Option.map fun heading : Nat × List Inline => plainText heading.2)
    (Section.map_heading_top? blocks)
  rw [Option.map_map, Option.map_or, ← findSome?_headingText?, ← findSome?_headingText?] at ht
  rw [Block.topHeading, Option.orElse_eq_orElse, Option.orElse_eq_or, ← ht]
  rfl

/-- The first heading of a level has none of that level before it. -/
theorem exists_append_of_firstHeading? {blocks : List Block} {level : Nat}
    {heading : Nat × List Inline} (h : Section.firstHeading? blocks level = some heading) :
    heading.1 = level ∧ ∃ before after, blocks = before ++ .heading level heading.2 :: after ∧
      ∀ title, .heading level title ∉ before := by
  rw [Section.firstHeading?, List.find?_eq_some_iff_append] at h
  obtain ⟨hl, front, back, hh, hf⟩ := h
  obtain ⟨before, rest, rfl, hb, hr⟩ := List.filterMap_eq_append_iff.mp hh
  obtain ⟨skipped, block, after, rfl, hs, hblock, -⟩ := List.filterMap_eq_cons_iff.mp hr
  have hl : heading.1 = level := by simpa using hl
  refine ⟨hl, before ++ skipped, after, ?_, fun title hm => ?_⟩
  · cases block with
    | heading l title =>
      cases hblock
      rw [← hl, List.append_assoc]
    | _ => cases hblock
  · rcases List.mem_append.mp hm with hm | hm
    · have hmem : (level, title) ∈ front := hb ▸ List.mem_filterMap.mpr ⟨_, hm, rfl⟩
      simpa using hf _ hmem
    · cases hs _ hm

/-- Whether a heading is the one that names a document: the first of level one, or the first of
level two where there is none of level one. -/
structure IsTopHeading (blocks : List Block) (level : Nat) (title : List Inline) : Prop where
  level_eq : level = 1 ∨ level = 2 ∧ ∀ other, .heading 1 other ∉ blocks
  first : ∃ before after, blocks = before ++ .heading level title :: after ∧
    ∀ other, .heading level other ∉ before

theorem isTopHeading_of_top? {blocks : List Block} {p : Placed}
    (h : (Section.ofBlocks blocks).top? = some p) :
    IsTopHeading blocks p.entry.level p.entry.title := by
  have hh := Section.map_heading_top? blocks
  rw [h, Option.map_some, eq_comm, Option.or_eq_some_iff] at hh
  rcases hh with h1 | ⟨hn, h2⟩
  · obtain ⟨hl, hf⟩ := exists_append_of_firstHeading? h1
    have hl : p.entry.level = 1 := hl
    exact ⟨.inl hl, hl ▸ hf⟩
  · obtain ⟨hl, hf⟩ := exists_append_of_firstHeading? h2
    have hl : p.entry.level = 2 := hl
    exact ⟨.inr ⟨hl, Section.firstHeading?_eq_none.mp hn⟩, hl ▸ hf⟩

/-- The check and the outline of the same blocks read one heading, the first of level one, else of
level two, and the check reads nothing where the outline has none. -/
theorem topHeading_eq_titleText (blocks : List Block) :
    Block.topHeading blocks =
      ((Section.ofBlocks blocks).top?.map fun p => p.entry.titleText).getD "" ∧
    (∀ p, (Section.ofBlocks blocks).top? = some p →
      IsTopHeading blocks p.entry.level p.entry.title) ∧
    ((Section.ofBlocks blocks).top? = none ↔
      ∀ level title, .heading level title ∈ blocks → level ≠ 1 ∧ level ≠ 2) := by
  refine ⟨topHeading_eq blocks, fun p hp => isTopHeading_of_top? hp, ?_⟩
  rw [← Option.map_eq_none_iff, Section.map_heading_top?, Option.or_eq_none_iff,
    Section.firstHeading?_eq_none, Section.firstHeading?_eq_none]
  constructor
  · rintro ⟨h1, h2⟩ level title hm
    exact ⟨fun hl => h1 title (hl ▸ hm), fun hl => h2 title (hl ▸ hm)⟩
  · intro h
    exact ⟨fun title hm => (h 1 title hm).1 rfl, fun title hm => (h 2 title hm).2 rfl⟩

/-- Whether a title names an API as it stands, as an identifier or as a class. -/
def Names (title name : String) : Prop :=
  isIdentifier title = true ∧ title = name ∨ className? title = some name

theorem ClassTitle.isInfix {title name : String} (h : ClassTitle title name) :
    name.toList <:+: title.toList := by
  obtain ⟨-, front, gap, back, ht, -, -⟩ := h
  exact ⟨front ++ ("Class:".toList ++ gap), back, by rw [ht]; simp⟩

theorem Names.isInfix {title name : String} (h : Names title name) :
    name.toList <:+: title.toList := by
  rcases h with ⟨-, rfl⟩ | h
  · exact List.infix_refl _
  · exact (className?_eq_some.mp h).isInfix

theorem LocalizedCheck.valid_iff {canonical : String} {blocks : List Block} {aliases : Aliases} :
    (ofBlocks canonical blocks aliases).valid = true ↔
      (aliases.expectedName canonical).toList <:+: (Block.topHeading blocks).toList := by
  rw [← Text.holds_iff, valid, ofBlocks, List.isEmpty_iff]
  split
  · rename_i h
    exact iff_of_true rfl h
  · rename_i h
    exact iff_of_false (List.cons_ne_nil _ _) h

def SourceDoc.outline (doc : SourceDoc) : Section :=
  .ofBlocks (Block.ofText doc.markdown)

def SourceDoc.surfaces (doc : SourceDoc) : List Surface :=
  Surface.ofOutline doc.outline doc.stem

theorem mem_lint {docs : List SourceDoc} {options : LintOptions} {validator : Validator}
    {linted : LintedApi} :
    linted ∈ lint docs options validator ↔
      ∃ doc ∈ docs, ∃ surface ∈ doc.surfaces, surface.record options validator = linted := by
  simp only [lint, lintBlocks, List.mem_flatMap, List.mem_map]
  rfl

/-- A document whose records are valid has a top heading. -/
theorem exists_top_of_valid {docs : List SourceDoc} {options : LintOptions} {validator : Validator}
    (h : ∀ linted ∈ lint docs options validator, linted.valid = true) {doc : SourceDoc}
    (hd : doc ∈ docs) : ∃ top, doc.outline.top? = some top := by
  cases ht : doc.outline.top? with
  | some top => exact ⟨top, rfl⟩
  | none =>
    have hs : Surface.undeclared doc.outline doc.stem ∈ doc.surfaces := by
      rw [SourceDoc.surfaces, Surface.ofOutline, ht]
      exact List.mem_singleton_self _
    have hv := h _ (mem_lint.mpr ⟨doc, hd, _, hs, rfl⟩)
    rw [LintedApi.valid, List.isEmpty_iff, Surface.errors_record, List.append_eq_nil_iff,
      List.append_eq_nil_iff] at hv
    exact absurd hv.1.1 (List.cons_ne_nil _ _)

/-- What a surface is named after: the top heading, the file, or a heading below the top one. -/
theorem Surface.names_cases {root : Section} {top : Placed} (ht : root.top? = some top)
    {stem : String} {surface : Surface} (hs : surface ∈ ofOutline root stem) :
    Names top.entry.titleText surface.name ∨
      (isIdentifier top.entry.titleText = false ∧ surface.name = camel stem) ∨
      ∃ place ∈ root.placed [], place.path ≠ top.path ∧
        className? place.entry.titleText = some surface.name := by
  rw [ofOutline, ht] at hs
  rcases List.mem_append.mp hs with hs | hs
  · split at hs
    · obtain rfl := List.mem_singleton.mp hs
      change Names _ (moduleName _ stem) ∨ _ ∧ moduleName _ stem = _ ∨ _
      rw [moduleName]
      split
      · rename_i hi
        exact .inl (.inl ⟨hi, rfl⟩)
      · rename_i hi
        exact .inr (.inl ⟨eq_false_of_ne_true hi, rfl⟩)
    · exact absurd hs List.not_mem_nil
  · obtain ⟨found, hf, rfl⟩ := List.mem_map.mp hs
    have hn := Section.className?_of_mem_classesAll _ _ _ hf
    have hp := Section.place_mem_of_mem_classes hf
    by_cases hw : found.place.path = top.path
    · rw [Section.eq_of_path_eq hp (Section.top?_eq_some ht).1 hw] at hn
      exact .inl (.inr hn)
    · exact .inr (.inr ⟨found.place, hp, hw, hn⟩)

/-- Why the top heading of a document that was linted may lack the name that is expected there. -/
inductive Astray (docs : List SourceDoc) (aliases : Aliases) (doc : SourceDoc) (top : Placed)
    (name : String) : Prop
  /-- The alias of the name does not stand in the heading. -/
  | aliased (slug : String) (hg : aliases.get? name = some slug)
      (hs : ¬ slug.toList <:+: top.entry.titleText.toList)
  /-- The heading is no identifier, so the module got its name from the file. -/
  | derived (hn : ¬ Names top.entry.titleText name)
      (hi : isIdentifier top.entry.titleText = false) (hc : name = camel doc.stem)
  /-- The name is that of a class with a heading of its own. -/
  | inner (hn : ¬ Names top.entry.titleText name) (place : Placed)
      (hp : place ∈ doc.outline.placed []) (hw : place.path ≠ top.path)
      (hc : className? place.entry.titleText = some name)
  /-- The name was found in another document. -/
  | foreign (hn : ¬ Names top.entry.titleText name) (other : SourceDoc) (ho : other ∈ docs)
      (hd : other ≠ doc) (surface : Surface) (hs : surface ∈ other.surfaces)
      (hc : surface.name = name)

/-- What a record found by lint is called comes from a document. -/
theorem exists_surface_of_counterpart {docs : List SourceDoc} {options : LintOptions}
    {validator : Validator} {stem : String} {summary : ApiSummary}
    (h : counterpart? ((lint docs options validator).map fun linted => linted.api.summary) stem =
      some summary) :
    ∃ other ∈ docs, ∃ surface ∈ other.surfaces, surface.name = summary.name := by
  obtain ⟨linted, hl, rfl⟩ := List.mem_map.mp (List.mem_of_find?_eq_some h)
  obtain ⟨other, ho, surface, hs, rfl⟩ := mem_lint.mp hl
  refine ⟨other, ho, surface, hs, ?_⟩
  change _ = (Draft.ofSurface options.version surface).name
  rw [Draft.ofSurface_eq]

theorem astray_of_not_valid {docs : List SourceDoc} {aliases : Aliases} {doc : SourceDoc}
    {top : Placed} (ht : doc.outline.top? = some top) {name : String}
    (hs : ∃ other ∈ docs, ∃ surface ∈ other.surfaces, surface.name = name)
    (h : ¬ (aliases.expectedName name).toList <:+: top.entry.titleText.toList) :
    Astray docs aliases doc top name := by
  cases hg : aliases.get? name with
  | some slug =>
    rw [Aliases.expectedName, hg] at h
    exact .aliased slug hg h
  | none =>
    -- The name itself is expected, so a heading that names the record would hold it.
    rw [Aliases.expectedName, hg] at h
    have hn : ¬ Names top.entry.titleText name := fun hn => h hn.isInfix
    obtain ⟨other, ho, surface, hs, rfl⟩ := hs
    by_cases hd : other = doc
    · subst hd
      rcases Surface.names_cases ht hs with hc | ⟨hi, hc⟩ | ⟨place, hp, hw, hc⟩
      · exact absurd hc hn
      · exact .derived hn hi hc
      · exact .inner hn place hp hw hc
    · exact .foreign hn other ho hd surface hs rfl

/-- Documents that lint finds valid have top headings. Checked against the summaries of their records
with the same aliases they are read there, each for the first record that its file is named after,
and pass but where they go astray. -/
theorem checkLocalized_own {docs : List SourceDoc} {options : LintOptions}
    (h : ∀ linted ∈ lint docs options .api, linted.valid = true) :
    let baseline := (lint docs options .api).map fun linted => linted.api.summary
    (∀ doc ∈ docs, ∃ top, doc.outline.top? = some top) ∧
    ∀ check ∈ checkLocalized docs baseline options.aliases,
      ∃ doc ∈ docs, ∃ top summary, doc.outline.top? = some top ∧
        check.name = top.entry.titleText ∧ counterpart? baseline doc.stem = some summary ∧
        check.canonical = summary.name ∧
        (check.valid = true ∨ Astray docs options.aliases doc top summary.name) := by
  intro baseline
  refine ⟨fun doc hd => exists_top_of_valid h hd, fun check hc => ?_⟩
  obtain ⟨doc, hd, hc⟩ := List.mem_filterMap.mp hc
  obtain ⟨summary, hs, rfl⟩ := Option.map_eq_some_iff.mp hc
  obtain ⟨top, ht⟩ := exists_top_of_valid h hd
  have hn : Block.topHeading (Block.ofText doc.markdown) = top.entry.titleText := by
    rw [topHeading_eq]
    change (doc.outline.top?.map _).getD "" = _
    rw [ht]
    rfl
  refine ⟨doc, hd, top, summary, ht, hn, hs, rfl, ?_⟩
  rw [LocalizedCheck.ofText, LocalizedCheck.valid_iff, hn]
  rw [or_iff_not_imp_left]
  exact astray_of_not_valid ht (exists_surface_of_counterpart hs)

/-- Whether documents pass the check against their own records whenever these are valid. -/
def PassThemselves (docs : List SourceDoc) (options : LintOptions) : Prop :=
  (∀ linted ∈ lint docs options .api, linted.valid = true) →
    ∀ check ∈ checkLocalized docs ((lint docs options .api).map fun linted => linted.api.summary)
      options.aliases, check.valid = true

instance (docs : List SourceDoc) (options : LintOptions) : Decidable (PassThemselves docs options) :=
  inferInstanceAs (Decidable (_ → _))

/-- What shapes the records of the documents below. -/
def plainOptions : LintOptions :=
  ⟨"0.0.0", .builtin, .standard⟩

/-- A module whose alias is not its heading. -/
def aliasedDocs : List SourceDoc :=
  [⟨"app", "# app\n\n> Control the app.\n"⟩]

/-- A module named after its file. -/
def derivedDocs : List SourceDoc :=
  [⟨"web-contents", "# Web Contents\n\n> Render web pages.\n"⟩]

/-- A file named after a class under the heading of a module. -/
def innerDocs : List SourceDoc :=
  [⟨"tray", "# app\n\n> Control the app.\n\n## Class: Tray\n\n> Add icons.\n"⟩]

/-- Two files of one name about modules whose names differ. -/
def foreignDocs : List SourceDoc :=
  [⟨"tray", "# Tray\n\n> Add icons.\n"⟩, ⟨"tray", "# tray\n\n> Add icons.\n"⟩]

/-- Each cause to go astray is met by documents whose records are valid. -/
theorem not_passThemselves :
    ¬ PassThemselves aliasedDocs
        { plainOptions with aliases := Aliases.builtin.insert "app" "app-module" } ∧
      ¬ PassThemselves derivedDocs plainOptions ∧ ¬ PassThemselves innerDocs plainOptions ∧
      ¬ PassThemselves foreignDocs plainOptions := by
  decide +kernel

theorem checkLocalized_own_derivedDocs :
    let linted := lint derivedDocs plainOptions .api
    (∀ l ∈ linted, l.valid = true) ∧
      (∀ doc ∈ derivedDocs, ∃ top, doc.outline.top? = some top) ∧
      ∃ check ∈ checkLocalized derivedDocs (linted.map fun l => l.api.summary) .builtin,
        check.valid = false ∧ ∃ doc ∈ derivedDocs, ∃ top name, doc.outline.top? = some top ∧
          Astray derivedDocs .builtin doc top name := by
  intro linted
  have hv : ∀ l ∈ linted, l.valid = true := by decide +kernel
  have hc : ∃ check ∈ checkLocalized derivedDocs (linted.map fun l => l.api.summary) .builtin,
      check.valid = false := by decide +kernel
  obtain ⟨check, hm, hf⟩ := hc
  obtain ⟨htop, hown⟩ := checkLocalized_own hv
  obtain ⟨doc, hd, top, summary, ht, -, -, -, ha⟩ := hown check hm
  refine ⟨hv, htop, check, hm, hf, doc, hd, top, summary.name, ht, ha.resolve_left ?_⟩
  rw [hf]
  exact Bool.false_ne_true

end ApiDocs
