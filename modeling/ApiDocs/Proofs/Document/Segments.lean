import ApiDocs.Proofs.Document.Places
import Mathlib.Data.List.Forall2

/-!
# Documents as surfaces

Every document has a surface. A document without a heading of level one or two is a module that is
not declared. In any other document the surfaces are the module, unless a class heads the document
or has its name, and the outermost classes; what is labeled right under the top heading or under a
class is among the sections of some surface.
-/

namespace ApiDocs

theorem exists_of_forall₂_left {α β : Type} {R : α → β → Prop} {l : List α} {m : List β}
    (h : List.Forall₂ R l m) {a : α} (ha : a ∈ l) : ∃ b ∈ m, R a b := by
  induction h with
  | nil => exact absurd ha List.not_mem_nil
  | cons hr _ ih =>
    rcases List.mem_cons.mp ha with rfl | ha
    · exact ⟨_, List.mem_cons_self, hr⟩
    · obtain ⟨b, hb, hab⟩ := ih ha
      exact ⟨b, List.mem_cons_of_mem _ hb, hab⟩

theorem exists_of_forall₂_right {α β : Type} {R : α → β → Prop} {l : List α} {m : List β}
    (h : List.Forall₂ R l m) {b : β} (hb : b ∈ m) : ∃ a ∈ l, R a b :=
  exists_of_forall₂_left h.flip hb

namespace Section

variable {root : Section} {top : Placed}

theorem top?_eq : root.top? = ((root.placed []).find? fun p => p.entry.level == 1).or
    ((root.placed []).find? fun p => p.entry.level == 2) := by
  rw [top?, Option.orElse_eq_orElse, Option.orElse_eq_or]

theorem top?_eq_some (h : root.top? = some top) :
    top ∈ root.placed [] ∧ (top.entry.level = 1 ∨
      top.entry.level = 2 ∧ ∀ p ∈ root.placed [], p.entry.level ≠ 1) := by
  rw [top?_eq, Option.or_eq_some_iff] at h
  rcases h with h | ⟨hn, h⟩
  · exact ⟨List.mem_of_find?_eq_some h, .inl (by simpa using List.find?_some h)⟩
  · refine ⟨List.mem_of_find?_eq_some h, .inr ⟨by simpa using List.find?_some h, ?_⟩⟩
    simpa using hn

/-- The first heading of a level among blocks. -/
def firstHeading? (blocks : List Block) (level : Nat) : Option (Nat × List Inline) :=
  (blocks.filterMap Block.heading?).find? fun heading => heading.1 == level

theorem firstHeading?_eq_none {blocks : List Block} {level : Nat} :
    firstHeading? blocks level = none ↔ ∀ title, .heading level title ∉ blocks := by
  rw [firstHeading?, List.find?_eq_none]
  constructor
  · intro h title hm
    exact h (level, title) (List.mem_filterMap.mpr ⟨_, hm, rfl⟩) (beq_self_eq_true level)
  · rintro h ⟨l, title⟩ hm hl
    obtain ⟨block, hb, he⟩ := List.mem_filterMap.mp hm
    obtain rfl : l = level := eq_of_beq hl
    cases block with
    | heading => cases he; exact h title hb
    | _ => cases he

/-- The top heading is the first of level one among the blocks, else the first of level two. -/
theorem map_heading_top? (blocks : List Block) :
    (ofBlocks blocks).top?.map (fun p => p.entry.heading) =
      (firstHeading? blocks 1).or (firstHeading? blocks 2) := by
  have hf : ∀ level, level ≠ 0 →
      (((ofBlocks blocks).placed []).find? fun p => p.entry.level == level).map
        (fun p => p.entry.heading) = firstHeading? blocks level := by
    intro level hl
    have hz : ¬ ((0 : Nat) == level) = true := by simpa using hl.symm
    rw [firstHeading?, ← List.find?_cons_of_neg (a := ((0, []) : Nat × List Inline)) hz,
      ← headings_ofBlocks, List.find?_map]
    rfl
  rw [top?_eq, Option.map_or, hf 1 (by decide), hf 2 (by decide)]

/-- Only what is under a heading declares a class. -/
theorem IsDocument.level_pos (h : root.IsDocument) {p : Placed} (hp : p ∈ root.placed [])
    (hd : p.entry.DeclaresClass) : 0 < p.entry.level := by
  have hl := h.level_lt
  have ht := h.title_eq
  have hz := h.level_eq
  obtain ⟨level, title, body, children⟩ := root
  rw [placed, List.mem_cons] at hp
  rw [sections, List.forall_mem_cons] at hl
  rcases hp with rfl | hp
  · rw [declaresClass_iff, titleText, ht] at hd
    exact absurd hd (by decide)
  · rw [← hz]
    exact level_lt_of_mem_placedAll children [] 0 hl.1 hl.2 p hp

/-- Where the top heading declares a class, no class is around it. -/
theorem IsDocument.top_mem_outerClasses (h : root.IsDocument) (ht : root.top? = some top) :
    top ∈ root.outerClasses ↔ top.entry.DeclaresClass := by
  obtain ⟨hm, hl⟩ := top?_eq_some ht
  rw [outerClasses, List.mem_filter]
  constructor
  · intro ho
    exact (of_decide_eq_true ho.2).1
  · intro hd
    refine ⟨hm, decide_eq_true ⟨hd, fun q hq hi hc => ?_⟩⟩
    have hpos := h.level_pos hq hc
    have hlt := level_lt_of_inside root [] h.level_lt top hm q hq hi
    rcases hl with h1 | ⟨h2, hn⟩
    · omega
    · have := hn q hq
      omega

end Section

namespace Surface

/-- Whether a surface is the module that a top heading declares. -/
structure IsModuleOf (top : Placed) (stem : String) (surface : Surface) : Prop where
  kind_eq : surface.kind = .moduleApi
  name_eq : surface.name = moduleName top.entry.titleText stem
  body_eq : surface.body = top.entry.body
  labeled : Section.Labeled top.entry.children surface.sections
  defects_eq : surface.defects = []

/-- Whether a surface is the class that the heading at a place declares. Under a top heading that
declares none, a class with the name of the module has the sections of the top heading behind its
own. -/
structure IsClassAt (top : Placed) (stem : String) (place : Placed) (surface : Surface) : Prop where
  kind_eq : surface.kind = .classApi
  classTitle : ClassTitle place.entry.titleText surface.name
  body_eq : surface.body = place.entry.body
  labeled : ∃ own more, surface.sections = own ++ more ∧
    Section.Labeled place.entry.children own ∧
    if ¬ top.entry.DeclaresClass ∧ surface.name = moduleName top.entry.titleText stem then
      Section.Labeled top.entry.children more
    else more = []
  defects_eq : surface.defects = []

/-- Whether surfaces are what a document with a top heading falls into. -/
structure Segments (root : Section) (top : Placed) (stem : String)
    (modules classes : List Surface) : Prop where
  module_iff : modules ≠ [] ↔ top ∉ root.outerClasses ∧
    ∀ surface ∈ classes, surface.name ≠ moduleName top.entry.titleText stem
  module_once : modules.length ≤ 1
  isModuleOf : ∀ surface ∈ modules, surface.IsModuleOf top stem
  isClassAt : List.Forall₂ (IsClassAt top stem) root.outerClasses classes

variable {root : Section} {top : Placed} {stem : String} {modules classes : List Surface}

theorem Segments.ne_nil (h : Segments root top stem modules classes) : modules ++ classes ≠ [] := by
  intro hn
  obtain ⟨hm, hc⟩ := List.append_eq_nil_iff.mp hn
  have ho : root.outerClasses = [] := by
    have hl := h.isClassAt.length_eq
    rw [hc] at hl
    exact List.length_eq_zero_iff.mp hl
  exact h.module_iff.mpr ⟨by simp [ho], by simp [hc]⟩ hm

theorem Segments.defects_eq (h : Segments root top stem modules classes) :
    ∀ surface ∈ modules ++ classes, surface.defects = [] := by
  refine List.forall_mem_append.mpr ⟨fun surface hs => (h.isModuleOf surface hs).defects_eq, ?_⟩
  intro surface hs
  obtain ⟨place, -, hd⟩ := exists_of_forall₂_right h.isClassAt hs
  exact hd.defects_eq

/-- No section with a label right under the top heading or a class is lost. -/
theorem Segments.labeled_kept (h : Segments root top stem modules classes)
    (ht : top ∈ root.outerClasses ↔ top.entry.DeclaresClass) {place : Placed}
    (hp : place = top ∨ place ∈ root.outerClasses) :
    ∀ child ∈ place.entry.children, ∀ collection : Collection,
      collection.Labels child.titleText →
        ∃ surface ∈ modules ++ classes, (collection, child) ∈ surface.sections := by
  intro child hchild collection hlabel
  have hclass : place ∈ root.outerClasses →
      ∃ surface ∈ modules ++ classes, (collection, child) ∈ surface.sections := by
    intro ho
    obtain ⟨surface, hs, hd⟩ := exists_of_forall₂_left h.isClassAt ho
    obtain ⟨own, more, he, hown, -⟩ := hd.labeled
    refine ⟨surface, List.mem_append_right _ hs, ?_⟩
    rw [he]
    exact List.mem_append_left _ (hown.mem hchild hlabel)
  rcases hp with rfl | ho
  · by_cases ho : place ∈ root.outerClasses
    · exact hclass ho
    · by_cases hn : ∀ surface ∈ classes, surface.name ≠ moduleName place.entry.titleText stem
      · obtain ⟨surface, hs⟩ := List.exists_mem_of_ne_nil _ (h.module_iff.mpr ⟨ho, hn⟩)
        refine ⟨surface, List.mem_append_left _ hs, ?_⟩
        exact (h.isModuleOf surface hs).labeled.mem hchild hlabel
      · push Not at hn
        obtain ⟨surface, hs, hname⟩ := hn
        obtain ⟨other, -, hd⟩ := exists_of_forall₂_right h.isClassAt hs
        obtain ⟨own, more, he, -, hmore⟩ := hd.labeled
        rw [if_pos ⟨mt ht.mpr ho, hname⟩] at hmore
        refine ⟨surface, List.mem_append_right _ hs, ?_⟩
        rw [he]
        exact List.mem_append_right _ (hmore.mem hchild hlabel)
  · exact hclass ho

theorem isClassAt_ofClass {found : Section.ClassHeading} (h : found ∈ root.classes) (top : Placed)
    (stem : String) :
    IsClassAt top stem found.place (ofClass top ((className? top.entry.titleText).isNone &&
      found.name == moduleName top.entry.titleText stem) found) where
  kind_eq := rfl
  classTitle := className?_eq_some.mp (Section.className?_of_mem_classesAll _ _ _ h)
  body_eq := rfl
  labeled := by
    refine ⟨_, _, rfl, Section.labeled_labeled _, ?_⟩
    simp only [ofClass, Section.declaresClass_iff, Bool.and_eq_true, Option.isNone_iff_eq_none,
      beq_iff_eq, Option.not_isSome_iff_eq_none]
    split
    · exact Section.labeled_labeled _
    · rfl
  defects_eq := rfl

/-- A document with a top heading falls into the module and the classes. -/
theorem exists_segments (h : root.IsDocument) (ht : root.top? = some top) (stem : String) :
    ∃ modules classes, ofOutline root stem = modules ++ classes ∧
      Segments root top stem modules classes := by
  rw [ofOutline, ht]
  refine ⟨_, _, rfl, ?_⟩
  have hm := Section.map_place_classes h.title_eq
  have ho := h.top_mem_outerClasses ht
  constructor
  · rw [ho]
    simp [Section.declaresClass_iff, ofClass]
  · split <;> simp
  · intro surface hs
    split at hs
    · obtain rfl := List.mem_singleton.mp hs
      exact ⟨rfl, rfl, rfl, Section.labeled_labeled _, rfl⟩
    · exact absurd hs List.not_mem_nil
  · rw [← hm, List.forall₂_map_left_iff, List.forall₂_map_right_iff, List.forall₂_same]
    exact fun found hf => isClassAt_ofClass hf top stem

/-- A document has a surface. Without a heading of level one or two it is one module that is not
declared; else no surface has a defect, and the surfaces are the module, where no class stands for
it, and the outermost classes in their order, which together hold every section with a label right
under the top heading or a class. -/
theorem ofOutline_segments {blocks : List Block}
    (h : ∀ level title, .heading level title ∈ blocks → 1 ≤ level) (stem : String) :
    let root := Section.ofBlocks blocks
    let surfaces := ofOutline root stem
    surfaces ≠ [] ∧
    ((root.placed []).map Placed.path).Nodup ∧
    (root.placed []).map (fun p => p.entry.heading) =
      (0, []) :: blocks.filterMap Block.heading? ∧
    ((∀ level title, .heading level title ∈ blocks → level ≠ 1 ∧ level ≠ 2) →
      ∃ surface, surfaces = [surface] ∧ surface.kind = .moduleApi ∧ surface.name = camel stem ∧
        surface.sections = [] ∧ surface.defects = [.missingDeclaration]) ∧
    ((∃ level title, .heading level title ∈ blocks ∧ (level = 1 ∨ level = 2)) →
      (∀ surface ∈ surfaces, surface.defects = []) ∧
      ∃ top modules classes, root.top? = some top ∧
        (Section.firstHeading? blocks 1).or (Section.firstHeading? blocks 2) =
          some top.entry.heading ∧
        surfaces = modules ++ classes ∧ Segments root top stem modules classes ∧
        ∀ place, place = top ∨ place ∈ root.outerClasses → ∀ child ∈ place.entry.children,
          ∀ collection : Collection, collection.Labels child.titleText →
            ∃ surface ∈ surfaces, (collection, child) ∈ surface.sections) := by
  intro root surfaces
  have hd : root.IsDocument := Section.isDocument_ofBlocks h
  have hh := Section.map_heading_top? blocks
  refine ⟨?_, Section.nodup_placed root [], Section.headings_ofBlocks blocks, fun hn => ?_,
    fun ⟨level, title, hm, hl⟩ => ?_⟩
  · cases ht : root.top? with
    | none => simp [surfaces, ofOutline, ht]
    | some top =>
      obtain ⟨modules, classes, he, hs⟩ := exists_segments hd ht stem
      change ofOutline root stem ≠ []
      rw [he]
      exact hs.ne_nil
  · have h1 := Section.firstHeading?_eq_none.mpr fun title hm => (hn 1 title hm).1 rfl
    have h2 := Section.firstHeading?_eq_none.mpr fun title hm => (hn 2 title hm).2 rfl
    rw [h1, h2, Option.or_none, Option.map_eq_none_iff] at hh
    refine ⟨undeclared root stem, ?_, rfl, rfl, rfl, rfl⟩
    simp only [surfaces, ofOutline, root, hh]
  · cases ht : root.top? with
    | none =>
      simp only [root] at ht
      rw [ht, Option.map_none, eq_comm, Option.or_eq_none_iff] at hh
      rcases hl with rfl | rfl
      · exact absurd hm (Section.firstHeading?_eq_none.mp hh.1 title)
      · exact absurd hm (Section.firstHeading?_eq_none.mp hh.2 title)
    | some top =>
      obtain ⟨modules, classes, he, hs⟩ := exists_segments hd ht stem
      have he : surfaces = modules ++ classes := he
      have htop := hd.top_mem_outerClasses ht
      simp only [root] at ht
      rw [ht, Option.map_some] at hh
      refine ⟨he ▸ hs.defects_eq, top, modules, classes, rfl, hh.symm, he, hs, fun place hp => ?_⟩
      exact he ▸ hs.labeled_kept htop hp

/-- A document with a class that stands for the module, and a class with another one inside. -/
def sessionBlocks : List Block :=
  [.heading 1 [.text "session"], .heading 2 [.text "Methods"],
    .heading 2 [.text "Class:  session"], .heading 3 [.text "Instance Methods"],
    .heading 2 [.text "Class: Cookies extends EventEmitter"], .heading 3 [.text "Notes"],
    .heading 3 [.text "Instance Events"], .heading 3 [.text "Class: Cookie"]]

/-- What a surface is called, and its sections by their titles. -/
def sectionTitles (surface : Surface) : ApiKind × String × List (Collection × String) :=
  (surface.kind, surface.name, surface.sections.map fun entry => (entry.1, entry.2.titleText))

theorem ofOutline_segments_session :
    let root := Section.ofBlocks sessionBlocks
    (∀ level title, .heading level title ∈ sessionBlocks → 1 ≤ level) ∧
    (∃ level title, .heading level title ∈ sessionBlocks ∧ (level = 1 ∨ level = 2)) ∧
    (root.outerClasses.map fun place => place.entry.titleText) =
      ["Class: session", "Class: Cookies extends EventEmitter"] ∧
    (ofOutline root "session").map sectionTitles =
      [(.classApi, "session", [(.instanceMethods, "Instance Methods"), (.methods, "Methods")]),
        (.classApi, "Cookies", [(.instanceEvents, "Instance Events")])] ∧
    ∃ top modules classes, root.top? = some top ∧ top.entry.titleText = "session" ∧
      ofOutline root "session" = modules ++ classes ∧
      Segments root top "session" modules classes := by
  intro root
  have h : ∀ level title, .heading level title ∈ sessionBlocks → 1 ≤ level := by
    intro level title hm
    simp only [sessionBlocks, List.mem_cons, Block.heading.injEq, List.not_mem_nil,
      or_false] at hm
    omega
  have hx : ∃ level title, .heading level title ∈ sessionBlocks ∧ (level = 1 ∨ level = 2) :=
    ⟨1, _, List.mem_cons_self, .inl rfl⟩
  obtain ⟨-, top, modules, classes, ht, -, he, hs, -⟩ :=
    (ofOutline_segments h "session").2.2.2.2 hx
  have hn : root.top?.map (fun place => place.entry.titleText) = some "session" := by
    decide +kernel
  rw [ht, Option.map_some, Option.some.injEq] at hn
  exact ⟨h, hx, by decide +kernel, by decide +kernel, top, modules, classes, ht, hn, he, hs⟩

end Surface

end ApiDocs
