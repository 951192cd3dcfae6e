import ApiDocs.Proofs.Document.Outline
import Mathlib.Data.List.Chain

/-!
# The shape of outlines

No heading stands among the blocks of a section of an outline. Where every heading has a level of at
least one, children lie below the section around them and no child lies below the one before it. A
tree of that shape is the outline of its blocks, so outlines and lists of blocks determine each
other.
-/

namespace ApiDocs

namespace Section

mutual

/-- The section and all below it in the order of the document. -/
def sections : Section → List Section
  | ⟨level, title, body, children⟩ => ⟨level, title, body, children⟩ :: sectionsAll children

def sectionsAll : List Section → List Section
  | [] => []
  | child :: rest => sections child ++ sectionsAll rest

end

theorem sections_eq (s : Section) : s.sections = s :: sectionsAll s.children := by
  cases s
  rfl

theorem sectionsAll_append (sections more : List Section) :
    sectionsAll (sections ++ more) = sectionsAll sections ++ sectionsAll more := by
  induction sections with
  | nil => rfl
  | cons s rest ih => rw [List.cons_append, sectionsAll, ih, sectionsAll, List.append_assoc]

theorem sectionsAll_singleton (s : Section) : sectionsAll [s] = s.sections := by
  rw [sectionsAll, sectionsAll, List.append_nil]

mutual

/-- The places of a tree hold its sections in their order. -/
theorem map_entry_placed : ∀ (s : Section) (path : List Nat),
    (s.placed path).map Placed.entry = s.sections
  | ⟨level, title, body, children⟩, path => by
    rw [placed, List.map_cons, map_entry_placedAll children path 0, sections]

theorem map_entry_placedAll : ∀ (children : List Section) (path : List Nat) (n : Nat),
    (placedAll path n children).map Placed.entry = sectionsAll children
  | [], _, _ => rfl
  | s :: rest, path, n => by
    rw [placedAll, List.map_append, map_entry_placed s, map_entry_placedAll rest, sectionsAll]

end

theorem contents_sections_subset {root s : Section} (h : s ∈ root.sections) :
    s.contents ⊆ root.contents := by
  rw [← map_entry_placed root []] at h
  obtain ⟨p, hp, rfl⟩ := List.mem_map.mp h
  exact contents_placed_subset root [] hp

/-- Whether no heading stands among the blocks under a heading. -/
def HeadingFree (s : Section) : Prop :=
  ∀ level title, .heading level title ∉ s.body

/-- Whether none of some siblings lies below the one before it. -/
def Descending (children : List Section) : Prop :=
  children.IsChain fun child next => next.level ≤ child.level

theorem Descending.concat {children : List Section} (h : Descending children) {child : Section}
    (hc : ∀ earlier ∈ children, child.level ≤ earlier.level) :
    Descending (children ++ [child]) := by
  refine List.isChain_append.mpr ⟨h, List.isChain_singleton _, ?_⟩
  intro earlier he next hn
  obtain rfl : next = child := by simpa using hn.symm
  exact hc earlier (List.mem_of_getLast? he)

theorem Descending.le_head {s : Section} {rest : List Section} (h : Descending (s :: rest)) :
    ∀ next ∈ rest, next.level ≤ s.level := by
  induction rest generalizing s with
  | nil => simp
  | cons next rest ih =>
    obtain ⟨hs, hr⟩ := List.isChain_cons_cons.mp h
    refine List.forall_mem_cons.mpr ⟨hs, fun later hl => ?_⟩
    exact Nat.le_trans (ih hr later hl) hs

/-- Whether a tree of sections is a document: its root is no heading, no heading stands among the
blocks of a section, children lie below the section around them, and siblings do not descend. -/
structure IsDocument (root : Section) : Prop where
  level_eq : root.level = 0
  title_eq : root.title = []
  headingFree : ∀ s ∈ root.sections, s.HeadingFree
  level_lt : ∀ s ∈ root.sections, ∀ child ∈ s.children, s.level < child.level
  descending : ∀ s ∈ root.sections, Descending s.children

mutual

theorem nested_of_sections : ∀ s : Section,
    (∀ t ∈ s.sections, t.HeadingFree ∧ (∀ child ∈ t.children, t.level < child.level) ∧
      Descending t.children) → s.Nested
  | ⟨level, title, body, children⟩, h => by
    rw [sections, List.forall_mem_cons] at h
    obtain ⟨⟨hb, hl, hd⟩, hr⟩ := h
    exact ⟨hb, nestedAll_of_sections children level hl hd hr⟩

theorem nestedAll_of_sections : ∀ (children : List Section) (level : Nat),
    (∀ child ∈ children, level < child.level) → Descending children →
    (∀ t ∈ sectionsAll children, t.HeadingFree ∧ (∀ child ∈ t.children, t.level < child.level) ∧
      Descending t.children) → NestedAll level children
  | [], _, _, _, _ => trivial
  | s :: rest, level, hl, hd, h => by
    rw [sectionsAll, List.forall_mem_append] at h
    obtain ⟨hs, hr⟩ := List.forall_mem_cons.mp hl
    exact ⟨hs, nested_of_sections s h.1, hd.le_head,
      nestedAll_of_sections rest level hr hd.tail h.2⟩

end

theorem IsDocument.nested {root : Section} (h : root.IsDocument) : root.Nested :=
  nested_of_sections root fun s hs =>
    ⟨h.headingFree s hs, h.level_lt s hs, h.descending s hs⟩

/-- What is known of a section before the levels of headings are: a child lies below it, unless its
level is zero. -/
structure Shaped (s : Section) : Prop where
  headingFree : s.HeadingFree
  level_lt : ∀ child ∈ s.children, s.level < child.level ∨ child.level = 0
  descending : Descending s.children

theorem Shaped.withBlock {s : Section} (h : s.Shaped) {block : Block}
    (hb : ∀ level title, .heading level title ≠ block) : (s.withBlock block).Shaped where
  headingFree level title hm :=
    (List.mem_append.mp hm).elim (h.headingFree level title)
      fun hm => hb level title (List.mem_singleton.mp hm)
  level_lt := h.level_lt
  descending := h.descending

theorem Shaped.withChild {s child : Section} (h : s.Shaped)
    (hl : s.level < child.level ∨ child.level = 0)
    (hd : ∀ earlier ∈ s.children, child.level ≤ earlier.level) : (s.withChild child).Shaped where
  headingFree := h.headingFree
  level_lt := List.forall_mem_append.mpr ⟨h.level_lt, List.forall_mem_singleton.mpr hl⟩
  descending := h.descending.concat hd

end Section

namespace OpenSections

open Section

/-- Whether open sections lie one below the other, down from a document, and none lies below a child
that the section around it has already. -/
def Stacked (current : Section) : List Section → Prop
  | [] => current.level = 0 ∧ current.title = []
  | parent :: rest =>
    (parent.level < current.level ∨ current.level = 0) ∧
      (∀ child ∈ parent.children, current.level ≤ child.level) ∧ Stacked parent rest

/-- Only the heading of the innermost section counts. -/
theorem Stacked.of_heading {current other : Section} {parents : List Section}
    (h : Stacked current parents) (hl : other.level = current.level)
    (ht : other.title = current.title) : Stacked other parents := by
  cases parents with
  | nil => exact ⟨hl.trans h.1, ht.trans h.2⟩
  | cons parent rest =>
    rw [Stacked, hl]
    exact h

/-- What holds of open sections after any number of blocks. -/
structure WellFormed (opened : OpenSections) : Prop where
  shaped : ∀ s ∈ sectionsAll (opened.current :: opened.parents), s.Shaped
  stacked : Stacked opened.current opened.parents

theorem shaped_headed (level : Nat) (title : List Inline) : (headed level title).Shaped where
  headingFree _ _ := List.not_mem_nil
  level_lt _ h := absurd h List.not_mem_nil
  descending := List.isChain_nil

theorem wellFormed_start : WellFormed start where
  shaped := List.forall_mem_singleton.mpr (shaped_headed 0 [])
  stacked := ⟨rfl, rfl⟩

/-- Closing the innermost section keeps the open sections well formed. -/
theorem WellFormed.close {current parent : Section} {rest : List Section}
    (h : WellFormed ⟨current, parent :: rest⟩) : WellFormed ⟨parent.withChild current, rest⟩ := by
  obtain ⟨hs, hl, hd, hr⟩ := h
  simp only [sectionsAll, sections_eq parent, List.forall_mem_append, List.forall_mem_cons] at hs
  obtain ⟨hc, ⟨hp, hi⟩, ho⟩ := hs
  refine ⟨?_, hr.of_heading rfl rfl⟩
  rw [sectionsAll, List.forall_mem_append, sections_eq, List.forall_mem_cons]
  refine ⟨⟨hp.withChild hl hd, ?_⟩, ho⟩
  change ∀ s ∈ sectionsAll (parent.children ++ [current]), s.Shaped
  rw [sectionsAll_append, sectionsAll_singleton, List.forall_mem_append]
  exact ⟨hi, hc⟩

/-- A heading finds open a section above it, whose children do not lie above the heading. -/
theorem WellFormed.closeTo {current : Section} {parents : List Section} (level : Nat)
    (h : WellFormed ⟨current, parents⟩) (hc : ∀ child ∈ current.children, level ≤ child.level) :
    let kept := OpenSections.closeTo level current parents
    kept.WellFormed ∧ (∀ child ∈ kept.current.children, level ≤ child.level) ∧
      (kept.current.level < level ∨ level = 0) := by
  induction parents generalizing current with
  | nil =>
    have hz : current.level = 0 := h.stacked.1
    refine ⟨h, hc, ?_⟩
    rw [OpenSections.closeTo, hz]
    exact (Nat.eq_zero_or_pos level).symm
  | cons parent rest ih =>
    rw [OpenSections.closeTo]
    split
    · rename_i hl
      refine ih h.close (List.forall_mem_append.mpr ⟨fun child hm => ?_, ?_⟩)
      · exact Nat.le_trans hl (h.stacked.2.1 child hm)
      · exact List.forall_mem_singleton.mpr hl
    · rename_i hl
      exact ⟨h, hc, .inl (Nat.lt_of_not_le hl)⟩

/-- A step keeps the open sections well formed and leaves the innermost without children. -/
theorem WellFormed.push {opened : OpenSections} (h : opened.WellFormed)
    (hc : opened.current.children = []) (block : Block) :
    (opened.push block).WellFormed ∧ (opened.push block).current.children = [] := by
  obtain ⟨current, parents⟩ := opened
  have hother (hb : ∀ level title, .heading level title ≠ block) :
      WellFormed ⟨current.withBlock block, parents⟩ := by
    refine ⟨?_, h.stacked.of_heading rfl rfl⟩
    have hs := h.shaped
    rw [sectionsAll, List.forall_mem_append, sections_eq, List.forall_mem_cons] at hs ⊢
    exact ⟨⟨hs.1.1.withBlock hb, hs.1.2⟩, hs.2⟩
  cases block with
  | heading level title =>
    have hn : ∀ child ∈ current.children, level ≤ child.level := by
      intro child hm
      change current.children = [] at hc
      simp [hc] at hm
    obtain ⟨hk, hd, hl⟩ := h.closeTo level hn
    refine ⟨⟨?_, hl, hd, hk.stacked⟩, rfl⟩
    rw [OpenSections.push, sectionsAll, List.forall_mem_append]
    exact ⟨List.forall_mem_singleton.mpr (shaped_headed level title), hk.shaped⟩
  | _ => exact ⟨hother (fun _ _ he => by cases he), hc⟩

theorem WellFormed.foldl_push (blocks : List Block) {opened : OpenSections} (h : opened.WellFormed)
    (hc : opened.current.children = []) : (blocks.foldl OpenSections.push opened).WellFormed := by
  induction blocks generalizing opened with
  | nil => exact h
  | cons block rest ih =>
    obtain ⟨hp, hn⟩ := h.push hc block
    exact ih hp hn

/-- What is open at the end closes to one tree. -/
theorem WellFormed.finish {opened : OpenSections} (h : opened.WellFormed) :
    WellFormed ⟨opened.finish, []⟩ := by
  obtain ⟨current, parents⟩ := opened
  rw [OpenSections.finish]
  induction parents generalizing current with
  | nil => exact h
  | cons parent rest ih => exact ih _ h.close

end OpenSections

namespace Section

theorem wellFormed_ofBlocks (blocks : List Block) : OpenSections.WellFormed ⟨ofBlocks blocks, []⟩ :=
  (OpenSections.wellFormed_start.foldl_push blocks rfl).finish

theorem shaped_ofBlocks {blocks : List Block} {s : Section}
    (h : s ∈ (ofBlocks blocks).sections) : s.Shaped := by
  rw [← sectionsAll_singleton] at h
  exact (wellFormed_ofBlocks blocks).shaped s h

/-- Blocks whose headings have levels of at least one outline a document. -/
theorem isDocument_ofBlocks {blocks : List Block}
    (h : ∀ level title, .heading level title ∈ blocks → 1 ≤ level) :
    (ofBlocks blocks).IsDocument where
  level_eq := (wellFormed_ofBlocks blocks).stacked.1
  title_eq := (wellFormed_ofBlocks blocks).stacked.2
  headingFree _ hs := (shaped_ofBlocks hs).headingFree
  descending _ hs := (shaped_ofBlocks hs).descending
  level_lt s hs child hc := by
    have hm := contents_sections_subset hs (contents_subset hc List.mem_cons_self)
    rw [contents_ofBlocks] at hm
    have hl := h child.level child.title hm
    have hd := (shaped_ofBlocks hs).level_lt child hc
    omega

/-- An outline loses nothing and holds no heading among the blocks of a section; outlines of blocks
with levels of at least one are the documents; and a document is the outline of its blocks. -/
theorem ofBlocks_canonical :
    (∀ blocks : List Block, (ofBlocks blocks).contents = blocks ∧
      ∀ s ∈ (ofBlocks blocks).sections, s.HeadingFree) ∧
    (∀ blocks : List Block, (∀ level title, .heading level title ∈ blocks → 1 ≤ level) →
      (ofBlocks blocks).IsDocument) ∧
    ∀ root : Section, root.IsDocument → ofBlocks root.contents = root := by
  refine ⟨fun blocks => ⟨contents_ofBlocks blocks, fun s hs => ?_⟩, fun blocks h => ?_,
    fun root h => ?_⟩
  · exact (shaped_ofBlocks hs).headingFree
  · exact isDocument_ofBlocks h
  · exact ofBlocks_contents h.nested h.level_eq h.title_eq

/-- Levels that jump down, come back and stay. -/
def steppedBlocks : List Block :=
  [.code "", .heading 3 [.text "notes"], .heading 1 [.text "app"], .paragraph [.text "Runs."],
    .heading 4 [.text "quit"], .heading 2 [.text "Events"], .heading 2 [.text "Methods"],
    .quote [], .heading 1 [.text "tray"]]

theorem ofBlocks_canonical_stepped :
    (∀ level title, .heading level title ∈ steppedBlocks → 1 ≤ level) ∧
    (ofBlocks steppedBlocks).IsDocument ∧
    ofBlocks (ofBlocks steppedBlocks).contents = ofBlocks steppedBlocks := by
  obtain ⟨-, hdocument, hback⟩ := ofBlocks_canonical
  have h : ∀ level title, .heading level title ∈ steppedBlocks → 1 ≤ level := by
    intro level title hm
    simp only [steppedBlocks, List.mem_cons, Block.heading.injEq, List.not_mem_nil, or_false,
      reduceCtorEq, false_or] at hm
    rcases hm with hm | hm | hm | hm | hm | hm <;> omega
  exact ⟨h, hdocument _ h, hback _ (hdocument _ h)⟩

end Section

end ApiDocs
