import ApiDocs.Document.Outline

/-!
# Outlines and their blocks

An outline loses nothing: the blocks of its sections, each behind its heading, are those it was made
of. A tree of sections whose levels fall into place is the outline of its blocks.
-/

namespace ApiDocs

namespace Section

mutual

/-- The blocks of a section behind its heading, in the order of the document. -/
def contents : Section → List Block
  | ⟨_, _, body, children⟩ => body ++ contentsAll children

def contentsAll : List Section → List Block
  | [] => []
  | s :: rest => .heading s.level s.title :: s.contents ++ contentsAll rest

end

theorem contents_eq (s : Section) : s.contents = s.body ++ contentsAll s.children := by
  cases s
  rfl

theorem contentsAll_append (sections more : List Section) :
    contentsAll (sections ++ more) = contentsAll sections ++ contentsAll more := by
  induction sections with
  | nil => rfl
  | cons s rest ih =>
    rw [List.cons_append, contentsAll, ih, contentsAll, List.append_assoc]

theorem contents_withBlock {s : Section} (h : s.children = []) (block : Block) :
    (s.withBlock block).contents = s.contents ++ [block] := by
  simp [contents_eq, withBlock, h, contentsAll]

theorem contents_withChild (s child : Section) :
    (s.withChild child).contents =
      s.contents ++ .heading child.level child.title :: child.contents := by
  simp [contents_eq, withChild, contentsAll_append, contentsAll]

end Section

namespace OpenSections

/-- The blocks of open sections, `current` being the innermost. -/
def contents (current : Section) : List Section → List Block
  | [] => current.contents
  | parent :: rest =>
    contents parent rest ++ .heading current.level current.title :: current.contents

theorem contents_withChild (parent current : Section) (rest : List Section) :
    contents (parent.withChild current) rest = contents current (parent :: rest) := by
  cases rest with
  | nil => rw [contents, Section.contents_withChild, contents, contents]
  | cons next rest =>
    simp only [contents, Section.contents_withChild, List.append_assoc, List.cons_append]
    rfl

theorem contents_closeTo (level : Nat) (current : Section) (parents : List Section) :
    contents (closeTo level current parents).current (closeTo level current parents).parents =
      contents current parents := by
  induction parents generalizing current with
  | nil => rfl
  | cons parent rest ih =>
    rw [closeTo]
    split
    · rw [ih, contents_withChild]
    · rfl

theorem contents_finish (opened : OpenSections) :
    opened.finish.contents = contents opened.current opened.parents := by
  obtain ⟨current, parents⟩ := opened
  rw [finish]
  induction parents generalizing current with
  | nil => rfl
  | cons parent rest ih => rw [List.foldl_cons, ih, contents_withChild]

theorem contents_withBlock {current : Section} (h : current.children = []) (block : Block)
    (parents : List Section) :
    contents (current.withBlock block) parents = contents current parents ++ [block] := by
  cases parents with
  | nil => rw [contents, Section.contents_withBlock h, contents]
  | cons parent rest =>
    rw [contents, Section.contents_withBlock h, contents, List.append_assoc]
    rfl

/-- A step takes in its block behind all others, and the innermost section has no children yet. -/
theorem contents_push {opened : OpenSections} (h : opened.current.children = []) (block : Block) :
    (opened.push block).current.children = [] ∧
      contents (opened.push block).current (opened.push block).parents =
        contents opened.current opened.parents ++ [block] := by
  cases block with
  | heading level title =>
    refine ⟨rfl, ?_⟩
    rw [← contents_closeTo level opened.current]
    rfl
  | _ => exact ⟨h, contents_withBlock h _ _⟩

theorem contents_foldl_push (blocks : List Block) {opened : OpenSections}
    (h : opened.current.children = []) :
    contents (blocks.foldl push opened).current (blocks.foldl push opened).parents =
      contents opened.current opened.parents ++ blocks := by
  induction blocks generalizing opened with
  | nil => rw [List.foldl_nil, List.append_nil]
  | cons block rest ih =>
    obtain ⟨hc, hp⟩ := contents_push h block
    rw [List.foldl_cons, ih hc, hp, List.append_assoc]
    rfl

end OpenSections

/-- The blocks of an outline are those it was made of. -/
theorem Section.contents_ofBlocks (blocks : List Block) :
    (Section.ofBlocks blocks).contents = blocks := by
  rw [ofBlocks, OpenSections.contents_finish, OpenSections.contents_foldl_push blocks rfl]
  rfl

namespace Section

mutual

/-- Whether no heading stands among the blocks of a section and its children lie below it, at every
depth. -/
def Nested : Section → Prop
  | ⟨level, _, body, children⟩ =>
    (∀ l title, .heading l title ∉ body) ∧ NestedAll level children

/-- Whether siblings lie below the level of their parent, none below one before it, and each holds
sections that fall into place. -/
def NestedAll (level : Nat) : List Section → Prop
  | [] => True
  | s :: rest =>
    level < s.level ∧ s.Nested ∧ (∀ next ∈ rest, next.level ≤ s.level) ∧ NestedAll level rest

end

/-- None of some siblings lies deeper than the first, or than the parent where there is none. -/
theorem NestedAll.exists_bound {level : Nat} {children : List Section}
    (h : NestedAll level children) : ∃ bound, level ≤ bound ∧ ∀ s ∈ children, s.level ≤ bound := by
  cases children with
  | nil => exact ⟨level, Nat.le_refl _, by simp⟩
  | cons s rest =>
    obtain ⟨hl, -, hr, -⟩ := h
    exact ⟨s.level, Nat.le_of_lt hl, List.forall_mem_cons.mpr ⟨Nat.le_refl _, hr⟩⟩

end Section

namespace OpenSections

/-- Whether open sections come to the same as others once those down to a level are closed. -/
def Settles (level : Nat) (opened : OpenSections) (current : Section) (parents : List Section) :
    Prop :=
  (∀ l ≤ level, closeTo l opened.current opened.parents = closeTo l current parents) ∧
    opened.finish = finish ⟨current, parents⟩

theorem Settles.refl (level : Nat) (current : Section) (parents : List Section) :
    Settles level ⟨current, parents⟩ current parents :=
  ⟨fun _ _ => rfl, rfl⟩

theorem Settles.mono {level lower : Nat} {opened : OpenSections} {current : Section}
    {parents : List Section} (h : Settles level opened current parents) (hl : lower ≤ level) :
    Settles lower opened current parents :=
  ⟨fun l hle => h.1 l (Nat.le_trans hle hl), h.2⟩

/-- A section can be closed into its parent. -/
theorem Settles.withChild {opened : OpenSections} {s parent : Section} {parents : List Section}
    (h : Settles s.level opened s (parent :: parents)) :
    Settles s.level opened (parent.withChild s) parents := by
  refine ⟨fun l hl => ?_, h.2⟩
  rw [h.1 l hl, closeTo, if_pos hl]

theorem closeTo_of_lt {level : Nat} {current : Section} (h : current.level < level)
    (parents : List Section) : closeTo level current parents = ⟨current, parents⟩ := by
  cases parents with
  | nil => rfl
  | cons parent rest => rw [closeTo, if_neg (Nat.not_le_of_lt h)]

theorem push_heading {level : Nat} {opened : OpenSections} {current : Section}
    {parents : List Section} (h : Settles level opened current parents) {l : Nat} (hl : l ≤ level)
    (hc : current.level < l) (title : List Inline) :
    opened.push (.heading l title) = ⟨.headed l title, current :: parents⟩ := by
  rw [push, h.1 l hl, closeTo_of_lt hc]

theorem foldl_push_body (s : Section) (parents : List Section) {body : List Block}
    (h : ∀ l title, .heading l title ∉ body) :
    body.foldl push ⟨s, parents⟩ = ⟨{ s with body := s.body ++ body }, parents⟩ := by
  induction body generalizing s with
  | nil =>
    cases s
    rw [List.append_nil]
    rfl
  | cons block rest ih =>
    have hb : push ⟨s, parents⟩ block = ⟨s.withBlock block, parents⟩ := by
      cases block with
      | heading l title => exact absurd List.mem_cons_self (h l title)
      | _ => rfl
    rw [List.foldl_cons, hb, ih _ fun l title hm => h l title (List.mem_cons_of_mem _ hm)]
    simp [Section.withBlock]

mutual

/-- The blocks of a section build it up, whatever is open around it. -/
theorem settles_contents : ∀ (s : Section), s.Nested → ∀ parents : List Section,
    Settles s.level (s.contents.foldl push ⟨.headed s.level s.title, parents⟩) s parents
  | ⟨level, title, body, children⟩, h, parents => by
    rw [Section.contents, List.foldl_append, foldl_push_body _ _ h.1]
    obtain ⟨bound, hl, hs⟩ := h.2.exists_bound
    exact settles_contentsAll children ⟨level, title, body, []⟩ parents h.2
      (Settles.refl bound _ _) hs hl

/-- The blocks of siblings add them to their parent. -/
theorem settles_contentsAll : ∀ (children : List Section) (parent : Section)
    (parents : List Section) {level : Nat} {opened : OpenSections},
    Section.NestedAll parent.level children → Settles level opened parent parents →
    (∀ s ∈ children, s.level ≤ level) → parent.level ≤ level →
    Settles parent.level ((Section.contentsAll children).foldl push opened)
      { parent with children := parent.children ++ children } parents
  | [], parent, parents, level, opened, _, ho, _, hl => by
    cases parent
    rw [Section.contentsAll, List.foldl_nil, List.append_nil]
    exact ho.mono hl
  | s :: rest, parent, parents, level, opened, h, ho, hs, hl => by
    obtain ⟨hp, hn, hr, hm⟩ := h
    have hpush := push_heading ho (hs s List.mem_cons_self) hp s.title
    have hb := (settles_contents s hn (parent :: parents)).withChild
    have hrest := settles_contentsAll rest (parent.withChild s) parents hm hb hr (Nat.le_of_lt hp)
    rw [Section.contentsAll, List.foldl_append, List.foldl_cons, hpush]
    simpa [Section.withChild] using hrest

end

end OpenSections

/-- A tree of sections that fall into place is the outline of its blocks. -/
theorem Section.ofBlocks_contents {s : Section} (h : s.Nested) (hl : s.level = 0)
    (ht : s.title = []) : Section.ofBlocks s.contents = s := by
  have hs := (OpenSections.settles_contents s h []).2
  rw [hl, ht] at hs
  exact hs

namespace Section

/-- What a child holds is held by its parent. -/
theorem contents_subset {s child : Section} (h : child ∈ s.children) :
    .heading child.level child.title :: child.contents ⊆ s.contents := by
  rw [contents_eq s]
  refine List.subset_append_of_subset_right _ ?_
  revert h
  induction s.children with
  | nil => exact fun h => absurd h List.not_mem_nil
  | cons first rest ih =>
    intro h
    rw [contentsAll]
    rcases List.mem_cons.mp h with rfl | h
    · exact List.subset_append_left _ _
    · exact List.subset_append_of_subset_right _ (ih h)

mutual

theorem contents_placed_subset : ∀ (s : Section) (path : List Nat) {p : Placed},
    p ∈ s.placed path → p.entry.contents ⊆ s.contents
  | ⟨level, title, body, children⟩, path, p, h => by
    rw [placed, List.mem_cons] at h
    rcases h with rfl | h
    · exact List.Subset.refl _
    · exact List.subset_append_of_subset_right _ (contents_placedAll_subset children path 0 h)

theorem contents_placedAll_subset : ∀ (sections : List Section) (path : List Nat) (n : Nat)
    {p : Placed}, p ∈ placedAll path n sections → p.entry.contents ⊆ contentsAll sections
  | [], path, n, p, h => by cases h
  | s :: rest, path, n, p, h => by
    rw [placedAll, List.mem_append] at h
    rw [contentsAll]
    rcases h with h | h
    · exact List.subset_append_of_subset_left _
        (List.subset_cons_of_subset _ (contents_placed_subset s _ h))
    · exact List.subset_append_of_subset_right _ (contents_placedAll_subset rest path _ h)

end

/-- What the top section of a document holds is in the document. -/
theorem contents_top_subset {root : Section} {p : Placed} (h : root.top? = some p) :
    p.entry.contents ⊆ root.contents := by
  rw [top?, Option.orElse_eq_orElse, Option.orElse_eq_or, Option.or_eq_some_iff] at h
  rcases h with h | ⟨-, h⟩
  · exact contents_placed_subset root [] (List.mem_of_find?_eq_some h)
  · exact contents_placed_subset root [] (List.mem_of_find?_eq_some h)

end Section

end ApiDocs
