import ApiDocs.Document.Surface
import ApiDocs.Proofs.Document.Nesting
import ApiDocs.Proofs.Document.Titles
import Mathlib.Data.List.Nodup

/-!
# Places in outlines

The place of a section is the way to it from the document, so a section stands inside another one
where its way goes on from that of the other. Places are told apart by their ways and come in the
order of the headings of the document. The classes that a document declares are the class headings
that stand inside no other class heading.
-/

namespace ApiDocs

/-- What goes on from one child of a section does not lead to what goes on from another. -/
theorem not_isPrefix_of_ne {path p q : List Nat} {i j : Nat} (hp : path ++ [i] <+: p)
    (hq : path ++ [j] <+: q) (h : i ≠ j) : ¬ q <+: p := by
  intro hqp
  have hl : (path ++ [j]).length ≤ (path ++ [i]).length := by simp
  have he := (List.prefix_of_prefix_length_le (hq.trans hqp) hp hl).eq_of_length (by simp)
  exact h (by simpa using he.symm)

/-- Whether a place lies inside another one, at any depth. -/
def Placed.Inside (p q : Placed) : Prop :=
  q.path <+: p.path ∧ q.path ≠ p.path

instance (p q : Placed) : Decidable (p.Inside q) :=
  inferInstanceAs (Decidable (_ ∧ _))

namespace Section

theorem placed_eq (s : Section) (path : List Nat) :
    s.placed path = ⟨path, s⟩ :: placedAll path 0 s.children := by
  cases s
  rfl

mutual

theorem isPrefix_of_mem_placed : ∀ (s : Section) (path : List Nat) {p : Placed},
    p ∈ s.placed path → path <+: p.path
  | ⟨level, title, body, children⟩, path, p, h => by
    rw [placed, List.mem_cons] at h
    rcases h with rfl | h
    · exact List.prefix_refl _
    · obtain ⟨i, -, hi⟩ := isPrefix_of_mem_placedAll children path 0 h
      exact (List.prefix_append _ _).trans hi

theorem isPrefix_of_mem_placedAll : ∀ (children : List Section) (path : List Nat) (n : Nat)
    {p : Placed}, p ∈ placedAll path n children → ∃ i, n ≤ i ∧ path ++ [i] <+: p.path
  | [], _, _, _, h => absurd h List.not_mem_nil
  | s :: rest, path, n, p, h => by
    rw [placedAll, List.mem_append] at h
    rcases h with h | h
    · exact ⟨n, Nat.le_refl _, isPrefix_of_mem_placed s _ h⟩
    · obtain ⟨i, hi, hp⟩ := isPrefix_of_mem_placedAll rest path (n + 1) h
      exact ⟨i, Nat.le_of_succ_le hi, hp⟩

end

/-- A place below a section is not that of the section. -/
theorem ne_of_mem_placedAll {children : List Section} {path : List Nat} {n : Nat} {p : Placed}
    (h : p ∈ placedAll path n children) : p.path ≠ path := by
  obtain ⟨i, -, hi⟩ := isPrefix_of_mem_placedAll children path n h
  intro he
  have hl := hi.length_le
  rw [he, List.length_append, List.length_singleton] at hl
  omega

/-- Places below a child and below a later one are not on the way to each other. -/
theorem not_isPrefix_of_mem_placedAll {s : Section} {rest : List Section} {path : List Nat}
    {n : Nat} {p q : Placed} (hp : p ∈ s.placed (path ++ [n]))
    (hq : q ∈ placedAll path (n + 1) rest) : ¬ q.path <+: p.path ∧ ¬ p.path <+: q.path := by
  have hpp := isPrefix_of_mem_placed s _ hp
  obtain ⟨i, hi, hqp⟩ := isPrefix_of_mem_placedAll rest path (n + 1) hq
  have hne : n ≠ i := Nat.ne_of_lt hi
  exact ⟨not_isPrefix_of_ne hpp hqp hne, not_isPrefix_of_ne hqp hpp hne.symm⟩

mutual

/-- No two places of a tree are the same. -/
theorem nodup_placed : ∀ (s : Section) (path : List Nat),
    ((s.placed path).map Placed.path).Nodup
  | ⟨level, title, body, children⟩, path => by
    rw [placed, List.map_cons, List.nodup_cons]
    refine ⟨fun h => ?_, nodup_placedAll children path 0⟩
    obtain ⟨p, hp, he⟩ := List.mem_map.mp h
    exact ne_of_mem_placedAll hp he

theorem nodup_placedAll : ∀ (children : List Section) (path : List Nat) (n : Nat),
    ((placedAll path n children).map Placed.path).Nodup
  | [], _, _ => List.nodup_nil
  | s :: rest, path, n => by
    rw [placedAll, List.map_append, List.nodup_append]
    refine ⟨nodup_placed s _, nodup_placedAll rest path _, ?_⟩
    intro way hs other hr he
    obtain ⟨p, hp, rfl⟩ := List.mem_map.mp hs
    obtain ⟨q, hq, rfl⟩ := List.mem_map.mp hr
    exact (not_isPrefix_of_mem_placedAll hp hq).1 (he ▸ List.prefix_refl _)

end

theorem eq_of_path_eq {s : Section} {path : List Nat} {p q : Placed} (hp : p ∈ s.placed path)
    (hq : q ∈ s.placed path) (h : p.path = q.path) : p = q :=
  List.inj_on_of_nodup_map (nodup_placed s path) hp hq h

mutual

theorem level_le_of_mem_placed : ∀ (s : Section) (path : List Nat),
    (∀ t ∈ s.sections, ∀ child ∈ t.children, t.level < child.level) →
    ∀ p ∈ s.placed path, s.level ≤ p.entry.level
  | ⟨level, title, body, children⟩, path, h, p, hp => by
    rw [sections, List.forall_mem_cons] at h
    rw [placed, List.mem_cons] at hp
    rcases hp with rfl | hp
    · exact Nat.le_refl _
    · exact Nat.le_of_lt (level_lt_of_mem_placedAll children path 0 h.1 h.2 p hp)

theorem level_lt_of_mem_placedAll : ∀ (children : List Section) (path : List Nat) (n : Nat)
    {level : Nat}, (∀ child ∈ children, level < child.level) →
    (∀ t ∈ sectionsAll children, ∀ child ∈ t.children, t.level < child.level) →
    ∀ p ∈ placedAll path n children, level < p.entry.level
  | [], _, _, _, _, _, _, h => absurd h List.not_mem_nil
  | s :: rest, path, n, level, hl, h, p, hp => by
    rw [sectionsAll, List.forall_mem_append] at h
    rw [placedAll, List.mem_append] at hp
    obtain ⟨hs, hr⟩ := List.forall_mem_cons.mp hl
    rcases hp with hp | hp
    · exact Nat.lt_of_lt_of_le hs (level_le_of_mem_placed s _ h.1 p hp)
    · exact level_lt_of_mem_placedAll rest path _ hr h.2 p hp

end

mutual

/-- Where children lie below the section around them, so does all that stands inside it. -/
theorem level_lt_of_inside : ∀ (s : Section) (path : List Nat),
    (∀ t ∈ s.sections, ∀ child ∈ t.children, t.level < child.level) →
    ∀ p ∈ s.placed path, ∀ q ∈ s.placed path, p.Inside q → q.entry.level < p.entry.level
  | ⟨level, title, body, children⟩, path, h, p, hp, q, hq, hi => by
    rw [sections, List.forall_mem_cons] at h
    rw [placed, List.mem_cons] at hp hq
    rcases hp with rfl | hp
    · exact absurd (hi.1.eq_of_length_le (isPrefix_of_mem_placed _ path
        (by rw [placed]; exact List.mem_cons.mpr hq)).length_le) hi.2
    · rcases hq with rfl | hq
      · exact level_lt_of_mem_placedAll children path 0 h.1 h.2 p hp
      · exact level_lt_of_insideAll children path 0 h.2 p hp q hq hi

theorem level_lt_of_insideAll : ∀ (children : List Section) (path : List Nat) (n : Nat),
    (∀ t ∈ sectionsAll children, ∀ child ∈ t.children, t.level < child.level) →
    ∀ p ∈ placedAll path n children, ∀ q ∈ placedAll path n children, p.Inside q →
      q.entry.level < p.entry.level
  | [], _, _, _, _, h, _, _, _ => absurd h List.not_mem_nil
  | s :: rest, path, n, h, p, hp, q, hq, hi => by
    rw [sectionsAll, List.forall_mem_append] at h
    rw [placedAll, List.mem_append] at hp hq
    rcases hp with hp | hp <;> rcases hq with hq | hq
    · exact level_lt_of_inside s _ h.1 p hp q hq hi
    · exact absurd hi.1 (not_isPrefix_of_mem_placedAll hp hq).1
    · exact absurd hi.1 (not_isPrefix_of_mem_placedAll hq hp).2
    · exact level_lt_of_insideAll rest path _ h.2 p hp q hq hi

end

def heading (s : Section) : Nat × List Inline :=
  (s.level, s.title)

end Section

def Block.heading? : Block → Option (Nat × List Inline)
  | .heading level title => some (level, title)
  | _ => none

namespace Section

theorem HeadingFree.filterMap_body {s : Section} (h : s.HeadingFree) :
    s.body.filterMap Block.heading? = [] := by
  rw [List.filterMap_eq_nil_iff]
  intro block hb
  cases block with
  | heading level title => exact absurd hb (h level title)
  | _ => rfl

mutual

/-- The headings among the blocks of a section are those of the sections below it. -/
theorem headings_contents : ∀ s : Section, (∀ t ∈ s.sections, t.HeadingFree) →
    s.contents.filterMap Block.heading? = (sectionsAll s.children).map heading
  | ⟨level, title, body, children⟩, h => by
    rw [sections, List.forall_mem_cons] at h
    rw [contents, List.filterMap_append, headings_contentsAll children h.2,
      h.1.filterMap_body, List.nil_append]

theorem headings_contentsAll : ∀ children : List Section,
    (∀ t ∈ sectionsAll children, t.HeadingFree) →
    (contentsAll children).filterMap Block.heading? = (sectionsAll children).map heading
  | [], _ => rfl
  | s :: rest, h => by
    rw [sectionsAll, List.forall_mem_append] at h
    rw [contentsAll, List.filterMap_append, headings_contentsAll rest h.2, sectionsAll,
      List.map_append, sections_eq]
    exact congrArg (fun below => s.heading :: below ++ _) (headings_contents s h.1)

end

/-- The places of an outline come in the order of the headings of its blocks, behind the place of
the document. -/
theorem headings_ofBlocks (blocks : List Block) :
    ((ofBlocks blocks).placed []).map (fun p => p.entry.heading) =
      (0, []) :: blocks.filterMap Block.heading? := by
  have hm := map_entry_placed (ofBlocks blocks) []
  have hc := headings_contents (ofBlocks blocks) fun s hs => (shaped_ofBlocks hs).headingFree
  have hw := (wellFormed_ofBlocks blocks).stacked
  have hh : (ofBlocks blocks).heading = (0, []) := Prod.ext hw.1 hw.2
  rw [contents_ofBlocks] at hc
  rw [← Function.comp_def heading Placed.entry, ← List.map_map, hm, sections_eq, List.map_cons, hh,
    hc]

/-- Whether the heading of a section declares a class. -/
def DeclaresClass (s : Section) : Prop :=
  ∃ name, ClassTitle s.titleText name

theorem declaresClass_iff {s : Section} : s.DeclaresClass ↔ (className? s.titleText).isSome := by
  rw [Option.isSome_iff_exists]
  exact exists_congr fun _ => className?_eq_some.symm

instance (s : Section) : Decidable s.DeclaresClass :=
  decidable_of_iff _ declaresClass_iff.symm

/-- Whether a place holds a class heading that stands inside no other one of some places. -/
def Outermost (places : List Placed) (p : Placed) : Prop :=
  p.entry.DeclaresClass ∧ ∀ q ∈ places, p.Inside q → ¬ q.entry.DeclaresClass

instance (places : List Placed) (p : Placed) : Decidable (Outermost places p) :=
  inferInstanceAs (Decidable (_ ∧ _))

/-- The class headings of a document that stand inside no other one, in their order. -/
def outerClasses (root : Section) : List Placed :=
  (root.placed []).filter (Outermost (root.placed []) ·)

theorem outermost_cons_iff {q : Placed} {places : List Placed} (h : ¬ q.entry.DeclaresClass)
    (p : Placed) : Outermost (q :: places) p ↔ Outermost places p := by
  simp [Outermost, h]

/-- A place without a class heading makes no difference. -/
theorem filter_outermost_cons (q : Placed) (places : List Placed) (h : ¬ q.entry.DeclaresClass) :
    (q :: places).filter (Outermost (q :: places) ·) = places.filter (Outermost places ·) := by
  have hq : ¬ Outermost (q :: places) q := fun ho => h ho.1
  rw [List.filter_cons, if_neg (by simpa using hq)]
  exact List.filter_congr fun p _ => decide_eq_decide.mpr (outermost_cons_iff h p)

theorem outermost_append_left {places more : List Placed} {p : Placed}
    (h : ∀ q ∈ more, ¬ q.path <+: p.path) :
    Outermost (places ++ more) p ↔ Outermost places p := by
  have hm : ∀ q ∈ more, p.Inside q → ¬ q.entry.DeclaresClass := fun q hq hi => absurd hi.1 (h q hq)
  rw [Outermost, List.forall_mem_append, Outermost]
  exact ⟨fun ho => ⟨ho.1, ho.2.1⟩, fun ho => ⟨ho.1, ho.2, hm⟩⟩

theorem outermost_append_right {places more : List Placed} {p : Placed}
    (h : ∀ q ∈ places, ¬ q.path <+: p.path) :
    Outermost (places ++ more) p ↔ Outermost more p := by
  have hm : ∀ q ∈ places, p.Inside q → ¬ q.entry.DeclaresClass :=
    fun q hq hi => absurd hi.1 (h q hq)
  rw [Outermost, List.forall_mem_append, Outermost]
  exact ⟨fun ho => ⟨ho.1, ho.2.2⟩, fun ho => ⟨ho.1, hm, ho.2⟩⟩

theorem classesAll_append (path : List Nat) (n : Nat) (sections more : List Section) :
    classesAll path n (sections ++ more) =
      classesAll path n sections ++ classesAll path (n + sections.length) more := by
  induction sections generalizing n with
  | nil => rfl
  | cons s rest ih =>
    rw [List.cons_append, classesAll, ih, classesAll, List.append_assoc, List.length_cons,
      Nat.add_right_comm, Nat.add_assoc]

theorem classesAt_eq_all {s : Section} (h : className? s.titleText = none) (path : List Nat) :
    classesAt path s = classesAll path 0 s.children := by
  obtain ⟨level, title, body, children⟩ := s
  rw [classesAt, classHeading?, h]
  rfl

theorem classesAt_eq_self {s : Section} {name : String} (h : className? s.titleText = some name)
    (path : List Nat) : classesAt path s = [⟨name, ⟨path, s⟩⟩] := by
  obtain ⟨level, title, body, children⟩ := s
  rw [classesAt, classHeading?, h]
  rfl

theorem classHeading?_eq_some {path : List Nat} {s : Section} {found : ClassHeading} :
    classHeading? path s = some found ↔
      className? s.titleText = some found.name ∧ found.place = ⟨path, s⟩ := by
  obtain ⟨name, place⟩ := found
  rw [classHeading?, Option.map_eq_some_iff]
  constructor
  · rintro ⟨_, hn, he⟩
    cases he
    exact ⟨hn, rfl⟩
  · rintro ⟨hn, rfl⟩
    exact ⟨name, hn, rfl⟩

theorem classHeading?_eq_none {path : List Nat} {s : Section} :
    classHeading? path s = none ↔ ¬ s.DeclaresClass := by
  rw [classHeading?, Option.map_eq_none_iff, declaresClass_iff, Option.not_isSome_iff_eq_none]

/-- Below a class heading no class heading is outermost. -/
theorem filter_outermost_of_declaresClass {s : Section} (h : s.DeclaresClass) (path : List Nat) :
    (s.placed path).filter (Outermost (s.placed path) ·) = [⟨path, s⟩] := by
  have hs := s.placed_eq path
  have ho : Outermost (s.placed path) ⟨path, s⟩ :=
    ⟨h, fun q hq hi => absurd
      (hi.1.eq_of_length_le (isPrefix_of_mem_placed s path hq).length_le) hi.2⟩
  have hr : ∀ p ∈ placedAll path 0 s.children, ¬ Outermost (s.placed path) p := by
    intro p hp hp'
    obtain ⟨i, -, hi⟩ := isPrefix_of_mem_placedAll _ _ _ hp
    refine hp'.2 ⟨path, s⟩ (hs ▸ List.mem_cons_self) ⟨?_, (ne_of_mem_placedAll hp).symm⟩ h
    exact (List.prefix_append _ _).trans hi
  rw [hs] at ho hr ⊢
  rw [List.filter_cons, if_pos (decide_eq_true ho), List.filter_eq_nil_iff.mpr]
  exact fun p hp => by simpa using hr p hp

mutual

/-- The search for classes finds the outermost class headings. -/
theorem map_place_classesAt : ∀ (s : Section) (path : List Nat),
    (classesAt path s).map ClassHeading.place =
      (s.placed path).filter (Outermost (s.placed path) ·)
  | ⟨level, title, body, children⟩, path => by
    rw [classesAt]
    split
    · rename_i found hf
      obtain ⟨hn, hp⟩ := classHeading?_eq_some.mp hf
      have hd : DeclaresClass ⟨level, title, body, children⟩ :=
        declaresClass_iff.mpr (Option.isSome_of_eq_some hn)
      rw [filter_outermost_of_declaresClass hd, List.map_singleton, hp]
    · rename_i hf
      have hd : ¬ DeclaresClass ⟨level, title, body, children⟩ := classHeading?_eq_none.mp hf
      have ho := filter_outermost_cons ⟨path, _⟩ (placedAll path 0 children) hd
      rw [placed, ho, map_place_classesAll children path 0]

theorem map_place_classesAll : ∀ (children : List Section) (path : List Nat) (n : Nat),
    (classesAll path n children).map ClassHeading.place =
      (placedAll path n children).filter (Outermost (placedAll path n children) ·)
  | [], _, _ => rfl
  | s :: rest, path, n => by
    rw [classesAll, List.map_append, map_place_classesAt s, map_place_classesAll rest, placedAll,
      List.filter_append]
    refine congrArg₂ (· ++ ·) ?_ ?_
    · refine List.filter_congr fun p hp => decide_eq_decide.mpr ?_
      exact (outermost_append_left fun q hq => (not_isPrefix_of_mem_placedAll hp hq).1).symm
    · refine List.filter_congr fun q hq => decide_eq_decide.mpr ?_
      exact (outermost_append_right fun p hp => (not_isPrefix_of_mem_placedAll hp hq).2).symm

end

theorem place_mem_of_mem_classesAt {s : Section} {path : List Nat} {found : ClassHeading}
    (h : found ∈ classesAt path s) : found.place ∈ s.placed path := by
  have hm : found.place ∈ (classesAt path s).map ClassHeading.place := List.mem_map_of_mem h
  rw [map_place_classesAt] at hm
  exact List.mem_of_mem_filter hm

theorem place_mem_of_mem_classesAll {children : List Section} {path : List Nat} {n : Nat}
    {found : ClassHeading} (h : found ∈ classesAll path n children) :
    found.place ∈ placedAll path n children := by
  have hm : found.place ∈ (classesAll path n children).map ClassHeading.place :=
    List.mem_map_of_mem h
  rw [map_place_classesAll] at hm
  exact List.mem_of_mem_filter hm

theorem place_mem_of_mem_classes {root : Section} {found : ClassHeading}
    (h : found ∈ root.classes) : found.place ∈ root.placed [] := by
  rw [placed_eq]
  exact List.mem_cons_of_mem _ (place_mem_of_mem_classesAll h)

/-- The classes of a document are its outermost class headings, each once and in their order. -/
theorem map_place_classes {root : Section} (h : root.title = []) :
    root.classes.map ClassHeading.place = root.outerClasses := by
  have hn : ¬ root.DeclaresClass := by
    rw [declaresClass_iff, titleText, h]
    decide
  have hp := root.placed_eq []
  have ho := filter_outermost_cons ⟨[], root⟩ (placedAll [] 0 root.children) hn
  rw [classes, map_place_classesAll, outerClasses, hp, ho]

mutual

/-- What a class is called is what its heading says. -/
theorem className?_of_mem_classesAt : ∀ (s : Section) (path : List Nat) {found : ClassHeading},
    found ∈ classesAt path s → className? found.place.entry.titleText = some found.name
  | ⟨level, title, body, children⟩, path, found, h => by
    rw [classesAt] at h
    split at h
    · rename_i hf
      obtain ⟨hn, hp⟩ := classHeading?_eq_some.mp hf
      obtain rfl := List.mem_singleton.mp h
      rw [hp]
      exact hn
    · exact className?_of_mem_classesAll children path 0 h

theorem className?_of_mem_classesAll : ∀ (children : List Section) (path : List Nat) (n : Nat)
    {found : ClassHeading}, found ∈ classesAll path n children →
    className? found.place.entry.titleText = some found.name
  | [], _, _, _, h => absurd h List.not_mem_nil
  | s :: rest, path, n, found, h => by
    rw [classesAll, List.mem_append] at h
    rcases h with h | h
    · exact className?_of_mem_classesAt s _ h
    · exact className?_of_mem_classesAll rest path _ h

end

end Section

end ApiDocs
