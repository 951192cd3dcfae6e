import ApiDocs.Proofs.Document.Accounting
import ApiDocs.Proofs.Document.Segments

/-!
# Classes apart from one another

What stands under the heading of a class can be replaced without a change to the places and names of
the classes of a document and to its top heading. Another class that does not stand for the module
keeps its record, save where the replaced one heads the document: what is told there of the
processes holds for every class that tells nothing itself.
-/

namespace ApiDocs

namespace Section

/-- The section with the one at a way below it replaced. -/
def replaceAt (s : Section) (way : List Nat) (new : Section) : Section :=
  match way with
  | [] => new
  | i :: way => { s with children := s.children.modify i fun child => child.replaceAt way new }

/-- Whether two sections are the same but for what stands at a way below them, which is `old` in the
first and `new` in the second. -/
inductive Replaced (old new : Section) : List Nat → Section → Section → Prop
  | here : Replaced old new [] old new
  | under {way : List Nat} {s s' : Section} (level : Nat) (title : List Inline)
      (body : List Block) (front behind : List Section) (h : Replaced old new way s s') :
      Replaced old new (front.length :: way) ⟨level, title, body, front ++ s :: behind⟩
        ⟨level, title, body, front ++ s' :: behind⟩

theorem placedAll_append (front behind : List Section) (path : List Nat) (n : Nat) :
    placedAll path n (front ++ behind) =
      placedAll path n front ++ placedAll path (n + front.length) behind := by
  induction front generalizing n with
  | nil => rfl
  | cons s rest ih =>
    rw [List.cons_append, placedAll, ih, placedAll, List.append_assoc, List.length_cons,
      Nat.add_right_comm, Nat.add_assoc]

theorem exists_child_of_mem_placedAll {children : List Section} {path : List Nat} {n : Nat}
    {p : Placed} (h : p ∈ placedAll path n children) :
    ∃ front s behind, children = front ++ s :: behind ∧
      p ∈ s.placed (path ++ [n + front.length]) := by
  induction children generalizing n with
  | nil => exact absurd h List.not_mem_nil
  | cons s rest ih =>
    rw [placedAll, List.mem_append] at h
    rcases h with h | h
    · exact ⟨[], s, rest, rfl, h⟩
    · obtain ⟨front, t, behind, rfl, ht⟩ := ih h
      refine ⟨s :: front, t, behind, rfl, ?_⟩
      rwa [List.length_cons, Nat.add_right_comm, Nat.add_assoc] at *

/-- Siblings of a section do not stand at it or below it. -/
theorem path_ne_of_mem_placedAll {path : List Nat} {i : Nat} (way : List Nat)
    {children : List Section} {n : Nat} (h : i < n ∨ n + children.length ≤ i) :
    ∀ p ∈ placedAll path n children, p.path ≠ path ++ i :: way := by
  intro p hp he
  obtain ⟨front, s, behind, rfl, hs⟩ := exists_child_of_mem_placedAll hp
  have hw := isPrefix_of_mem_placed s _ hs
  rw [he, List.prefix_append_right_inj, List.cons_prefix_cons] at hw
  rw [List.length_append, List.length_cons] at h
  omega

theorem modify_length_append (f : Section → Section) (front behind : List Section) (s : Section) :
    (front ++ s :: behind).modify front.length f = front ++ f s :: behind := by
  induction front with
  | nil => rfl
  | cons t rest ih =>
    rw [List.cons_append, List.length_cons, List.modify_succ_cons, ih, List.cons_append]

/-- A section can be replaced at the way that leads to it. -/
theorem replaced_replaceAt {old : Section} (new : Section) {way : List Nat} {s : Section}
    {path : List Nat} (h : ⟨path ++ way, old⟩ ∈ s.placed path) :
    Replaced old new way s (s.replaceAt way new) := by
  induction way generalizing s path with
  | nil =>
    rw [placed_eq, List.mem_cons, List.append_nil] at h
    rcases h with h | h
    · cases h
      exact .here
    · exact absurd rfl (ne_of_mem_placedAll h)
  | cons i way ih =>
    rw [placed_eq, List.mem_cons] at h
    rcases h with h | h
    · exact absurd (congrArg Placed.path h) (by simp)
    · obtain ⟨level, title, body, children⟩ := s
      obtain ⟨front, t, behind, rfl, ht⟩ := exists_child_of_mem_placedAll h
      have hi : i = front.length := by
        have hp := isPrefix_of_mem_placed t _ ht
        rw [Nat.zero_add, List.prefix_append_right_inj, List.cons_prefix_cons] at hp
        exact hp.1.symm
      subst hi
      rw [Nat.zero_add, List.append_cons path front.length way] at ht
      rw [replaceAt, modify_length_append]
      exact .under level title body front behind (ih ht)

/-- A class with another section at its place if it stands at the given way. -/
def ClassHeading.swap (way : List Nat) (new : Section) (found : ClassHeading) : ClassHeading :=
  if found.place.path = way then { found with place := ⟨way, new⟩ } else found

theorem map_swap_of_ne {way : List Nat} (new : Section) {classes : List ClassHeading}
    (h : ∀ found ∈ classes, found.place.path ≠ way) : classes.map (·.swap way new) = classes := by
  refine List.map_congr_left (fun found hf => ?_) |>.trans (List.map_id _)
  rw [ClassHeading.swap, if_neg (h found hf)]
  rfl

theorem path_ne_of_mem_classesAll {path : List Nat} {i : Nat} (way : List Nat)
    {children : List Section} {n : Nat} (h : i < n ∨ n + children.length ≤ i) :
    ∀ found ∈ classesAll path n children, found.place.path ≠ path ++ i :: way :=
  fun _ hf => path_ne_of_mem_placedAll way h _ (place_mem_of_mem_classesAll hf)

theorem Replaced.titleText_eq {old new : Section} (ht : new.title = old.title) {way : List Nat}
    {s s' : Section} (h : Replaced old new way s s') : s'.titleText = s.titleText := by
  cases h with
  | here => rw [titleText, ht, titleText]
  | under => rfl

/-- Replacing a section that gives a class replaces the section of that class only. -/
theorem Replaced.classesAt_eq {old new : Section} (ht : new.title = old.title) {way : List Nat}
    {s s' : Section} (h : Replaced old new way s s') {path : List Nat} {found : ClassHeading}
    (hf : found ∈ classesAt path s) (hp : found.place.path = path ++ way) :
    classesAt path s' = (classesAt path s).map (·.swap (path ++ way) new) := by
  induction h generalizing path with
  | here =>
    have hn : className? new.titleText = className? old.titleText := by
      rw [titleText, ht, titleText]
    rw [List.append_nil] at hp ⊢
    cases hc : className? old.titleText with
    | none =>
      rw [classesAt_eq_all hc] at hf
      exact absurd hp (ne_of_mem_placedAll (place_mem_of_mem_classesAll hf))
    | some name =>
      rw [classesAt_eq_self hc, classesAt_eq_self (hn.trans hc), List.map_singleton,
        ClassHeading.swap, if_pos rfl]
  | under level title body front behind h ih =>
    rename_i way s s'
    have hs : titleText ⟨level, title, body, front ++ s' :: behind⟩ =
        titleText ⟨level, title, body, front ++ s :: behind⟩ := rfl
    cases hc : className? (titleText ⟨level, title, body, front ++ s :: behind⟩) with
    | some name =>
      -- Around a section that gives a class no heading declares one.
      rw [classesAt_eq_self hc, List.mem_singleton] at hf
      rw [hf] at hp
      exact absurd hp (by simp)
    | none =>
      have hl : ∀ found ∈ classesAll path 0 front,
          found.place.path ≠ path ++ front.length :: way :=
        path_ne_of_mem_classesAll way (.inr (Nat.le_of_eq (Nat.zero_add _)))
      have hr : ∀ found ∈ classesAll path (front.length + 1) behind,
          found.place.path ≠ path ++ front.length :: way :=
        path_ne_of_mem_classesAll way (.inl (Nat.lt_succ_self _))
      rw [classesAt_eq_all hc, classesAll_append, classesAll, Nat.zero_add] at hf ⊢
      rw [← hs] at hc
      rw [classesAt_eq_all hc, classesAll_append, classesAll, Nat.zero_add, List.map_append,
        List.map_append, map_swap_of_ne new hl, map_swap_of_ne new hr]
      have hf : found ∈ classesAt (path ++ [front.length]) s := by
        rw [List.mem_append, List.mem_append] at hf
        rcases hf with hf | hf | hf
        · exact absurd hp (hl found hf)
        · exact hf
        · exact absurd hp (hr found hf)
      rw [List.append_cons path front.length way] at hp ⊢
      rw [ih hf hp]

/-- A document whose root is no class gives the classes that are found below the root. -/
theorem classes_eq_classesAt {root : Section} (h : className? root.titleText = none) :
    root.classes = classesAt [] root :=
  (classesAt_eq_all h []).symm

/-- The classes of a document in which the section of a class is replaced. -/
theorem classes_replaceAt {root : Section} (h : className? root.titleText = none)
    {found : ClassHeading} (hf : found ∈ root.classes) {new : Section}
    (ht : new.title = found.place.entry.title) :
    (root.replaceAt found.place.path new).classes =
      root.classes.map (·.swap found.place.path new) := by
  rw [classes_eq_classesAt h] at hf
  have hr : Replaced found.place.entry new found.place.path root
      (root.replaceAt found.place.path new) :=
    replaced_replaceAt new (place_mem_of_mem_classesAt hf)
  have hn : className? (root.replaceAt found.place.path new).titleText = none := by
    rw [hr.titleText_eq ht]
    exact h
  rw [classes_eq_classesAt h, classes_eq_classesAt hn]
  exact hr.classesAt_eq ht hf rfl

mutual

theorem sections_subset : ∀ (s : Section) {t : Section}, t ∈ s.sections → t.sections ⊆ s.sections
  | ⟨level, title, body, children⟩, t, h => by
    rw [sections, List.mem_cons] at h
    rcases h with rfl | h
    · exact List.Subset.refl _
    · rw [sections]
      exact List.subset_cons_of_subset _ (sectionsAll_subset children h)

theorem sectionsAll_subset : ∀ (children : List Section) {t : Section},
    t ∈ sectionsAll children → t.sections ⊆ sectionsAll children
  | [], _, h => absurd h List.not_mem_nil
  | s :: rest, t, h => by
    rw [sectionsAll, List.mem_append] at h
    rw [sectionsAll]
    rcases h with h | h
    · exact List.subset_append_of_subset_left _ (sections_subset s h)
    · exact List.subset_append_of_subset_right _ (sectionsAll_subset rest h)

end

theorem find?_placedAll_eq_none {children : List Section} {level : Nat}
    (h : ∀ s ∈ sectionsAll children, s.level ≠ level) (path : List Nat) (n : Nat) :
    (placedAll path n children).find? (fun p => p.entry.level == level) = none := by
  rw [List.find?_eq_none]
  intro p hp
  have hs : p.entry ∈ sectionsAll children := by
    rw [← map_entry_placedAll children path n]
    exact List.mem_map_of_mem hp
  simpa using h _ hs

end Section

/-- The way to a place with the title and the blocks of its section. -/
def Placed.told (p : Placed) : List Nat × List Inline × List Block :=
  (p.path, p.entry.title, p.entry.body)

/-- The same with other blocks for the section at a given way. -/
def Placed.toldWith (way : List Nat) (body : List Block) (p : Placed) :
    List Nat × List Inline × List Block :=
  (p.path, p.entry.title, if p.path = way then body else p.entry.body)

namespace Section

theorem map_toldWith_of_ne {found : Option Placed} {way : List Nat} (body : List Block)
    (h : ∀ p ∈ found, p.path ≠ way) :
    found.map (Placed.toldWith way body) = found.map Placed.told := by
  cases found with
  | none => rfl
  | some p =>
    rw [Option.map_some, Placed.toldWith, if_neg (h p rfl)]
    rfl

/-- The first heading of a level that does not occur below a replaced section stays where it is. -/
theorem Replaced.find?_placed {old new : Section} (ht : new.title = old.title)
    (hl : new.level = old.level) {level : Nat}
    (ho : ∀ s ∈ sectionsAll old.children, s.level ≠ level)
    (hn : ∀ s ∈ sectionsAll new.children, s.level ≠ level) {way : List Nat} {s s' : Section}
    (h : Replaced old new way s s') (path : List Nat) :
    ((s'.placed path).find? fun p => p.entry.level == level).map Placed.told =
      ((s.placed path).find? fun p => p.entry.level == level).map
        (Placed.toldWith (path ++ way) new.body) := by
  -- Siblings are the same in both, and a section around the replaced one keeps its title and blocks.
  induction h generalizing path with
  | here =>
    rw [placed_eq new, placed_eq old, List.find?_cons, List.find?_cons,
      find?_placedAll_eq_none ho, find?_placedAll_eq_none hn, hl]
    cases old.level == level with
    | false => rfl
    | true => simp [Placed.told, Placed.toldWith, ht]
  | under l title body front behind h ih =>
    rename_i way s s'
    have hf : ∀ p ∈ (placedAll path 0 front).find? fun p => p.entry.level == level,
        p.path ≠ path ++ front.length :: way := fun p hp =>
      path_ne_of_mem_placedAll way (.inr (Nat.le_of_eq (Nat.zero_add _))) p
        (List.mem_of_find?_eq_some hp)
    have hb : ∀ p ∈ (placedAll path (front.length + 1) behind).find?
        fun p => p.entry.level == level, p.path ≠ path ++ front.length :: way := fun p hp =>
      path_ne_of_mem_placedAll way (.inl (Nat.lt_succ_self _)) p (List.mem_of_find?_eq_some hp)
    have hs := ih (path ++ [front.length])
    rw [← List.append_cons] at hs
    rw [placed, placed, List.find?_cons, List.find?_cons]
    cases l == level with
    | true => simp [Placed.told, Placed.toldWith]
    | false =>
      rw [placedAll_append, placedAll_append, placedAll, placedAll, Nat.zero_add,
        List.find?_append, List.find?_append, List.find?_append, List.find?_append, Option.map_or,
        Option.map_or, Option.map_or, Option.map_or, hs, map_toldWith_of_ne _ hf,
        map_toldWith_of_ne _ hb]

/-- Sections below a section of a document have greater levels. -/
theorem IsDocument.level_lt_of_mem {root : Section} (h : root.IsDocument) {s : Section}
    (hs : s ∈ root.sections) : ∀ t ∈ sectionsAll s.children, s.level < t.level := by
  have hn : ∀ t ∈ s.sections, ∀ child ∈ t.children, t.level < child.level :=
    fun t ht => h.level_lt t (sections_subset root hs ht)
  rw [sections_eq, List.forall_mem_cons] at hn
  intro t ht
  rw [← map_entry_placedAll s.children [] 0] at ht
  obtain ⟨p, hp, rfl⟩ := List.mem_map.mp ht
  exact level_lt_of_mem_placedAll s.children [] 0 hn.1 hn.2 p hp

/-- The top heading stays where it is when what stands under a heading is replaced by sections below
it; only where it is that heading itself does it have other blocks. -/
theorem IsDocument.top?_replaceAt {root : Section} (h : root.IsDocument) {top : Placed}
    (htop : root.top? = some top) {old : Placed} (ho : old ∈ root.placed [])
    (hpos : 0 < old.entry.level) {new : Section} (ht : new.title = old.entry.title)
    (hl : new.level = old.entry.level) (hc : ∀ s ∈ sectionsAll new.children, new.level < s.level) :
    (root.replaceAt old.path new).top?.map Placed.told =
      some (top.toldWith old.path new.body) := by
  have hs : old.entry ∈ root.sections := by
    rw [← map_entry_placed root []]
    exact List.mem_map_of_mem ho
  have hr : Replaced old.entry new old.path root (root.replaceAt old.path new) :=
    replaced_replaceAt new ho
  have hb := h.level_lt_of_mem hs
  have hf : ∀ level, level ≤ old.entry.level →
      (((root.replaceAt old.path new).placed []).find? fun p => p.entry.level == level).map
          Placed.told =
        ((root.placed []).find? fun p => p.entry.level == level).map
          (Placed.toldWith old.path new.body) := by
    intro level hle
    refine hr.find?_placed ht hl (fun s hs => ?_) (fun s hs => ?_) []
    · exact Nat.ne_of_gt (Nat.lt_of_le_of_lt hle (hb s hs))
    · exact Nat.ne_of_gt (Nat.lt_of_le_of_lt hle (hl ▸ hc s hs))
  rw [top?_eq] at htop ⊢
  rw [← Option.map_some, ← htop, Option.map_or, Option.map_or, hf 1 hpos]
  cases h1 : (root.placed []).find? fun p => p.entry.level == 1 with
  | some p => rw [Option.map_some, Option.some_or, Option.some_or]
  | none =>
    -- With no heading of level one, what stands below the replaced heading is below level two.
    have hne : old.entry.level ≠ 1 := by
      simpa using List.find?_eq_none.mp h1 old ho
    rw [hf 2 (by omega)]

end Section

namespace Surface

def classesOf (root : Section) (stem : String) : List Surface :=
  (ofOutline root stem).filter fun surface => surface.kind == .classApi

/-- The surface that a class heading gives in a document with a top heading. -/
def ofHeading (top : Placed) (stem : String) (found : Section.ClassHeading) : Surface :=
  ofClass top ((className? top.entry.titleText).isNone &&
    found.name == moduleName top.entry.titleText stem) found

theorem classesOf_eq {root : Section} {top : Placed} (h : root.top? = some top) (stem : String) :
    classesOf root stem = root.classes.map (ofHeading top stem) := by
  rw [classesOf, ofOutline, h]
  dsimp only
  rw [List.filter_append, List.filter_eq_nil_iff.mpr, List.nil_append, List.filter_eq_self.mpr]
  · rfl
  · intro surface hs
    obtain ⟨found, -, rfl⟩ := List.mem_map.mp hs
    rfl
  · intro surface hs
    split at hs
    · obtain rfl := List.mem_singleton.mp hs
      exact Bool.false_ne_true
    · exact absurd hs List.not_mem_nil

theorem exists_top_of_classesOf {root : Section} {stem : String} {surface : Surface}
    (h : surface ∈ classesOf root stem) : ∃ top, root.top? = some top := by
  cases ht : root.top? with
  | none =>
    rw [classesOf, ofOutline, ht] at h
    exact absurd h List.not_mem_nil
  | some top => exact ⟨top, rfl⟩

/-- Under a top heading with the same title a class that does not stand for the module is the same
but for the blocks at the top of the document. -/
theorem ofHeading_of_title {top top' : Placed} (ht : top'.entry.title = top.entry.title)
    {stem : String} {found : Section.ClassHeading} (h : (ofHeading top stem found).merged = false) :
    ofHeading top' stem found =
      { ofHeading top stem found with preamble := (ofHeading top' stem found).preamble } := by
  have h' : (ofHeading top' stem found).merged = false := by
    rw [← h, ofHeading, ofClass, ofHeading, ofClass, Section.titleText, ht, Section.titleText]
  simp only [ofHeading, ofClass] at h h'
  simp only [ofHeading, ofClass, h, h', Bool.false_eq_true, if_false]

/-- Of the blocks at the top of the document, a class that does not stand for the module takes the
processes only. -/
theorem ofSurface_preamble {surface : Surface} (h : surface.merged = false)
    (preamble : List Block) (version : String) :
    Draft.ofSurface version { surface with preamble } =
      { Draft.ofSurface version surface with
        process := process { surface with preamble } } := by
  have hd : description { surface with preamble } = surface.description := by
    simp only [description, h, Bool.false_eq_true, and_false, if_false]
  rw [Draft.ofSurface_eq, Draft.ofSurface_eq, hd]
  rfl

theorem process_preamble {surface : Surface} {preamble : List Block}
    (h : (surface.body.findSome? Block.process?).isSome ∨
      preamble.findSome? Block.process? = surface.preamble.findSome? Block.process?) :
    process { surface with preamble } = surface.process := by
  rw [process, process]
  rcases h with h | h
  · obtain ⟨p, hp⟩ := Option.isSome_iff_exists.mp h
    rw [hp]
    rfl
  · rw [h]

theorem record_preamble {surface : Surface} (h : surface.merged = false) {preamble : List Block}
    (hp : process { surface with preamble } = surface.process) (options : LintOptions)
    (validator : Validator) :
    record { surface with preamble } options validator = surface.record options validator := by
  have hd : (Draft.ofSurface options.version surface).process = surface.process := by
    rw [Draft.ofSurface_eq]
  rw [record, ofSurface_preamble h, hp, ← hd]
  rfl

theorem nodup_path_classes {root : Section} (h : root.title = []) :
    (root.classes.map fun found => found.place.path).Nodup := by
  have hp := congrArg (List.map Placed.path) (Section.map_place_classes h)
  rw [List.map_map] at hp
  change (root.classes.map (Placed.path ∘ Section.ClassHeading.place)).Nodup
  rw [hp]
  exact (Section.nodup_placed root []).sublist (List.filter_sublist.map _)

/-- What the blocks at the top of the document are to another class after a replacement. -/
theorem preamble_replaceAt {top top' : Placed} {way : List Nat} {body : List Block}
    (h : top'.told = top.toldWith way body) (stem : String) (found : Section.ClassHeading) :
    (ofHeading top' stem found).preamble =
      if top.path = way ∧ found.place.path ≠ way then body
      else (ofHeading top stem found).preamble := by
  obtain ⟨hp, -, hb⟩ : top'.path = top.path ∧ top'.entry.title = top.entry.title ∧
      top'.entry.body = if top.path = way then body else top.entry.body := by
    simpa [Placed.told, Placed.toldWith] using h
  simp only [ofHeading, ofClass, hp, hb]
  by_cases hw : top.path = way
  · by_cases hf : found.place.path = way
    · simp [hw, hf]
    · simp [hw, hf]
  · simp [hw]

/-- Under the heading of a class any blocks and sections below it can be put in place of others. A
different class that does not stand for the module keeps its name, its description, its members and
the errors found in it; it keeps its processes, and so its whole record, unless the replaced class
heads the document, the processes told there change, and the other class tells none itself. -/
theorem record_replaceAt {root : Section} (h : root.IsDocument) (stem : String) {i j : Nat}
    (hij : i ≠ j) {a : Section.ClassHeading} (ha : root.classes[i]? = some a) {b : Surface}
    (hb : (classesOf root stem)[j]? = some b) (hm : b.merged = false) (body : List Block)
    (children : List Section)
    (hc : ∀ s ∈ Section.sectionsAll children, a.place.entry.level < s.level) :
    let new := { a.place.entry with body, children }
    let replaced := root.replaceAt a.place.path new
    ∃ b', replaced.classes[i]? = some ⟨a.name, a.place.path, new⟩ ∧
      (classesOf replaced stem)[j]? = some b' ∧
      (∀ version, Draft.ofSurface version b' =
        { Draft.ofSurface version b with process := b'.process }) ∧
      (root.top?.map Placed.path ≠ some a.place.path ∨
          (b.body.findSome? Block.process?).isSome ∨
          body.findSome? Block.process? = a.place.entry.body.findSome? Block.process? →
        ∀ options validator, b'.record options validator = b.record options validator) := by
  intro new replaced
  obtain ⟨top, htop⟩ := exists_top_of_classesOf (List.mem_of_getElem? hb)
  have hr : className? root.titleText = none := by
    rw [Section.titleText, h.title_eq]
    decide
  have hma : a ∈ root.classes := List.mem_of_getElem? ha
  have hpa : a.place ∈ root.placed [] := Section.place_mem_of_mem_classes hma
  have hda : a.place.entry.DeclaresClass :=
    ⟨_, className?_eq_some.mp (Section.className?_of_mem_classesAll _ _ _ hma)⟩
  have htold : replaced.top?.map Placed.told = some (top.toldWith a.place.path new.body) :=
    h.top?_replaceAt htop hpa (h.level_pos hpa hda) rfl rfl hc
  obtain ⟨top', htop', ht⟩ := Option.map_eq_some_iff.mp htold
  have hcl : replaced.classes = root.classes.map (·.swap a.place.path new) :=
    Section.classes_replaceAt hr hma rfl
  rw [classesOf_eq htop, List.getElem?_map, Option.map_eq_some_iff] at hb
  obtain ⟨g, hg, rfl⟩ := hb
  -- Two classes have different places, so the other one is not replaced.
  have hne : g.place.path ≠ a.place.path := by
    intro he
    have hn := nodup_path_classes h.title_eq
    have hi : i < (root.classes.map fun found => found.place.path).length := by
      rw [List.length_map]
      exact (List.getElem?_eq_some_iff.mp ha).1
    refine hij ((List.getElem?_inj hi hn).mp ?_)
    rw [List.getElem?_map, List.getElem?_map, ha, hg, Option.map_some, Option.map_some, he]
  have htitle : top'.entry.title = top.entry.title := congrArg (fun told => told.2.1) ht
  have hsame := ofHeading_of_title htitle hm
  refine ⟨ofHeading top' stem g, ?_, ?_, ?_, ?_⟩
  · rw [hcl, List.getElem?_map, ha, Option.map_some, Section.ClassHeading.swap, if_pos rfl]
  · rw [classesOf_eq htop', hcl, List.getElem?_map, List.getElem?_map, hg, Option.map_some,
      Option.map_some, Section.ClassHeading.swap, if_neg hne]
  · intro version
    rw [hsame]
    exact ofSurface_preamble hm _ version
  · intro hkeep options validator
    rw [hsame]
    refine record_preamble hm (process_preamble ?_) options validator
    rw [preamble_replaceAt ht]
    rcases hkeep with hkeep | hkeep | hkeep
    · rw [htop, Option.map_some, ne_eq, Option.some.injEq] at hkeep
      rw [if_neg fun hw => hkeep hw.1]
      exact .inr rfl
    · exact .inl hkeep
    · right
      split
      · rename_i hw
        have he : top = a.place :=
          Section.eq_of_path_eq (Section.top?_eq_some htop).1 hpa hw.1
        rw [hkeep, ofHeading, ofClass, he, if_neg hw.2]
      · rfl

/-- A document headed by a class that tells its processes, with a class behind that tells none. -/
def headedBlocks : List Block :=
  [.heading 2 [.text "Class: A"], .paragraph [.text "Process: Main"],
    .heading 2 [.text "Class: B"]]

theorem isDocument_headed : (Section.ofBlocks headedBlocks).IsDocument := by
  refine Section.isDocument_ofBlocks fun level title hm => ?_
  simp only [headedBlocks, List.mem_cons, Block.heading.injEq, List.not_mem_nil, reduceCtorEq,
    or_false, false_or] at hm
  omega

/-- What the class at the top tells of the processes holds for the class behind it, so there some of
the record changes. -/
theorem not_forall_record_replaceAt :
    ¬ ∀ (root : Section) (stem : String) (i j : Nat) (a : Section.ClassHeading) (b : Surface)
      (body : List Block) (children : List Section), root.IsDocument → i ≠ j →
      root.classes[i]? = some a → (classesOf root stem)[j]? = some b → b.merged = false →
      (∀ s ∈ Section.sectionsAll children, a.place.entry.level < s.level) →
      ∃ b', (classesOf (root.replaceAt a.place.path { a.place.entry with body, children })
          stem)[j]? = some b' ∧
        ∀ options validator, b'.record options validator = b.record options validator := by
  intro h
  obtain ⟨b', hb, hr⟩ := h (Section.ofBlocks headedBlocks) "a" 0 1
    ⟨"A", [0], ⟨2, [.text "Class: A"], [.paragraph [.text "Process: Main"]], []⟩⟩
    ⟨"B", .classApi, [], [.paragraph [.text "Process: Main"]], false, [], []⟩ [] []
    isDocument_headed Nat.zero_ne_one rfl rfl rfl (fun _ hs => absurd hs List.not_mem_nil)
  have hs : b' = ⟨"B", .classApi, [], [], false, [], []⟩ := (Option.some.inj hb).symm
  have hp := congrArg (fun linted => linted.api.process)
    (hr ⟨"", .builtin, .standard⟩ .acceptAll)
  rw [hs] at hp
  exact absurd hp (by decide +kernel)

theorem record_replaceAt_headed :
    (Section.ofBlocks headedBlocks).IsDocument ∧
      ∃ b', (classesOf ((Section.ofBlocks headedBlocks).replaceAt [1]
          ⟨2, [.text "Class: B"], [.paragraph [.text "Process: Renderer"]], []⟩) "a")[0]? =
            some b' ∧
        ∀ options validator, b'.record options validator =
          record ⟨"A", .classApi, [.paragraph [.text "Process: Main"]], [], false, [], []⟩ options
            validator := by
  obtain ⟨b', -, hb, -, hr⟩ := record_replaceAt isDocument_headed "a" Nat.one_ne_zero
    (a := ⟨"B", [1], ⟨2, [.text "Class: B"], [], []⟩⟩) rfl
    (b := ⟨"A", .classApi, [.paragraph [.text "Process: Main"]], [], false, [], []⟩) rfl rfl
    [.paragraph [.text "Process: Renderer"]] [] fun _ hs => absurd hs List.not_mem_nil
  refine ⟨isDocument_headed, b', hb, hr (.inl ?_)⟩
  decide

end Surface
end ApiDocs
