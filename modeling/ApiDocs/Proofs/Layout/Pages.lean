import ApiDocs.Proofs.Document.Accounting
import ApiDocs.Proofs.Document.Outline
import ApiDocs.Proofs.Layout.Members

/-!
# Documents laid out as blocks

The blocks that documents write for a module and its classes, and their reading: the outline of the
blocks has the headings in their places, each declaration is a surface, and the record of a surface
is the one that was laid out.
-/

namespace ApiDocs

open Unicode

/-- What a document says of a module or class: its record but for the version, and for the slug and
the addresses that follow from the name. -/
structure Page where
  name : String
  description : String
  process : Process
  /-- What stands before the point in the headings of a collection. -/
  object : Collection → String
  groups : List (Collection × List Member)

namespace Page

/-- The members of all groups, each with its collection. -/
def members (page : Page) : List (Collection × Member) :=
  page.groups.flatMap fun group => group.2.map (group.1, ·)

/-- The record that says the same. Its slug is the alias of the name, else the one derived from it,
and the addresses are those of the slug. -/
def record (options : LintOptions) (kind : ApiKind) (page : Page) : Api :=
  let slug := (options.aliases.get? page.name).getD (Slug.ofName page.name)
  { name := page.name
    slug
    kind
    version := options.version
    description := page.description
    process := page.process
    websiteUrl := options.urls.websiteBase ++ "/" ++ slug
    repoUrl :=
      options.urls.repoBase ++ "/v" ++ options.version ++ "/docs/api/" ++ slug ++ ".md"
    members := page.members }

end Page

variable (prose : String → List Inline)

def processLine (process : Process) : String :=
  "Process:" ++ (if process.main then " Main" else "") ++
    if process.renderer then " Renderer" else ""

namespace Page

/-- The blocks right under the heading of a page. -/
def body (page : Page) : List Block :=
  [.quote [.paragraph (prose page.description)], .paragraph [.text (processLine page.process)]]

/-- The blocks of a group of members, its heading at a level. -/
def groupBlocks (page : Page) (level : Nat) (group : Collection × List Member) : List Block :=
  .heading level [.text group.1.label] ::
    group.2.flatMap fun m =>
      .heading (level + 1) (m.title (page.object group.1) group.1.memberKind) ::
        m.body prose group.1.memberKind

def blocks (page : Page) (level : Nat) (title : String) : List Block :=
  .heading level [.text title] ::
    (page.body prose ++ page.groups.flatMap (page.groupBlocks prose (level + 1)))

def classTitle (page : Page) : String :=
  "Class: " ++ page.name

/-- What a page needs to be read back: a description that stands for itself, and members that can be
read back, those of a collection with different names. -/
structure Legible (page : Page) : Prop where
  description_legible : richText (prose page.description) = page.description
  object_name : ∀ entry ∈ page.members, ObjectName (page.object entry.1)
  member_legible : ∀ entry ∈ page.members, entry.2.Legible prose entry.1.memberKind
  names_distinct : (page.members.map memberKey).Nodup

end Page

/-- A document about a module and its classes. -/
def layout (module : Page) (classes : List Page) : List Block :=
  module.blocks prose 1 module.name ++
    classes.flatMap fun page => page.blocks prose 2 page.classTitle

namespace Page

def memberSection (page : Page) (level : Nat) (entry : Collection × Member) : Section :=
  entry.2.laidSection prose (page.object entry.1) level entry.1.memberKind

def groupSection (page : Page) (level : Nat) (group : Collection × List Member) : Section :=
  ⟨level, [.text group.1.label], [],
    group.2.map fun m => page.memberSection prose (level + 1) (group.1, m)⟩

/-- The section of a page, with further sections behind its groups. -/
def laidSection (page : Page) (level : Nat) (title : String) (more : List Section) : Section :=
  ⟨level, [.text title], page.body prose,
    page.groups.map (page.groupSection prose (level + 1)) ++ more⟩

def classSection (page : Page) : Section :=
  page.laidSection prose 2 page.classTitle []

def moduleSection (page : Page) (classes : List Page) : Section :=
  page.laidSection prose 1 page.name (classes.map (classSection prose))

end Page

def layoutOutline (module : Page) (classes : List Page) : Section :=
  ⟨0, [], [], [module.moduleSection prose classes]⟩

namespace Section

theorem contentsAll_map {α : Type} (f : α → Section) (entries : List α) :
    contentsAll (entries.map f) =
      entries.flatMap fun a => .heading (f a).level (f a).title :: (f a).contents := by
  induction entries with
  | nil => rfl
  | cons a rest ih => rw [List.map_cons, contentsAll, ih, List.flatMap_cons]

theorem nestedAll_of_level {level l : Nat} (hl : level < l) {sections : List Section}
    (h : ∀ s ∈ sections, s.level = l ∧ s.Nested) : NestedAll level sections := by
  induction sections with
  | nil => trivial
  | cons s rest ih =>
    rw [List.forall_mem_cons] at h
    obtain ⟨⟨hs, hn⟩, hr⟩ := h
    exact ⟨hs ▸ hl, hn, fun next hm => Nat.le_of_eq ((hr next hm).1.trans hs.symm), ih hr⟩

end Section

theorem Member.contents_laidSection (object : String) (level : Nat) (kind : MemberKind)
    (m : Member) : (m.laidSection prose object level kind).contents = m.body prose kind := by
  rw [laidSection, Section.contents, Section.contentsAll, List.append_nil]

namespace Page

theorem contents_groupSection (page : Page) (level : Nat) (group : Collection × List Member) :
    .heading level [.text group.1.label] :: (page.groupSection prose level group).contents =
      page.groupBlocks prose level group := by
  rw [groupSection, Section.contents, Section.contentsAll_map, List.nil_append]
  simp only [memberSection, Member.contents_laidSection]
  rfl

theorem contents_laidSection (page : Page) (level : Nat) (title : String) (more : List Section) :
    .heading level [.text title] :: (page.laidSection prose level title more).contents =
      page.blocks prose level title ++ Section.contentsAll more := by
  rw [laidSection, Section.contents, Section.contentsAll_append, Section.contentsAll_map, blocks,
    List.cons_append, List.append_assoc, ← funext (page.contents_groupSection prose (level + 1))]
  rfl

theorem contentsAll_classSection (classes : List Page) :
    Section.contentsAll (classes.map (classSection prose)) =
      classes.flatMap fun page => page.blocks prose 2 page.classTitle := by
  rw [Section.contentsAll_map]
  refine List.flatMap_congr fun page _ => (page.contents_laidSection prose 2 _ []).trans ?_
  rw [Section.contentsAll, List.append_nil]

theorem heading_notMem_body (kind : MemberKind) (m : Member) (l : Nat) (title : List Inline) :
    .heading l title ∉ m.body prose kind := by
  cases kind with
  | property => simp [Member.body, Member.lists]
  | _ =>
    rw [Member.body, Member.lists]
    split <;> simp

theorem nested_groupSection (page : Page) (level : Nat) (group : Collection × List Member) :
    (page.groupSection prose level group).Nested := by
  refine ⟨fun _ _ h => absurd h List.not_mem_nil,
    Section.nestedAll_of_level (Nat.lt_succ_self _) ?_⟩
  intro s hs
  obtain ⟨m, -, rfl⟩ := List.mem_map.mp hs
  exact ⟨rfl, heading_notMem_body prose _ m, trivial⟩

theorem nested_laidSection (page : Page) (level : Nat) (title : String) {more : List Section}
    (h : ∀ s ∈ more, s.level = level + 1 ∧ s.Nested) :
    (page.laidSection prose level title more).Nested := by
  refine ⟨by simp [body], Section.nestedAll_of_level (Nat.lt_succ_self _) ?_⟩
  intro s hs
  rcases List.mem_append.mp hs with hs | hs
  · obtain ⟨group, -, rfl⟩ := List.mem_map.mp hs
    exact ⟨rfl, page.nested_groupSection prose _ _⟩
  · exact h s hs

end Page

theorem contents_layoutOutline (module : Page) (classes : List Page) :
    (layoutOutline prose module classes).contents = layout prose module classes := by
  rw [layoutOutline, Section.contents, Section.contentsAll, Section.contentsAll, List.append_nil,
    List.nil_append, layout, ← Page.contentsAll_classSection]
  exact module.contents_laidSection prose 1 module.name _

theorem nested_layoutOutline (module : Page) (classes : List Page) :
    (layoutOutline prose module classes).Nested := by
  -- The classes stand at the level of the groups, so all children of the module are of one level.
  have hc : ∀ s ∈ classes.map (Page.classSection prose), s.level = 2 ∧ s.Nested := by
    intro s hs
    obtain ⟨page, -, rfl⟩ := List.mem_map.mp hs
    exact ⟨rfl, page.nested_laidSection prose 2 _ (fun _ h => absurd h List.not_mem_nil)⟩
  refine ⟨fun _ _ h => absurd h List.not_mem_nil, Section.nestedAll_of_level Nat.one_pos ?_⟩
  intro s hs
  rw [List.mem_singleton.mp hs]
  exact ⟨rfl, module.nested_laidSection prose 1 _ hc⟩

/-- The outline of a document is the tree it was laid out from. -/
theorem ofBlocks_layout (module : Page) (classes : List Page) :
    Section.ofBlocks (layout prose module classes) = layoutOutline prose module classes := by
  rw [← contents_layoutOutline]
  exact Section.ofBlocks_contents (nested_layoutOutline prose module classes) rfl rfl

end ApiDocs
