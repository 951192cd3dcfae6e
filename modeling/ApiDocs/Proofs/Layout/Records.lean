import ApiDocs.Proofs.Document.Places
import ApiDocs.Proofs.Layout.Pages

/-!
# Records read back from their layout

Lint reads from the blocks of a module and its classes the records that were laid out, in their
order, and notes nothing but what its validator finds.
-/

namespace ApiDocs

open Unicode

variable {prose : String → List Inline}

theorem Collection.ofLabel?_label (collection : Collection) :
    ofLabel? (plainText [.text collection.label]) = some collection := by
  cases collection <;> rfl

theorem className?_label (collection : Collection) :
    className? (plainText [.text collection.label]) = none := by
  cases collection <;> rfl

namespace Section

theorem classesAll_eq_nil {sections : List Section}
    (h : ∀ s ∈ sections, ∀ path, classesAt path s = []) (path : List Nat) (n : Nat) :
    classesAll path n sections = [] := by
  induction sections generalizing n with
  | nil => rfl
  | cons s rest ih =>
    rw [List.forall_mem_cons] at h
    rw [classesAll, h.1, ih h.2, List.append_nil]

end Section

namespace Page

variable {page : Page}

theorem classesAt_groupSection (h : page.Legible prose) {group : Collection × List Member}
    (hg : group ∈ page.groups) (level : Nat) (path : List Nat) :
    Section.classesAt path (page.groupSection prose level group) = [] := by
  have hl : className? (page.groupSection prose level group).titleText = none :=
    className?_label group.1
  rw [Section.classesAt_eq_all hl]
  refine Section.classesAll_eq_nil (fun s hs path => ?_) path 0
  obtain ⟨m, hm, rfl⟩ := List.mem_map.mp hs
  have he : (group.1, m) ∈ page.members :=
    List.mem_flatMap.mpr ⟨group, hg, List.mem_map_of_mem hm⟩
  have ht : className? (page.memberSection prose (level + 1) (group.1, m)).titleText = none :=
    Member.className?_title (h.object_name _ he) (h.member_legible _ he)
  rw [Section.classesAt_eq_all ht]
  rfl

theorem classesAll_groups (h : page.Legible prose) (level n : Nat) (path : List Nat) :
    Section.classesAll path n (page.groups.map (page.groupSection prose level)) = [] := by
  refine Section.classesAll_eq_nil (fun s hs path => ?_) path n
  obtain ⟨group, hg, rfl⟩ := List.mem_map.mp hs
  exact classesAt_groupSection h hg level path

/-- The classes of a document are read off their sections in turn, whatever is made of each. -/
theorem map_classesAll {α : Type} {classes : List Page}
    (hc : ∀ page ∈ classes, ClassName page.name) {path : List Nat} {f : Section.ClassHeading → α}
    {g : Page → α}
    (hf : ∀ page ∈ classes, ∀ i, f ⟨page.name, ⟨path ++ [i], page.classSection prose⟩⟩ = g page)
    (n : Nat) :
    (Section.classesAll path n (classes.map (classSection prose))).map f = classes.map g := by
  induction classes generalizing n with
  | nil => rfl
  | cons page rest ih =>
    rw [List.forall_mem_cons] at hc hf
    have ht : className? (page.classSection prose).titleText = some page.name :=
      (congrArg className? hc.1.singleSpaced).trans hc.1.className?_title
    rw [List.map_cons, Section.classesAll, Section.classesAt_eq_self ht, List.singleton_append,
      List.map_cons, hf.1, ih hc.2 hf.2, List.map_cons]

theorem labeled_laidSection (page : Page) (level : Nat) (title : String) {more : List Section}
    (h : ∀ s ∈ more, Collection.ofLabel? s.titleText = none) :
    (page.laidSection prose level title more).labeled =
      page.groups.map fun group => (group.1, page.groupSection prose (level + 1) group) := by
  have hm : more.filterMap (fun child =>
      (Collection.ofLabel? child.titleText).map fun collection => (collection, child)) = [] := by
    refine List.filterMap_eq_nil_iff.mpr fun s hs => ?_
    rw [h s hs, Option.map_none]
  have hl : ∀ group, Collection.ofLabel? (page.groupSection prose (level + 1) group).titleText =
      some group.1 := fun group => group.1.ofLabel?_label
  rw [Section.labeled, laidSection, List.filterMap_append, hm, List.append_nil, List.filterMap_map]
  simp only [Function.comp_def, hl, Option.map_some]
  exact congrFun List.filterMap_eq_map page.groups

end Page

/-- What a surface has when its section was laid out from a page, the groups at a level. -/
structure Surface.Shows (prose : String → List Inline) (surface : Surface) (page : Page)
    (level : Nat) : Prop where
  name_eq : surface.name = page.name
  body_eq : surface.body = page.body prose
  merged_eq : surface.merged = false
  sections_eq : surface.sections =
    page.groups.map fun group => (group.1, page.groupSection prose level group)
  defects_eq : surface.defects = []

theorem Surface.Shows.memberSections_eq {surface : Surface} {page : Page} {level : Nat}
    (hs : surface.Shows prose page level) :
    surface.memberSections =
      page.members.map fun entry => (entry.1, page.memberSection prose (level + 1) entry) := by
  rw [memberSections, hs.sections_eq, Page.members]
  simp only [List.flatMap_map, List.map_flatMap, Page.groupSection, List.map_map]
  rfl

section Entries

variable {page : Page} {entries : List (Collection × Member)} {level : Nat}

theorem member_memberSection {entry : Collection × Member} (ho : ObjectName (page.object entry.1))
    (hl : entry.2.Legible prose entry.1.memberKind) (owner : String) :
    (page.memberSection prose level entry).member entry.1 owner = (some entry.2, []) :=
  Member.member_laid ho hl level owner

theorem membersRead_laid (ho : ∀ entry ∈ entries, ObjectName (page.object entry.1))
    (hl : ∀ entry ∈ entries, entry.2.Legible prose entry.1.memberKind) (owner : String) :
    membersRead owner
      (entries.map fun entry => (entry.1, page.memberSection prose level entry)) = entries := by
  induction entries with
  | nil => rfl
  | cons entry rest ih =>
    rw [List.forall_mem_cons] at ho hl
    have hr := ih ho.2 hl.2
    rw [membersRead] at hr ⊢
    rw [List.map_cons, List.filterMap_cons, hr, member_memberSection ho.1 hl.1]
    rfl

/-- Members of different names are all kept, and their sections give no defects. -/
theorem notices_laid (ho : ∀ entry ∈ entries, ObjectName (page.object entry.1))
    (hl : ∀ entry ∈ entries, entry.2.Legible prose entry.1.memberKind)
    (hn : (entries.map memberKey).Nodup) (owner : String) :
    notices owner
      (entries.map fun entry => (entry.1, page.memberSection prose level entry)) = [] := by
  induction entries using List.reverseRecOn with
  | nil => rfl
  | append_singleton entries entry ih =>
    rw [List.forall_mem_append] at ho hl
    rw [List.map_append, List.nodup_append] at hn
    obtain ⟨hn, -, hd⟩ := hn
    have hm : (page.memberSection prose level entry).member entry.1 owner = _ :=
      member_memberSection (ho.2 entry List.mem_cons_self) (hl.2 entry List.mem_cons_self) owner
    have hk : entry.2.name ∉ (entry.1.members entries).map Member.name := by
      rw [mem_names_iff]
      exact fun hk => hd _ hk _ (List.mem_map_of_mem List.mem_cons_self) rfl
    rw [List.map_append, List.map_singleton, notices_concat, ih ho.1 hl.1 hn, List.nil_append]
    simp only [outcome, hm, membersRead_laid ho.1 hl.1, if_neg hk]
    rfl

end Entries

theorem Block.process?_line (process : Process) :
    process? (.paragraph [.text (processLine process)]) = some process := by
  obtain ⟨main, renderer⟩ := process
  cases main <;> cases renderer <;> rfl

namespace Surface.Shows

variable {surface : Surface} {page : Page} {level : Nat}

theorem description_eq (hs : surface.Shows prose page level) (h : page.Legible prose) :
    surface.description = page.description := by
  rw [description, hs.merged_eq, hs.body_eq, if_neg (by simp)]
  exact h.description_legible

theorem process_eq (hs : surface.Shows prose page level) : surface.process = page.process := by
  rw [process, hs.body_eq, Page.body]
  simp only [List.findSome?_cons, Block.process?_line]
  rfl

/-- The draft of a surface says what the page says that it shows, and has no errors. -/
theorem draft_eq (hs : surface.Shows prose page level) (h : page.Legible prose)
    (version : String) :
    Draft.ofSurface version surface =
      ⟨page.name, surface.kind, version, page.description, page.process, page.members, []⟩ := by
  rw [Draft.ofSurface_eq, hs.memberSections_eq, membersRead_laid h.object_name h.member_legible,
    notices_laid h.object_name h.member_legible h.names_distinct,
    firstBy_of_nodup memberKey h.names_distinct, hs.name_eq, hs.description_eq h, hs.process_eq,
    hs.defects_eq]
  rfl

theorem record_eq (hs : surface.Shows prose page level) (h : page.Legible prose)
    (options : LintOptions) (validator : Validator) :
    surface.record options validator =
      ⟨page.record options surface.kind, validator (page.record options surface.kind).toJson⟩ := by
  rw [record, hs.draft_eq h]
  rfl

end Surface.Shows

/-- What a module and its classes need to be read back from one document. A module whose name is no
identifier would be named after the file, a class of two words after the first, and a class with
the name of the module would stand for it. -/
structure LegibleTogether (prose : String → List Inline) (module : Page) (classes : List Page) :
    Prop where
  module_legible : module.Legible prose
  module_name : isIdentifier module.name = true
  class_legible : ∀ page ∈ classes, page.Legible prose
  class_name : ∀ page ∈ classes, ClassName page.name
  class_apart : ∀ page ∈ classes, page.name ≠ module.name

theorem top?_layoutOutline (module : Page) (classes : List Page) :
    (layoutOutline prose module classes).top? =
      some ⟨[0], module.moduleSection prose classes⟩ :=
  rfl

namespace LegibleTogether

variable {module : Page} {classes : List Page}

theorem titleText_module (h : LegibleTogether prose module classes) :
    (module.moduleSection prose classes).titleText = module.name :=
  SingleSpaced.of_unbroken (unbroken_of_isIdentifier h.module_name)

theorem className?_module (h : LegibleTogether prose module classes) :
    className? (module.moduleSection prose classes).titleText = none := by
  rw [h.titleText_module, className?_identifier h.module_name]

theorem classes_layoutOutline (h : LegibleTogether prose module classes) :
    (layoutOutline prose module classes).classes =
      Section.classesAll [0] module.groups.length (classes.map (Page.classSection prose)) := by
  have hg := Page.classesAll_groups h.module_legible 2 0 [0]
  have hm := Section.classesAt_eq_all h.className?_module [0]
  rw [Section.classes, layoutOutline, Section.classesAll, Section.classesAll, List.append_nil]
  refine hm.trans ?_
  rw [Page.moduleSection, Page.laidSection, Section.classesAll_append, hg, List.nil_append,
    List.length_map, Nat.zero_add]

theorem labeled_module (h : LegibleTogether prose module classes) :
    (module.moduleSection prose classes).labeled =
      module.groups.map fun group => (group.1, module.groupSection prose 2 group) := by
  refine module.labeled_laidSection 1 _ fun s hs => ?_
  obtain ⟨page, hp, rfl⟩ := List.mem_map.mp hs
  have hn := h.class_name page hp
  exact (congrArg Collection.ofLabel? hn.singleSpaced).trans hn.ofLabel?_title

theorem any_classes (h : LegibleTogether prose module classes) (n : Nat) :
    (Section.classesAll [0] n (classes.map (Page.classSection prose))).any
      (fun found => found.name == module.name) = false := by
  have hm : (Section.classesAll [0] n (classes.map (Page.classSection prose))).map
      (fun found => found.name == module.name) = classes.map fun page => page.name == module.name :=
    Page.map_classesAll h.class_name (fun _ _ _ => rfl) n
  have ha := congrArg (List.any · id) hm
  simp only [List.any_map, Function.id_comp] at ha
  exact ha.trans (List.any_eq_false.mpr fun page hp => by simp [h.class_apart page hp])

/-- The record of a class, wherever its section stands below the module. -/
theorem record_class (h : LegibleTogether prose module classes) {page : Page} (hp : page ∈ classes)
    (i : Nat) (options : LintOptions) (validator : Validator) :
    (Surface.ofClass ⟨[0], module.moduleSection prose classes⟩ false
        ⟨page.name, ⟨[0] ++ [i], page.classSection prose⟩⟩).record options validator =
      ⟨page.record options .classApi, validator (page.record options .classApi).toJson⟩ := by
  have hl : (page.classSection prose).labeled =
      page.groups.map fun group => (group.1, page.groupSection prose 3 group) :=
    page.labeled_laidSection 2 _ fun _ hs => absurd hs List.not_mem_nil
  have hs : Surface.Shows prose (.ofClass ⟨[0], module.moduleSection prose classes⟩ false
      ⟨page.name, ⟨[0] ++ [i], page.classSection prose⟩⟩) page 3 :=
    ⟨rfl, rfl, rfl, (List.append_nil _).trans hl, rfl⟩
  exact hs.record_eq (h.class_legible page hp) options validator

theorem record_module (h : LegibleTogether prose module classes) (options : LintOptions)
    (validator : Validator) :
    (Surface.ofModule module.name (module.moduleSection prose classes)).record options validator =
      ⟨module.record options .moduleApi, validator (module.record options .moduleApi).toJson⟩ := by
  have hs : Surface.Shows prose (.ofModule module.name (module.moduleSection prose classes))
      module 2 := ⟨rfl, rfl, rfl, h.labeled_module, rfl⟩
  exact hs.record_eq h.module_legible options validator

end LegibleTogether

/-- Lint reads from a document the records that were laid out, the module first, and notes nothing
but what its validator finds in them. -/
theorem lintBlocks_layout {module : Page} {classes : List Page}
    (h : LegibleTogether prose module classes) (stem : String) (options : LintOptions)
    (validator : Validator) :
    lintBlocks (layout prose module classes) stem options validator =
      (module.record options .moduleApi :: classes.map (Page.record options .classApi)).map
        fun api => ⟨api, validator api.toJson⟩ := by
  have hname : moduleName (module.moduleSection prose classes).titleText stem = module.name := by
    rw [h.titleText_module, moduleName, if_pos h.module_name]
  have hclasses : ∀ page ∈ classes, ∀ i,
      (Surface.ofClass ⟨[0], module.moduleSection prose classes⟩
        (page.name == module.name)
        ⟨page.name, ⟨[0] ++ [i], page.classSection prose⟩⟩).record options validator =
      ⟨page.record options .classApi, validator (page.record options .classApi).toJson⟩ := by
    intro page hp i
    rw [beq_eq_false_iff_ne.mpr (h.class_apart page hp)]
    exact h.record_class hp i options validator
  rw [lintBlocks, ofBlocks_layout, Surface.ofOutline, top?_layoutOutline]
  dsimp only
  rw [h.classes_layoutOutline, hname, h.className?_module, h.any_classes]
  simp only [Option.isNone_none, Bool.not_false, Bool.and_true, Bool.true_and, if_true,
    List.singleton_append, List.map_cons, List.map_map, h.record_module]
  exact congrArg _ (Page.map_classesAll h.class_name hclasses _)

/-- A text as one piece. -/
def plainProse (s : String) : List Inline :=
  [.text s]

def startKind : Parameter :=
  ⟨"kind", "String", "", some true, some [⟨"cold", "Nothing is kept."⟩], none⟩

def startOptions : Parameter :=
  ⟨"options", "Object", "How to start.", some false, none, some [startKind]⟩

def appPage : Page :=
  ⟨"app", "Control your application.", ⟨true, false⟩, fun _ => "app",
    [(.methods, [⟨"start", some "([options])", some ["options"], "Starts again.", none,
      [startOptions], []⟩])]⟩

def trayPage : Page :=
  ⟨"Tray", "Add icons.", ⟨true, true⟩, fun _ => "tray",
    [(.instanceEvents, [⟨"click", none, none, "", some [.macOS, .windows], [], []⟩])]⟩

theorem startKind_legible : startKind.Legible plainProse where
  name_trimmed := trimmed_of_isIdentifier (by decide +kernel)
  type_word := .of_isIdentifier (by decide +kernel)
  description_legible := by decide +kernel
  description_unmarked := by decide +kernel
  no_platforms := by simp [plainProse, Inline.platforms?]
  value_trimmed := by decide +kernel
  value_legible := by decide +kernel
  describes_values := by decide +kernel
  describes_properties := by decide

theorem startOptions_legible : startOptions.Legible plainProse where
  name_trimmed := trimmed_of_isIdentifier (by decide +kernel)
  type_word := .of_isIdentifier (by decide +kernel)
  description_legible := by decide +kernel
  description_unmarked := by decide +kernel
  no_platforms := by simp [plainProse, Inline.platforms?]
  value_trimmed := by decide
  value_legible := by decide
  describes_values := by decide
  describes_properties := by decide +kernel

theorem appPage_legible : appPage.Legible plainProse where
  description_legible := by decide +kernel
  object_name _ _ := .of_isIdentifier (show isIdentifier "app" = true by decide +kernel)
  member_legible := List.forall_mem_singleton.mpr
    { shaped :=
        { name_ne := by decide
          signature_isSome := rfl
          signature_parenthesized := by decide +kernel
          names_isSome := rfl
          names_ne := by decide
          platforms_ne := by decide
          platforms_nodup := by decide
          parameters_eq_nil := by decide
          returns_eq_nil := fun _ => rfl
          nested_shaped := List.forall_mem_cons.mpr ⟨⟨by decide, rfl, by decide⟩,
            List.forall_mem_singleton.mpr ⟨by decide, rfl, by decide⟩⟩ }
      name_quoted := fun h => by cases h
      name_trimmed := fun _ => ⟨trimmed_of_isIdentifier (by decide +kernel), by decide⟩
      name_called := fun _ => by decide
      signature_names := by decide +kernel
      parameter_names := by decide +kernel
      optional_marked := by decide +kernel
      description_legible := by decide +kernel
      no_returns := by decide +kernel
      no_process := by decide +kernel
      nested_legible := List.forall_mem_cons.mpr ⟨startOptions_legible,
        List.forall_mem_singleton.mpr startKind_legible⟩ }
  names_distinct := List.nodup_singleton _

theorem trayPage_legible : trayPage.Legible plainProse where
  description_legible := by decide +kernel
  object_name _ _ := .of_isIdentifier (show isIdentifier "tray" = true by decide +kernel)
  member_legible := List.forall_mem_singleton.mpr
    { shaped :=
        { name_ne := by decide
          signature_isSome := rfl
          signature_parenthesized := by decide
          names_isSome := rfl
          names_ne := by decide
          platforms_ne := by decide
          platforms_nodup := by decide
          parameters_eq_nil := fun _ => rfl
          returns_eq_nil := fun _ => rfl
          nested_shaped := allShaped_nil _ }
      name_quoted := fun _ =>
        ⟨.of_unbroken (unbroken_of_isIdentifier (by decide +kernel)), by decide⟩
      name_trimmed := fun h => absurd rfl h
      name_called := fun h => by cases h
      signature_names := rfl
      parameter_names := rfl
      optional_marked := by decide
      description_legible := by decide +kernel
      no_returns := by decide +kernel
      no_process := by decide +kernel
      nested_legible := fun _ h => absurd h List.not_mem_nil }
  names_distinct := List.nodup_singleton _

theorem lintBlocks_layout_tray :
    LegibleTogether plainProse appPage [trayPage] ∧
      lintBlocks (layout plainProse appPage [trayPage]) "app"
          ⟨"1.4.0", ⟨[("Tray", "tray-icon")]⟩, ⟨"http://docs.test", "http://code.test"⟩⟩
          .acceptAll =
        [⟨⟨"app", "app", .moduleApi, "1.4.0", "Control your application.", ⟨true, false⟩,
            "http://docs.test/app", "http://code.test/v1.4.0/docs/api/app.md",
            [(.methods, ⟨"start", some "([options])", some ["options"], "Starts again.", none,
              [⟨"options", "Object", "How to start.", some false, none,
                some [⟨"kind", "String", "", some true, some [⟨"cold", "Nothing is kept."⟩],
                  none⟩]⟩], []⟩)]⟩, []⟩,
          ⟨⟨"Tray", "tray-icon", .classApi, "1.4.0", "Add icons.", ⟨true, true⟩,
            "http://docs.test/tray-icon", "http://code.test/v1.4.0/docs/api/tray-icon.md",
            [(.instanceEvents, ⟨"click", none, none, "", some [.macOS, .windows], [], []⟩)]⟩,
            []⟩] := by
  have h : LegibleTogether plainProse appPage [trayPage] :=
    { module_legible := appPage_legible
      module_name := by decide +kernel
      class_legible := List.forall_mem_singleton.mpr trayPage_legible
      class_name := List.forall_mem_singleton.mpr (.of_isIdentifier (by decide +kernel))
      class_apart := List.forall_mem_singleton.mpr (by decide) }
  refine ⟨h, (lintBlocks_layout h "app" ⟨"1.4.0", ⟨[("Tray", "tray-icon")]⟩,
    ⟨"http://docs.test", "http://code.test"⟩⟩ .acceptAll).trans ?_⟩
  rfl

end ApiDocs
