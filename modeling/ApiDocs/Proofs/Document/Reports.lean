import ApiDocs.Proofs.Document.Gaps
import ApiDocs.Proofs.Document.Titles
import ApiDocs.Proofs.Text
import ApiDocs.Proofs.Unicode

/-!
# Reports line by line

A report can be taken apart again at its line feeds, since no name and no error has one of its own.
Names are words or identifiers or made from the stem of a file without its white space, and errors
quote flat text, which stands on one line when code spans do, or strings as JSON writes them.
-/

namespace ApiDocs

namespace Text

/-- Whether a text stands on one line. -/
def IsLine (s : String) : Prop :=
  '\n' ∉ s.toList

instance (s : String) : Decidable (IsLine s) :=
  inferInstanceAs (Decidable ('\n' ∉ s.toList))

def lines (s : String) : List String :=
  (s.toList.splitOn '\n').map String.ofList

theorem isLine_append {s t : String} : IsLine (s ++ t) ↔ IsLine s ∧ IsLine t := by
  rw [IsLine, String.toList_append, List.mem_append, not_or]
  rfl

theorem isLine_toString {s : String} : IsLine (toString s) ↔ IsLine s :=
  Iff.rfl

theorem IsLine.of_subset {s t : String} (h : IsLine s) (hs : t.toList ⊆ s.toList) : IsLine t :=
  fun hm => h (hs hm)

theorem isLine_ofList {s : List Char} : IsLine (String.ofList s) ↔ '\n' ∉ s := by
  rw [IsLine, String.toList_ofList]

theorem isLine_of_isWhite {s : String} (h : ∀ c ∈ s.toList, Unicode.isWhite c = false) :
    IsLine s := by
  intro hm
  exact absurd (h _ hm) (by decide)

theorem isLine_trimmed {s : String} (h : IsLine s) : IsLine (trimmed s) := by
  rw [trimmed, isLine_ofList]
  exact newline_notMem_trim h

theorem trim_subset (s : List Char) : trim s ⊆ s :=
  List.IsInfix.subset (Text.trim_infix s)

end Text

open Text (IsLine isLine_append isLine_toString isLine_ofList isLine_trimmed)

/-- Texts that stand on one line each, joined with line feeds, are the lines of the whole. -/
theorem lines_join {first : String} {rest : List String} (h : ∀ line ∈ first :: rest, IsLine line) :
    Text.lines (String.join (first :: rest.map ("\n" ++ ·))) = first :: rest := by
  have hj : (String.join (first :: rest.map ("\n" ++ ·))).toList =
      ['\n'].intercalate ((first :: rest).map String.toList) := by
    rw [List.map_cons, Text.intercalate_cons, String.join_cons, String.toList_append,
      String.toList_join, List.flatMap_map, List.map_map, ← List.flatMap_def]
    simp [Function.comp_def]
  rw [Text.lines, hj, List.splitOn_intercalate]
  · simp
  · exact List.forall_mem_map.mpr h
  · exact List.cons_ne_nil _ _

/-- The lines of a report on a name and errors that stand on one line each. -/
theorem lines_report {name : String} {errors : List String} (hn : IsLine name)
    (he : ∀ error ∈ errors, IsLine error) :
    Text.lines (report name errors) =
      if errors = [] then ["✓ " ++ name] else ("✘ " ++ name) :: errors.map ("  - " ++ ·) := by
  have ht : IsLine "✓ " ∧ IsLine "✘ " ∧ IsLine "  - " := by decide
  have hb : ("\n  - " : String) = "\n" ++ "  - " := rfl
  by_cases h : errors = []
  · have hl := lines_join (List.forall_mem_singleton.mpr (isLine_append.mpr ⟨ht.1, hn⟩))
    rw [if_pos h, report, if_pos (by simpa using h)]
    rwa [List.map_nil, String.join_cons, String.join_nil, String.append_empty] at hl
  · have hm : errors.map ("\n  - " ++ ·) = (errors.map ("  - " ++ ·)).map ("\n" ++ ·) := by
      rw [List.map_map, hb]
      exact List.map_congr_left fun error _ => String.append_assoc
    rw [report, if_neg (by simpa using h), if_neg h, failedLines, hm]
    apply lines_join
    rw [List.forall_mem_cons, List.forall_mem_map]
    refine ⟨isLine_append.mpr ⟨ht.2.1, hn⟩, fun error hm => ?_⟩
    exact isLine_append.mpr ⟨ht.2.2, he error hm⟩

theorem newline_notMem_camelScan {done s : List Char} (h : '\n' ∉ done) (capital : Bool) :
    '\n' ∉ camelScan done capital s := by
  induction s generalizing done capital with
  | nil => simpa [camelScan] using h
  | cons c rest ih =>
    rw [camelScan]
    split
    · exact ih h _
    · rename_i hc
      have hn : c ≠ '\n' := by
        rintro rfl
        exact hc (by decide)
      split
      · apply ih
        rw [List.mem_append, List.mem_reverse, not_or]
        exact ⟨fun hm => hn (Unicode.eq_newline_of_mem_toUppercase hm), h⟩
      · exact ih (List.not_mem_cons_of_ne_of_not_mem hn.symm h) _

theorem isLine_camel (stem : String) : IsLine (camel stem) := by
  rw [camel, isLine_ofList]
  exact newline_notMem_camelScan List.not_mem_nil false

theorem isLine_className? {title name : String} (h : className? title = some name) :
    IsLine name :=
  Text.isLine_of_isWhite (className?_eq_some.mp h).1.unbroken

theorem isLine_moduleName (title stem : String) : IsLine (moduleName title stem) := by
  rw [moduleName]
  split
  · rename_i h
    simp only [isIdentifier, Bool.and_eq_true, List.all_eq_true] at h
    intro hm
    exact absurd (h.2 _ hm) (by decide)
  · exact isLine_camel stem

namespace Section

mutual

theorem isLine_classesAt : ∀ (s : Section) (path : List Nat), ∀ found ∈ classesAt path s,
    IsLine found.name
  | ⟨level, title, body, children⟩, path, found, h => by
    rw [classesAt] at h
    split at h
    · rename_i own hc
      obtain ⟨name, hn, rfl⟩ := Option.map_eq_some_iff.mp hc
      rw [List.mem_singleton.mp h]
      exact isLine_className? hn
    · exact isLine_classesAll children path 0 found h

theorem isLine_classesAll : ∀ (sections : List Section) (path : List Nat) (n : Nat),
    ∀ found ∈ classesAll path n sections, IsLine found.name
  | [], _, _, _, h => by cases h
  | s :: rest, path, n, found, h => by
    rw [classesAll, List.mem_append] at h
    rcases h with h | h
    · exact isLine_classesAt s _ found h
    · exact isLine_classesAll rest path _ found h

end

end Section

namespace Surface

variable {root : Section} {stem : String} {surface : Surface}

theorem cases_of_mem (h : surface ∈ ofOutline root stem) :
    surface = undeclared root stem ∨
      (∃ title top, surface = ofModule (moduleName title stem) top) ∨
      ∃ top merged, ∃ found ∈ root.classes, surface = ofClass top merged found := by
  rw [ofOutline] at h
  split at h
  · exact .inl (List.mem_singleton.mp h)
  · rename_i top ht
    rcases List.mem_append.mp h with h | h
    · split at h
      · exact .inr (.inl ⟨_, _, List.mem_singleton.mp h⟩)
      · exact absurd h List.not_mem_nil
    · obtain ⟨found, hf, rfl⟩ := List.mem_map.mp h
      exact .inr (.inr ⟨_, _, found, hf, rfl⟩)

theorem isLine_name (h : surface ∈ ofOutline root stem) : IsLine surface.name := by
  obtain rfl | ⟨title, top, rfl⟩ | ⟨top, merged, found, hf, rfl⟩ := cases_of_mem h
  · exact isLine_camel stem
  · exact isLine_moduleName title stem
  · exact Section.isLine_classesAll root.children [] 0 found hf

end Surface

theorem isLine_plainText {content : List Inline} (h : AllOneLine content) :
    IsLine (plainText content) :=
  Flat.notMem_flatten false h

namespace MemberHeading

theorem subset_of_named? {name signature text : List Char} {heading : MemberHeading}
    (h : named? name signature = some heading) (hn : name ⊆ text) (hs : signature ⊆ text) :
    heading.name.toList ⊆ text ∧ heading.signature.toList ⊆ text := by
  rw [named?] at h
  split at h
  · cases h
  · cases h
    rw [String.toList_ofList, String.toList_ofList]
    exact ⟨hn, hs⟩

theorem lastSegment_subset (path : List Char) : lastSegment path ⊆ path := by
  intro c hc
  have hm := Text.trim_subset _ hc
  rw [List.mem_reverse] at hm
  exact List.mem_reverse.mp ((List.takeWhile_prefix _).subset hm)

theorem subset_of_ofMethod? {text : List Char} {heading : MemberHeading}
    (h : ofMethod? text = some heading) :
    heading.name.toList ⊆ text ∧ heading.signature.toList ⊆ text := by
  rw [ofMethod?] at h
  split at h
  · cases h
  · refine subset_of_named? h ?_ fun c hc => ?_
    · exact List.Subset.trans (lastSegment_subset _) (List.takeWhile_prefix _).subset
    · rw [List.mem_reverse] at hc
      have hd := (List.dropWhile_suffix _).subset hc
      exact (List.dropWhile_suffix _).subset (List.mem_reverse.mp hd)

theorem cut?_subset {pattern s : List Char} {parts : List Char × List Char}
    (h : Text.cut? pattern s = some parts) : parts.1 ⊆ s := by
  induction s generalizing parts with
  | nil =>
    rw [Text.cut?] at h
    split at h
    · cases h
      exact List.nil_subset _
    · cases h
  | cons c rest ih =>
    rw [Text.cut?] at h
    split at h
    · cases h
      exact List.nil_subset _
    · obtain ⟨later, hl, rfl⟩ := Option.map_eq_some_iff.mp h
      exact List.cons_subset_cons c (ih hl)

theorem eventName?_subset {s name : List Char} (h : eventName? s = some name) : name ⊆ s := by
  unfold eventName? at h
  split at h
  · obtain ⟨parts, hp, rfl⟩ := Option.map_eq_some_iff.mp h
    exact List.subset_cons_of_subset _ (cut?_subset hp)
  · obtain ⟨parts, hp, rfl⟩ := Option.map_eq_some_iff.mp h
    exact List.subset_cons_of_subset _ (cut?_subset hp)
  · exact (Text.infix_of_mem_words (List.mem_of_mem_head? h)).subset

theorem subset_of_ofEvent? {text : List Char} {heading : MemberHeading}
    (h : ofEvent? text = some heading) :
    heading.name.toList ⊆ text ∧ heading.signature.toList ⊆ text := by
  simp only [ofEvent?, Option.bind_eq_bind, Option.bind_eq_some_iff] at h
  obtain ⟨rest, hr, name, hn, h⟩ := h
  rw [Text.after?_eq_some] at hr
  refine subset_of_named? h (fun c hc => ?_) (List.nil_subset _)
  have hc := Text.trim_subset _ (eventName?_subset hn (Text.trim_subset _ hc))
  exact Text.trim_subset _ (hr ▸ List.mem_append_right _ hc)

/-- What is read from a title on one line stands on one line. -/
theorem isLine_of_ofTitle? {kind : MemberKind} {title : List Inline} {heading : MemberHeading}
    (ht : AllOneLine title) (h : ofTitle? kind title = some heading) :
    IsLine heading.name ∧ IsLine heading.signature := by
  have hc : IsLine (codeOrText title) := newline_notMem_codeOrText ht
  cases kind with
  | method =>
    obtain ⟨hn, hs⟩ := subset_of_ofMethod? h
    exact ⟨hc.of_subset hn, hc.of_subset hs⟩
  | property =>
    obtain ⟨hn, hs⟩ := subset_of_named? h (lastSegment_subset _) (List.nil_subset _)
    exact ⟨hc.of_subset hn, hc.of_subset hs⟩
  | event =>
    obtain ⟨hn, hs⟩ := subset_of_ofEvent? h
    exact ⟨(isLine_plainText ht).of_subset hn, (isLine_plainText ht).of_subset hs⟩

end MemberHeading

section Wordings

variable {member parameter text : String}

theorem isLine_key (collection : Collection) : IsLine collection.key := by
  cases collection <;> decide

theorem isLine_unparsableHeading (collection : Collection) (h : IsLine text) :
    IsLine (Defect.unparsableHeading collection text).message := by
  change IsLine s!"unable to parse {collection.key} heading '{text}'"
  simp only [isLine_append, isLine_toString]
  exact ⟨⟨⟨⟨by decide, isLine_key collection⟩, by decide⟩, h⟩, by decide⟩

theorem isLine_unparsableParameter (hm : IsLine member) (h : IsLine text) :
    IsLine (Defect.unparsableParameter member text).message := by
  change IsLine s!"unable to parse parameter of {member}: '{text}'"
  simp only [isLine_append, isLine_toString]
  exact ⟨⟨⟨⟨by decide, hm⟩, by decide⟩, h⟩, by decide⟩

theorem isLine_missingType (hm : IsLine member) (hp : IsLine parameter) :
    IsLine (Defect.missingType member parameter).message := by
  change IsLine s!"parameter '{parameter}' of {member} has no type"
  simp only [isLine_append, isLine_toString]
  exact ⟨⟨⟨⟨by decide, hp⟩, by decide⟩, hm⟩, by decide⟩

theorem isLine_path (hm : IsLine member) (hp : IsLine parameter) :
    IsLine s!"{member}.{parameter}" := by
  simp only [isLine_append, isLine_toString]
  exact ⟨⟨hm, by decide⟩, hp⟩

theorem isLine_unparsablePossibleValue (hm : IsLine member) (hp : IsLine parameter)
    (h : IsLine text) : IsLine (Defect.unparsablePossibleValue member parameter text).message := by
  change IsLine s!"unable to parse possible value of {member}.{parameter}: '{text}'"
  simp only [isLine_append, isLine_toString]
  exact ⟨⟨⟨⟨⟨⟨by decide, hm⟩, by decide⟩, hp⟩, by decide⟩, h⟩, by decide⟩

theorem isLine_undocumentedParameters (hm : IsLine member) (h : IsLine text) :
    IsLine (Defect.undocumentedParameters member text).message := by
  change IsLine s!"{member}{text} is missing parameter docs"
  simp only [isLine_append, isLine_toString]
  exact ⟨⟨hm, h⟩, by decide⟩

theorem isLine_duplicateError (collection : Collection) (h : IsLine text) :
    IsLine (Draft.duplicateError collection text) := by
  change IsLine s!"duplicate {collection.key} member '{text}'"
  simp only [isLine_append, isLine_toString]
  exact ⟨⟨⟨⟨by decide, isLine_key collection⟩, by decide⟩, h⟩, by decide⟩

end Wordings

/-- Defects whose wordings stand on one line each. -/
structure AllLines (defects : List Defect) : Prop where
  isLine : ∀ defect ∈ defects, IsLine defect.message

namespace AllLines

theorem nil : AllLines [] :=
  ⟨fun _ h => absurd h List.not_mem_nil⟩

theorem cons {defect : Defect} {rest : List Defect} (h : IsLine defect.message)
    (hr : AllLines rest) : AllLines (defect :: rest) :=
  ⟨List.forall_mem_cons.mpr ⟨h, hr.isLine⟩⟩

theorem append {defects more : List Defect} (h : AllLines defects) (hm : AllLines more) :
    AllLines (defects ++ more) :=
  ⟨List.forall_mem_append.mpr ⟨h.isLine, hm.isLine⟩⟩

end AllLines

theorem allOneLine_lead {item : List Block} (h : BlocksOneLine item) :
    AllOneLine (Block.lead item) := by
  unfold Block.lead
  split
  · exact h.1
  · trivial

section Items

variable {item : List Block} {member parameter : String}

theorem isLine_of_ofItem (h : BlocksOneLine item) {bullet : Bullet}
    (hb : Bullet.ofItem item = .ok bullet) : IsLine bullet.name := by
  have hl := allOneLine_lead h
  rw [Bullet.ofItem] at hb
  split at hb
  · rename_i code tail he
    rw [he] at hl
    dsimp only at hb
    split at hb
    · cases hb
    split at hb
    · cases hb
      exact isLine_trimmed hl.1
    · cases hb
  · cases hb

/-- What is said of an item that cannot be read stands on one line. -/
theorem isLine_of_fault (h : BlocksOneLine item) (hm : IsLine member) {fault : BulletFault}
    (hb : Bullet.ofItem item = .error fault) : IsLine (fault.defect member).message := by
  have hl := allOneLine_lead h
  have hp := isLine_plainText hl
  rw [Bullet.ofItem] at hb
  split at hb
  · rename_i code tail he
    rw [he] at hl hp
    dsimp only at hb
    split at hb
    · cases hb
      exact isLine_unparsableParameter hm hp
    split at hb
    · cases hb
    · cases hb
      exact isLine_missingType hm (isLine_trimmed hl.1)
  · cases hb
    exact isLine_unparsableParameter hm hp

theorem possibleValues_lines (hm : IsLine member) (hp : IsLine parameter)
    {items : List (List Block)} (h : ItemsOneLine items) :
    AllLines (possibleValues member parameter items).2 := by
  induction items with
  | nil => exact .nil
  | cons item rest ih =>
    have hl := isLine_plainText (allOneLine_lead h.1)
    rw [possibleValues]
    dsimp only
    split
    · exact .cons (isLine_unparsablePossibleValue hm hp hl) (ih h.2)
    · exact ih h.2

/-- What is said of items at any depth stands on one line. -/
theorem parametersOf_lines (member : String) (requirement : Requirement)
    (items : List (List Block)) : IsLine member → ItemsOneLine items →
      AllLines (parametersOf member requirement items).2 := by
  induction member, requirement, items using
    @parametersOf.induct fun member requirement parameter blocks =>
      IsLine member → IsLine parameter.name → BlocksOneLine blocks →
        AllLines (nestedDocs member requirement parameter blocks).2 with
  | case1 => rw [nestedDocs]; exact .nil
  | case2 member requirement parameter ordered items tail hd properties defects hp ih hm hn h =>
    rw [hp] at ih
    simpa only [nestedDocs, hd, hp, if_true] using ih (isLine_path hm hn) h.1
  | case3 member requirement parameter ordered items tail hd values defects hv hm hn h =>
    rw [nestedDocs, if_neg hd]
    exact possibleValues_lines hm hn h.1
  | case4 member requirement parameter head rest hne ih hm hn h =>
    rw [nestedDocs]
    · exact ih hm hn h.2
    · exact hne
  | case5 => rw [parametersOf]; exact fun _ _ => .nil
  | case6 member requirement item rest properties defects hp fault hb ih =>
    intro hm h
    rw [hp] at ih
    simp only [parametersOf, hp, hb]
    exact .cons (isLine_of_fault h.1 hm hb) (ih hm h.2)
  | case7 member requirement item rest properties defects hp bullet hb parameter found hn ih ih' =>
    intro hm h
    have hl := isLine_of_ofItem h.1 hb
    rw [hp] at ih
    rw [hn] at ih'
    simp only [parametersOf, hp, hb, hn]
    exact .append (ih' hm (by rwa [Bullet.parameter_eq]) h.1) (ih hm h.2)

end Items

theorem itemsOneLine_of_mem {body : List Block} (h : BlocksOneLine body) {block : Block}
    (hb : block ∈ body) {items : List (List Block)} (hi : block.items? = some items) :
    ItemsOneLine items := by
  have ho := blocksOneLine_iff.mp h block hb
  cases block <;> cases hi
  exact ho

theorem itemsOneLine_firstItems? {body : List Block} (h : BlocksOneLine body)
    {items : List (List Block)} (hi : Block.firstItems? body = some items) :
    ItemsOneLine items := by
  obtain ⟨block, hb, hi⟩ := List.exists_of_findSome?_eq_some hi
  exact itemsOneLine_of_mem h hb hi

theorem itemsOneLine_payloadItems? {body : List Block} (h : BlocksOneLine body)
    {items : List (List Block)} (hi : Block.payloadItems? body = some items) :
    ItemsOneLine items := by
  rw [Block.payloadItems?] at hi
  split at hi
  · rename_i first next rest he
    have hm : next ∈ body := (List.dropWhile_suffix _).subset (by rw [he]; simp)
    exact itemsOneLine_of_mem h hm hi
  · cases hi

namespace Section

variable {s : Section} {heading : MemberHeading} {owner : String}

theorem arguments_lines (hb : BlocksOneLine s.body) {member : String} (hm : IsLine member)
    (signature : String) : AllLines (s.arguments member signature).2 := by
  rw [arguments]
  split
  · exact .nil
  · split
    · rename_i items hi
      exact parametersOf_lines _ _ _ hm (itemsOneLine_firstItems? hb hi)
    · exact .nil

theorem method_lines (hb : BlocksOneLine s.body) (ho : IsLine owner) (hn : IsLine heading.name)
    (hs : IsLine heading.signature) : AllLines (s.method heading owner).2 := by
  have hp := isLine_path ho hn
  rw [method]
  apply AllLines.append (arguments_lines hb hp _)
  split
  · exact .cons (isLine_undocumentedParameters hp hs) .nil
  · exact .nil

theorem event_lines (hb : BlocksOneLine s.body) (ho : IsLine owner) (hn : IsLine heading.name) :
    AllLines (s.event heading owner).2 := by
  rw [event]
  split
  · rename_i items hi
    exact parametersOf_lines _ _ _ (isLine_path ho hn) (itemsOneLine_payloadItems? hb hi)
  · exact .nil

/-- What is read from a section and said of it stands on one line. -/
theorem member_lines (ht : AllOneLine s.title) (hb : BlocksOneLine s.body) (ho : IsLine owner)
    (collection : Collection) :
    AllLines (s.member collection owner).2 ∧
      ∀ m ∈ (s.member collection owner).1, IsLine m.name := by
  rw [member]
  split
  · refine ⟨.cons ?_ .nil, fun m hm => absurd hm (Option.not_mem_none m)⟩
    exact isLine_unparsableHeading collection (isLine_plainText ht)
  · rename_i heading hh
    obtain ⟨hn, hs⟩ := MemberHeading.isLine_of_ofTitle? ht hh
    cases collection.memberKind with
    | method => exact ⟨method_lines hb ho hn hs, fun m hm => by cases hm; exact hn⟩
    | property => exact ⟨.nil, fun m hm => by cases hm; exact hn⟩
    | event =>
      refine ⟨event_lines hb ho hn, fun m hm => ?_⟩
      cases hm
      split <;> exact hn

end Section

/-- A draft whose name and errors stand on one line each. -/
structure Draft.Lined (draft : Draft) : Prop where
  name : IsLine draft.name
  errors : ∀ error ∈ draft.errors, IsLine error

namespace Draft.Lined

variable {draft : Draft}

theorem note (h : draft.Lined) {error : String} (he : IsLine error) : (draft.note error).Lined :=
  ⟨h.name, List.forall_mem_append.mpr ⟨h.errors, List.forall_mem_singleton.mpr he⟩⟩

theorem noteAll (h : draft.Lined) {defects : List Defect} (hd : AllLines defects) :
    (draft.noteAll defects).Lined := by
  rw [noteAll_eq]
  exact ⟨h.name, List.forall_mem_append.mpr ⟨h.errors, List.forall_mem_map.mpr hd.isLine⟩⟩

theorem addMember (h : draft.Lined) (collection : Collection) {m : Member} (hm : IsLine m.name) :
    (draft.addMember collection m).Lined := by
  rw [Draft.addMember]
  split
  · exact h.note (isLine_duplicateError collection hm)
  · exact ⟨h.name, h.errors⟩

/-- A section of which title and lists stand on one line adds nothing that does not. -/
theorem addSection (h : draft.Lined) {entry : Collection × Section}
    (ht : AllOneLine entry.2.title) (hb : BlocksOneLine entry.2.body) :
    (draft.addSection entry).Lined := by
  obtain ⟨hd, hm⟩ := Section.member_lines ht hb h.name entry.1
  have hn := h.noteAll hd
  rw [Draft.addSection]
  dsimp only
  split
  · rename_i m he
    exact hn.addMember entry.1 (hm m he)
  · exact hn

theorem foldl_addSection (h : draft.Lined) {entries : List (Collection × Section)}
    (he : ∀ entry ∈ entries, AllOneLine entry.2.title ∧ BlocksOneLine entry.2.body) :
    (entries.foldl Draft.addSection draft).Lined := by
  induction entries generalizing draft with
  | nil => exact h
  | cons entry rest ih =>
    rw [List.forall_mem_cons] at he
    exact ih (h.addSection he.1.1 he.1.2) he.2

end Draft.Lined

namespace Surface

variable {blocks : List Block} {stem : String} {surface : Surface}

theorem allLines_defects {root : Section} (h : surface ∈ ofOutline root stem) :
    AllLines surface.defects := by
  obtain rfl | ⟨title, top, rfl⟩ | ⟨top, merged, found, hf, rfl⟩ := cases_of_mem h
  · exact .cons (by decide) .nil
  · exact .nil
  · exact .nil

theorem draft_lined (h : BlocksOneLine blocks)
    (hs : surface ∈ ofOutline (Section.ofBlocks blocks) stem) (version : String) :
    (Draft.ofSurface version surface).Lined := by
  have hd : Draft.Lined { Draft.ofName surface.name surface.kind version with
      description := surface.description, process := surface.process } :=
    ⟨isLine_name hs, fun _ h => absurd h List.not_mem_nil⟩
  rw [Draft.ofSurface]
  apply (hd.noteAll (allLines_defects hs)).foldl_addSection
  intro entry he
  have hc := contents_memberSections_subset hs he
  rw [Section.contents_ofBlocks, Section.contents_eq] at hc
  rw [blocksOneLine_iff] at h ⊢
  refine ⟨h _ (hc List.mem_cons_self), fun block hb => h block (hc ?_)⟩
  exact List.mem_cons_of_mem _ (List.mem_append_left _ hb)

end Surface

theorem newline_notMem_hexDigits : ∀ code < 32, '\n' ∉ Json.hexDigits code := by
  decide

theorem newline_notMem_escaped (c : Char) : '\n' ∉ Json.escaped c := by
  by_cases hn : c = '\n'
  · rw [hn]
    decide
  · unfold Json.escaped
    split_ifs with hq hb hr ht hs hf hc
    · decide
    · decide
    · decide
    · decide
    · decide
    · decide
    · simpa using newline_notMem_hexDigits c.toNat hc
    · simpa using Ne.symm hn

/-- A string is written on one line, since its line feeds are escaped. -/
theorem isLine_compact_string (s : String) : IsLine (Json.string s).compact := by
  have hq : '\n' ∉ Json.quoted s := by
    simp [Json.quoted, newline_notMem_escaped]
  exact isLine_ofList.mpr hq

theorem isLine_message {slug : String} {v : Violation}
    (h : v = .tooShort (.string "") 1 ∨ v = .unmatched (.string slug) TextForm.slug.pattern) :
    IsLine v.message := by
  rcases h with rfl | rfl
  · change IsLine ((Json.string "").compact ++ " is shorter than " ++
      Violation.counted 1 "character")
    simp only [isLine_append]
    exact ⟨⟨isLine_compact_string "", by decide⟩, by decide⟩
  · change IsLine s!"{(Json.string slug).compact} does not match \"{TextForm.slug.pattern}\""
    simp only [isLine_append, isLine_toString]
    exact ⟨⟨⟨isLine_compact_string slug, by decide⟩, by decide⟩, by decide⟩

theorem headingsOneLine_of_blocks {blocks : List Block} (h : BlocksOneLine blocks) :
    HeadingsOneLine blocks :=
  fun level title hm => blocksOneLine_iff.mp h (.heading level title) hm

/-- The schema says what it finds in a record on one line each. -/
theorem isLine_of_mem_api {blocks : List Block} (h : BlocksOneLine blocks) {stem : String}
    {surface : Surface} (hs : surface ∈ Surface.ofOutline (Section.ofBlocks blocks) stem)
    (options : LintOptions) (validator : Validator) {error : String}
    (he : error ∈ Validator.api (surface.record options validator).api.toJson) : IsLine error := by
  obtain ⟨v, hv, rfl⟩ := List.mem_map.mp he
  have hp := Api.violations_toJson (options.urls.websiteUrl_ne _) (options.urls.repoUrl_ne _ _)
    (surface.record_shaped (headingsOneLine_of_blocks h) hs options validator)
  exact isLine_message (Api.mem_gaps (hp.mem_iff.mp hv))

/-- When no code span of a document holds a line feed, neither do the names and the errors of its
records, whatever the file is called and whatever the options say. So the report on a record has one
line when there are no errors, and otherwise one more than there are errors: its name, then each
error. -/
theorem lines_lintBlocks {blocks : List Block} (h : BlocksOneLine blocks) (stem : String)
    (options : LintOptions) {validator : Validator}
    (hv : validator = .api ∨ validator = .acceptAll) :
    ∀ linted ∈ lintBlocks blocks stem options validator,
      IsLine linted.api.name ∧ (∀ error ∈ linted.errors, IsLine error) ∧
        Text.lines linted.report =
          if linted.errors = [] then ["✓ " ++ linted.api.name]
          else ("✘ " ++ linted.api.name) :: linted.errors.map ("  - " ++ ·) := by
  intro linted hl
  obtain ⟨surface, hs, rfl⟩ := List.mem_map.mp hl
  have hd := surface.draft_lined h hs options.version
  have he : ∀ error ∈ (surface.record options validator).errors, IsLine error := by
    change ∀ error ∈ (Draft.ofSurface options.version surface).errors ++
      validator (surface.record options validator).api.toJson, IsLine error
    refine List.forall_mem_append.mpr ⟨hd.errors, fun error hm => ?_⟩
    rcases hv with rfl | rfl
    · exact isLine_of_mem_api h hs options .api hm
    · exact absurd hm List.not_mem_nil
  have hn : IsLine (surface.record options validator).api.name := hd.name
  exact ⟨hn, he, lines_report hn he⟩

/-- The blocks of a document about a module with a method that has no signature. -/
def unsignedBlocks : List Block :=
  [.heading 1 [.text "App\nand more"], .code "one\ntwo", .heading 2 [.text "Methods"],
    .heading 3 [.code "app.quit", .text "\nnow"]]

theorem lines_lintBlocks_unsigned :
    BlocksOneLine unsignedBlocks ∧
      (lintBlocks unsignedBlocks "my\nfile" ⟨"1\n0", .builtin, .standard⟩ .acceptAll).map
          (fun linted => Text.lines linted.report) =
        [["✘ myFile", "  - unable to parse methods heading 'app.quit now'"]] := by
  have h : BlocksOneLine unsignedBlocks := by
    simp [unsignedBlocks, BlocksOneLine, Block.OneLine, AllOneLine, Inline.OneLine]
  obtain ⟨linted, hd, hn, he⟩ : ∃ linted,
      lintBlocks unsignedBlocks "my\nfile" ⟨"1\n0", .builtin, .standard⟩ .acceptAll = [linted] ∧
        linted.api.name = "myFile" ∧
        linted.errors = ["unable to parse methods heading 'app.quit now'"] :=
    ⟨_, rfl, by decide, by decide⟩
  have hl := lines_lintBlocks h "my\nfile" ⟨"1\n0", .builtin, .standard⟩ (.inr rfl) linted
    (by rw [hd]; exact List.mem_singleton_self linted)
  refine ⟨h, ?_⟩
  rw [hd, List.map_singleton, hl.2.2, he, hn]
  decide

end ApiDocs
