import ApiDocs.CommandLine.Loading
import ApiDocs.Proofs.Dict
import ApiDocs.Proofs.Except
import Mathlib

/-!
# Loading in any order

However folders list their entries and whichever read ends first, the loading of a folder ends, and
it ends in the same documents: those of the markdown files at any depth, each once, in the order of
their paths. Where one of the files is no text, it ends in the error of such a file.
-/

namespace ApiDocs

namespace FileTree

/-- Whether a file with these contents stands under names below entries. -/
inductive Has : List (String × FileTree) → List String → ByteArray → Prop
  | here {entries : List (String × FileTree)} {name : String} {contents : ByteArray}
      (h : (name, file contents) ∈ entries) : Has entries [name] contents
  | inside {entries inner : List (String × FileTree)} {name : String} {names : List String}
      {contents : ByteArray} (h : (name, folder inner) ∈ entries) (hi : Has inner names contents) :
      Has entries (name :: names) contents

/-- Whether no folder has two entries of one name, at any depth. -/
inductive Distinct : List (String × FileTree) → Prop
  | intro {entries : List (String × FileTree)} (keys : (Dict.keys entries).Nodup)
      (below : ∀ name inner, (name, folder inner) ∈ entries → Distinct inner) : Distinct entries

theorem Distinct.tail {entry : String × FileTree} {rest : List (String × FileTree)}
    (h : Distinct (entry :: rest)) : Distinct rest := by
  cases h with
  | intro keys below =>
    exact .intro (List.nodup_cons.mp keys).2
      fun name inner hm => below name inner (List.mem_cons_of_mem _ hm)

theorem Distinct.inner {name : String} {inner rest : List (String × FileTree)}
    (h : Distinct ((name, folder inner) :: rest)) : Distinct inner := by
  cases h with
  | intro _ below => exact below name inner List.mem_cons_self

theorem Distinct.notMem_keys {name : String} {tree : FileTree} {rest : List (String × FileTree)}
    (h : Distinct ((name, tree) :: rest)) : name ∉ Dict.keys rest := by
  cases h with
  | intro keys _ => exact (List.nodup_cons.mp keys).1

theorem Has.cons {entries : List (String × FileTree)} {names : List String} {contents : ByteArray}
    (h : Has entries names contents) (entry : String × FileTree) :
    Has (entry :: entries) names contents := by
  cases h with
  | here h => exact .here (List.mem_cons_of_mem _ h)
  | inside h hi => exact .inside (List.mem_cons_of_mem _ h) hi

theorem Has.ne_nil {entries : List (String × FileTree)} {names : List String}
    {contents : ByteArray} (h : Has entries names contents) : names ≠ [] := by
  cases h <;> exact List.cons_ne_nil _ _

theorem not_has_nil {names : List String} {contents : ByteArray} : ¬ Has [] names contents := by
  intro h
  cases h with
  | here h => exact absurd h List.not_mem_nil
  | inside h => exact absurd h List.not_mem_nil

/-- Under an entry and others stand the files of the entry and those of the others. -/
theorem has_cons_file {name : String} {contents c : ByteArray} {rest : List (String × FileTree)}
    {names : List String} :
    Has ((name, file contents) :: rest) names c ↔
      names = [name] ∧ c = contents ∨ Has rest names c := by
  constructor
  · intro h
    cases h with
    | here h =>
      rcases List.mem_cons.mp h with he | h
      · cases he
        exact .inl ⟨rfl, rfl⟩
      · exact .inr (.here h)
    | inside h hi =>
      rcases List.mem_cons.mp h with he | h
      · cases he
      · exact .inr (.inside h hi)
  · rintro (⟨rfl, rfl⟩ | h)
    · exact .here List.mem_cons_self
    · exact h.cons _

theorem has_cons_folder {name : String} {inner rest : List (String × FileTree)}
    {names : List String} {contents : ByteArray} :
    Has ((name, folder inner) :: rest) names contents ↔
      (∃ below, names = name :: below ∧ Has inner below contents) ∨ Has rest names contents := by
  constructor
  · intro h
    cases h with
    | here h =>
      rcases List.mem_cons.mp h with he | h
      · cases he
      · exact .inr (.here h)
    | inside h hi =>
      rcases List.mem_cons.mp h with he | h
      · cases he
        exact .inl ⟨_, rfl, hi⟩
      · exact .inr (.inside h hi)
  · rintro (⟨below, rfl, hi⟩ | h)
    · exact .inside List.mem_cons_self hi
    · exact h.cons _

/-- Whether the last of some names has an extension. -/
def EndsIn (extension : String) (names : List String) : Prop :=
  ∃ name ∈ names.getLast?, Path.extension? name = some extension

theorem endsIn_singleton {extension name : String} :
    EndsIn extension [name] ↔ Path.extension? name = some extension := by
  simp [EndsIn]

theorem endsIn_cons {extension name : String} {names : List String} (h : names ≠ []) :
    EndsIn extension (name :: names) ↔ EndsIn extension names := by
  rw [EndsIn, EndsIn, List.getLast?_cons_of_ne_nil h]

/-- The files that are listed are those below the entries whose names have the extension. -/
theorem mem_withExtension {extension : String} {trail names : List String} {contents : ByteArray}
    {entries : List (String × FileTree)} :
    (names, contents) ∈ withExtension extension trail entries ↔
      ∃ below, names = trail ++ below ∧ EndsIn extension below ∧ Has entries below contents := by
  fun_induction withExtension extension trail entries generalizing names with
  | case1 trail => simp [not_has_nil]
  | case2 trail name c rest he ih =>
    rw [List.mem_cons, ih]
    constructor
    · rintro (hc | ⟨below, rfl, hb, hr⟩)
      · cases hc
        exact ⟨[name], rfl, endsIn_singleton.mpr he, .here List.mem_cons_self⟩
      · exact ⟨below, rfl, hb, hr.cons _⟩
    · rintro ⟨below, rfl, hb, hr⟩
      rcases has_cons_file.mp hr with ⟨rfl, rfl⟩ | hr
      · exact .inl rfl
      · exact .inr ⟨below, rfl, hb, hr⟩
  | case3 trail name c rest he ih =>
    rw [ih]
    constructor
    · rintro ⟨below, rfl, hb, hr⟩
      exact ⟨below, rfl, hb, hr.cons _⟩
    · rintro ⟨below, rfl, hb, hr⟩
      rcases has_cons_file.mp hr with ⟨rfl, rfl⟩ | hr
      · exact absurd (endsIn_singleton.mp hb) he
      · exact ⟨below, rfl, hb, hr⟩
  | case4 trail name inner rest ihi ihr =>
    rw [List.mem_append, ihi, ihr]
    constructor
    · rintro (⟨below, rfl, hb, hi⟩ | ⟨below, rfl, hb, hr⟩)
      · exact ⟨name :: below, by simp, (endsIn_cons hi.ne_nil).mpr hb,
          .inside List.mem_cons_self hi⟩
      · exact ⟨below, rfl, hb, hr.cons _⟩
    · rintro ⟨below, rfl, hb, hr⟩
      rcases has_cons_folder.mp hr with ⟨names, rfl, hi⟩ | hr
      · exact .inl ⟨names, by simp, (endsIn_cons hi.ne_nil).mp hb, hi⟩
      · exact .inr ⟨below, rfl, hb, hr⟩

/-- Behind the trail comes the name of an entry. -/
theorem exists_key_of_mem_withExtension {extension : String} {trail : List String}
    {entries : List (String × FileTree)} {found : List String × ByteArray}
    (h : found ∈ withExtension extension trail entries) :
    ∃ name ∈ Dict.keys entries, trail ++ [name] <+: found.1 := by
  obtain ⟨below, hn, -, hb⟩ := mem_withExtension.mp h
  cases hb with
  | here h => exact ⟨_, List.mem_map.mpr ⟨_, h, rfl⟩, hn ▸ List.prefix_refl _⟩
  | inside h => exact ⟨_, List.mem_map.mpr ⟨_, h, rfl⟩, hn ▸ ⟨_, List.append_assoc _ _ _⟩⟩

theorem concat_prefix_inj {trail names : List String} {a b : String}
    (ha : trail ++ [a] <+: names) (hb : trail ++ [b] <+: names) : a = b := by
  have hp := List.prefix_of_prefix_length_le ha hb (by simp)
  have he := hp.eq_of_length (by simp)
  simpa using he

/-- No file is listed twice. -/
theorem nodup_withExtension (extension : String) (trail : List String)
    {entries : List (String × FileTree)} (h : Distinct entries) :
    ((withExtension extension trail entries).map Prod.fst).Nodup := by
  fun_induction withExtension extension trail entries with
  | case1 => exact List.nodup_nil
  | case2 trail name c rest he ih =>
    rw [List.map_cons, List.nodup_cons]
    refine ⟨fun hm => ?_, ih h.tail⟩
    obtain ⟨found, hf, hn⟩ := List.mem_map.mp hm
    obtain ⟨key, hk, hp⟩ := exists_key_of_mem_withExtension hf
    rw [hn] at hp
    exact h.notMem_keys (concat_prefix_inj (List.prefix_refl _) hp ▸ hk)
  | case3 trail name c rest he ih => exact ih h.tail
  | case4 trail name inner rest ihi ihr =>
    rw [List.map_append, List.nodup_append]
    refine ⟨ihi h.inner, ihr h.tail, ?_⟩
    intro names hi other hr he
    subst he
    obtain ⟨first, hf, rfl⟩ := List.mem_map.mp hi
    obtain ⟨second, hs, he⟩ := List.mem_map.mp hr
    obtain ⟨key, -, hi⟩ := exists_key_of_mem_withExtension hf
    obtain ⟨other, hk, ho⟩ := exists_key_of_mem_withExtension hs
    rw [he] at ho
    have hp : trail ++ [name] <+: first.1 := (List.prefix_append _ _).trans hi
    exact h.notMem_keys (concat_prefix_inj hp ho ▸ hk)

end FileTree

namespace CommandLine

open FileTree (Has Distinct EndsIn withExtension mem_withExtension nodup_withExtension)

/-- The markdown files below a folder that is to be searched. -/
def FoundFolder.files (folder : FoundFolder) : List FoundFile :=
  withExtension "md" folder.1 folder.2

/-- Searching a folder splits its files into its own and those of the folders in it. -/
theorem files_perm (trail : List String) (entries : List (String × FileTree)) :
    (FoundFolder.files (trail, entries)).Perm
      (entries.filterMap (markdown? trail) ++
        (entries.filterMap (subfolder? trail)).flatMap FoundFolder.files) := by
  induction entries with
  | nil => simp [FoundFolder.files, withExtension]
  | cons entry rest ih =>
    obtain ⟨name, contents | inner⟩ := entry
    · rw [FoundFolder.files, withExtension]
      have hf : subfolder? trail (name, .file contents) = none := rfl
      rw [List.filterMap_cons_none hf]
      by_cases he : Path.extension? name = some "md"
      · have hm : markdown? trail (name, .file contents) = some (trail ++ [name], contents) :=
          if_pos he
        rw [if_pos he, List.filterMap_cons_some hm]
        exact ih.cons _
      · have hm : markdown? trail (name, .file contents) = none := if_neg he
        rw [if_neg he, List.filterMap_cons_none hm]
        exact ih
    · rw [FoundFolder.files, withExtension]
      have hm : markdown? trail (name, .folder inner) = none := rfl
      have hf : subfolder? trail (name, .folder inner) = some (trail ++ [name], inner) := rfl
      rw [List.filterMap_cons_none hm, List.filterMap_cons_some hf, List.flatMap_cons]
      exact (ih.append_left _).trans (List.perm_append_comm_assoc _ _ _)

def folderCount : List (String × FileTree) → Nat
  | [] => 0
  | (_, .file _) :: rest => folderCount rest
  | (_, .folder inner) :: rest => folderCount inner + 1 + folderCount rest
termination_by entries => sizeOf entries
decreasing_by
  all_goals
    simp only [List.cons.sizeOf_spec, Prod.mk.sizeOf_spec, FileTree.folder.sizeOf_spec]
    omega

/-- The number of searches that a folder needs. -/
def FoundFolder.searches (folder : FoundFolder) : Nat :=
  folderCount folder.2 + 1

theorem folderCount_eq (trail : List String) (entries : List (String × FileTree)) :
    folderCount entries =
      ((entries.filterMap (subfolder? trail)).map FoundFolder.searches).sum := by
  induction entries with
  | nil => simp [folderCount]
  | cons entry rest ih =>
    obtain ⟨name, contents | inner⟩ := entry
    · have hf : subfolder? trail (name, .file contents) = none := rfl
      rw [folderCount, List.filterMap_cons_none hf, ih]
    · have hf : subfolder? trail (name, .folder inner) = some (trail ++ [name], inner) := rfl
      rw [folderCount, List.filterMap_cons_some hf, List.map_cons, List.sum_cons, ← ih]
      rfl

section Listed

variable {entries listed : List (String × FileTree)}

theorem files_perm_listed (trail : List String) (order : listed.Perm entries) :
    (FoundFolder.files (trail, entries)).Perm
      (listed.filterMap (markdown? trail) ++
        (listed.filterMap (subfolder? trail)).flatMap FoundFolder.files) :=
  (files_perm trail entries).trans
    ((order.symm.filterMap _).append ((order.symm.filterMap _).flatMap_right _))

theorem sum_searches_listed (trail : List String) (order : listed.Perm entries) :
    FoundFolder.searches (trail, entries) =
      ((listed.filterMap (subfolder? trail)).map FoundFolder.searches).sum + 1 := by
  rw [FoundFolder.searches, folderCount_eq trail]
  exact congrArg (· + 1) ((order.symm.filterMap _).map _).sum_nat

end Listed

/-- Whether a text was read from a file. -/
structure Reads (file : FoundFile) (text : FoundText) : Prop where
  names_eq : text.1 = file.1
  decoded : FileTree.decodeText file.2 = .ok text.2

theorem decodeText_eq_ok {contents : ByteArray} {text : String} :
    FileTree.decodeText contents = .ok text ↔ String.fromUTF8? contents = some text := by
  rw [FileTree.decodeText]
  cases String.fromUTF8? contents with
  | none => exact ⟨nofun, nofun⟩
  | some other => simp

theorem decodeText_eq_error {contents : ByteArray} {error : FileError} :
    FileTree.decodeText contents = .error error ↔
      error = .notText ∧ String.fromUTF8? contents = none := by
  rw [FileTree.decodeText]
  cases String.fromUTF8? contents with
  | none => simp [eq_comm]
  | some other => simp

theorem map_fst_of_reads {files : List FoundFile} {texts : List FoundText}
    (h : List.Forall₂ Reads files texts) : texts.map Prod.fst = files.map Prod.fst := by
  induction h with
  | nil => rfl
  | cons hr _ ih => rw [List.map_cons, List.map_cons, hr.names_eq, ih]

theorem mem_of_reads {files : List FoundFile} {texts : List FoundText}
    (h : List.Forall₂ Reads files texts) {names : List String} {text : String} :
    (names, text) ∈ texts ↔
      ∃ contents, (names, contents) ∈ files ∧ String.fromUTF8? contents = some text := by
  induction h with
  | nil => simp
  | @cons file read files texts hr _ ih =>
    obtain ⟨here, contents⟩ := file
    obtain ⟨same, found⟩ := read
    obtain ⟨rfl, hd⟩ := hr
    rw [decodeText_eq_ok] at hd
    rw [List.mem_cons, ih]
    constructor
    · rintro (he | ⟨c, hc, ht⟩)
      · cases he
        exact ⟨contents, List.mem_cons_self, hd⟩
      · exact ⟨c, List.mem_cons_of_mem _ hc, ht⟩
    · rintro ⟨c, hc, ht⟩
      rcases List.mem_cons.mp hc with he | hc
      · cases he
        rw [hd] at ht
        exact .inl (Option.some.inj ht ▸ rfl)
      · exact .inr ⟨c, hc, ht⟩

theorem inPathOrder_iff {α : Type} {a b : List String × α} :
    inPathOrder a b = true ↔ ¬ b.1 < a.1 := by
  rw [inPathOrder, Bool.not_eq_true', ← Bool.not_eq_true, List.lex_eq_true_iff_lex]
  simp only [decide_eq_true_eq]
  exact Iff.rfl

/-- Names that differ come strictly behind each other once they are in order. -/
theorem pairwise_mergeSort {α : Type} {l : List (List String × α)} (h : (l.map Prod.fst).Nodup) :
    ((l.mergeSort inPathOrder).map Prod.fst).Pairwise (· < ·) := by
  have hs : (l.mergeSort inPathOrder).Pairwise fun a b => inPathOrder a b = true := by
    apply List.pairwise_mergeSort
    · intro a b c hab hbc
      rw [inPathOrder_iff] at hab hbc ⊢
      exact List.not_lt.mpr (List.le_trans (List.not_lt.mp hab) (List.not_lt.mp hbc))
    · intro a b
      rw [Bool.or_eq_true, inPathOrder_iff, inPathOrder_iff]
      exact (List.le_total a.1 b.1).imp List.not_lt.mpr List.not_lt.mpr
  have hn : ((l.mergeSort inPathOrder).map Prod.fst).Nodup :=
    ((List.mergeSort_perm l inPathOrder).map Prod.fst).nodup_iff.mpr h
  rw [List.pairwise_map]
  refine (hs.and (List.pairwise_map.mp hn)).imp ?_
  rintro a b ⟨hab, hne⟩
  by_contra hlt
  exact hne (List.le_antisymm (List.not_lt.mp (inPathOrder_iff.mp hab)) (List.not_lt.mp hlt))

/-- Whether texts are those of the markdown files below entries, each once and in the order of the
names that lead to them. -/
structure TextsOf (entries : List (String × FileTree)) (texts : List FoundText) : Prop where
  increasing : (texts.map Prod.fst).Pairwise (· < ·)
  mem_iff : ∀ names text, (names, text) ∈ texts ↔
    ∃ contents, EndsIn "md" names ∧ Has entries names contents ∧
      String.fromUTF8? contents = some text

/-- Entries have one list of texts at most. -/
theorem TextsOf.unique {entries : List (String × FileTree)} {texts others : List FoundText}
    (h : TextsOf entries texts) (h' : TextsOf entries others) : texts = others := by
  have hn : ∀ {l : List FoundText}, (l.map Prod.fst).Pairwise (· < ·) → l.Nodup := by
    intro l hl
    refine (List.pairwise_map.mp hl).imp ?_
    rintro a b hlt rfl
    exact List.lt_irrefl _ hlt
  refine List.Perm.eq_of_pairwise ?_ (List.pairwise_map.mp h.increasing)
    (List.pairwise_map.mp h'.increasing) ?_
  · exact fun a b _ _ hab hba => absurd (List.lt_trans hab hba) (List.lt_irrefl _)
  · rw [List.perm_ext_iff_of_nodup (hn h.increasing) (hn h'.increasing)]
    rintro ⟨names, text⟩
    rw [h.mem_iff, h'.mem_iff]

section Texts

variable {entries : List (String × FileTree)} {texts : List FoundText} {files : List FoundFile}

theorem mem_iff_of_reads (hp : files.Perm (withExtension "md" [] entries))
    (hr : List.Forall₂ Reads files texts) (names : List String) (text : String) :
    (names, text) ∈ texts ↔
      ∃ contents, EndsIn "md" names ∧ Has entries names contents ∧
        String.fromUTF8? contents = some text := by
  rw [mem_of_reads hr]
  simp [hp.mem_iff, mem_withExtension, and_assoc]

/-- What was read in any order becomes the list of texts by sorting. -/
theorem textsOf_mergeSort (hd : Distinct entries)
    (hp : files.Perm (withExtension "md" [] entries)) (hr : List.Forall₂ Reads files texts) :
    TextsOf entries (texts.mergeSort inPathOrder) := by
  refine ⟨pairwise_mergeSort ?_, fun names text => ?_⟩
  · rw [map_fst_of_reads hr, (hp.map Prod.fst).nodup_iff]
    exact nodup_withExtension "md" [] hd
  · rw [(List.mergeSort_perm texts inPathOrder).mem_iff]
    exact mem_iff_of_reads hp hr names text

/-- What was read from the sorted files is sorted. -/
theorem textsOf_markdownFiles (hd : Distinct entries)
    (hr : List.Forall₂ Reads (markdownFiles entries) texts) : TextsOf entries texts := by
  refine ⟨?_, mem_iff_of_reads (List.mergeSort_perm _ _) hr⟩
  rw [map_fst_of_reads hr]
  exact pairwise_mergeSort (nodup_withExtension "md" [] hd)

/-- All of some files can be read when each of them can. -/
theorem exists_reads_iff :
    (∃ texts, List.Forall₂ Reads files texts) ↔
      ∀ file ∈ files, ∃ text, String.fromUTF8? file.2 = some text := by
  induction files with
  | nil => exact ⟨fun _ file hm => absurd hm List.not_mem_nil, fun _ => ⟨[], .nil⟩⟩
  | cons file rest ih =>
    rw [List.forall_mem_cons, ← ih]
    constructor
    · rintro ⟨_, hr⟩
      cases hr with
      | cons ht hr => exact ⟨⟨_, decodeText_eq_ok.mp ht.decoded⟩, _, hr⟩
    · rintro ⟨⟨text, ht⟩, texts, hr⟩
      exact ⟨(file.1, text) :: texts, .cons ⟨rfl, decodeText_eq_ok.mpr ht⟩ hr⟩

end Texts

theorem document_eq_ok {path : String} {file : FoundFile} (hn : file.1 ≠ []) {doc : SourceDoc} :
    document (Path.join path ("/".intercalate file.1)) file.2 = .ok doc ↔
      ∃ text, Reads file text ∧ doc = sourceDoc path text := by
  have hf : filePath path file.1 = Path.join path ("/".intercalate file.1) := if_neg hn
  rw [document]
  cases hd : FileTree.decodeText file.2 with
  | error error =>
    refine ⟨nofun, ?_⟩
    rintro ⟨text, hr, -⟩
    rw [hr.decoded] at hd
    cases hd
  | ok markdown =>
    constructor
    · rintro ⟨⟩
      exact ⟨(file.1, markdown), ⟨rfl, hd⟩, by rw [sourceDoc, hf]⟩
    · rintro ⟨⟨names, text⟩, ⟨rfl, ht⟩, rfl⟩
      cases hd.symm.trans ht
      rw [sourceDoc, hf]

/-- Documents are those of the texts of the files in their order. -/
theorem mapM_document {path : String} {files : List FoundFile} (hn : ∀ file ∈ files, file.1 ≠ [])
    {docs : List SourceDoc} :
    (files.mapM fun file => document (Path.join path ("/".intercalate file.1)) file.2) = .ok docs ↔
      ∃ texts, List.Forall₂ Reads files texts ∧ docs = texts.map (sourceDoc path) := by
  induction files generalizing docs with
  | nil =>
    constructor
    · rintro ⟨⟩
      exact ⟨[], .nil, rfl⟩
    · rintro ⟨texts, hr, rfl⟩
      cases hr
      rfl
  | cons file rest ih =>
    rw [List.forall_mem_cons] at hn
    rw [List.mapM_cons, bind_eq_ok]
    constructor
    · rintro ⟨doc, hdoc, h⟩
      obtain ⟨others, hrest, h⟩ := bind_eq_ok.mp h
      obtain ⟨text, ht, rfl⟩ := (document_eq_ok hn.1).mp hdoc
      obtain ⟨texts, hr, rfl⟩ := (ih hn.2).mp hrest
      cases h
      exact ⟨text :: texts, .cons ht hr, rfl⟩
    · rintro ⟨texts, hr, rfl⟩
      cases hr with
      | cons ht hr =>
        refine ⟨_, (document_eq_ok hn.1).mpr ⟨_, ht, rfl⟩, ?_⟩
        exact bind_eq_ok.mpr ⟨_, (ih hn.2).mpr ⟨_, hr, rfl⟩, rfl⟩

theorem documents_eq_ok {root : FileTree} {path : String} {entries : List (String × FileTree)}
    (h : root.find path = .ok (.folder entries)) {docs : List SourceDoc} :
    documents root path = .ok docs ↔
      ∃ texts, List.Forall₂ Reads (markdownFiles entries) texts ∧
        docs = texts.map (sourceDoc path) := by
  rw [documents, h]
  refine mapM_document fun file hm => ?_
  have hm := (List.mergeSort_perm _ _).subset hm
  obtain ⟨below, rfl, -, hb⟩ := mem_withExtension.mp hm
  exact hb.ne_nil

namespace Loading

variable {path : String} {state next : Loading}

/-- The number of steps that loading can still take. -/
def stepsLeft : Loading → Nat
  | searching pending found =>
    (pending.map FoundFolder.searches).sum +
      (found ++ pending.flatMap FoundFolder.files).length + 2
  | reading running _ => running.length + 1
  | ended _ => 0

/-- Every step leaves fewer steps to take. -/
theorem Step.stepsLeft_lt (h : Step path state next) : next.stepsLeft < state.stepsLeft := by
  cases h with
  | @search pending found trail entries listed order =>
    have hs := sum_searches_listed trail order
    have hl := (files_perm_listed trail order).length_eq
    simp only [stepsLeft, List.map_append, List.sum_append, List.map_singleton,
      List.sum_singleton, List.flatMap_append, List.flatMap_singleton, List.length_append]
      at hs hl ⊢
    omega
  | spawn => simp [stepsLeft]
  | complete =>
    simp only [stepsLeft, List.length_append, List.length_cons]
    omega
  | fail => simp [stepsLeft]
  | sort => simp [stepsLeft]

/-- No loading goes on for ever. -/
theorem wellFounded_step (path : String) :
    WellFounded fun next state : Loading => Step path state next :=
  Subrelation.wf Step.stepsLeft_lt (InvImage.wf stepsLeft Nat.lt_wfRel.wf)

/-- Loading that has not ended has a step to take. -/
theorem exists_step (path : String) (state : Loading) :
    (∃ result, state = ended result) ∨ ∃ next, Step path state next := by
  cases state with
  | searching pending found =>
    rcases List.eq_nil_or_concat' pending with rfl | ⟨front, ⟨trail, entries⟩, rfl⟩
    · exact .inr ⟨_, .spawn⟩
    · exact .inr ⟨_, .search (List.Perm.refl entries)⟩
  | reading running texts =>
    cases running with
    | nil => exact .inr ⟨_, .sort⟩
    | cons file rest =>
      cases hd : FileTree.decodeText file.2 with
      | ok text => exact .inr ⟨_, @Step.complete path [] rest file texts text hd⟩
      | error error => exact .inr ⟨_, @Step.fail path [] rest file texts error hd⟩
  | ended result => exact .inl ⟨result, rfl⟩

/-- Whether loading has come so far with the files of a folder: each is found or still below a
folder to be searched; then each is read or still to be read; and in the end there are all texts in order,
or the error of a file that is no text. -/
def Covers (path : String) (files : List FoundFile) : Loading → Prop
  | searching pending found => (found ++ pending.flatMap FoundFolder.files).Perm files
  | reading running texts =>
    ∃ done, (done ++ running).Perm files ∧ List.Forall₂ Reads done texts
  | ended (.ok docs) =>
    ∃ done texts, done.Perm files ∧ List.Forall₂ Reads done texts ∧
      docs = (texts.mergeSort inPathOrder).map (sourceDoc path)
  | ended (.error error) =>
    ∃ file ∈ files, ∃ refusal, FileTree.decodeText file.2 = .error refusal ∧
      error = .unreadable (filePath path file.1) refusal

/-- A step loses no file and finds none that is not there. -/
theorem Covers.step {files : List FoundFile} (hc : state.Covers path files)
    (h : Step path state next) : next.Covers path files := by
  cases h with
  | @search pending found trail entries listed order =>
    have hp := files_perm_listed trail order
    refine List.Perm.trans ?_ hc
    simp only [List.flatMap_append, List.flatMap_singleton, List.append_assoc]
    refine List.Perm.append_left found ?_
    refine (List.perm_append_comm_assoc _ _ _).trans (List.Perm.append_left _ hp.symm)
  | spawn => exact ⟨[], by simpa [Covers] using hc, .nil⟩
  | @complete before after file texts text decoded =>
    obtain ⟨done, hp, hr⟩ := hc
    refine ⟨done ++ [file], ?_, ?_⟩
    · rw [List.append_assoc]
      have hm : (file :: (before ++ after)).Perm (before ++ file :: after) := List.perm_middle.symm
      exact (hm.append_left done).trans hp
    · exact List.rel_append hr (.cons ⟨rfl, decoded⟩ .nil)
  | @fail before after file texts error refused =>
    obtain ⟨done, hp, -⟩ := hc
    exact ⟨file, hp.subset (by simp), error, refused, rfl⟩
  | sort =>
    obtain ⟨done, hp, hr⟩ := hc
    exact ⟨done, _, by simpa using hp, hr, rfl⟩

/-- Whether steps lead from one state to another. -/
abbrev Leads (path : String) : Loading → Loading → Prop :=
  Relation.ReflTransGen (Step path)

theorem Covers.leads {files : List FoundFile} (hc : state.Covers path files)
    (h : Leads path state next) : next.Covers path files := by
  induction h with
  | refl => exact hc
  | tail _ hs ih => exact ih.step hs

end Loading

section Runs

variable {root : FileTree} {path : String} {entries : List (String × FileTree)}

theorem mem_files_iff {file : FoundFile} :
    file ∈ withExtension "md" [] entries ↔ EndsIn "md" file.1 ∧ Has entries file.1 file.2 := by
  obtain ⟨names, contents⟩ := file
  simp [mem_withExtension]

theorem covers_start (h : root.find path = .ok (.folder entries)) :
    (Loading.start root path).Covers path (withExtension "md" [] entries) := by
  rw [Loading.start, h]
  simp [Loading.Covers, FoundFolder.files]

/-- Where all markdown files are texts, every run ends in the documents of the path. -/
theorem ended_of_texts (h : root.find path = .ok (.folder entries)) (hd : Distinct entries)
    (hall : ∀ names contents, EndsIn "md" names → Has entries names contents →
      ∃ text, String.fromUTF8? contents = some text) :
    ∃ texts, TextsOf entries texts ∧ documents root path = .ok (texts.map (sourceDoc path)) ∧
      ∀ result, Loading.Leads path (Loading.start root path) (.ended result) →
        result = .ok (texts.map (sourceDoc path)) := by
  have hmarkdown : ∀ file ∈ withExtension "md" [] entries,
      ∃ text, String.fromUTF8? file.2 = some text := by
    intro file hm
    obtain ⟨he, hc⟩ := mem_files_iff.mp hm
    exact hall file.1 file.2 he hc
  obtain ⟨texts, hr⟩ := exists_reads_iff.mpr fun file hm =>
    hmarkdown file ((List.mergeSort_perm _ _).subset hm)
  have ht := textsOf_markdownFiles hd hr
  refine ⟨texts, ht, (documents_eq_ok h).mpr ⟨texts, hr, rfl⟩, fun result hl => ?_⟩
  have hc := (covers_start h).leads hl
  cases result with
  | ok docs =>
    obtain ⟨done, others, hp, hreads, rfl⟩ := hc
    rw [ht.unique (textsOf_mergeSort hd hp hreads)]
  | error error =>
    obtain ⟨file, hm, refusal, hrefused, -⟩ := hc
    obtain ⟨text, htext⟩ := hmarkdown file hm
    rw [(decodeText_eq_error.mp hrefused).2] at htext
    cases htext

/-- Where a markdown file is no text, every run ends in the error of such a file. -/
theorem ended_of_refusal (h : root.find path = .ok (.folder entries))
    (hx : ∃ names contents, EndsIn "md" names ∧ Has entries names contents ∧
      String.fromUTF8? contents = none) :
    (∀ docs, documents root path ≠ .ok docs) ∧
      ∀ result, Loading.Leads path (Loading.start root path) (.ended result) →
        ∃ names contents, EndsIn "md" names ∧ Has entries names contents ∧
          String.fromUTF8? contents = none ∧
          result = .error (.unreadable (filePath path names) .notText) := by
  obtain ⟨names, contents, he, hc, hnone⟩ := hx
  have hm : (names, contents) ∈ withExtension "md" [] entries := mem_files_iff.mpr ⟨he, hc⟩
  -- No list of texts can have been read from all the files.
  have hno : ∀ files texts, files.Perm (withExtension "md" [] entries) →
      ¬ List.Forall₂ Reads files texts := by
    intro files texts hp hr
    obtain ⟨text, ht⟩ := exists_reads_iff.mp ⟨texts, hr⟩ _ (hp.symm.subset hm)
    rw [hnone] at ht
    cases ht
  refine ⟨fun docs hdocs => ?_, fun result hl => ?_⟩
  · obtain ⟨texts, hr, -⟩ := (documents_eq_ok h).mp hdocs
    exact hno _ _ (List.mergeSort_perm _ _) hr
  · have hcovers := (covers_start h).leads hl
    cases result with
    | ok docs =>
      obtain ⟨done, texts, hp, hr, -⟩ := hcovers
      exact absurd hr (hno _ _ hp)
    | error error =>
      obtain ⟨file, hm, refusal, hrefused, rfl⟩ := hcovers
      obtain ⟨rfl, hnone⟩ := decodeText_eq_error.mp hrefused
      obtain ⟨he, hc⟩ := mem_files_iff.mp hm
      exact ⟨file.1, file.2, he, hc, hnone, rfl⟩

/-- However a folder is loaded, the loading ends. When all markdown files below the folder are
texts, it ends in their documents, each once and in the order of the paths, and these are the
documents of the path. When some file is no text, it ends in the error of such a file. -/
theorem loading_any_order (h : root.find path = .ok (.folder entries)) (hd : Distinct entries) :
    (WellFounded fun next state : Loading => Loading.Step path state next) ∧
    (∀ state : Loading, (∃ result, state = .ended result) ∨
      ∃ next, Loading.Step path state next) ∧
    ((∀ names contents, EndsIn "md" names → Has entries names contents →
        ∃ text, String.fromUTF8? contents = some text) →
      ∃ texts, TextsOf entries texts ∧
        documents root path = .ok (texts.map (sourceDoc path)) ∧
        ∀ result, Loading.Leads path (Loading.start root path) (.ended result) →
          result = .ok (texts.map (sourceDoc path))) ∧
    ((∃ names contents, EndsIn "md" names ∧ Has entries names contents ∧
        String.fromUTF8? contents = none) →
      (∀ docs, documents root path ≠ .ok docs) ∧
        ∀ result, Loading.Leads path (Loading.start root path) (.ended result) →
          ∃ names contents, EndsIn "md" names ∧ Has entries names contents ∧
            String.fromUTF8? contents = none ∧
            result = .error (.unreadable (filePath path names) .notText)) :=
  ⟨Loading.wellFounded_step path, Loading.exists_step path, ended_of_texts h hd,
    ended_of_refusal h⟩

end Runs

/-- Entries that are not listed in the order of their names, with a folder among them. -/
def trayEntries : List (String × FileTree) :=
  [("tray.md", .file "# Tray\n".toUTF8), ("notes.txt", .file "Add icons.\n".toUTF8),
    ("structures", .folder [("point.md", .file "# Point Object\n".toUTF8)]),
    ("app.md", .file "# app\n".toUTF8)]

def trayTree : FileTree :=
  .folder [("docs", .folder trayEntries)]

theorem loading_any_order_tray :
    trayTree.find "/docs" = .ok (.folder trayEntries) ∧ Distinct trayEntries ∧
    ∃ texts, TextsOf trayEntries texts ∧
      documents trayTree "/docs" = .ok (texts.map (sourceDoc "/docs")) ∧
      ∀ result, Loading.Leads "/docs" (Loading.start trayTree "/docs") (.ended result) →
        result = .ok (texts.map (sourceDoc "/docs")) := by
  have h : trayTree.find "/docs" = .ok (.folder trayEntries) := rfl
  have hd : Distinct trayEntries := by
    refine .intro (by decide) fun name inner hm => ?_
    have hi : inner = [("point.md", .file "# Point Object\n".toUTF8)] := by
      simp [trayEntries] at hm
      exact hm.2
    subst hi
    exact .intro (by decide) fun name inner hm => by simp at hm
  have hs : (withExtension "md" [] trayEntries).all fun file =>
      (String.fromUTF8? file.2).isSome := by decide +kernel
  obtain ⟨-, -, htexts, -⟩ := loading_any_order h hd
  exact ⟨h, hd, htexts fun names contents he hc =>
    Option.isSome_iff_exists.mp (List.all_eq_true.mp hs (names, contents)
      (mem_files_iff.mpr ⟨he, hc⟩))⟩

end CommandLine

end ApiDocs
