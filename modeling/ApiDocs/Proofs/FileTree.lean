import ApiDocs.FileTree
import ApiDocs.Proofs.Dict
import ApiDocs.Proofs.Except

/-!
# Writing into a tree of files

Writing takes a folder that is there and a name in it that stands for no folder. Afterwards the path
leads to the new contents, every other file is as it was, and every path that led somewhere still
leads there.
-/

namespace ApiDocs.FileTree

theorem at?_append (front back : List String) (tree : FileTree) :
    at? (front ++ back) tree = (at? front tree).bind (at? back) := by
  induction front generalizing tree with
  | nil => rfl
  | cons name front ih =>
    cases tree with
    | file contents => rfl
    | folder entries =>
      cases h : Dict.get? name entries with
      | none => simp only [List.cons_append, at?, h, Option.bind_none]
      | some inner => simp only [List.cons_append, at?, h, Option.bind_some, ih]

/-- Only a folder has a folder inside it, or is one. -/
theorem eq_folder_of_at? {names : List String} {tree : FileTree} {inner : List (String × FileTree)}
    (h : at? names tree = some (folder inner)) : ∃ entries, tree = folder entries := by
  cases tree with
  | folder entries => exact ⟨entries, rfl⟩
  | file contents => cases names <;> cases h

/-- A way to a folder leads through a folder first. -/
theorem exists_folder_of_at?_cons {name : String} {names : List String}
    {entries inner : List (String × FileTree)}
    (h : at? (name :: names) (folder entries) = some (folder inner)) :
    ∃ between, Dict.get? name entries = some (folder between) ∧
      at? names (folder between) = some (folder inner) := by
  rw [at?] at h
  obtain ⟨tree, ht, h⟩ := Option.bind_eq_some_iff.mp h
  obtain ⟨between, rfl⟩ := eq_folder_of_at? h
  exact ⟨between, ht, h⟩

/-- The contents of the file under names. -/
def fileAt? (names : List String) (tree : FileTree) : Option ByteArray :=
  match at? names tree with
  | some (file contents) => some contents
  | _ => none

theorem fileAt?_eq_some {names : List String} {tree : FileTree} {contents : ByteArray} :
    fileAt? names tree = some contents ↔ at? names tree = some (file contents) := by
  rw [fileAt?]
  split
  · rename_i h
    rw [h, Option.some_inj, Option.some_inj, file.injEq]
  · rename_i h
    exact ⟨nofun, fun he => absurd he (h contents)⟩

theorem at?_cons_insert (first key : String) (rest : List String) (tree : FileTree)
    (entries : List (String × FileTree)) :
    at? (first :: rest) (folder (Dict.insert key tree entries)) =
      if first = key then at? rest tree else at? (first :: rest) (folder entries) := by
  rw [at?, Dict.get?_insert]
  split_ifs
  · rw [Option.bind_some]
  · rfl

theorem fileAt?_cons (name : String) (names : List String) (entries : List (String × FileTree)) :
    fileAt? (name :: names) (folder entries) =
      (Dict.get? name entries).bind (fileAt? names) := by
  rw [fileAt?, at?]
  cases Dict.get? name entries <;> rfl

theorem fileAt?_cons_insert (first key : String) (rest : List String) (tree : FileTree)
    (entries : List (String × FileTree)) :
    fileAt? (first :: rest) (folder (Dict.insert key tree entries)) =
      if first = key then fileAt? rest tree else fileAt? (first :: rest) (folder entries) := by
  rw [fileAt?, at?_cons_insert]
  split_ifs <;> rfl

/-- No file lies below a name that stands for no folder. -/
theorem fileAt?_below {name : String} {entries : List (String × FileTree)}
    (h : ∀ inner, Dict.get? name entries ≠ some (folder inner)) (next : String)
    (rest : List String) : fileAt? (name :: next :: rest) (folder entries) = none := by
  rw [fileAt?_cons]
  cases hg : Dict.get? name entries with
  | none => rfl
  | some tree =>
    cases tree with
    | file contents => rfl
    | folder inner => exact absurd hg (h inner)

theorem graft_cons {tree : FileTree} {name : String} {names : List String} (h : names ≠ [])
    {entries inner : List (String × FileTree)} (hn : Dict.get? name entries = some (folder inner)) :
    graft tree (name :: names) entries =
      Dict.insert name (folder (graft tree names inner)) entries := by
  obtain ⟨next, rest, rfl⟩ := List.exists_cons_of_ne_nil h
  rw [graft, hn]
  nofun

/-- A file that takes no folder's place is the only file that differs. -/
theorem fileAt?_graft {parent : List String} {name : String}
    {entries inner : List (String × FileTree)} (hp : at? parent (folder entries) = some (folder inner))
    (hn : ∀ below, Dict.get? name inner ≠ some (folder below)) (contents : ByteArray)
    (names : List String) :
    fileAt? names (folder (graft (file contents) (parent ++ [name]) entries)) =
      if names = parent ++ [name] then some contents else fileAt? names (folder entries) := by
  induction parent generalizing entries names with
  | nil =>
    cases hp
    cases names with
    | nil => rfl
    | cons first rest =>
      rw [List.nil_append, graft, fileAt?_cons_insert]
      by_cases hf : first = name
      · subst hf
        rw [if_pos rfl]
        cases rest with
        | nil => rw [if_pos rfl, fileAt?, at?]
        | cons next rest => rw [fileAt?_below hn, if_neg (by simp), fileAt?, at?]
      · rw [if_neg hf, if_neg (by simp [hf])]
  | cons outer parent ih =>
    obtain ⟨between, hb, hin⟩ := exists_folder_of_at?_cons hp
    rw [List.cons_append, graft_cons (by simp) hb]
    cases names with
    | nil => rfl
    | cons first rest =>
      rw [fileAt?_cons_insert, ih hin]
      by_cases hf : first = outer
      · subst hf
        rw [if_pos rfl, fileAt?_cons, hb, Option.bind_some]
        simp only [List.cons.injEq, true_and]
      · rw [if_neg hf, if_neg (by simp [hf])]

/-- A folder is still a folder, with an entry of every name that it had. -/
theorem exists_folder_graft {parent : List String} {name : String}
    {entries inner : List (String × FileTree)} (hp : at? parent (folder entries) = some (folder inner))
    (hn : ∀ below, Dict.get? name inner ≠ some (folder below)) (contents : ByteArray)
    {names : List String} {here : List (String × FileTree)}
    (h : at? names (folder entries) = some (folder here)) :
    ∃ after, at? names (folder (graft (file contents) (parent ++ [name]) entries)) =
        some (folder after) ∧
      ∀ key, (Dict.get? key here).isSome → (Dict.get? key after).isSome := by
  induction parent generalizing entries names with
  | nil =>
    cases hp
    cases names with
    | nil =>
      cases h
      exact ⟨_, rfl, fun key hk => Dict.isSome_get?_insert hk name _⟩
    | cons first rest =>
      -- The new file is not on the way to a folder that is there.
      have hf : first ≠ name := by
        rintro rfl
        obtain ⟨below, hb, -⟩ := exists_folder_of_at?_cons h
        exact hn below hb
      refine ⟨here, ?_, fun _ hk => hk⟩
      rw [List.nil_append, graft, at?_cons_insert, if_neg hf, h]
  | cons outer parent ih =>
    obtain ⟨between, hb, hin⟩ := exists_folder_of_at?_cons hp
    rw [List.cons_append, graft_cons (by simp) hb]
    cases names with
    | nil =>
      cases h
      exact ⟨_, rfl, fun key hk => Dict.isSome_get?_insert hk outer _⟩
    | cons first rest =>
      rw [at?_cons_insert]
      by_cases hf : first = outer
      · subst hf
        obtain ⟨below, hg, hrest⟩ := exists_folder_of_at?_cons h
        cases hb.symm.trans hg
        rw [if_pos rfl]
        exact ih hin hrest
      · rw [if_neg hf, h]
        exact ⟨here, rfl, fun _ hk => hk⟩

/-- Whether every folder of one tree is a folder of another, with an entry of every name. -/
def KeepsFolders (root after : FileTree) : Prop :=
  ∀ names entries, at? names root = some (folder entries) →
    ∃ more, at? names after = some (folder more) ∧
      ∀ key, (Dict.get? key entries).isSome → (Dict.get? key more).isSome

theorem follow_append (root : FileTree) (here front back : List String) :
    follow root here (front ++ back) =
      (follow root here front).bind fun there => follow root there back := by
  induction front generalizing here with
  | nil => rfl
  | cons part front ih =>
    rw [List.cons_append, follow, follow]
    split
    · split_ifs
      · exact ih here
      · exact ih here.dropLast
      · split
        · exact ih _
        · rfl
    · rfl
    · rfl

/-- A path that leads somewhere leads there as long as the folders stay. -/
theorem follow_of_keepsFolders {root after : FileTree} (hk : KeepsFolders root after)
    {here parts names : List String} (h : follow root here parts = .ok names) :
    follow after here parts = .ok names := by
  induction parts generalizing here with
  | nil => exact h
  | cons part rest ih =>
    rw [follow] at h
    split at h
    · rename_i entries ha
      obtain ⟨more, hm, hmore⟩ := hk here entries ha
      rw [follow, hm]
      split_ifs at h ⊢
      · exact ih h
      · exact ih h
      · cases hg : Dict.get? part entries with
        | none =>
          rw [hg] at h
          cases h
        | some tree =>
          rw [hg] at h
          obtain ⟨other, ho⟩ := Option.isSome_iff_exists.mp (hmore part (by rw [hg]; rfl))
          simp only [ho]
          exact ih h
    · cases h
    · cases h

/-- A name that is no sign leads into a folder. -/
theorem follow_name {root : FileTree} {here : List String} {entries : List (String × FileTree)}
    (hh : at? here root = some (folder entries)) {name : String} (he : name ≠ "")
    (hp : name ≠ ".") (hu : name ≠ "..") (hn : (Dict.get? name entries).isSome) :
    follow root here [name] = .ok (here ++ [name]) := by
  obtain ⟨tree, ht⟩ := Option.isSome_iff_exists.mp hn
  rw [follow, hh]
  simp only [he, hp, hu, or_self, if_false, ht]
  rfl

/-- Where a file can be written: in a folder that the path leads to up to its last part, which is a
name that stands for no folder there. -/
structure Slot (root : FileTree) (path : String) where
  front : List String
  name : String
  parent : List String
  inner : List (String × FileTree)
  pieces_eq : Path.pieces path = front ++ [name]
  name_ne : name ≠ "" ∧ name ≠ "." ∧ name ≠ ".."
  follow_front : follow root [] front = .ok parent
  at_parent : at? parent root = some (folder inner)
  free : ∀ below, Dict.get? name inner ≠ some (folder below)

namespace Slot

variable {root : FileTree} {path : String}

/-- The names that lead to the slot. -/
def names (slot : Slot root path) : List String :=
  slot.parent ++ [slot.name]

theorem fileAt?_put (slot : Slot root path) (contents : ByteArray) (names : List String) :
    fileAt? names (root.put slot.names (file contents)) =
      if names = slot.names then some contents else fileAt? names root := by
  obtain ⟨entries, rfl⟩ := eq_folder_of_at? slot.at_parent
  exact fileAt?_graft slot.at_parent slot.free contents names

theorem keepsFolders_put (slot : Slot root path) (contents : ByteArray) :
    KeepsFolders root (root.put slot.names (file contents)) := by
  intro names here h
  obtain ⟨entries, rfl⟩ := eq_folder_of_at? slot.at_parent
  exact exists_folder_graft slot.at_parent slot.free contents h

theorem at?_put (slot : Slot root path) (contents : ByteArray) :
    at? slot.names (root.put slot.names (file contents)) = some (file contents) := by
  rw [← fileAt?_eq_some, slot.fileAt?_put, if_pos rfl]

/-- The path leads to the slot once a file is in it. -/
theorem resolve_put (slot : Slot root path) (contents : ByteArray) :
    (root.put slot.names (file contents)).resolve path = .ok slot.names := by
  have hk := slot.keepsFolders_put contents
  obtain ⟨more, hm, -⟩ := hk _ _ slot.at_parent
  have hn : (Dict.get? slot.name more).isSome := by
    have hf := slot.at?_put contents
    nth_rewrite 1 [names] at hf
    rw [at?_append, hm, Option.bind_some, at?] at hf
    obtain ⟨tree, ht, -⟩ := Option.bind_eq_some_iff.mp hf
    rw [ht, Option.isSome_some]
  obtain ⟨he, hp, hu⟩ := slot.name_ne
  rw [resolve, slot.pieces_eq, follow_append, follow_of_keepsFolders hk slot.follow_front]
  exact follow_name hm he hp hu hn

theorem read_put (slot : Slot root path) (contents : ByteArray) :
    (root.put slot.names (file contents)).read path = .ok contents := by
  rw [read, find, slot.resolve_put]
  simp only [bind, Except.bind, slot.at?_put]

end Slot

/-- Without empty parts at its end a list ends in what is left in front of them. -/
theorem eq_concat_of_dropWhile {pieces front : List String} {name : String}
    (h : pieces.reverse.dropWhile (· = "") = name :: front) (hl : pieces.getLast? ≠ some "") :
    pieces = front.reverse ++ [name] ∧ name ≠ "" := by
  rcases List.eq_nil_or_concat' pieces with rfl | ⟨init, last, rfl⟩
  · cases h
  · have hne : last ≠ "" := by
      rintro rfl
      exact hl (by simp)
    rw [List.reverse_concat, List.dropWhile_cons_of_neg (by simpa using hne)] at h
    cases h
    exact ⟨by simp, hne⟩

/-- Writing succeeds in slots only. -/
theorem exists_slot {root after : FileTree} {path : String} {contents : ByteArray}
    (h : root.write path contents = .ok after) :
    ∃ slot : Slot root path, after = root.put slot.names (file contents) := by
  simp only [write] at h
  split at h
  · cases h
  · rename_i name front hd
    obtain ⟨parent, hf, h⟩ := bind_eq_ok.mp h
    split at h
    · rename_i inner ha
      split_ifs at h with hs
      rw [not_or, not_or] at hs
      obtain ⟨hl, hp, hu⟩ := hs
      obtain ⟨hpieces, he⟩ := eq_concat_of_dropWhile hd hl
      have hn : ∀ below, Dict.get? name inner ≠ some (folder below) := by
        intro below hb
        rw [hb] at h
        cases h
      have hw : root.put (parent ++ [name]) (file contents) = after := by
        split at h
        · cases h
        · exact Except.ok.inj h
      exact ⟨⟨front.reverse, name, parent, inner, hpieces, ⟨he, hp, hu⟩, hf, ha, hn⟩, hw.symm⟩
    · cases h

theorem decodeText_toUTF8 (text : String) : decodeText text.toUTF8 = .ok text := by
  have h : String.fromUTF8? text.toUTF8 = some text := dif_pos text.isValidUTF8
  rw [decodeText, h]

/-- After a text was written, its path leads to a file that holds the text, and no other file
differs. -/
theorem write_text {root after : FileTree} {path text : String}
    (h : root.write path text.toUTF8 = .ok after) :
    ∃ names, after.resolve path = .ok names ∧ after.readText path = .ok text ∧
      ∀ other, other ≠ names → fileAt? other after = fileAt? other root := by
  obtain ⟨slot, rfl⟩ := exists_slot h
  refine ⟨slot.names, slot.resolve_put _, ?_, fun other ho => ?_⟩
  · rw [readText, slot.read_put]
    exact decodeText_toUTF8 text
  · rw [slot.fileAt?_put, if_neg ho]

end ApiDocs.FileTree
