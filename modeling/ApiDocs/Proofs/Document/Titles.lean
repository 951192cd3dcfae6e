import ApiDocs.Document.Surface
import ApiDocs.Proofs.Text

/-!
# What titles declare

A title declares a class when it starts with `Class:`, and the first word behind that is the name. A
title introduces a collection when it is the label of one. White space at the ends of a title counts
in neither case.
-/

namespace ApiDocs

open Unicode

structure ClassName (name : String) : Prop where
  name_ne : name ≠ ""
  unbroken : ∀ c ∈ name.toList, isWhite c = false

def ClassTitle (title name : String) : Prop :=
  ClassName name ∧ ∃ front gap back : List Char,
    title.toList = front ++ ("Class:".toList ++ (gap ++ (name.toList ++ back))) ∧
      (∀ c ∈ front ++ gap, isWhite c = true) ∧ ∀ c ∈ back.head?, isWhite c = true

/-- Without the white space at its ends the title is as it was up to the end of the name. -/
theorem ClassTitle.exists_trim {title name : String} (h : ClassTitle title name) :
    ∃ gap back, Text.trim title.toList = "Class:".toList ++ (gap ++ (name.toList ++ back)) ∧
      (∀ c ∈ gap, isWhite c = true) ∧ ∀ c ∈ back.head?, isWhite c = true := by
  obtain ⟨⟨hne, hb⟩, front, gap, back, ht, hg, hl⟩ := h
  rw [List.forall_mem_append] at hg
  have hclass : Text.Tight "Class:".toList := Text.tight_iff.mpr (by decide)
  have hlast : ∀ c ∈ ("Class:".toList ++ (gap ++ name.toList)).getLast?, isWhite c = false := by
    have hn : name.toList ≠ [] := by simpa using hne
    rw [← List.append_assoc, List.getLast?_append_of_ne_nil _ hn]
    exact fun c hc => hb c (List.mem_of_mem_getLast? hc)
  have he := Text.trimEnd_append hlast back
  simp only [List.append_assoc] at he
  refine ⟨gap, Text.trimEnd back, ?_, hg.2, fun c hc => hl c ?_⟩
  · rw [ht, Text.trim_append hg.1, Text.trim, Text.trimStart_of_head, he]
    exact fun c hc => hclass.head c hc
  · obtain ⟨tail, hp⟩ := Text.trimEnd_prefix back
    rw [← hp, List.head?_append, Option.mem_def.mp hc, Option.some_or]
    rfl

theorem className?_eq_some {title name : String} :
    className? title = some name ↔ ClassTitle title name := by
  constructor
  · intro h
    rw [className?] at h
    split at h
    · rename_i rest hr
      obtain ⟨word, hw, rfl⟩ := Option.map_eq_some_iff.mp h
      obtain ⟨hne, hb, gap, back, rfl, hg, hl⟩ := Text.head?_runs.mp hw
      obtain ⟨front, tail, ht, hwhite⟩ := Text.exists_trim title.toList
      rw [List.forall_mem_append] at hwhite
      rw [Text.after?_eq_some.mp hr] at ht
      refine ⟨⟨by simpa using hne, by simpa using hb⟩, front, gap, back ++ tail, ?_,
        List.forall_mem_append.mpr ⟨hwhite.1, hg⟩, ?_⟩
      · simpa using ht
      · cases back with
        | nil => exact fun c hc => hwhite.2 c (List.mem_of_mem_head? hc)
        | cons d back => exact hl
    · cases h
  · intro h
    obtain ⟨gap, back, ht, hg, hl⟩ := h.exists_trim
    have hne : name.toList ≠ [] := by simpa using h.1.name_ne
    have hw : (Text.words (gap ++ (name.toList ++ back))).head? = some name.toList :=
      Text.head?_runs.mpr ⟨hne, h.1.unbroken, gap, back, rfl, hg, hl⟩
    rw [className?, ht, Text.after?_append]
    dsimp only
    rw [hw, Option.map_some, String.ofList_toList]

namespace Collection

def Labels (collection : Collection) (title : String) : Prop :=
  ∃ front back : List Char, title.toList = front ++ (collection.label.toList ++ back) ∧
    ∀ c ∈ front ++ back, isWhite c = true

theorem tight_label (collection : Collection) : Text.Tight collection.label.toList := by
  rw [Text.tight_iff]
  cases collection <;> decide

theorem labels_iff {collection : Collection} {title : String} :
    collection.Labels title ↔ collection.label = trimmed title := by
  constructor
  · rintro ⟨front, back, ht, hw⟩
    rw [List.forall_mem_append] at hw
    have hne : collection.label.toList ≠ [] := by cases collection <;> decide
    rw [trimmed, ht, Text.trim_append hw.1, collection.tight_label.trim_append hne,
      Text.trimEnd_white hw.2, List.append_nil, String.ofList_toList]
  · intro h
    obtain ⟨front, back, ht, hw⟩ := Text.exists_trim title.toList
    refine ⟨front, back, ?_, hw⟩
    rw [h, trimmed, String.toList_ofList]
    exact ht

theorem ofLabel?_eq_some {collection : Collection} {title : String} :
    ofLabel? title = some collection ↔ collection.Labels title := by
  rw [labels_iff]
  constructor
  · intro h
    simpa using List.find?_some h
  · intro h
    rw [ofLabel?, ← h]
    cases collection <;> rfl

end Collection

namespace Section

/-- The sections that a list of sections introduces collections by, each with its collection. -/
inductive Labeled : List Section → List (Collection × Section) → Prop
  | nil : Labeled [] []
  | kept {child : Section} {rest : List Section} {entries : List (Collection × Section)}
    {collection : Collection} (h : collection.Labels child.titleText) (hr : Labeled rest entries) :
    Labeled (child :: rest) ((collection, child) :: entries)
  | skipped {child : Section} {rest : List Section} {entries : List (Collection × Section)}
    (h : ∀ collection : Collection, ¬ collection.Labels child.titleText)
    (hr : Labeled rest entries) : Labeled (child :: rest) entries

theorem labeled_labeled (s : Section) : Labeled s.children s.labeled := by
  rw [labeled]
  induction s.children with
  | nil => exact .nil
  | cons child rest ih =>
    rw [List.filterMap_cons]
    cases h : Collection.ofLabel? child.titleText with
    | none =>
      exact .skipped (fun c hc => nomatch h.symm.trans (Collection.ofLabel?_eq_some.mpr hc)) ih
    | some collection => exact .kept (Collection.ofLabel?_eq_some.mp h) ih

theorem Labeled.mem {children : List Section} {entries : List (Collection × Section)}
    (h : Labeled children entries) {child : Section} (hc : child ∈ children)
    {collection : Collection} (hl : collection.Labels child.titleText) :
    (collection, child) ∈ entries := by
  induction h with
  | nil => exact absurd hc List.not_mem_nil
  | @kept other rest entries found hf _ ih =>
    rcases List.mem_cons.mp hc with rfl | hc
    · have he := Collection.ofLabel?_eq_some.mpr hl
      rw [Collection.ofLabel?_eq_some.mpr hf, Option.some.injEq] at he
      rw [he]
      exact List.mem_cons_self
    · exact List.mem_cons_of_mem _ (ih hc)
  | skipped hn _ ih =>
    rcases List.mem_cons.mp hc with rfl | hc
    · exact absurd hl (hn collection)
    · exact ih hc

end Section

end ApiDocs
