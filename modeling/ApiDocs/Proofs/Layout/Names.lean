import ApiDocs.Document.Bullet
import ApiDocs.Proofs.Document.Titles
import ApiDocs.Proofs.Markup.Spacing
import ApiDocs.Proofs.Unicode

/-!
# Names in documents

What can stand as the name of a module, of a class, of an object before a point and of a type, and
how the names are read back. Identifiers can stand in all of these places.
-/

namespace ApiDocs

open Unicode

section Identifier

variable {name : String}

theorem notMem_of_isIdentifier (h : isIdentifier name = true) {c : Char}
    (hc : (isAlphanumeric c || c == '_' || c == '$') = false) : c ∉ name.toList := by
  intro hm
  rw [isIdentifier, Bool.and_eq_true, List.all_eq_true] at h
  have ha := h.2 c hm
  rw [hc] at ha
  cases ha

theorem ne_of_mem_identifier (h : isIdentifier name = true) {c d : Char} (hm : c ∈ name.toList)
    (hd : (isAlphanumeric d || d == '_' || d == '$') = false) : c ≠ d := by
  rintro rfl
  exact notMem_of_isIdentifier h hd hm

theorem ne_of_isIdentifier (h : isIdentifier name = true) : name ≠ "" := by
  rintro rfl
  cases h

theorem unbroken_of_isIdentifier (h : isIdentifier name = true) :
    ∀ c ∈ name.toList, isWhite c = false := by
  intro c hc
  refine eq_false_of_ne_true fun hw => notMem_of_isIdentifier h ?_ hc
  rw [isAlphanumeric_of_isWhite hw, Bool.false_or, Bool.or_eq_false_iff, beq_eq_false_iff_ne,
    beq_eq_false_iff_ne]
  constructor
  · rintro rfl
    cases hw
  · rintro rfl
    cases hw

theorem tight_of_isIdentifier (h : isIdentifier name = true) : Text.Tight name.toList :=
  ⟨fun c hc => unbroken_of_isIdentifier h c (List.mem_of_mem_head? hc),
    fun c hc => unbroken_of_isIdentifier h c (List.mem_of_mem_getLast? hc)⟩

theorem trimmed_of_isIdentifier (h : isIdentifier name = true) : trimmed name = name :=
  (tight_of_isIdentifier h).trimmed_eq

end Identifier

theorem className?_eq_none {title : String}
    (h : ¬ "Class:".toList <+: Text.trim title.toList) : className? title = none := by
  rw [className?, Text.after?_eq_none h]

/-- An identifier declares no class. -/
theorem className?_identifier {name : String} (h : isIdentifier name = true) :
    className? name = none := by
  refine className?_eq_none fun hp => ?_
  rw [(tight_of_isIdentifier h).trim_eq] at hp
  exact notMem_of_isIdentifier h (c := ':') (by decide) (hp.subset (by decide))

namespace ClassName

variable {name : String}

theorem of_isIdentifier (h : isIdentifier name = true) : ClassName name :=
  ⟨ne_of_isIdentifier h, unbroken_of_isIdentifier h⟩

theorem singleSpaced (h : ClassName name) : SingleSpaced ("Class: " ++ name) := by
  have hs : Flat.State.start.prose "Class: " =
      Flat.State.start.behind "Class:".toList.reverse := rfl
  refine SingleSpaced.of_prose_start ?_
  rw [Flat.State.prose_append, hs, Flat.State.prose_behind (by simp),
    (SingleSpaced.of_unbroken h.unbroken).prose_start,
    Flat.State.behind_of_ne (by simpa using h.name_ne), Flat.State.onto, String.toList_append]
  simp

theorem className?_title (h : ClassName name) : className? ("Class: " ++ name) = some name := by
  refine className?_eq_some.mpr ⟨h, [], [' '], [], ?_,
    List.forall_mem_singleton.mpr rfl, nofun⟩
  simp

theorem ofLabel?_title (h : ClassName name) : Collection.ofLabel? ("Class: " ++ name) = none := by
  refine Option.eq_none_iff_forall_ne_some.mpr fun collection he => ?_
  have hl := Collection.labels_iff.mp (Collection.ofLabel?_eq_some.mp he)
  rw [h.singleSpaced.tight.trimmed_eq] at hl
  have hh : collection.label.toList.head? = some 'C' := by
    rw [hl, String.toList_append]
    rfl
  revert hh
  cases collection <;> decide

end ClassName

/-- An object whose name can stand before a point in a heading. -/
structure ObjectName (object : String) : Prop where
  head : ∀ c ∈ object.toList.head?, isWhite c = false
  uncalled : '(' ∉ object.toList
  no_class : ¬ "Class:".toList <+: object.toList

namespace ObjectName

variable {object : String}

theorem of_isIdentifier (h : isIdentifier object = true) : ObjectName object where
  head := (tight_of_isIdentifier h).head
  uncalled := notMem_of_isIdentifier h (by decide)
  no_class hp := notMem_of_isIdentifier h (c := ':') (by decide) (hp.subset (by decide))

theorem tight_path (h : ObjectName object) {rest : List Char} (hne : rest ≠ [])
    (hl : ∀ c ∈ rest.getLast?, isWhite c = false) :
    Text.Tight (object.toList ++ '.' :: rest) := by
  constructor
  · intro c hc
    cases ho : object.toList with
    | nil =>
      rw [ho] at hc
      cases hc
      decide
    | cons d front =>
      rw [ho] at hc
      exact h.head c (by rw [ho]; exact hc)
  · intro c hc
    rw [List.getLast?_append_of_ne_nil _ (List.cons_ne_nil _ _), List.getLast?_cons_of_ne_nil hne]
      at hc
    exact hl c hc

end ObjectName

/-- A type that stands for itself behind the name of a parameter. -/
structure TypeWord (type : String) : Prop where
  type_ne : type ≠ ""
  unbroken : ∀ c ∈ type.toList, isWhite c = false
  head : ∀ c ∈ type.toList.head?, c ≠ '-' ∧ c ≠ '('
  last : ∀ c ∈ type.toList.getLast?, c ≠ ',' ∧ c ≠ ':'

namespace TypeWord

variable {type : String}

theorem of_isIdentifier (h : isIdentifier type = true) : TypeWord type where
  type_ne := ne_of_isIdentifier h
  unbroken := unbroken_of_isIdentifier h
  head _ hc :=
    have hm := List.mem_of_mem_head? hc
    ⟨ne_of_mem_identifier h hm (by decide), ne_of_mem_identifier h hm (by decide)⟩
  last _ hc :=
    have hm := List.mem_of_mem_getLast? hc
    ⟨ne_of_mem_identifier h hm (by decide), ne_of_mem_identifier h hm (by decide)⟩

end TypeWord

end ApiDocs
