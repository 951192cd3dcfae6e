import ApiDocs.Proofs.Layout.Bullets

/-!
# Parameters laid out as lists

The list items that documents write for parameters stand in one of the layouts of bullets. So every
parameter is read back from its item, with its properties and possible values at any depth. How a
description is written as inlines is left open.
-/

namespace ApiDocs

variable (prose : String → List Inline)

/-- A description behind a dash, nothing for an empty one. -/
def dashed (description : String) : List Inline :=
  if description = "" then [] else .text " - " :: prose description

/-- The mark of a parameter that may be left out. -/
def optionalMark (required : Option Bool) : List Inline :=
  if required = some false then [.text " (optional)"] else []

def PossibleValue.item (v : PossibleValue) : List Block :=
  [.paragraph (.code v.value :: dashed prose v.description)]

def valueList (values : Option (List PossibleValue)) : List Block :=
  (values.map fun values => .list false (values.map (PossibleValue.item prose))).toList

mutual

/-- The item of a parameter, with what it says of its values and properties in lists inside. -/
def Parameter.item : Parameter → List Block
  | ⟨name, type, description, required, values, properties⟩ =>
    .paragraph (.code name :: .text (" " ++ type) ::
        (optionalMark required ++ dashed prose description)) ::
      (valueList prose values ++ propertyList properties)

def propertyList : Option (List Parameter) → List Block
  | none => []
  | some properties => [.list false (parameterItems properties)]

def parameterItems : List Parameter → List (List Block)
  | [] => []
  | p :: rest => p.item :: parameterItems rest

end

/-- What a parameter needs to be read back from its item: a name without white space at its ends, a
plain word as its type, a description that stands for itself, and a type and description that tell
properties from possible values. -/
structure Parameter.Legible (p : Parameter) : Prop where
  name_trimmed : trimmed p.name = p.name
  type_word : TypeWord p.type
  description_legible : richText (prose p.description) = p.description
  description_unmarked : ¬ Bullet.optionalMarker.toList <+: p.description.toList
  no_platforms : ∀ inline ∈ prose p.description, inline.platforms? = none
  value_trimmed : ∀ values ∈ p.possibleValues, ∀ v ∈ values, trimmed v.value = v.value
  value_legible : ∀ values ∈ p.possibleValues, ∀ v ∈ values,
    richText (prose v.description) = v.description
  describes_values : p.possibleValues.isSome → describesProperties p.type p.description = false
  describes_properties : p.properties.isSome → describesProperties p.type p.description = true

/-- Parameters that can be read back at every depth. -/
def AllLegible (parameters : List Parameter) : Prop :=
  ∀ p ∈ nestedParameters parameters, p.Legible prose

variable {prose}

/-- Whether a rule, given the marks alone, says of a parameter what its record says. -/
def Requirement.Admits (requirement : Requirement) (p : Parameter) : Prop :=
  requirement.required p.name (p.required == some false) = p.required

namespace Requirement

theorem admits_untracked {p : Parameter} (h : p.required.isSome = false) :
    untracked.Admits p := by
  rw [Option.isSome_eq_false_iff, Option.isNone_iff_eq_none] at h
  exact h.symm

theorem admits_tracked {optional : List String} {p : Parameter}
    (h : p.required.isSome) (ho : p.name ∈ optional → p.required = some false) :
    (tracked optional).Admits p := by
  obtain ⟨said, hs⟩ := Option.isSome_iff_exists.mp h
  rw [hs, Option.some.injEq] at ho
  rw [Admits, hs, required]
  cases said with
  | true =>
    have hn : p.name ∉ optional := fun hm => Bool.noConfusion (ho hm)
    simp [hn]
  | false => rfl

theorem admits_nested {requirement : Requirement} {p : Parameter}
    (h : p.required.isSome = requirement.tracks) : requirement.nested.Admits p := by
  cases requirement with
  | untracked => exact admits_untracked h
  | tracked optional => exact admits_tracked h fun hm => absurd hm List.not_mem_nil

end Requirement

theorem Parameter.Legible.said {p : Parameter} (h : p.Legible prose) (hd : p.description ≠ "") :
    Says (prose p.description) p.description where
  richText_eq := h.description_legible
  description_ne := hd
  no_platforms inline hi := by rw [Inline.namesPlatforms, h.no_platforms inline hi]; rfl

/-- The mark and the description of an item stand in one of the layouts. -/
theorem Parameter.Legible.exists_described {p : Parameter} (h : p.Legible prose) :
    ∃ inlines, Described (p.required == some false) p.description inlines ∧
      Spread Inline.namesPlatforms inlines
        (optionalMark p.required ++ dashed prose p.description) := by
  rw [optionalMark, dashed]
  by_cases hr : p.required = some false
  · rw [if_pos hr, hr]
    by_cases hd : p.description = ""
    · rw [if_pos hd, hd]
      exact ⟨_, .mark, .refl⟩
    · rw [if_neg hd]
      exact ⟨_, .markDash (h.said hd) h.description_unmarked,
        @Spread.split _ _ [] _ " (optional)" " - " .refl⟩
  · rw [if_neg hr, beq_eq_false_iff_ne.mpr hr]
    by_cases hd : p.description = ""
    · rw [if_pos hd, hd]
      exact ⟨_, .nothing, .refl⟩
    · rw [if_neg hd]
      exact ⟨_, .dash (h.said hd) h.description_unmarked, .refl⟩

theorem Parameter.Legible.lead {p : Parameter} (h : p.Legible prose) (hn : p.name ≠ "")
    {requirement : Requirement} (ha : requirement.Admits p) :
    p.Lead requirement (.code p.name :: .text (" " ++ p.type) ::
      (optionalMark p.required ++ dashed prose p.description)) := by
  obtain ⟨inlines, hd, hs⟩ := h.exists_described
  have ht := @Typed.word p.type " " "" (optionalMark p.required ++ dashed prose p.description)
    (by decide) h.type_word nofun
  rw [String.append_empty] at ht
  exact .intro hn h.name_trimmed ht hd hs ha.symm

theorem bulleted_values {values : List PossibleValue} (hn : ∀ v ∈ values, v.value ≠ "")
    (ht : ∀ v ∈ values, trimmed v.value = v.value)
    (hd : ∀ v ∈ values, richText (prose v.description) = v.description) :
    List.Forall₂ PossibleValue.Bulleted values (values.map (PossibleValue.item prose)) := by
  induction values with
  | nil => exact .nil
  | cons v rest ih =>
    rw [List.forall_mem_cons] at hn ht hd
    refine .cons ?_ (ih hn.2 ht.2 hd.2)
    obtain ⟨value, description⟩ := v
    rw [PossibleValue.item, dashed]
    by_cases he : description = ""
    · subst he
      rw [if_pos rfl]
      exact .bare hn.1 ht.1
    · rw [if_neg he]
      exact .described hn.1 ht.1 hd.1 he .refl

mutual

theorem bulleted_item : ∀ (p : Parameter) (requirement : Requirement),
    (∀ q ∈ p.nested, q.Legible prose ∧ q.Shaped requirement.tracks) → requirement.Admits p →
    p.Bulleted requirement (p.item prose)
  | ⟨name, type, description, required, values, properties⟩, requirement, h, ha => by
    rw [Parameter.nested, List.forall_mem_cons] at h
    obtain ⟨⟨hp, hs⟩, hn⟩ := h
    have hlead := hp.lead hs.name_ne ha
    match values, properties, hp, hs, hn, hlead with
    | none, none, _, _, _, hlead => exact .plain hlead rfl rfl
    | some values, none, hp, hs, _, hlead =>
      exact .values hlead rfl rfl (hp.describes_values rfl)
        (bulleted_values (hs.value_ne values rfl) (hp.value_trimmed values rfl)
          (hp.value_legible values rfl))
    | none, some properties, hp, _, hn, hlead =>
      have ht := requirement.tracks_nested
      -- Among properties the rule has no names left, so their marks alone decide.
      exact .properties hlead rfl rfl (hp.describes_properties rfl)
        (allBulleted_items properties requirement.nested (fun q hq => ht ▸ hn q hq)
          fun q hq => Requirement.admits_nested (hn q (mem_nestedParameters hq)).2.required_isSome)
    | some values, some properties, hp, _, _, _ =>
      have hd := hp.describes_values rfl
      rw [hp.describes_properties rfl] at hd
      cases hd

/-- Legible parameters have items in these layouts, at any depth. -/
theorem allBulleted_items : ∀ (parameters : List Parameter) (requirement : Requirement),
    (∀ q ∈ nestedParameters parameters, q.Legible prose ∧ q.Shaped requirement.tracks) →
    (∀ p ∈ parameters, requirement.Admits p) →
    AllBulleted requirement parameters (parameterItems prose parameters)
  | [], _, _, _ => .nil
  | p :: rest, requirement, h, ha => by
    rw [nestedParameters, List.forall_mem_append] at h
    rw [List.forall_mem_cons] at ha
    exact .cons (bulleted_item p requirement h.1 ha.1) (allBulleted_items rest requirement h.2 ha.2)

end

/-- Parameters are read back from their items. -/
theorem parametersOf_items (parameters : List Parameter) (member : String)
    (requirement : Requirement)
    (h : ∀ q ∈ nestedParameters parameters, q.Legible prose ∧ q.Shaped requirement.tracks)
    (ha : ∀ p ∈ parameters, requirement.Admits p) :
    parametersOf member requirement (parameterItems prose parameters) = (parameters, []) := by
  have hr := parametersOf_append (allBulleted_items parameters requirement h ha) member []
  rwa [List.append_nil, parametersOf, List.append_nil] at hr

end ApiDocs
