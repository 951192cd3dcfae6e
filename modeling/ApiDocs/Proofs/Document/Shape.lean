import ApiDocs.Document.Members
import ApiDocs.Proofs.Markup.Flat
import ApiDocs.Proofs.Record.Shape
import Mathlib.Data.List.DropRight

/-!
# Members as headings and lists shape them

Whatever a section says, the member read from it has the parts of its kind. Its heading gives the
name, the signature and the platforms, its lists the parameters with all inside them.
-/

namespace ApiDocs

theorem newline_notMem_trim {s : List Char} (h : '\n' ∉ s) : '\n' ∉ Text.trim s := by
  intro hm
  rw [Text.trim, Text.trimEnd, Text.dropEndWhile, List.mem_reverse] at hm
  have hd := (List.dropWhile_suffix _).subset hm
  rw [List.mem_reverse] at hd
  exact h ((List.dropWhile_suffix _).subset hd)

namespace MemberHeading

theorem newline_notMem_codeOrText {title : List Inline} (h : AllOneLine title) :
    '\n' ∉ (codeOrText title).toList := by
  rw [codeOrText]
  cases hc : title.findSome? _ with
  | none => exact Flat.notMem_flatten false h
  | some text =>
    obtain ⟨inline, hi, ht⟩ := List.exists_of_findSome?_eq_some hc
    split at ht
    · cases ht
      rw [Option.getD_some, trimmed, String.toList_ofList]
      exact newline_notMem_trim (h.of_mem hi)
    · cases ht

theorem name_ne_of_named? {name signature : List Char} {heading : MemberHeading}
    (h : named? name signature = some heading) :
    heading.name ≠ "" ∧ heading.signature = String.ofList signature := by
  rw [named?] at h
  split at h
  · cases h
  · rename_i hn
    cases h
    refine ⟨fun he => hn ?_, rfl⟩
    rw [List.isEmpty_iff]
    exact String.ofList_eq_empty_iff.mp he

theorem name_ne_of_ofTitle? {kind : MemberKind} {title : List Inline} {heading : MemberHeading}
    (h : ofTitle? kind title = some heading) : heading.name ≠ "" := by
  cases kind with
  | method =>
    rw [ofTitle?, ofMethod?] at h
    split at h
    · cases h
    · exact (name_ne_of_named? h).1
  | property => exact (name_ne_of_named? h).1
  | event =>
    simp only [ofTitle?, ofEvent?, Option.bind_eq_bind, Option.bind_eq_some_iff] at h
    obtain ⟨rest, -, name, -, h⟩ := h
    exact (name_ne_of_named? h).1

theorem isParenthesized_of_ends {s : List Char} (hh : s.head? = some '(')
    (hl : s.getLast? = some ')') (hn : '\n' ∉ s) : isParenthesized s := by
  match s with
  | [] => cases hh
  | [c] =>
    cases hh
    cases hl
  | c :: d :: rest => simp [isParenthesized, hh, hl, hn]

/-- What is left of a text from the first opening parenthesis to the last closing one. -/
theorem isParenthesized_rdropWhile {text : List Char} (hn : '\n' ∉ text)
    (hne : (text.dropWhile (· != '(')).rdropWhile (· != ')') ≠ []) :
    isParenthesized ((text.dropWhile (· != '(')).rdropWhile (· != ')')) := by
  have hp := List.rdropWhile_prefix (· != ')') (text.dropWhile (· != '('))
  have hlast := List.rdropWhile_last_not (· != ')') _ hne
  have hhead := List.head?_dropWhile_not (· != '(') text
  refine isParenthesized_of_ends ?_ ?_ fun hm => hn (List.dropWhile_subset _ (hp.subset hm))
  · obtain ⟨behind, hb⟩ := hp
    rw [← hb, List.head?_append_of_ne_nil _ hne] at hhead
    rw [List.head?_eq_some_head hne] at hhead ⊢
    simpa using hhead
  · rw [List.getLast?_eq_some_getLast hne]
    simpa using hlast

/-- The signature of a method stands between parentheses. -/
theorem isParenthesized_of_ofMethod? {text : List Char} {heading : MemberHeading}
    (h : ofMethod? text = some heading) (hn : '\n' ∉ text) :
    isParenthesized heading.signature.toList := by
  rw [ofMethod?] at h
  split at h
  · cases h
  · rename_i hne
    rw [(name_ne_of_named? h).2, String.toList_ofList]
    exact isParenthesized_rdropWhile hn hne

end MemberHeading

theorem nodup_distinct (platforms : List Platform) : (Platform.distinct platforms).Nodup := by
  induction platforms with
  | nil => exact List.nodup_nil
  | cons p rest ih =>
    rw [Platform.distinct, List.nodup_cons]
    exact ⟨by simp, ih.filter _⟩

theorem headingPlatforms_eq_some {title : List Inline} {platforms : List Platform}
    (h : headingPlatforms title = some platforms) : platforms ≠ [] ∧ platforms.Nodup := by
  rw [headingPlatforms] at h
  split at h
  · cases h
  · rename_i hne
    cases h
    exact ⟨hne, nodup_distinct _⟩

namespace Signature

theorem State.name_ne {state : State} {slot : Slot} (h : slot ∈ state.slots) : slot.name ≠ "" := by
  rw [slots] at h
  split at h
  · cases h
  · rename_i hn
    rw [List.mem_singleton] at h
    rw [h]
    intro he
    rw [String.ofList_eq_empty_iff, List.reverse_eq_nil_iff] at he
    exact hn (List.isEmpty_iff.mpr he)

theorem name_ne_of_scan (s : List Char) {state : State} {slot : Slot} (h : slot ∈ scan state s) :
    slot.name ≠ "" := by
  induction s generalizing state with
  | nil => exact State.name_ne h
  | cons c rest ih =>
    rw [scan] at h
    split at h
    · exact ih h
    split at h
    · exact ih h
    split at h
    · exact (List.mem_append.mp h).elim State.name_ne ih
    split at h
    · exact ih h
    · exact ih h

theorem empty_notMem_names (signature : String) : "" ∉ names signature := by
  intro h
  obtain ⟨slot, hs, he⟩ := List.mem_map.mp h
  exact name_ne_of_scan _ hs he

end Signature

/-- Whether a rule says of each parameter if it is required. -/
def Requirement.tracks : Requirement → Bool
  | untracked => false
  | tracked _ => true

theorem Requirement.tracks_nested (requirement : Requirement) :
    requirement.nested.tracks = requirement.tracks := by
  cases requirement <;> rfl

theorem name_ne_of_ofItem {item : List Block} {bullet : Bullet}
    (h : Bullet.ofItem item = .ok bullet) : bullet.name ≠ "" := by
  rw [Bullet.ofItem] at h
  split at h
  · dsimp only at h
    split at h
    · cases h
    · rename_i hn
      split at h
      · cases h
        exact hn
      · cases h
  · cases h

theorem Bullet.parameter_eq (bullet : Bullet) (requirement : Requirement) :
    bullet.parameter requirement =
      { name := bullet.name
        type := bullet.type
        description := (description bullet.rest).1
        required := requirement.required bullet.name (description bullet.rest).2
        possibleValues := none
        properties := none } := by
  rw [parameter]

theorem Bullet.parameter_shaped {bullet : Bullet} (h : bullet.name ≠ "")
    (requirement : Requirement) : (bullet.parameter requirement).Shaped requirement.tracks := by
  rw [parameter_eq]
  refine ⟨h, ?_, fun values hv => absurd hv (Option.not_mem_none _)⟩
  cases requirement <;> rfl

theorem possibleValues_ne (member parameter : String) (items : List (List Block)) :
    ∀ v ∈ (possibleValues member parameter items).1, v.value ≠ "" := by
  induction items with
  | nil => simp [possibleValues]
  | cons item rest ih =>
    rw [possibleValues]
    dsimp only
    split
    · exact ih
    · rename_i hv
      exact List.forall_mem_cons.mpr ⟨hv, ih⟩

/-- The list inside an item adds properties or values that say something. -/
theorem nestedDocs_shaped {tracked : Bool} (member : String) (requirement : Requirement)
    {p : Parameter} (h : p.Shaped tracked) (blocks : List Block) :
    (nestedDocs member requirement p blocks).1.Shaped tracked := by
  induction blocks with
  | nil => rw [nestedDocs]; exact h
  | cons block rest ih =>
    cases block with
    | list ordered items =>
      rw [nestedDocs]
      split
      · exact ⟨h.name_ne, h.required_isSome, h.value_ne⟩
      · refine ⟨h.name_ne, h.required_isSome, fun values hv => ?_⟩
        cases hv
        exact possibleValues_ne _ _ _
    | _ => rw [nestedDocs]; exact ih; simp

/-- The parameters that a list documents are shaped at every depth. -/
theorem parametersOf_shaped (member : String) (requirement : Requirement)
    (items : List (List Block)) :
    AllShaped requirement.tracks (parametersOf member requirement items).1 := by
  induction member, requirement, items using
    @parametersOf.induct fun member requirement parameter blocks =>
      AllShaped requirement.tracks (parameter.properties.getD []) →
        AllShaped requirement.tracks
          ((nestedDocs member requirement parameter blocks).1.properties.getD []) with
  | case1 member requirement parameter h => rw [nestedDocs]; exact h
  | case2 member requirement parameter ordered items tail hd properties defects hp ih h =>
    rw [hp, requirement.tracks_nested] at ih
    simpa only [nestedDocs, hd, hp, if_true, Option.getD_some] using ih
  | case3 member requirement parameter ordered items tail hd values defects hv h =>
    rw [nestedDocs, if_neg hd]
    exact h
  | case4 member requirement parameter head rest hne ih h =>
    rw [nestedDocs]
    · exact ih h
    · exact hne
  | case5 member requirement => rw [parametersOf]; exact allShaped_nil _
  | case6 member requirement item rest properties defects hp fault hb ih =>
    rw [hp] at ih
    simpa only [parametersOf, hp, hb] using ih
  | case7 member requirement item rest properties defects hp bullet hb parameter found hn ih ih' =>
    have hs := nestedDocs_shaped member requirement
      (bullet.parameter_shaped (name_ne_of_ofItem hb) requirement) item
    have hq := ih' (by rw [Bullet.parameter_eq]; exact allShaped_nil _)
    rw [hp] at ih
    rw [hn] at hs hq
    simp only [parametersOf, hp, hb, hn, AllShaped, nestedParameters, List.forall_mem_append]
    rw [Parameter.nested_eq, List.forall_mem_cons]
    exact ⟨⟨hs, hq⟩, ih⟩

namespace Section

variable {s : Section} {heading : MemberHeading}

theorem arguments_shaped (s : Section) (member signature : String) :
    AllShaped true (s.arguments member signature).1 := by
  rw [arguments]
  split
  · exact allShaped_nil true
  · split
    · exact parametersOf_shaped _ _ _
    · exact allShaped_nil true

theorem plainMember_shaped (hn : heading.name ≠ "") :
    (s.plainMember heading.name).Shaped .property where
  name_ne := hn
  signature_isSome := rfl
  signature_parenthesized _ h := absurd h (Option.not_mem_none _)
  names_isSome := rfl
  names_ne _ h := absurd h (Option.not_mem_none _)
  platforms_ne _ h := (headingPlatforms_eq_some h).1
  platforms_nodup _ h := (headingPlatforms_eq_some h).2
  parameters_eq_nil _ := rfl
  returns_eq_nil _ := rfl
  nested_shaped := allShaped_nil _

theorem method_shaped (hn : heading.name ≠ "") (hs : isParenthesized heading.signature.toList)
    (owner : String) : (s.method heading owner).1.Shaped .method where
  name_ne := hn
  signature_isSome := rfl
  signature_parenthesized _ h := by
    cases h
    exact hs
  names_isSome := rfl
  names_ne _ h := by
    cases h
    exact Signature.empty_notMem_names _
  platforms_ne _ h := (headingPlatforms_eq_some h).1
  platforms_nodup _ h := (headingPlatforms_eq_some h).2
  parameters_eq_nil h := absurd rfl h
  returns_eq_nil _ := rfl
  nested_shaped := by
    change AllShaped true ((s.arguments _ heading.signature).1 ++ [])
    rw [List.append_nil]
    exact arguments_shaped _ _ _

theorem event_shaped (hn : heading.name ≠ "") (owner : String) :
    (s.event heading owner).1.Shaped .event := by
  have hp := plainMember_shaped (s := s) hn
  rw [event]
  split
  · exact ⟨hn, hp.signature_isSome, hp.signature_parenthesized, hp.names_isSome, hp.names_ne,
      hp.platforms_ne, hp.platforms_nodup, fun _ => rfl, fun h => absurd rfl h,
      parametersOf_shaped _ .untracked _⟩
  · exact ⟨hn, hp.signature_isSome, hp.signature_parenthesized, hp.names_isSome, hp.names_ne,
      hp.platforms_ne, hp.platforms_nodup, fun _ => rfl, fun _ => rfl, hp.nested_shaped⟩

/-- A member read from a section whose title stands on one line has the shape of its kind. -/
theorem member_shaped {collection : Collection} {owner : String} {m : Member}
    (ht : AllOneLine s.title) (h : (s.member collection owner).1 = some m) :
    m.Shaped collection.memberKind := by
  rw [member] at h
  split at h
  · cases h
  · rename_i heading hh
    have hn := MemberHeading.name_ne_of_ofTitle? hh
    cases h
    cases hk : collection.memberKind with
    | method =>
      rw [hk] at hh
      exact method_shaped hn (MemberHeading.isParenthesized_of_ofMethod? hh
        (MemberHeading.newline_notMem_codeOrText ht)) owner
    | property => exact plainMember_shaped hn
    | event => exact event_shaped hn owner

end Section

end ApiDocs
