import ApiDocs.Record.Api
import ApiDocs.Schema.Check

/-!
# Records as their documents shape them

What holds of every member of a kind, whatever its document says: which of its parts are there, and
which texts in them are not empty. The texts that may be missing are gaps, and each gap is one
violation.
-/

namespace ApiDocs

mutual

/-- A parameter with its properties, the properties of these, and so on. -/
def Parameter.nested : Parameter → List Parameter
  | ⟨name, type, description, required, values, properties⟩ =>
    ⟨name, type, description, required, values, properties⟩ :: nestedProperties properties

def nestedProperties : Option (List Parameter) → List Parameter
  | none => []
  | some properties => nestedParameters properties

def nestedParameters : List Parameter → List Parameter
  | [] => []
  | p :: rest => p.nested ++ nestedParameters rest

end

theorem Parameter.nested_eq (p : Parameter) :
    p.nested = p :: nestedParameters (p.properties.getD []) := by
  obtain ⟨name, type, description, required, values, properties⟩ := p
  cases properties <;> rfl

theorem mem_nestedParameters {p : Parameter} {parameters : List Parameter} (h : p ∈ parameters) :
    p ∈ nestedParameters parameters := by
  induction parameters with
  | nil => cases h
  | cons first rest ih =>
    rw [nestedParameters, Parameter.nested_eq]
    rcases List.mem_cons.mp h with rfl | h
    · exact List.mem_append_left _ List.mem_cons_self
    · exact List.mem_append_right _ (ih h)

/-- A parameter with a name, with values that say something, and with a word on whether it is
required where its kind has one. -/
structure Parameter.Shaped (tracked : Bool) (p : Parameter) : Prop where
  name_ne : p.name ≠ ""
  required_isSome : p.required.isSome = tracked
  value_ne : ∀ values ∈ p.possibleValues, ∀ v ∈ values, v.value ≠ ""

def AllShaped (tracked : Bool) (parameters : List Parameter) : Prop :=
  ∀ p ∈ nestedParameters parameters, p.Shaped tracked

theorem allShaped_nil (tracked : Bool) : AllShaped tracked [] :=
  fun _ h => absurd h List.not_mem_nil

/-- A member with the parts of its kind and no others. -/
structure Member.Shaped (kind : MemberKind) (m : Member) : Prop where
  name_ne : m.name ≠ ""
  signature_isSome : m.signature.isSome = (kind == .method)
  signature_parenthesized : ∀ s ∈ m.signature, isParenthesized s.toList
  names_isSome : m.signatureParameters.isSome = (kind == .method)
  names_ne : ∀ names ∈ m.signatureParameters, "" ∉ names
  platforms_ne : ∀ platforms ∈ m.platforms, platforms ≠ []
  platforms_nodup : ∀ platforms ∈ m.platforms, platforms.Nodup
  parameters_eq_nil : kind ≠ .method → m.parameters = []
  returns_eq_nil : kind ≠ .event → m.returns = []
  nested_shaped : AllShaped kind.tracksRequired (m.parameters ++ m.returns)

def blank (s : String) : List Violation :=
  if s = "" then [.tooShort (.string s) 1] else []

theorem blank_eq_nil {s : String} : blank s = [] ↔ s ≠ "" := by
  rw [blank]
  split <;> simp_all

def slugGap (s : String) : List Violation :=
  if Slug.IsSlug s then [] else [.unmatched (.string s) TextForm.slug.pattern]

theorem slugGap_eq_nil {s : String} : slugGap s = [] ↔ Slug.IsSlug s := by
  rw [slugGap]
  split <;> simp_all

/-- What a member leaves unsaid: its description, and types at any depth. -/
def Member.gaps (m : Member) : List Violation :=
  blank m.description ++
    (nestedParameters (m.parameters ++ m.returns)).flatMap fun p => blank p.type

def Api.gaps (api : Api) : List Violation :=
  blank api.name ++ slugGap api.slug ++ blank api.version ++ blank api.description ++
    Collection.all.flatMap fun collection => (api.collection collection).flatMap Member.gaps

/-- A record that leaves nothing unsaid. -/
structure Api.Complete (api : Api) : Prop where
  name_ne : api.name ≠ ""
  version_ne : api.version ≠ ""
  description_ne : api.description ≠ ""
  isSlug : Slug.IsSlug api.slug
  member_description_ne : ∀ collection, ∀ m ∈ api.collection collection, m.description ≠ ""
  type_ne : ∀ collection, ∀ m ∈ api.collection collection,
    ∀ p ∈ nestedParameters (m.parameters ++ m.returns), p.type ≠ ""

theorem Collection.mem_all (collection : Collection) : collection ∈ all := by
  cases collection <;> decide

theorem Api.gaps_eq_nil {api : Api} : api.gaps = [] ↔ api.Complete := by
  simp only [gaps, Member.gaps, List.append_eq_nil_iff, List.flatMap_eq_nil_iff, blank_eq_nil,
    slugGap_eq_nil]
  constructor
  · rintro ⟨⟨⟨⟨hn, hs⟩, hv⟩, hd⟩, hm⟩
    exact ⟨hn, hv, hd, hs, fun c m h => (hm c c.mem_all m h).1,
      fun c m h => (hm c c.mem_all m h).2⟩
  · rintro ⟨hn, hv, hd, hs, hm, ht⟩
    exact ⟨⟨⟨⟨hn, hs⟩, hv⟩, hd⟩, fun c _ m h => ⟨hm c m h, ht c m h⟩⟩

end ApiDocs
