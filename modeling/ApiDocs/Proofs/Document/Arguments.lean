import ApiDocs.Proofs.Document.Gaps
import ApiDocs.Proofs.Document.Signature
import ApiDocs.Proofs.Text
import Mathlib.Data.List.Forall2

/-!
# Arguments and signatures

Each readable bullet of the first list under the heading of a method gives one parameter. A method
whose parameters are not those that its signature names gives one error that says so and keeps them
all the same, so in a record without errors every signature is documented name by name.
-/

namespace ApiDocs

namespace Bullet

/-- Whether a bullet marks its parameter optional: what follows the type, platforms left out, starts
with the mark, before or after a dash. -/
def MarkedOptional (bullet : Bullet) : Prop :=
  let kept := bullet.rest.filter fun inline => inline.platforms?.isNone
  let text := Text.trim (richText kept).toList
  optionalMarker.toList <+: text ∨
    ∃ behind, text = '-' :: behind ∧ optionalMarker.toList <+: Text.trim behind

/-- Whether a parameter of a method with the given signature is what a bullet says, lists inside the
item apart. -/
structure Documents (signature : String) (bullet : Bullet) (p : Parameter) : Prop where
  name : p.name = bullet.name
  type : p.type = bullet.type
  description : p.description = (Bullet.description bullet.rest).1
  tracked : p.required.isSome
  optional : p.required = some false ↔
    Signature.Bracketed signature bullet.name ∨ bullet.MarkedOptional

end Bullet

theorem afterOptional_snd (s : List Char) :
    (afterOptional s).2 = true ↔ Bullet.optionalMarker.toList <+: s := by
  rw [afterOptional]
  split
  · rename_i rest h
    exact iff_of_true rfl ⟨rest, List.isPrefixOf?_eq_some_iff_append_eq.mp h⟩
  · rename_i h
    refine iff_of_false Bool.false_ne_true ?_
    rintro ⟨rest, rfl⟩
    rw [Text.after?_append] at h
    cases h

theorem afterOptional_of_not {s : List Char} (h : ¬ Bullet.optionalMarker.toList <+: s) :
    afterOptional s = (s, false) := by
  rw [afterOptional, Text.after?_eq_none h]

/-- One dash at the front of a trimmed text is taken away. -/
theorem afterDash_cons {s behind : List Char} (h : Text.trim s = '-' :: behind) :
    afterDash (Text.trim s) = Text.trim behind := by
  rw [afterDash, (Text.tight_trim s).trim_eq, h]
  rfl

theorem afterDash_of_not {s : List Char} (h : ∀ behind, Text.trim s ≠ '-' :: behind) :
    afterDash (Text.trim s) = Text.trim s := by
  have hd : Text.after? "-" (Text.trim s) = none :=
    Text.after?_eq_none fun ⟨behind, hb⟩ => h behind hb.symm
  have ht := (Text.tight_trim s).trim_eq
  rw [afterDash, ht, hd, Option.getD_none, ht]

theorem afterOptional_afterDash_snd (s : List Char) :
    (afterOptional (afterDash (Text.trim s))).2 = true ↔
      Bullet.optionalMarker.toList <+: Text.trim s ∨
        ∃ behind, Text.trim s = '-' :: behind ∧
          Bullet.optionalMarker.toList <+: Text.trim behind := by
  rw [afterOptional_snd]
  by_cases hb : ∃ behind, Text.trim s = '-' :: behind
  · obtain ⟨behind, hb⟩ := hb
    have hf : ¬ Bullet.optionalMarker.toList <+: Text.trim s := by
      have hm : Bullet.optionalMarker.toList = '(' :: "optional)".toList := by decide
      rw [hb, hm, List.cons_prefix_cons]
      exact fun h => absurd h.1 (by decide)
    rw [afterDash_cons hb, or_iff_right hf]
    constructor
    · intro h
      exact ⟨behind, hb, h⟩
    · rintro ⟨behind', hb', h⟩
      rw [hb, List.cons.injEq] at hb'
      rwa [hb'.2]
  · rw [afterDash_of_not fun behind he => hb ⟨behind, he⟩, or_iff_left]
    rintro ⟨behind, he, -⟩
    exact hb ⟨behind, he⟩

namespace Bullet

theorem description_snd (bullet : Bullet) :
    (description bullet.rest).2 = true ↔ bullet.MarkedOptional := by
  rw [description, MarkedOptional]
  dsimp only
  generalize (richText (bullet.rest.filter fun inline => inline.platforms?.isNone)).toList = s
  rw [Bool.or_eq_true, ← afterOptional_afterDash_snd, afterOptional_snd]
  by_cases hf : optionalMarker.toList <+: Text.trim s
  · exact iff_of_true (.inl hf) ((afterOptional_afterDash_snd s).mpr (.inl hf))
  · rw [afterOptional_of_not hf, or_iff_right hf]

theorem documents_parameter (signature : String) (bullet : Bullet) :
    bullet.Documents signature
      (bullet.parameter (.tracked (Signature.optionalNames signature))) := by
  rw [parameter_eq, Requirement.required]
  refine ⟨rfl, rfl, by dsimp only, Option.isSome_some, ?_⟩
  rw [← description_snd, ← Signature.mem_optionalNames]
  generalize (description bullet.rest).2 = marked
  cases marked <;> simp

/-- A list inside the item changes nothing of what the bullet itself says. -/
theorem Documents.nestedDocs {signature : String} {bullet : Bullet} {p : Parameter}
    (h : bullet.Documents signature p) (member : String) (requirement : Requirement)
    (blocks : List Block) :
    bullet.Documents signature (nestedDocs member requirement p blocks).1 := by
  induction blocks with
  | nil =>
    rw [ApiDocs.nestedDocs]
    exact h
  | cons block rest ih =>
    cases block with
    | list ordered items =>
      rw [ApiDocs.nestedDocs]
      split
      · exact ⟨h.name, h.type, h.description, h.tracked, h.optional⟩
      · exact ⟨h.name, h.type, h.description, h.tracked, h.optional⟩
    | _ => rw [ApiDocs.nestedDocs]; exact ih; simp

theorem names_of_documents {signature : String} {bullets : List Bullet} {ps : List Parameter}
    (h : List.Forall₂ (Documents signature) bullets ps) :
    (ps.map fun p => p.name) = bullets.map fun bullet => bullet.name := by
  induction h with
  | nil => rfl
  | cons hp _ ih => rw [List.map_cons, List.map_cons, hp.name, ih]

end Bullet

/-- The bullets of a list that can be read. -/
def readableBullets (items : List (List Block)) : List Bullet :=
  items.filterMap fun item => (Bullet.ofItem item).toOption

theorem parametersOf_documents (member signature : String) (items : List (List Block)) :
    List.Forall₂ (Bullet.Documents signature) (readableBullets items)
      (parametersOf member (.tracked (Signature.optionalNames signature)) items).1 := by
  induction items with
  | nil =>
    rw [parametersOf]
    exact .nil
  | cons item rest ih =>
    rw [parametersOf, readableBullets, List.filterMap_cons]
    cases hb : Bullet.ofItem item with
    | error fault => exact ih
    | ok bullet => exact .cons ((bullet.documents_parameter signature).nestedDocs _ _ _) ih

namespace Section

/-- The readable bullets of the first list under a heading, none without a list. -/
def bullets (s : Section) : List Bullet :=
  readableBullets ((Block.firstItems? s.body).getD [])

/-- Whether a signature names parameters and the bullets do not have the same names in the same
order. -/
def Undocumented (s : Section) (signature : String) : Prop :=
  Signature.names signature ≠ [] ∧
    Signature.names signature ≠ s.bullets.map fun bullet => bullet.name

instance (s : Section) (signature : String) : Decidable (s.Undocumented signature) :=
  inferInstanceAs (Decidable (_ ∧ _))

theorem arguments_documents (s : Section) (member : String) {signature : String}
    (h : Signature.names signature ≠ []) :
    List.Forall₂ (Bullet.Documents signature) s.bullets (s.arguments member signature).1 := by
  rw [arguments, if_neg (by simpa using h), bullets]
  split
  · rename_i items hi
    rw [hi]
    exact parametersOf_documents member signature items
  · rename_i hi
    rw [hi]
    exact .nil

theorem names_arguments (s : Section) (member : String) {signature : String}
    (h : Signature.names signature ≠ []) :
    ((s.arguments member signature).1.map fun p => p.name) =
      s.bullets.map fun bullet => bullet.name := by
  exact Bullet.names_of_documents (s.arguments_documents member h)

theorem lacksParameterDocs_method (s : Section) (heading : MemberHeading) (owner : String) :
    (s.method heading owner).1.lacksParameterDocs = true ↔ s.Undocumented heading.signature := by
  rw [Member.lacksParameterDocs, Undocumented, Bool.and_eq_true, method]
  dsimp only [Member.signatureNames, Option.getD_some]
  rw [Bool.not_eq_true', List.isEmpty_eq_false_iff, bne_iff_ne]
  refine and_congr_right fun hn => ?_
  rw [names_arguments s _ hn]

theorem method_parameters (s : Section) (heading : MemberHeading) (owner : String) :
    (s.method heading owner).1.parameters =
      (s.arguments s!"{owner}.{heading.name}" heading.signature).1 := by
  rw [method]

/-- Missing names add one defect to those of the list. -/
theorem method_snd (s : Section) (heading : MemberHeading) (owner : String) :
    (s.method heading owner).2 =
      (s.arguments s!"{owner}.{heading.name}" heading.signature).2 ++
        if s.Undocumented heading.signature then
          [.undocumentedParameters s!"{owner}.{heading.name}" heading.signature]
        else [] := by
  have hl := s.lacksParameterDocs_method heading owner
  rw [method] at hl ⊢
  simp only [hl]

end Section

/-- Whether an error is about parameters that a signature names and no list documents. -/
def tellsMissingDocs (error : String) : Bool :=
  " is missing parameter docs".toList.isSuffixOf error.toList

theorem tellsMissingDocs_undocumented (member signature : String) :
    tellsMissingDocs (Defect.undocumentedParameters member signature).message = true := by
  have hm : (Defect.undocumentedParameters member signature).message =
      member ++ signature ++ " is missing parameter docs" := rfl
  rw [hm, tellsMissingDocs, List.isSuffixOf_iff_suffix, String.toList_append]
  exact List.suffix_append _ _

/-- An error with another last character is about something else. -/
theorem tellsMissingDocs_append (front : String) {mark : String} {c : Char}
    (h : mark.toList.getLast? = some c) (hc : c ≠ 's') :
    tellsMissingDocs (front ++ mark) = false := by
  rw [Bool.eq_false_iff, ne_eq, tellsMissingDocs, List.isSuffixOf_iff_suffix, String.toList_append]
  rintro ⟨before, hb⟩
  have hs : " is missing parameter docs".toList.getLast? = some 's' := by decide
  have hl := congrArg List.getLast? hb
  rw [List.getLast?_append, hs, List.getLast?_append, h, Option.some_or, Option.some_or,
    Option.some.injEq] at hl
  exact hc hl.symm

theorem Defect.tellsMissingDocs_of_isListed {defect : Defect} (h : defect.isListed) :
    tellsMissingDocs defect.message = false := by
  have hq : "'".toList.getLast? = some '\'' := by decide
  have ht : " has no type".toList.getLast? = some 'e' := by decide
  cases defect with
  | unparsableParameter member text => exact tellsMissingDocs_append _ hq (by decide)
  | missingType member parameter => exact tellsMissingDocs_append _ ht (by decide)
  | unparsablePossibleValue member parameter text =>
    exact tellsMissingDocs_append _ hq (by decide)
  | _ => cases h

theorem tellsMissingDocs_duplicate (collection : Collection) (name : String) :
    tellsMissingDocs (Draft.duplicateError collection name) = false := by
  have hq : "'".toList.getLast? = some '\'' := by decide
  exact tellsMissingDocs_append _ hq (by decide)

/-- The member that was read under a heading, kept or not. -/
def Outcome.member? : Outcome → Option Member
  | unparsable _ => none
  | kept member _ | duplicate member _ => some member

theorem filter_map_message_defect (defects : List Defect) :
    ((defects.map Notice.defect).map Notice.message).filter tellsMissingDocs =
      (defects.map Defect.message).filter tellsMissingDocs := by
  rw [List.map_map]
  rfl

/-- A name that was given before changes nothing of what is said about missing names. -/
theorem filter_notices_outcome {s : Section} {collection : Collection} {owner : String}
    {m : Member} {defects : List Defect} (h : s.member collection owner = (some m, defects))
    (earlier : List (Collection × Section)) :
    let o := outcome owner earlier (collection, s)
    o.member? = some m ∧
      ((o.notices collection).map Notice.message).filter tellsMissingDocs =
        (defects.map Defect.message).filter tellsMissingDocs := by
  rw [outcome, h]
  dsimp only
  split
  · refine ⟨rfl, ?_⟩
    rw [Outcome.notices, List.map_append, List.filter_append, filter_map_message_defect,
      List.map_singleton, Notice.message, List.filter_singleton, tellsMissingDocs_duplicate]
    exact List.append_nil _
  · exact ⟨rfl, filter_map_message_defect defects⟩

namespace Section

theorem filter_method (s : Section) (heading : MemberHeading) (owner : String) :
    ((s.method heading owner).2.map Defect.message).filter tellsMissingDocs =
      if s.Undocumented heading.signature then
        [s!"{owner}.{heading.name}{heading.signature} is missing parameter docs"]
      else [] := by
  have hl : ((s.arguments s!"{owner}.{heading.name}" heading.signature).2.map
      Defect.message).filter tellsMissingDocs = [] := by
    refine List.filter_eq_nil_iff.mpr fun error he => ?_
    obtain ⟨defect, hd, rfl⟩ := List.mem_map.mp he
    have hi := List.all_eq_true.mp (s.arguments_isListed _ _) defect hd
    rw [Defect.tellsMissingDocs_of_isListed hi]
    exact Bool.false_ne_true
  rw [method_snd, List.map_append, List.filter_append, hl, List.nil_append]
  split
  · rw [List.map_singleton, List.filter_singleton, tellsMissingDocs_undocumented]
    rfl
  · rfl

theorem member_method {collection : Collection} (hk : collection.memberKind = .method)
    {s : Section} {heading : MemberHeading}
    (ht : MemberHeading.ofTitle? .method s.title = some heading) (owner : String) :
    s.member collection owner =
      (some (s.method heading owner).1, (s.method heading owner).2) := by
  rw [member, hk, ht]

theorem exists_heading_of_member {collection : Collection} (hk : collection.memberKind = .method)
    {s : Section} {owner : String} {m : Member} (h : (s.member collection owner).1 = some m) :
    ∃ heading, MemberHeading.ofTitle? .method s.title = some heading ∧
      m = (s.method heading owner).1 := by
  cases ht : MemberHeading.ofTitle? .method s.title with
  | none =>
    rw [member, hk, ht] at h
    cases h
  | some heading =>
    rw [member_method hk ht] at h
    exact ⟨heading, rfl, (Option.some.inj h).symm⟩

/-- A method whose heading gives no defect has the parameters that its signature names. -/
theorem names_method {s : Section} {heading : MemberHeading} {owner : String}
    (h : (s.method heading owner).2 = []) :
    ((s.method heading owner).1.parameters.map fun p => p.name) =
      Signature.names heading.signature := by
  have hu : ¬ s.Undocumented heading.signature := by
    intro hu
    rw [method_snd, if_pos hu] at h
    exact List.append_ne_nil_of_right_ne_nil _ (List.cons_ne_nil _ _) h
  rw [method_parameters]
  by_cases hn : Signature.names heading.signature = []
  · rw [arguments, if_pos (by simpa using hn), hn]
    rfl
  · rw [names_arguments s _ hn]
    exact (not_not.mp fun he => hu ⟨hn, he⟩).symm

end Section

theorem mem_outcomes (owner : String) {headings : List (Collection × Section)}
    {heading : Collection × Section} (h : heading ∈ headings) :
    ∃ earlier, (heading.1, outcome owner earlier heading) ∈ outcomes owner headings := by
  obtain ⟨i, hi, rfl⟩ := List.mem_iff_getElem.mp h
  refine ⟨headings.take i, List.mem_mapIdx.mpr ⟨i, hi, rfl⟩⟩

/-- Where nothing is noted, no heading has a defect. -/
theorem member_snd_of_notices {owner : String} {headings : List (Collection × Section)}
    (hn : notices owner headings = []) {collection : Collection} {s : Section}
    (h : (collection, s) ∈ headings) : (s.member collection owner).2 = [] := by
  obtain ⟨earlier, ho⟩ := mem_outcomes owner h
  have ho := List.flatMap_eq_nil_iff.mp hn _ ho
  have ha := accounted_outcome owner earlier (collection, s)
  cases hc : outcome owner earlier (collection, s) with
  | unparsable title =>
    rw [hc] at ho
    cases ho
  | kept m defects =>
    rw [hc] at ho ha
    rw [ha.1]
    exact List.map_eq_nil_iff.mp ho
  | duplicate m defects =>
    rw [hc] at ho
    exact absurd ho (List.append_ne_nil_of_right_ne_nil _ (List.cons_ne_nil _ _))

theorem mem_collection_of_kept (surface : Surface) (options : LintOptions) (validator : Validator)
    {collection : Collection} {o : Outcome} {m : Member}
    (ho : (collection, o) ∈ outcomes surface.name surface.memberSections)
    (hm : o.keptMember? = some m) :
    m ∈ (surface.record options validator).api.collection collection := by
  change m ∈ collection.members (Draft.ofSurface options.version surface).members
  rw [Draft.ofSurface_eq, firstBy_membersRead]
  have hk : (collection, m) ∈ membersKept surface.name surface.memberSections := by
    refine List.mem_filterMap.mpr ⟨(collection, o), ho, ?_⟩
    rw [hm, Option.map_some]
  exact List.mem_map.mpr ⟨(collection, m), List.mem_filter.mpr ⟨hk, beq_self_eq_true _⟩, rfl⟩

end ApiDocs
