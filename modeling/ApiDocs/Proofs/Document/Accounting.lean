import ApiDocs.Proofs.Record.Drafting
import Mathlib.Algebra.GroupWithZero.Nat

/-!
# What becomes of the headings of a surface

Each heading under a label is accounted for once: it cannot be read, or its member enters the
record, or its member is left out because an earlier heading of the same collection gave the name.
The errors of a record are the defects of its surface, then what is noted at each heading in turn,
then the violations of its written form.
-/

namespace ApiDocs

/-- Whether a defect lies inside a member, not in its heading. -/
def Defect.isInner : Defect → Bool
  | missingDeclaration | unparsableHeading _ _ => false
  | _ => true

/-- Whether a defect lies in a list of parameters. -/
def Defect.isListed : Defect → Bool
  | unparsableParameter _ _ | missingType _ _ | unparsablePossibleValue _ _ _ => true
  | _ => false

theorem Defect.isInner_of_isListed {defect : Defect} (h : defect.isListed) : defect.isInner := by
  cases defect <;> first | rfl | cases h

theorem all_isInner_of_isListed {defects : List Defect} (h : defects.all Defect.isListed) :
    defects.all Defect.isInner :=
  List.all_eq_true.mpr fun defect hd =>
    Defect.isInner_of_isListed (List.all_eq_true.mp h defect hd)

theorem BulletFault.defect_isListed (member : String) (fault : BulletFault) :
    (fault.defect member).isListed := by
  cases fault <;> rfl

theorem possibleValues_isListed (member parameter : String) (items : List (List Block)) :
    (possibleValues member parameter items).2.all Defect.isListed := by
  induction items with
  | nil => rfl
  | cons item rest ih =>
    rw [possibleValues]
    dsimp only
    split
    · simpa [Defect.isListed] using ih
    · exact ih

theorem parametersOf_isListed (member : String) (requirement : Requirement)
    (items : List (List Block)) :
    (parametersOf member requirement items).2.all Defect.isListed := by
  induction member, requirement, items using
    @parametersOf.induct fun member requirement parameter blocks =>
      (nestedDocs member requirement parameter blocks).2.all Defect.isListed with
  | case1 => rw [nestedDocs]; rfl
  | case2 member requirement parameter ordered items tail h properties defects hp ih =>
    simpa only [nestedDocs, h, hp, if_true] using ih
  | case3 member requirement parameter ordered items tail h values defects hv =>
    rw [nestedDocs, if_neg h]
    exact possibleValues_isListed member parameter.name items
  | case4 member requirement parameter head rest h ih =>
    rw [nestedDocs]
    · exact ih
    · exact h
  | case5 => rw [parametersOf]; rfl
  | case6 member requirement item rest properties defects hp fault hb ih =>
    rw [hp] at ih
    simp only [parametersOf, hp, hb, List.all_cons, fault.defect_isListed, ih, Bool.and_self]
  | case7 member requirement item rest properties defects hp bullet hb parameter found hn ih ih' =>
    rw [hp] at ih
    rw [hn] at ih'
    simp only [parametersOf, hp, hb, hn, List.all_append, ih, ih', Bool.and_self]

namespace Section

theorem arguments_isListed (s : Section) (member signature : String) :
    (s.arguments member signature).2.all Defect.isListed := by
  unfold arguments
  split
  · rfl
  · split
    · exact parametersOf_isListed _ _ _
    · rfl

theorem method_isInner (s : Section) (heading : MemberHeading) (owner : String) :
    (s.method heading owner).2.all Defect.isInner := by
  rw [method, List.all_append, all_isInner_of_isListed (s.arguments_isListed _ _), Bool.true_and]
  split <;> rfl

theorem event_isInner (s : Section) (heading : MemberHeading) (owner : String) :
    (s.event heading owner).2.all Defect.isInner := by
  unfold event
  split
  · exact all_isInner_of_isListed (parametersOf_isListed _ _ _)
  · rfl

/-- A heading that cannot be read gives one defect of its own, one that can be read gives none. -/
theorem member_cases (collection : Collection) (owner : String) (s : Section) :
    s.member collection owner = (none, [.unparsableHeading collection s.titleText]) ∨
      ∃ member defects, s.member collection owner = (some member, defects) ∧
        defects.all Defect.isInner := by
  unfold member
  split
  · exact .inl rfl
  · refine .inr ⟨_, _, rfl, ?_⟩
    cases collection.memberKind
    · exact s.method_isInner _ _
    · rfl
    · exact s.event_isInner _ _

end Section

/-- What is noted in a draft while the headings of its surface are read. -/
inductive Notice where
  | defect (defect : Defect)
  | duplicate (collection : Collection) (name : String)

namespace Notice

def message : Notice → String
  | defect d => d.message
  | duplicate collection name => Draft.duplicateError collection name

def isUnparsable : Notice → Bool
  | defect (.unparsableHeading _ _) => true
  | _ => false

def isDuplicate : Notice → Bool
  | duplicate _ _ => true
  | _ => false

end Notice

/-- What becomes of a heading. -/
inductive Outcome where
  | unparsable (heading : String)
  | kept (member : Member) (defects : List Defect)
  | duplicate (member : Member) (defects : List Defect)

namespace Outcome

def notices (collection : Collection) : Outcome → List Notice
  | unparsable heading => [.defect (.unparsableHeading collection heading)]
  | kept _ defects => defects.map .defect
  | duplicate member defects => defects.map .defect ++ [.duplicate collection member.name]

def keptMember? : Outcome → Option Member
  | kept member _ => some member
  | _ => none

end Outcome

/-- The members that headings give, each with its collection. -/
def membersRead (owner : String) (headings : List (Collection × Section)) :
    List (Collection × Member) :=
  headings.filterMap fun entry => (entry.2.member entry.1 owner).1.map (entry.1, ·)

theorem mem_membersRead {owner : String} {headings : List (Collection × Section)}
    {collection : Collection} {m : Member}
    (h : m ∈ collection.members (membersRead owner headings)) :
    ∃ s, (collection, s) ∈ headings ∧ (s.member collection owner).1 = some m := by
  obtain ⟨⟨c, m⟩, hm, rfl⟩ := List.mem_map.mp h
  obtain ⟨hr, hc⟩ := List.mem_filter.mp hm
  obtain ⟨⟨c, s⟩, hs, he⟩ := List.mem_filterMap.mp hr
  obtain ⟨m, he, heq⟩ := Option.map_eq_some_iff.mp he
  cases heq
  cases eq_of_beq hc
  exact ⟨s, hs, he⟩

/-- What becomes of a heading that stands behind others. -/
def outcome (owner : String) (earlier : List (Collection × Section)) :
    Collection × Section → Outcome
  | (collection, s) =>
    match s.member collection owner with
    | (none, _) => .unparsable s.titleText
    | (some member, defects) =>
      if member.name ∈ (collection.members (membersRead owner earlier)).map Member.name then
        .duplicate member defects
      else .kept member defects

/-- What becomes of each heading, those before it being the earlier ones. -/
def outcomes (owner : String) (headings : List (Collection × Section)) :
    List (Collection × Outcome) :=
  headings.mapIdx fun i heading => (heading.1, outcome owner (headings.take i) heading)

def notices (owner : String) (headings : List (Collection × Section)) : List Notice :=
  (outcomes owner headings).flatMap fun entry => entry.2.notices entry.1

/-- The members that enter the draft. -/
def membersKept (owner : String) (headings : List (Collection × Section)) :
    List (Collection × Member) :=
  (outcomes owner headings).filterMap fun entry => entry.2.keptMember?.map (entry.1, ·)

/-- What a heading behind others needs for an outcome: a heading that cannot be read gives the one
defect that says so, and of two headings of a collection with one name the later is the
duplicate. -/
def Accounted (owner : String) (earlier : List (Collection × Section)) :
    Collection × Section → Outcome → Prop
  | (collection, s), .unparsable heading =>
    s.member collection owner = (none, [.unparsableHeading collection heading])
  | (collection, s), .kept member defects =>
    s.member collection owner = (some member, defects) ∧ defects.all Defect.isInner ∧
      member.name ∉ (collection.members (membersRead owner earlier)).map Member.name
  | (collection, s), .duplicate member defects =>
    s.member collection owner = (some member, defects) ∧ defects.all Defect.isInner ∧
      member.name ∈ (collection.members (membersRead owner earlier)).map Member.name

theorem accounted_outcome (owner : String) (earlier : List (Collection × Section))
    (heading : Collection × Section) :
    Accounted owner earlier heading (outcome owner earlier heading) := by
  obtain ⟨collection, s⟩ := heading
  rcases s.member_cases collection owner with h | ⟨member, defects, h, hd⟩
  · simp only [outcome, h, Accounted]
  · simp only [outcome, h]
    split
    · exact ⟨h, hd, ‹_›⟩
    · exact ⟨h, hd, ‹_›⟩

theorem outcomes_concat (owner : String) (headings : List (Collection × Section))
    (heading : Collection × Section) :
    outcomes owner (headings ++ [heading]) =
      outcomes owner headings ++ [(heading.1, outcome owner headings heading)] := by
  rw [outcomes, List.mapIdx_append, outcomes]
  congr 1
  · refine List.mapIdx_eq_mapIdx_iff.mpr fun i hi => ?_
    rw [List.take_append_of_le_length (Nat.le_of_lt hi)]
  · simp

theorem membersRead_concat (owner : String) (headings : List (Collection × Section))
    (heading : Collection × Section) :
    membersRead owner (headings ++ [heading]) =
      membersRead owner headings ++
        ((heading.2.member heading.1 owner).1.map (heading.1, ·)).toList := by
  rw [membersRead, List.filterMap_append]
  cases h : (heading.2.member heading.1 owner).1 <;> simp [membersRead, h]

theorem notices_concat (owner : String) (headings : List (Collection × Section))
    (heading : Collection × Section) :
    notices owner (headings ++ [heading]) =
      notices owner headings ++ (outcome owner headings heading).notices heading.1 := by
  rw [notices, outcomes_concat, List.flatMap_append, List.flatMap_singleton, ← notices]

theorem membersKept_concat (owner : String) (headings : List (Collection × Section))
    (heading : Collection × Section) :
    membersKept owner (headings ++ [heading]) =
      membersKept owner headings ++
        ((outcome owner headings heading).keptMember?.map (heading.1, ·)).toList := by
  rw [membersKept, outcomes_concat, List.filterMap_append]
  cases h : (outcome owner headings heading).keptMember? <;> simp [membersKept, h]

/-- The draft after some headings of its surface were read. -/
def Draft.after (draft : Draft) (headings : List (Collection × Section)) : Draft :=
  { draft with
    members := firstBy memberKey (membersRead draft.name headings)
    errors := draft.errors ++ (notices draft.name headings).map Notice.message }

theorem Draft.noteAll_eq (draft : Draft) (defects : List Defect) :
    draft.noteAll defects =
      { draft with errors := draft.errors ++ defects.map Defect.message } := by
  induction defects generalizing draft with
  | nil => simp [noteAll]
  | cons defect rest ih =>
    change (draft.note defect.message).noteAll rest = _
    rw [ih]
    simp [note]

theorem Draft.hasMember_after (draft : Draft) (headings : List (Collection × Section))
    (collection : Collection) (name : String) :
    (draft.after headings).hasMember collection name ↔
      name ∈ (collection.members (membersRead draft.name headings)).map Member.name := by
  rw [mem_names_iff, ← mem_map_firstBy, ← mem_names_iff]
  simp [hasMember, Draft.after]

/-- Reading one more heading. -/
theorem Draft.addSection_after (draft : Draft) (headings : List (Collection × Section))
    (heading : Collection × Section) :
    (draft.after headings).addSection heading = draft.after (headings ++ [heading]) := by
  obtain ⟨collection, s⟩ := heading
  have hn : (draft.after headings).name = draft.name := rfl
  have hd := draft.hasMember_after headings collection
  simp only [addSection, hn]
  have hk := mem_names_iff collection
  rcases s.member_cases collection draft.name with h | ⟨member, defects, h, -⟩
  · simp only [h, noteAll_eq]
    simp [Draft.after, membersRead_concat, notices_concat, outcome, h, Outcome.notices,
      Notice.message]
  · simp only [h, noteAll_eq, addMember]
    by_cases hm : member.name ∈
        (collection.members (membersRead draft.name headings)).map Member.name
    · split
      · simp [Draft.after, membersRead_concat, notices_concat, outcome, h, hm, Outcome.notices,
          Notice.message, note, firstBy_concat, memberKey, (hk _ _).mp hm]
      · rename_i hf
        exact absurd ((hd member.name).mpr hm) hf
    · split
      · rename_i ht
        exact absurd ((hd member.name).mp ht) hm
      · simp [Draft.after, membersRead_concat, notices_concat, outcome, h, hm, Outcome.notices,
          Notice.message, firstBy_concat, memberKey, mt (hk _ _).mpr hm]

theorem Draft.foldl_addSection (draft : Draft) (h : draft.members = [])
    (headings : List (Collection × Section)) :
    headings.foldl addSection draft = draft.after headings := by
  induction headings using List.reverseRecOn with
  | nil =>
    cases draft
    cases h
    simp [Draft.after, membersRead, firstBy, notices, outcomes]
  | append_singleton headings heading ih =>
    rw [List.foldl_append, ih, List.foldl_cons, List.foldl_nil, addSection_after]

/-- The draft of a surface, told by the members read and the notices given. -/
theorem Draft.ofSurface_eq (version : String) (surface : Surface) :
    ofSurface version surface =
      { name := surface.name
        kind := surface.kind
        version
        description := surface.description
        process := surface.process
        members := firstBy memberKey (membersRead surface.name surface.memberSections)
        errors := surface.defects.map Defect.message ++
          (notices surface.name surface.memberSections).map Notice.message } := by
  rw [ofSurface, noteAll_eq, foldl_addSection _ rfl]
  rfl

theorem countP_isUnparsable_eq_zero {defects : List Defect} (h : defects.all Defect.isInner) :
    (defects.map Notice.defect).countP Notice.isUnparsable = 0 := by
  rw [List.countP_eq_zero]
  intro notice hn
  obtain ⟨defect, hd, rfl⟩ := List.mem_map.mp hn
  have hi := List.all_eq_true.mp h defect hd
  cases defect <;> simp_all [Defect.isInner, Notice.isUnparsable]

theorem countP_isDuplicate_eq_zero (defects : List Defect) :
    (defects.map Notice.defect).countP Notice.isDuplicate = 0 := by
  rw [List.countP_eq_zero]
  intro notice hn
  obtain ⟨defect, -, rfl⟩ := List.mem_map.mp hn
  simp [Notice.isDuplicate]

/-- An outcome is a member kept, a duplicate noted or an unreadable heading noted, and only one of
the three. -/
theorem Accounted.count {owner : String} {earlier : List (Collection × Section)}
    {heading : Collection × Section} {o : Outcome} (h : Accounted owner earlier heading o) :
    o.keptMember?.toList.length + (o.notices heading.1).countP Notice.isDuplicate +
      (o.notices heading.1).countP Notice.isUnparsable = 1 := by
  cases o with
  | unparsable title => rfl
  | kept member defects =>
    rw [Outcome.notices, countP_isDuplicate_eq_zero, countP_isUnparsable_eq_zero h.2.1]
    rfl
  | duplicate member defects =>
    rw [Outcome.notices, List.countP_append, List.countP_append, countP_isDuplicate_eq_zero,
      countP_isUnparsable_eq_zero h.2.1]
    rfl

/-- The members kept are the first of each name. -/
theorem firstBy_membersRead (owner : String) (headings : List (Collection × Section)) :
    firstBy memberKey (membersRead owner headings) = membersKept owner headings := by
  induction headings using List.reverseRecOn with
  | nil => rfl
  | append_singleton headings heading ih =>
    obtain ⟨collection, s⟩ := heading
    rw [membersRead_concat, membersKept_concat, ← ih]
    rcases s.member_cases collection owner with h | ⟨member, defects, h, -⟩
    · simp [outcome, h, Outcome.keptMember?]
    · have hk := mem_names_iff collection member.name (membersRead owner headings)
      simp only [h, Option.map_some, Option.toList_some, firstBy_concat, memberKey, ← hk, outcome]
      split <;> simp [Outcome.keptMember?]

theorem length_eq_count (owner : String) (headings : List (Collection × Section)) :
    headings.length = (membersKept owner headings).length +
      (notices owner headings).countP Notice.isDuplicate +
      (notices owner headings).countP Notice.isUnparsable := by
  induction headings using List.reverseRecOn with
  | nil => rfl
  | append_singleton headings heading ih =>
    have hc := (accounted_outcome owner headings heading).count
    have hl : ((outcome owner headings heading).keptMember?.map (heading.1, ·)).toList.length =
        (outcome owner headings heading).keptMember?.toList.length := by
      cases (outcome owner headings heading).keptMember? <;> rfl
    rw [membersKept_concat, notices_concat, List.countP_append, List.countP_append,
      List.length_append, List.length_append, List.length_singleton]
    omega

theorem sum_length_members (members : List (Collection × Member)) :
    (Collection.all.map fun collection => (collection.members members).length).sum =
      members.length := by
  induction members with
  | nil => rfl
  | cons entry rest ih =>
    obtain ⟨collection, member⟩ := entry
    rw [List.length_cons, ← ih]
    cases collection <;> simp +arith [Collection.members, Collection.all]

theorem Surface.collection_record (surface : Surface) (options : LintOptions)
    (validator : Validator) (collection : Collection) :
    (surface.record options validator).api.collection collection =
      firstBy Member.name
        (collection.members (membersRead surface.name surface.memberSections)) := by
  change collection.members (Draft.ofSurface options.version surface).members = _
  rw [Draft.ofSurface_eq, Collection.members_firstBy]

theorem Surface.errors_record (surface : Surface) (options : LintOptions) (validator : Validator) :
    (surface.record options validator).errors =
      surface.defects.map Defect.message ++
        (notices surface.name surface.memberSections).map Notice.message ++
        validator (surface.record options validator).api.toJson := by
  have he := congrArg Draft.errors (Draft.ofSurface_eq options.version surface)
  exact congrArg (· ++ validator (surface.record options validator).api.toJson) he

end ApiDocs
