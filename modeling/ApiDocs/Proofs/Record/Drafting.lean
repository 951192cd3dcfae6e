import ApiDocs.Document.Lint
import ApiDocs.Proofs.FirstBy
import ApiDocs.Proofs.Record.Entries
import Mathlib.Data.List.Induction

/-!
# Steps on a draft

A draft takes notes and members one step after the other. Of the members of one name that are added
to a collection the first one is kept, unchanged, and each later one is noted. What is noted stands
in the errors of the published record and nowhere in its written form.
-/

namespace ApiDocs

/-- The key by which members of a draft differ. -/
def memberKey (entry : Collection × Member) : Collection × String :=
  (entry.1, entry.2.name)

theorem mem_names_iff (collection : Collection) (name : String)
    (members : List (Collection × Member)) :
    name ∈ (collection.members members).map Member.name ↔
      (collection, name) ∈ members.map memberKey := by
  simp only [Collection.members, memberKey, List.mem_map, List.mem_filter, beq_iff_eq]
  constructor
  · rintro ⟨_, ⟨⟨c, m⟩, ⟨h, rfl⟩, rfl⟩, rfl⟩
    exact ⟨(c, m), h, rfl⟩
  · rintro ⟨⟨c, m⟩, h, he⟩
    cases he
    exact ⟨m, ⟨(c, m), ⟨h, rfl⟩, rfl⟩, rfl⟩

/-- The first member of each name can be sought in each collection by itself. -/
theorem Collection.members_firstBy (collection : Collection)
    (members : List (Collection × Member)) :
    collection.members (firstBy memberKey members) =
      firstBy Member.name (collection.members members) := by
  have hf := filter_firstBy memberKey (fun key => key.1 == collection) members
  rw [Collection.members, Collection.members]
  refine (congrArg (List.map Prod.snd) hf).trans (map_firstBy _ _ _ ?_)
  intro a ha b hb
  have ha := (List.mem_filter.mp ha).2
  have hb := (List.mem_filter.mp hb).2
  simp only [memberKey, beq_iff_eq] at ha hb
  simp [memberKey, ha, hb]

namespace Draft

/-- What is done to a draft before it is published: an error is noted, or a member is added to a
collection. -/
inductive Step where
  | note (error : String)
  | add (collection : Collection) (member : Member)

def step (draft : Draft) : Step → Draft
  | .note error => draft.note error
  | .add collection member => draft.addMember collection member

def run (draft : Draft) (steps : List Step) : Draft :=
  steps.foldl step draft

namespace Step

def entry? : Step → Option (Collection × Member)
  | note _ => none
  | add collection member => some (collection, member)

/-- The members that steps add, each with its collection. -/
def entries (steps : List Step) : List (Collection × Member) :=
  steps.filterMap entry?

/-- The members that steps add to a collection. -/
def added (collection : Collection) (steps : List Step) : List Member :=
  collection.members (entries steps)

/-- What is noted at a step behind others: its own error, or the name that its collection has
already. -/
def errors (earlier : List Step) : Step → List String
  | note error => [error]
  | add collection member =>
    if member.name ∈ (added collection earlier).map Member.name then
      [duplicateError collection member.name]
    else []

def allErrors (steps : List Step) : List String :=
  (steps.mapIdx fun i step => step.errors (steps.take i)).flatten

end Step

/-- The draft as the steps tell it: the first member of each name, and what the steps note. -/
def told (draft : Draft) (steps : List Step) : Draft :=
  { draft with
    members := firstBy memberKey (Step.entries steps)
    errors := Step.allErrors steps }

end Draft

end ApiDocs
