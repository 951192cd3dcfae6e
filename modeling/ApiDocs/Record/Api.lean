import ApiDocs.Address
import ApiDocs.Record.Member

/-!
# Records

A record documents one module or class. It is drafted from its name, its texts and its members, and
published with the slug and the addresses that follow from its name. Two members of one collection
have different names: a later one of the same name is left out and noted.
-/

namespace ApiDocs

structure Process where
  main : Bool
  renderer : Bool
deriving DecidableEq, Repr

def Process.unknown : Process :=
  ⟨false, false⟩

/-- A published record. -/
structure Api where
  name : String
  slug : String
  kind : ApiKind
  version : String
  description : String
  process : Process
  websiteUrl : String
  repoUrl : String
  members : List (Collection × Member)
deriving Repr

def Collection.members (collection : Collection) (all : List (Collection × Member)) :
    List Member :=
  (all.filter fun entry => entry.1 == collection).map Prod.snd

def Api.collection (api : Api) (collection : Collection) : List Member :=
  collection.members api.members

/-- What a later check of localized documents needs of a record. -/
structure ApiSummary where
  name : String
  slug : String
  kind : ApiKind
  version : String
deriving DecidableEq, Repr

def Api.summary (api : Api) : ApiSummary :=
  ⟨api.name, api.slug, api.kind, api.version⟩

/-- A record before it is published, with the errors found so far. -/
structure Draft where
  name : String
  kind : ApiKind
  version : String
  description : String
  process : Process
  members : List (Collection × Member)
  errors : List String
deriving Repr

namespace Draft

def ofName (name : String) (kind : ApiKind) (version : String) : Draft :=
  ⟨name, kind, version, "", .unknown, [], []⟩

def note (error : String) (draft : Draft) : Draft :=
  { draft with errors := draft.errors ++ [error] }

def duplicateError (collection : Collection) (name : String) : String :=
  s!"duplicate {collection.key} member '{name}'"

def hasMember (draft : Draft) (collection : Collection) (name : String) : Bool :=
  (collection.members draft.members).any fun member => member.name == name

/-- Adds a member, or notes an error when the collection has one of the same name. -/
def addMember (collection : Collection) (member : Member) (draft : Draft) : Draft :=
  if draft.hasMember collection member.name then
    draft.note (duplicateError collection member.name)
  else { draft with members := draft.members ++ [(collection, member)] }

def publish (draft : Draft) (aliases : Aliases) (urls : UrlTemplates) : Api :=
  let slug := aliases.slugFor draft.name
  { name := draft.name
    slug
    kind := draft.kind
    version := draft.version
    description := draft.description
    process := draft.process
    websiteUrl := urls.websiteUrl slug
    repoUrl := urls.repoUrl draft.version slug
    members := draft.members }

end Draft

end ApiDocs
