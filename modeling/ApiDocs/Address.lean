import ApiDocs.Dict
import ApiDocs.Slug

/-!
# Where an API lives

The slug of an API, taken from a table of aliases or derived from its name, and the addresses of its
page on the website and of its source in the repository.
-/

namespace ApiDocs

/-- Names whose slug and expected heading are not derived from the name. -/
structure Aliases where
  entries : List (String × String)
deriving DecidableEq, Repr

namespace Aliases

/-- The table under which every slug is derived. -/
def empty : Aliases :=
  ⟨[]⟩

def insert (aliases : Aliases) (name slug : String) : Aliases :=
  ⟨Dict.insert name slug aliases.entries⟩

def extend (aliases : Aliases) (additions : List (String × String)) : Aliases :=
  ⟨Dict.extend aliases.entries additions⟩

def builtin : Aliases :=
  empty.insert "webviewTag" "webview"

def get? (aliases : Aliases) (name : String) : Option String :=
  Dict.get? name aliases.entries

/-- The name that a document about an API is headed with. -/
def expectedName (aliases : Aliases) (name : String) : String :=
  (aliases.get? name).getD name

/-- The alias of a name, else the slug derived from it. -/
def slugFor (aliases : Aliases) (name : String) : String :=
  (aliases.get? name).getD (Slug.ofName name)

def size (aliases : Aliases) : Nat :=
  aliases.entries.length

end Aliases

/-- The bases of the addresses, without slashes at their ends. -/
structure UrlTemplates where
  websiteBase : String
  repoBase : String
deriving DecidableEq, Repr

namespace UrlTemplates

def defaultWebsiteBase : String :=
  "http://electron.atom.io/docs/api"

/-- The repository that holds the documents; a version tag and a path follow. -/
def defaultRepoBase : String :=
  "https://github.com/electron/electron/blob"

def base (url : String) : String :=
  String.ofList (Text.dropEndWhile (· == '/') url.toList)

def ofBases (website repo : String) : UrlTemplates :=
  ⟨base website, base repo⟩

def standard : UrlTemplates :=
  ofBases defaultWebsiteBase defaultRepoBase

def websiteUrl (urls : UrlTemplates) (slug : String) : String :=
  urls.websiteBase ++ "/" ++ slug

def repoUrl (urls : UrlTemplates) (version slug : String) : String :=
  urls.repoBase ++ "/v" ++ version ++ "/docs/api/" ++ slug ++ ".md"

end UrlTemplates

end ApiDocs
