import ApiDocs.Address
import ApiDocs.Config.Value
import ApiDocs.Environment
import ApiDocs.Json.Basic

/-!
# Settings

What can be configured: the version and the bases of the addresses that a run puts on every record,
and the aliases of names. A group of settings is a table, or the sequence of its settings in order;
those left out keep their standard values, and unknown ones are passed over. The settings of a table
are decoded in the order of their keys.
-/

namespace ApiDocs.Config

/-- What every record of a run is stamped with. -/
structure LintSettings where
  version : Option String
  websiteBase : String
  repoBase : String
deriving DecidableEq, Repr

/-- Slugs of names over the built-in ones. -/
structure SlugSettings where
  aliases : List (String × String)
deriving DecidableEq, Repr

structure Settings where
  lint : LintSettings
  slugs : SlugSettings
deriving DecidableEq, Repr

def LintSettings.standard : LintSettings :=
  ⟨none, UrlTemplates.defaultWebsiteBase, UrlTemplates.defaultRepoBase⟩

def SlugSettings.standard : SlugSettings :=
  ⟨[]⟩

/-- A setting whose value makes no sense. -/
inductive InvalidSetting where
  | noFile (path : String)
  | noUrl (field value : String)
  | noSlug (name slug : String)
deriving DecidableEq, Repr

def InvalidSetting.field : InvalidSetting → String
  | noFile _ => "config"
  | noUrl field _ => field
  | noSlug name _ => s!"slugs.aliases.{name}"

def InvalidSetting.reason : InvalidSetting → String
  | noFile path => s!"{path} is not a file"
  | noUrl _ value => s!"expected an http(s) URL, got '{value}'"
  | noSlug _ slug => s!"'{slug}' is not a lower-kebab slug"

def InvalidSetting.message (error : InvalidSetting) : String :=
  s!"Invalid configuration value for '{error.field}': {error.reason}"

/-- The variable that holds the version of the package whose script runs. -/
def packageVersionVariable : String :=
  "npm_package_version"

/-- A text without white space at its ends, when there is more in it. -/
def visible? (s : String) : Option String :=
  let s := trimmed s
  if s = "" then none else some s

namespace LintSettings

/-- The version to stamp: of a flag, the settings and the package the first that is more than white
space. -/
def resolveVersion (settings : LintSettings) (flag : Option String) (environment : Environment) :
    Option String :=
  [flag, settings.version, environment.get? packageVersionVariable].findSome? fun candidate =>
    candidate.bind visible?

def isUrl (s : String) : Bool :=
  s.startsWith "http://" || s.startsWith "https://"

/-- The addresses over the two bases, which have to be addresses themselves. -/
def urls (settings : LintSettings) : Except InvalidSetting UrlTemplates :=
  if !isUrl settings.websiteBase then
    .error (.noUrl "lint.website_base_url" settings.websiteBase)
  else if !isUrl settings.repoBase then .error (.noUrl "lint.repo_base_url" settings.repoBase)
  else .ok (.ofBases settings.websiteBase settings.repoBase)

end LintSettings

/-- The table of aliases over the built-in one. All of them have to be slugs. -/
def SlugSettings.table (settings : SlugSettings) : Except InvalidSetting Aliases :=
  match settings.aliases.find? fun (_, slug) => !decide (Slug.IsSlug slug) with
  | some (name, slug) => .error (.noSlug name slug)
  | none => .ok (Aliases.builtin.extend settings.aliases)

inductive Form where
  | text
  | table
  | lintSettings
  | slugSettings
deriving DecidableEq, Repr

def Form.description : Form → String
  | text => "a string"
  | table => "a map"
  | lintSettings => "struct LintConfig"
  | slugSettings => "struct SlugConfig"

/-- A value that has not the form of its setting, under a path of keys. -/
structure Mismatch where
  path : List String
  found : Value
  expected : Form

abbrev Decoded (α : Type) :=
  Except Mismatch α

def decodeText (path : List String) : Value → Decoded String
  | .text s => .ok s
  | found => .error ⟨path, found, .text⟩

def setting? {α : Type} (path : List String) (entries : Entries) (key : String)
    (decode : List String → Value → Decoded α) : Decoded (Option α) :=
  match Dict.get? key entries with
  | some value => (decode (path ++ [key]) value).map some
  | none => .ok none

/-- Decodes the setting at a position, when the sequence is long enough. -/
def item? {α : Type} (path : List String) (items : List Value) (index : Nat)
    (decode : List String → Value → Decoded α) : Decoded (Option α) :=
  match items[index]? with
  | some value => (decode (path ++ [toString index]) value).map some
  | none => .ok none

def LintSettings.given (version website repo : Option String) : LintSettings :=
  ⟨version, website.getD standard.websiteBase, repo.getD standard.repoBase⟩

def LintSettings.decode (path : List String) : Value → Decoded LintSettings
  | .table entries => do
    let repo ← setting? path entries "repo_base_url" decodeText
    let version ← setting? path entries "version" decodeText
    let website ← setting? path entries "website_base_url" decodeText
    return given version website repo
  | .sequence items => do
    let version ← item? path items 0 decodeText
    let website ← item? path items 1 decodeText
    let repo ← item? path items 2 decodeText
    return given version website repo
  | found => .error ⟨path, found, .lintSettings⟩

def decodeTexts (path : List String) : Entries → Decoded (List (String × String))
  | [] => .ok []
  | (key, value) :: rest => do
    let text ← decodeText (path ++ [key]) value
    return (key, text) :: (← decodeTexts path rest)

def decodeTextTable (path : List String) : Value → Decoded (List (String × String))
  | .table entries => decodeTexts path entries
  | found => .error ⟨path, found, .table⟩

def SlugSettings.decode (path : List String) : Value → Decoded SlugSettings
  | .table entries => do
    return ⟨(← setting? path entries "aliases" decodeTextTable).getD []⟩
  | .sequence items => do
    return ⟨(← item? path items 0 decodeTextTable).getD []⟩
  | found => .error ⟨path, found, .slugSettings⟩

def Settings.decode (entries : Entries) : Decoded Settings := do
  let lint ← setting? [] entries "lint" LintSettings.decode
  let slugs ← setting? [] entries "slugs" SlugSettings.decode
  return ⟨lint.getD .standard, slugs.getD .standard⟩

def Settings.toJson (settings : Settings) : Json :=
  let version := settings.lint.version.map fun v => ("version", Json.string v)
  .object
    [("lint", .object (version.toList ++
        [("website_base_url", .string settings.lint.websiteBase),
          ("repo_base_url", .string settings.lint.repoBase)])),
      ("slugs", .object
        [("aliases", .object (settings.slugs.aliases.map fun (name, slug) =>
          (name, .string slug)))])]

end ApiDocs.Config
