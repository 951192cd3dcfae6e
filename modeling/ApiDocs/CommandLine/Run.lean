import ApiDocs.CommandLine.Arguments
import ApiDocs.Config.Load
import ApiDocs.Document.Localized
import ApiDocs.Json.Printer

/-!
# Runs

A run lints the documents under a path, or holds localized documents against a file of records.
Every record gets a report. When all of them are valid, linting writes the records to a file, or
says how to do so.
-/

namespace ApiDocs.CommandLine

inductive DocsError where
  | missing (path : String)
  | unreadable (path : String) (error : FileError)
deriving DecidableEq, Repr

def DocsError.message : DocsError → String
  | missing path => s!"docs path does not exist: {path}"
  | unreadable path error => s!"failed to read {path}: {error.message}: {error.message}"

/-- Why a run ends before its reports, or cannot write its records. -/
inductive Failure where
  | settings (error : Config.LoadError)
  | setting (error : Config.InvalidSetting)
  | versionRequired
  | noInfile (path : String)
  | unreadable (path : String) (error : FileError)
  | baseline (path : String) (error : SchemaError)
  | docs (error : DocsError)
  | localizedDocs (error : DocsError)
  | unwritable (path : String) (error : FileError)

def withCause (message : String) : Option String → String
  | some cause => s!"{message}: {cause}"
  | none => message

def Failure.message : Failure → String
  | settings error => s!"failed to load doclint config: {withCause error.message error.cause?}"
  | setting error => error.message
  | versionRequired => "`version` is required if `outfile` is specified"
  | noInfile path => s!"`infile` must be an existing path on the filesystem. Got: {path}"
  | unreadable path error => s!"failed to read {path}: {error.message}"
  | baseline path error => s!"invalid baseline {path}: {withCause error.message error.cause?}"
  | docs error => s!"failed to load documentation: {error.message}"
  | localizedDocs error => s!"failed to load translated documentation: {error.message}"
  | unwritable path error => s!"failed to write {path}: {error.message}"

def Failure.line (failure : Failure) : String :=
  s!"doclint error: {failure.message}\n"

/-- How a run ends: every record is valid, some record is not, or there was a failure. -/
inductive Status where
  | clean
  | invalid
  | failed
deriving DecidableEq, Repr

def Status.code : Status → Nat
  | clean => 0
  | invalid => 1
  | failed => 2

structure Outcome where
  status : Status
  output : String
  errors : String
  written : Option (String × String)
deriving DecidableEq, Repr

def Outcome.files (outcome : Outcome) (root : FileTree) : FileTree :=
  match outcome.written with
  | some (path, text) =>
    match root.write path text.toUTF8 with
    | .ok after => after
    | .error _ => root
  | none => root

/-- Lines, each with its end. -/
def lines (texts : List String) : String :=
  String.join (texts.map (· ++ "\n"))

def nestedDocs (w : Workspace) (path : String) : String :=
  Path.join (Path.join (w.locate path) "docs") "api"

/-- Where the documents of a path are: in `docs/api` under it, when that is a folder, else at
itself. -/
def docsFolder (w : Workspace) (path : String) : String :=
  if w.root.hasFolder (nestedDocs w path) then nestedDocs w path else w.locate path

def document (path : String) (contents : ByteArray) : Except DocsError SourceDoc :=
  match FileTree.decodeText contents with
  | .ok markdown => .ok ⟨Path.stem path, markdown⟩
  | .error error => .error (.unreadable path error)

/-- The markdown files in a folder and the folders inside it, sorted by the names that lead to
them. -/
def markdownFiles (entries : List (String × FileTree)) : List (List String × ByteArray) :=
  (FileTree.withExtension "md" [] entries).mergeSort fun a b =>
    !b.1.lex a.1 fun s t => decide (s < t)

/-- The documents of an absolute path: a file, or the markdown files of a folder. -/
def documents (root : FileTree) (path : String) : Except DocsError (List SourceDoc) :=
  match root.find path with
  | .error _ => .error (.missing path)
  | .ok (.file contents) => (document path contents).map fun doc => [doc]
  | .ok (.folder entries) =>
    (markdownFiles entries).mapM fun (names, contents) =>
      document (Path.join path ("/".intercalate names)) contents

/-- What is said when all documents are good and no file was asked for. -/
def advice (path : String) : String :=
  lines
    ["Docs are good to go!",
      "",
      "To write the docs schema to a file, specify `version` and `outfile`:",
      "",
      s!"doclint {path} --version=1.2.3 --outfile=electron.json"]

def lintedOutcome (w : Workspace) (arguments : Arguments) (linted : List LintedApi) : Outcome :=
  let reports := lines (linted.map LintedApi.report)
  match arguments.outfile with
  | none => ⟨.clean, advice (Path.within w.folder (w.locate arguments.path)), reports, none⟩
  | some outfile =>
    let target := w.locate outfile
    let text := (Json.array (linted.map fun l => l.api.toJson)).pretty
    match w.root.write target text.toUTF8 with
    | .ok _ =>
      ⟨.clean, s!"Created {Path.within w.folder target}\n", reports, some (target, text)⟩
    | .error error => ⟨.failed, "", reports ++ (Failure.unwritable target error).line, none⟩

def lintRun (w : Workspace) (arguments : Arguments) (settings : Config.Settings) :
    Except Failure Outcome := do
  let version := settings.lint.resolveVersion arguments.version w.environment
  if arguments.outfile.isSome && version.isNone then throw .versionRequired
  let aliases ← settings.slugs.table.mapError .setting
  let urls ← settings.lint.urls.mapError .setting
  let docs ← (documents w.root (docsFolder w arguments.path)).mapError .docs
  let linted := lint docs ⟨version.getD defaultVersion, aliases, urls⟩ .api
  if linted.all LintedApi.valid then return lintedOutcome w arguments linted
  return ⟨.invalid, "", lines (linted.map LintedApi.report), none⟩

/-- Holds the documents under the path against the records of a file. -/
def localizedRun (w : Workspace) (arguments : Arguments) (settings : Config.Settings)
    (infile : String) : Except Failure Outcome := do
  let path := w.locate infile
  if !w.exists? infile then throw (.noInfile path)
  let text ← (w.readText infile).mapError (.unreadable path)
  let baseline ← (readBaseline text).mapError (.baseline path)
  let aliases ← settings.slugs.table.mapError .setting
  let docs ← (documents w.root (w.locate arguments.path)).mapError .localizedDocs
  let checks := checkLocalized docs baseline aliases
  let status := if checks.all LocalizedCheck.valid then .clean else .invalid
  return ⟨status, "", lines (checks.map LocalizedCheck.report), none⟩

def usageLine : String :=
  "Usage: doclint [OPTIONS] <PATH>"

def helpText : String :=
  lines
    ["Lint markdown API docs into a validated JSON schema",
      "",
      usageLine,
      "",
      "Arguments:",
      "  <PATH>  Docs directory, or a checkout containing `docs/api`",
      "",
      "Options:",
      "      --version <VERSION>  Version stamped on every record (falls back to config, then "
        ++ "$npm_package_version)",
      "      --outfile <FILE>     Write the linted records to this JSON file",
      "      --infile <FILE>      Check translated docs against a previously written JSON file",
      "  -q, --quiet              Quiet mode (no spinner, errors only in logs)",
      "  -v, --verbose            Verbose mode (debug logging)",
      "      --config <FILE>      Config file to use instead of ./doclint.toml",
      "  -h, --help               Print help",
      "",
      "To save the parsed JSON schema:",
      "  doclint <PATH> --version=1.2.3 --outfile=electron.json",
      "",
      "To verify translated docs with an existing parsed JSON schema:",
      "  doclint <PATH> --infile=electron.json"]

def UsageError.lines (error : UsageError) : String :=
  s!"error: {error.message}\n\n{usageLine}\n\nFor more information, try '--help'.\n"

def runWith (w : Workspace) (arguments : Arguments) : Except Failure Outcome := do
  let w := w.withEnvironmentFile
  let settings ← (Config.load w arguments.config).mapError .settings
  match arguments.infile with
  | some infile => localizedRun w arguments settings infile
  | none => lintRun w arguments settings

/-- The outcome of a run with the words of its command line. -/
def run (w : Workspace) (words : List String) : Outcome :=
  match Arguments.ofWords words with
  | .error .help => ⟨.clean, helpText, "", none⟩
  | .error (.usage error) => ⟨.failed, "", error.lines, none⟩
  | .ok arguments =>
    match runWith w arguments with
    | .ok outcome => outcome
    | .error failure => ⟨.failed, "", failure.line, none⟩

end ApiDocs.CommandLine
