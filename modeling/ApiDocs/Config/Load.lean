import ApiDocs.Config.Settings
import ApiDocs.Config.Variable
import ApiDocs.Toml.Reader
import ApiDocs.Workspace

/-!
# Loading settings

Settings come from the file of the user, the file of the project and the variables, each over the
ones before. A value that a later source replaces does not have to make sense. An error names the
last source that gives the value it is about.
-/

namespace ApiDocs.Config

inductive Origin where
  | file (path : String)
  | environment
deriving DecidableEq, Repr

def Origin.description : Origin → String
  | file path => s!"{path} TOML file"
  | environment => s!"`{Variable.prefixText}` environment variable(s)"

def Origin.spelled : Origin → List String → String
  | file _, path => ".".intercalate ("default" :: path)
  | environment, path => String.ofList ((".".intercalate path).toList.map Char.toUpper)

structure Layer where
  origin : Origin
  entries : Entries

/-- The settings of sources, later ones over earlier ones. -/
def merged (layers : List Layer) : Entries :=
  layers.foldl (fun entries layer => Value.overlayEntries entries layer.entries) []

/-- The last source that gives a value under a path. -/
def origin? (layers : List Layer) (path : List String) : Option Origin :=
  (layers.reverse.find? fun layer => (Value.at? path (.table layer.entries)).isSome).map
    Layer.origin

/-- Why the file of a source gives no settings. -/
inductive FileFault where
  | unreadable (error : FileError)
  | malformed
deriving DecidableEq, Repr

structure BrokenFile where
  path : String
  fault : FileFault
deriving DecidableEq, Repr

inductive LoadError where
  | setting (error : InvalidSetting)
  | files (broken : List BrokenFile)
  | mismatch (error : Mismatch) (origin : Option Origin)

def BrokenFile.message (broken : BrokenFile) : String :=
  match broken.fault with
  | .unreadable error => s!"{error.message}\n in {broken.path} TOML file"
  | .malformed => s!"TOML parse error in {broken.path} TOML file"

/-- What is wrong with the sources; nothing where a setting was given that makes no sense. -/
def LoadError.cause? : LoadError → Option String
  | setting _ => none
  | files broken => some ("\n".intercalate (broken.reverse.map BrokenFile.message))
  | mismatch error origin =>
    let problem :=
      "invalid type: found " ++ error.found.description ++ ", expected "
        ++ error.expected.description
    some <|
      match origin with
      | some origin =>
        problem ++ " for key " ++ Text.quoted (origin.spelled error.path) ++ " in "
          ++ origin.description
      | none => problem

def LoadError.message (error : LoadError) : String :=
  match error, error.cause? with
  | setting invalid, _ => invalid.message
  | _, some cause => s!"Configuration error: {cause}"
  | _, none => "Configuration error"

mutual

/-- The value that a document gives to a setting. A moment is a table with its text. -/
def Value.ofToml : Toml.Value → Value
  | .text s => .text s
  | .integer n => .signed n
  | .real x => .real x
  | .truth b => .truth b
  | .moment m => .table [("$__toml_private_datetime", .text m.text)]
  | .array items => .sequence (Value.listOfToml items)
  | .table entries => .table (Value.entriesOfToml entries)

def Value.listOfToml : List Toml.Value → List Value
  | [] => []
  | item :: rest => Value.ofToml item :: Value.listOfToml rest

def Value.entriesOfToml : List (String × Toml.Value) → Entries
  | [] => []
  | (key, value) :: rest => (key, Value.ofToml value) :: Value.entriesOfToml rest

end

/-- The settings of the file at a path, which is shown as told from the folder of the run. -/
def fileLayer (w : Workspace) (path : String) : Except BrokenFile Layer :=
  let shown := Path.shortest w.folder path
  match w.readText path with
  | .error error => .error ⟨shown, .unreadable error⟩
  | .ok text =>
    match Toml.read? text with
    | some entries => .ok ⟨.file shown, Value.entriesOfToml entries⟩
    | none => .error ⟨shown, .malformed⟩

def projectFile : String :=
  "doclint.toml"

def userFile? (environment : Environment) : Option String :=
  let base :=
    match (environment.get? "XDG_CONFIG_HOME").filter Path.isAbsolute with
    | some base => some base
    | none => (environment.get? "HOME").map fun home => Path.join home ".config"
  base.map fun base => Path.join base "doclint/config.toml"

/-- The paths of the files with settings, the user's first. A path given for the project replaces
the name of its file. -/
def settingFiles (w : Workspace) (project : Option String) : List String :=
  let user := (userFile? w.environment).filter w.hasFile
  let chosen :=
    match project with
    | some path => some path
    | none => if w.exists? projectFile then w.nearest? projectFile else none
  user.toList ++ chosen.toList

/-- The layers of files that can be read, and the other files. -/
def fileLayers (w : Workspace) : List String → List Layer × List BrokenFile
  | [] => ([], [])
  | path :: rest =>
    let (layers, broken) := fileLayers w rest
    match fileLayer w path with
    | .ok layer => (layer :: layers, broken)
    | .error fault => (layers, fault :: broken)

def load (w : Workspace) (project : Option String) : Except LoadError Settings := do
  if let some path := project then
    if !w.hasFile path then throw (.setting (.noFile path))
  let (files, broken) := fileLayers w (settingFiles w project)
  if broken ≠ [] then throw (.files broken)
  let layers := files ++ [⟨.environment, entriesOfVariables w.environment⟩]
  match Settings.decode (merged layers) with
  | .ok settings => return settings
  | .error error => throw (.mismatch error (origin? layers error.path))

end ApiDocs.Config
