import ApiDocs.CommandLine.Run

/-!
# The program

The program gathers the files that a run may look at into a tree, decides on that tree what to print
and write, and does so.
-/

namespace ApiDocs.Program

/-- Whether a path stands for a folder on the disk, or for a file; neither when nothing is there. -/
def isFolder? (path : String) : IO (Option Bool) := do
  try
    let data ← (← IO.FS.realPath path).metadata
    return some (data.type == .dir)
  catch _ => return none

/-- The markdown files of a folder on the disk and of the folders inside it. -/
partial def markdownTree (path : String) : IO FileTree := do
  let folder ← IO.FS.realPath path
  let entries ← folder.readDir
  let trees ← entries.toList.filterMapM fun entry => do
    let data ← entry.path.symlinkMetadata
    match data.type with
    | .dir => return some (entry.fileName, ← markdownTree entry.path.toString)
    | _ =>
      if Path.extension? entry.fileName = some "md" then
        return some (entry.fileName, .file (← IO.FS.readBinFile entry.path))
      else return none
  return .folder (Dict.ofList trees)

/-- Where the parts of a path lead when folders are taken as they are named. -/
def plainNames (path : String) : List String :=
  (Path.parts path).foldl
    (fun names part => if part = ".." then names.dropLast else names ++ [part]) []

/-- The tree with the folders on the way to a path on the disk. -/
def addWay (root : FileTree) (path : String) : IO FileTree := do
  let pieces := Path.pieces path
  let mut root := root
  for n in [0:pieces.length] do
    let front := "/".intercalate (pieces.take (n + 1)) ++ "/"
    let names := plainNames front
    if (root.at? names).isNone && (← isFolder? front) == some true then
      root := root.put names .empty
  return root

/-- The tree with the file or the folder at an absolute path on the disk, when there is one. -/
def addPath (root : FileTree) (path : String) : IO FileTree := do
  let root ← addWay root path
  match ← isFolder? path with
  | some true => return root.put (plainNames path) (← markdownTree path)
  | some false => return root.put (plainNames path) (.file (← IO.FS.readBinFile path))
  | none => return root

/-- The tree with the files at absolute paths on the disk; folders stay as they are. -/
def addFiles (root : FileTree) (paths : List String) : IO FileTree :=
  paths.foldlM (fun root path => do
    if (← isFolder? path) == some true then addWay root path else addPath root path) root

def givenEnvironment : IO Environment := do
  let stored ← IO.FS.readBinFile "/proc/self/environ"
  let entries := stored.toList.splitOn 0
  return entries.filterMap fun entry => do
    let text ← String.fromUTF8? entry.toByteArray
    let s := text.toList
    match s.dropWhile (· != '=') with
    | _ :: value => some (String.ofList (s.takeWhile (· != '=')), String.ofList value)
    | [] => none

def workspace (folder : String) (environment : Environment)
    (arguments : CommandLine.Arguments) : IO Workspace := do
  let start : Workspace := ⟨.empty, folder, environment⟩
  let path := start.locate arguments.path
  let nested := CommandLine.nestedDocs start arguments.path
  let root ←
    if arguments.infile.isNone && (← isFolder? nested) == some true then addPath .empty nested
    else addPath .empty path
  let around (name : String) := (Path.ancestors folder).map fun outer => Path.join outer name
  let root ← addFiles root (around ".env")
  let seen := { start with root }.withEnvironmentFile
  let root ← addFiles root
    (around Config.projectFile
      ++ (Config.userFile? seen.environment).toList
      ++ (arguments.config.toList ++ arguments.infile.toList ++ arguments.outfile.toList).map
        start.locate)
  return { start with root }

/-- Prints and writes what a run decided on. -/
def finish (outcome : CommandLine.Outcome) : IO UInt32 := do
  IO.eprint outcome.errors
  if let some (path, text) := outcome.written then IO.FS.writeFile path text
  IO.print outcome.output
  return outcome.status.code.toUInt32

end ApiDocs.Program

open ApiDocs in
def main (words : List String) : IO UInt32 := do
  let folder := (← IO.currentDir).toString
  let environment ← Program.givenEnvironment
  let w ←
    match CommandLine.Arguments.ofWords words with
    | .ok arguments => Program.workspace folder environment arguments
    | .error _ => pure ⟨.empty, folder, environment⟩
  Program.finish (CommandLine.run w words)
