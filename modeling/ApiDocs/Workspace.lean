import ApiDocs.Dotenv
import ApiDocs.FileTree

/-!
# Workspaces

What a run works in: the files it sees, the folder it starts from, and its variables. Relative paths
are taken from that folder.
-/

namespace ApiDocs

/-- The files, the folder and the variables of a run. -/
structure Workspace where
  root : FileTree
  folder : String
  environment : Environment

namespace Workspace

def locate (w : Workspace) (path : String) : String :=
  Path.join w.folder path

def hasFile (w : Workspace) (path : String) : Bool :=
  w.root.hasFile (w.locate path)

def exists? (w : Workspace) (path : String) : Bool :=
  match w.root.find (w.locate path) with
  | .ok _ => true
  | .error _ => false

def readText (w : Workspace) (path : String) : Except FileError String :=
  w.root.readText (w.locate path)

/-- The path of the file of a name in the folder or, failing that, in the nearest folder around
it. -/
def nearest? (w : Workspace) (name : String) : Option String :=
  ((Path.ancestors w.folder).map fun folder => Path.join folder name).find? w.hasFile

/-- The lines of a file up to the first that is no text. -/
def leadingText (contents : ByteArray) : String :=
  let lines := contents.toList.splitOn 10
  let texts := (lines.map fun line => String.fromUTF8? line.toByteArray).takeWhile Option.isSome
  let text := "\n".intercalate (texts.map fun line => line.getD "")
  if texts.length < lines.length then text ++ "\n" else text

def withEnvironmentFile (w : Workspace) : Workspace :=
  match w.nearest? ".env" with
  | none => w
  | some path =>
    match w.root.read path with
    | .ok contents => { w with environment := Dotenv.load (leadingText contents) w.environment }
    | .error _ => w

end Workspace

end ApiDocs
