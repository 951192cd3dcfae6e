import ApiDocs.Dict
import ApiDocs.Path

/-!
# Trees of files

The files that a run sees form a tree of folders. A path leads through the tree part by part: an
empty part and a point stay in a folder, two points go back to the folder around it, and every part
needs a folder to start from.
-/

namespace ApiDocs

/-- A file with its bytes, or a folder with its entries, each name once. -/
inductive FileTree where
  | file (contents : ByteArray)
  | folder (entries : List (String × FileTree))

inductive FileError where
  | missing
  | notFolder
  | isFolder
  | notText
deriving DecidableEq, Repr

def FileError.message : FileError → String
  | missing => "No such file or directory (os error 2)"
  | notFolder => "Not a directory (os error 20)"
  | isFolder => "Is a directory (os error 21)"
  | notText => "stream did not contain valid UTF-8"

namespace FileTree

def empty : FileTree :=
  .folder []

def isFolder : FileTree → Bool
  | folder _ => true
  | file _ => false

/-- What stands under the names of folders and entries. -/
def at? : List String → FileTree → Option FileTree
  | [], tree => some tree
  | name :: names, folder entries => (Dict.get? name entries).bind (at? names)
  | _ :: _, file _ => none

/-- The names that a path in parts leads to from a folder. -/
def follow (root : FileTree) (here : List String) : List String → Except FileError (List String)
  | [] => .ok here
  | part :: rest =>
    match root.at? here with
    | some (folder entries) =>
      if part = "" ∨ part = "." then follow root here rest
      else if part = ".." then follow root here.dropLast rest
      else
        match Dict.get? part entries with
        | some _ => follow root (here ++ [part]) rest
        | none => .error .missing
    | some (file _) => .error .notFolder
    | none => .error .missing

def resolve (root : FileTree) (path : String) : Except FileError (List String) :=
  follow root [] (Path.pieces path)

def find (root : FileTree) (path : String) : Except FileError FileTree := do
  let names ← root.resolve path
  match root.at? names with
  | some tree => .ok tree
  | none => .error .missing

def hasFile (root : FileTree) (path : String) : Bool :=
  match root.find path with
  | .ok tree => !tree.isFolder
  | .error _ => false

def hasFolder (root : FileTree) (path : String) : Bool :=
  match root.find path with
  | .ok tree => tree.isFolder
  | .error _ => false

def decodeText (contents : ByteArray) : Except FileError String :=
  match String.fromUTF8? contents with
  | some text => .ok text
  | none => .error .notText

def read (root : FileTree) (path : String) : Except FileError ByteArray := do
  match ← root.find path with
  | file contents => .ok contents
  | folder _ => .error .isFolder

def readText (root : FileTree) (path : String) : Except FileError String := do
  decodeText (← root.read path)

/-- The entries with a tree under names, in place of what stood there, with the folders it takes. -/
def graft (tree : FileTree) : List String → List (String × FileTree) → List (String × FileTree)
  | [], entries => entries
  | [name], entries => Dict.insert name tree entries
  | name :: names, entries =>
    let inner :=
      match Dict.get? name entries with
      | some (folder inner) => inner
      | _ => []
    Dict.insert name (folder (graft tree names inner)) entries

def put (root : FileTree) (names : List String) (tree : FileTree) : FileTree :=
  match root with
  | folder entries => folder (graft tree names entries)
  | file _ => folder (graft tree names [])

/-- The tree after a file was written at an absolute path. The folder around it has to be there, and
the path may not stand for a folder. -/
def write (root : FileTree) (path : String) (contents : ByteArray) : Except FileError FileTree :=
  let pieces := Path.pieces path
  match (pieces.reverse.dropWhile (· = "")) with
  | [] => .error .isFolder
  | name :: front => do
    let parent ← follow root [] front.reverse
    match root.at? parent with
    | some (folder entries) =>
      if pieces.getLast? = some "" ∨ name = "." ∨ name = ".." then .error .isFolder
      else
        match Dict.get? name entries with
        | some (folder _) => .error .isFolder
        | _ => .ok (root.put (parent ++ [name]) (.file contents))
    | _ => .error .notFolder

/-- The files of a folder and of the folders inside it whose names have an extension, with the names
that lead to them, in the order of the entries. -/
def withExtension (extension : String) (trail : List String) :
    List (String × FileTree) → List (List String × ByteArray)
  | [] => []
  | (name, file contents) :: rest =>
    if Path.extension? name = some extension then
      (trail ++ [name], contents) :: withExtension extension trail rest
    else withExtension extension trail rest
  | (name, folder inner) :: rest =>
    withExtension extension (trail ++ [name]) inner ++ withExtension extension trail rest
termination_by entries => sizeOf entries
decreasing_by
  all_goals
    simp only [List.cons.sizeOf_spec, Prod.mk.sizeOf_spec, file.sizeOf_spec, folder.sizeOf_spec]
    omega

end FileTree

end ApiDocs
