/-!
# Paths

A path names a file by the folders on the way to it, with slashes between. Empty parts and points
that stand for the same folder do not count.
-/

namespace ApiDocs.Path

def pieces (path : String) : List String :=
  (path.toList.splitOn '/').map String.ofList

def counts (part : String) : Bool :=
  part ≠ "" && part ≠ "."

def parts (path : String) : List String :=
  (pieces path).filter counts

/-- The last part of a path, when it is a name. -/
def fileName? (path : String) : Option String :=
  match (parts path).getLast? with
  | some name => if name = ".." then none else some name
  | none => none

/-- A file name cut at its last point, without one at its front. -/
def splitName (name : String) : String × Option String :=
  let reversed := name.toList.reverse
  match reversed.dropWhile (· != '.') with
  | _ :: c :: rest =>
    (String.ofList (c :: rest).reverse,
      some (String.ofList (reversed.takeWhile (· != '.')).reverse))
  | _ => (name, none)

/-- The name of a file without its extension; nothing where a path names no file. -/
def stem (path : String) : String :=
  match fileName? path with
  | some name => (splitName name).1
  | none => ""

def extension? (name : String) : Option String :=
  (splitName name).2

def isAbsolute (path : String) : Bool :=
  path.startsWith "/"

/-- A path taken from a folder; an absolute path stays as it is. -/
def join (folder path : String) : String :=
  if isAbsolute path then path
  else if folder.endsWith "/" then folder ++ path
  else folder ++ "/" ++ path

/-- The parts of a path behind those of a folder, when the folder is on the way. -/
def behind? : List String → List String → Option (List String)
  | [], rest => some rest
  | a :: front, b :: rest => if a = b then behind? front rest else none
  | _ :: _, [] => none

/-- The pieces of a path behind a number of parts that count, without those at either end that do
not. -/
def skipParts : Nat → List String → List String
  | 0, pieces => ((pieces.dropWhile (!counts ·)).reverse.dropWhile (!counts ·)).reverse
  | _ + 1, [] => []
  | n + 1, piece :: rest => skipParts (if counts piece then n else n + 1) rest

/-- A path as told from a folder: what is behind the folder, or all of it when the folder is not on
the way. -/
def within (folder path : String) : String :=
  match behind? (parts folder) (parts path) with
  | some _ => "/".intercalate (skipParts (parts folder).length (pieces path))
  | none => path

def dropCommon : List String → List String → List String × List String
  | a :: front, b :: rest => if a = b then dropCommon front rest else (a :: front, b :: rest)
  | front, rest => (front, rest)

/-- The way from one absolute path to another when it is the shorter one, else the other path; a
relative path stays as it is. -/
def shortest (folder path : String) : String :=
  let (back, onward) := dropCommon (parts folder) (parts path)
  let way := back.map (fun _ => "..") ++ onward
  if isAbsolute path && decide (way.length ≤ (parts path).length) then "/".intercalate way else path

def ancestors (folder : String) : List String :=
  let names := parts folder
  (List.range (names.length + 1)).map fun n =>
    "/" ++ "/".intercalate (names.take (names.length - n))

end ApiDocs.Path
