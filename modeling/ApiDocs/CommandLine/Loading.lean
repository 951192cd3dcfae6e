import ApiDocs.CommandLine.Run

/-!
# Loading step by step

The documents of a path are loaded in steps that can come in many orders. Folders are searched one
after the other, the one found last before the others, and each lists its entries in any order. Then
all files found are read side by side, and the reads end in any order. The first that fails ends the
loading; when all are done, the documents are sorted by their paths.
-/

namespace ApiDocs.CommandLine

/-- A folder to be searched, behind the names that lead to it. -/
abbrev FoundFolder :=
  List String × List (String × FileTree)

/-- A file to be read, behind the names that lead to it. -/
abbrev FoundFile :=
  List String × ByteArray

abbrev FoundText :=
  List String × String

def subfolder? (trail : List String) : String × FileTree → Option FoundFolder
  | (name, .folder entries) => some (trail ++ [name], entries)
  | (_, .file _) => none

def markdown? (trail : List String) : String × FileTree → Option FoundFile
  | (name, .file contents) =>
    if Path.extension? name = some "md" then some (trail ++ [name], contents) else none
  | (_, .folder _) => none

/-- The path of a file behind a path, which is the file itself when no names follow. -/
def filePath (path : String) (names : List String) : String :=
  if names = [] then path else Path.join path ("/".intercalate names)

def sourceDoc (path : String) (text : FoundText) : SourceDoc :=
  ⟨Path.stem (filePath path text.1), text.2⟩

/-- Whether names do not come behind others, one name after the other. -/
def inPathOrder {α : Type} (a b : List String × α) : Bool :=
  !b.1.lex a.1 fun s t => decide (s < t)

/-- How far the loading of a path has come. -/
inductive Loading where
  | searching (pending : List FoundFolder) (found : List FoundFile)
  | reading (running : List FoundFile) (texts : List FoundText)
  | ended (result : Except DocsError (List SourceDoc))

namespace Loading

/-- Before the first step. A path that is a file needs no search. -/
def start (root : FileTree) (path : String) : Loading :=
  match root.find path with
  | .error _ => .ended (.error (.missing path))
  | .ok (.file contents) => .reading [([], contents)] []
  | .ok (.folder entries) => .searching [([], entries)] []

/-- What one step can do. -/
inductive Step (path : String) : Loading → Loading → Prop
  /-- The last folder that was found lists its entries, in any order. -/
  | search {pending : List FoundFolder} {found : List FoundFile} {trail : List String}
      {entries listed : List (String × FileTree)} (order : listed.Perm entries) :
      Step path (.searching (pending ++ [(trail, entries)]) found)
        (.searching (pending ++ listed.filterMap (subfolder? trail))
          (found ++ listed.filterMap (markdown? trail)))
  /-- All folders were searched, and the reading starts. -/
  | spawn {found : List FoundFile} : Step path (.searching [] found) (.reading found [])
  /-- Any of the reads ends with a text. -/
  | complete {before after : List FoundFile} {file : FoundFile} {texts : List FoundText}
      {text : String} (decoded : FileTree.decodeText file.2 = .ok text) :
      Step path (.reading (before ++ file :: after) texts)
        (.reading (before ++ after) (texts ++ [(file.1, text)]))
  /-- Any of the reads ends without one, and that is the end of the loading. -/
  | fail {before after : List FoundFile} {file : FoundFile} {texts : List FoundText}
      {error : FileError} (refused : FileTree.decodeText file.2 = .error error) :
      Step path (.reading (before ++ file :: after) texts)
        (.ended (.error (.unreadable (filePath path file.1) error)))
  /-- All reads have ended. -/
  | sort {texts : List FoundText} :
      Step path (.reading [] texts)
        (.ended (.ok ((texts.mergeSort inPathOrder).map (sourceDoc path))))

end Loading

end ApiDocs.CommandLine
