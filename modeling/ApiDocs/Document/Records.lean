import ApiDocs.Document.Members
import ApiDocs.Document.Surface
import ApiDocs.Record.Api

/-!
# Records of documents

A surface becomes a draft: its description and processes from the blocks under its heading or at the
top of the document, its members from its labeled sections, every defect noted in the order of the
document.
-/

namespace ApiDocs

namespace Block

def quotedText? : Block → Option String
  | quote blocks =>
    blocks.findSome? fun
      | paragraph content => some (richText content)
      | _ => none
  | _ => none

/-- The text of a paragraph that does not tell the processes. -/
def introduction? : Block → Option String
  | paragraph content => if isProcessNotice content then none else some (richText content)
  | _ => none

/-- The description that blocks give: the first quote, else the first ordinary paragraph. -/
def description (blocks : List Block) : String :=
  ((blocks.findSome? quotedText?) <|> blocks.findSome? introduction?).getD ""

def process? : Block → Option Process
  | paragraph content =>
    if isProcessNotice content then
      let text := (plainText content).toList
      some ⟨Text.holds "Main".toList text, Text.holds "Renderer".toList text⟩
    else none
  | _ => none

end Block

namespace Surface

/-- The description of a surface; a class that stands for a module may take that of the document. -/
def description (surface : Surface) : String :=
  let own := Block.description surface.body
  if own = "" ∧ surface.merged then Block.description surface.preamble else own

/-- The processes of a surface, told under its heading or at the top of the document. -/
def process (surface : Surface) : Process :=
  ((surface.body.findSome? Block.process?) <|>
    surface.preamble.findSome? Block.process?).getD .unknown

/-- The sections that document members, with their collections. -/
def memberSections (surface : Surface) : List (Collection × Section) :=
  surface.sections.flatMap fun (collection, labeled) =>
    labeled.children.map fun child => (collection, child)

end Surface

namespace Draft

def noteAll (draft : Draft) (defects : List Defect) : Draft :=
  defects.foldl (fun draft defect => draft.note defect.message) draft

/-- Adds what a section documents, after the defects met in it. -/
def addSection (draft : Draft) (entry : Collection × Section) : Draft :=
  let (member, defects) := entry.2.member entry.1 draft.name
  let draft := draft.noteAll defects
  match member with
  | some member => draft.addMember entry.1 member
  | none => draft

def ofSurface (version : String) (surface : Surface) : Draft :=
  let draft :=
    { ofName surface.name surface.kind version with
      description := surface.description
      process := surface.process }
  surface.memberSections.foldl addSection (draft.noteAll surface.defects)

end Draft

end ApiDocs
