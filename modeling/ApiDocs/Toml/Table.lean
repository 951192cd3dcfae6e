import ApiDocs.Dict
import ApiDocs.Toml.Value

/-!
# Tables built line by line

A document and an inline table put their values into tables one after another. No key is assigned
twice, and a table is defined in one way only: under its header, or by keys with points. A header
may come after headers of tables inside its own, which imply it.
-/

namespace ApiDocs.Toml

/-- A key with the tables on the way to it. -/
structure KeyPath where
  tables : List String
  name : String
deriving DecidableEq, Repr

def KeyPath.length (key : KeyPath) : Nat :=
  key.tables.length + 1

/-- How a table came to be: under its header, on the way to the header of a table inside it, or by a
key with points. -/
inductive Standing where
  | headed
  | implied
  | dotted
deriving DecidableEq, Repr

/-- What stands under a key while a document is built. -/
inductive Node where
  | value (v : Value)
  | table (standing : Standing) (nodes : List (String × Node))
  | tables (earlier : List (List (String × Node))) (latest : List (String × Node))

abbrev Nodes :=
  List (String × Node)

namespace Nodes

def put? (name : String) (value : Value) (nodes : Nodes) : Option Nodes :=
  match Dict.get? name nodes with
  | none => some (Dict.insert name (.value value) nodes)
  | some _ => none

/-- Assigns a value to a new key behind the tables of a path. The tables on the way may not have
headers of their own, and the last one has to be made by keys with points. -/
def assign? (name : String) (value : Value) : List String → Nodes → Option Nodes
  | [], nodes => put? name value nodes
  | key :: path, nodes =>
    match Dict.get? key nodes with
    | none =>
      (assign? name value path []).map fun made => Dict.insert key (.table .dotted made) nodes
    | some (.table standing inner) =>
      if standing = .headed ∨ (path = [] ∧ standing ≠ .dotted) then none
      else
        (assign? name value path inner).map fun made =>
          Dict.insert key (.table standing made) nodes
    | some (.tables earlier latest) =>
      if path = [] then none
      else
        (assign? name value path latest).map fun made =>
          Dict.insert key (.tables earlier made) nodes
    | some (.value _) => none

/-- Changes the table that a path leads to. Tables that are not there yet are implied, and an array
of tables stands for its latest one. -/
def within? (change : Nodes → Option Nodes) : List String → Nodes → Option Nodes
  | [], nodes => change nodes
  | key :: path, nodes =>
    match Dict.get? key nodes with
    | none => (within? change path []).map fun made => Dict.insert key (.table .implied made) nodes
    | some (.table standing inner) =>
      (within? change path inner).map fun made => Dict.insert key (.table standing made) nodes
    | some (.tables earlier latest) =>
      (within? change path latest).map fun made => Dict.insert key (.tables earlier made) nodes
    | some (.value _) => none

def openTable? (name : String) (nodes : Nodes) : Option Nodes :=
  match Dict.get? name nodes with
  | none => some (Dict.insert name (.table .headed []) nodes)
  | some (.table .implied inner) => some (Dict.insert name (.table .headed inner) nodes)
  | some _ => none

def addTable? (name : String) (nodes : Nodes) : Option Nodes :=
  match Dict.get? name nodes with
  | none => some (Dict.insert name (.tables [] []) nodes)
  | some (.tables earlier latest) =>
    some (Dict.insert name (.tables (earlier ++ [latest]) []) nodes)
  | some _ => none

end Nodes

mutual

def Node.finished : Node → Value
  | .value v => v
  | .table _ nodes => .table (finishedEntries nodes)
  | .tables earlier latest =>
    .array (finishedTables earlier ++ [.table (finishedEntries latest)])

def finishedEntries : List (String × Node) → List (String × Value)
  | [] => []
  | (key, node) :: rest => (key, node.finished) :: finishedEntries rest

def finishedTables : List (List (String × Node)) → List Value
  | [] => []
  | nodes :: rest => .table (finishedEntries nodes) :: finishedTables rest

end

def Nodes.ofAssignments? : List (KeyPath × Value) → Nodes → Option Nodes
  | [], nodes => some nodes
  | (key, value) :: rest, nodes =>
    (assign? key.name value key.tables nodes).bind (ofAssignments? rest)

def inlineTable? (assignments : List (KeyPath × Value)) : Option Value :=
  (Nodes.ofAssignments? assignments []).map fun nodes => .table (finishedEntries nodes)

/-- A line of a document that defines something. -/
inductive Line where
  | header (key : KeyPath)
  | item (key : KeyPath)
  | assignment (key : KeyPath) (value : Value)

/-- What the lines so far define, and the path of the table that assignments go to. -/
structure Draft where
  nodes : Nodes
  current : List String

namespace Draft

def empty : Draft :=
  ⟨[], []⟩

def add? (draft : Draft) : Line → Option Draft
  | .header key => do
    return ⟨← Nodes.within? (Nodes.openTable? key.name) key.tables draft.nodes,
      key.tables ++ [key.name]⟩
  | .item key => do
    return ⟨← Nodes.within? (Nodes.addTable? key.name) key.tables draft.nodes,
      key.tables ++ [key.name]⟩
  | .assignment key value => do
    return { draft with
      nodes := ← Nodes.within? (Nodes.assign? key.name value key.tables) draft.current draft.nodes }

end Draft

def tableOfLines? (lines : List Line) : Option Entries :=
  (lines.foldlM Draft.add? Draft.empty).map fun draft => finishedEntries draft.nodes

end ApiDocs.Toml
