import ApiDocs.Text.Basic

/-!
# Kinds of records and members

A document declares modules and classes. Their members are grouped into collections, each introduced
by a heading label and kept under a key, and each holding members of one kind. A member may be
restricted to some platforms.
-/

namespace ApiDocs

inductive ApiKind where
  | moduleApi
  | classApi
deriving DecidableEq, Repr

def ApiKind.name : ApiKind → String
  | .moduleApi => "Module"
  | .classApi => "Class"

def ApiKind.ofName? (name : String) : Option ApiKind :=
  if name = "Module" then some .moduleApi else if name = "Class" then some .classApi else none

/-- The shape of a member: methods have a signature and arguments, events a payload. -/
inductive MemberKind where
  | method
  | property
  | event
deriving DecidableEq, Repr

/-- Arguments of methods say whether they are required; payloads of events never do. -/
def MemberKind.tracksRequired : MemberKind → Bool
  | .method => true
  | _ => false

/-- The groups of members of a record. -/
inductive Collection where
  | methods
  | staticMethods
  | instanceMethods
  | instanceProperties
  | events
  | instanceEvents
deriving DecidableEq, Repr

namespace Collection

/-- The collections in the order in which a record lists them. -/
def all : List Collection :=
  [methods, staticMethods, instanceMethods, instanceProperties, events, instanceEvents]

def label : Collection → String
  | methods => "Methods"
  | staticMethods => "Static Methods"
  | instanceMethods => "Instance Methods"
  | instanceProperties => "Instance Properties"
  | events => "Events"
  | instanceEvents => "Instance Events"

def key : Collection → String
  | methods => "methods"
  | staticMethods => "staticMethods"
  | instanceMethods => "instanceMethods"
  | instanceProperties => "instanceProperties"
  | events => "events"
  | instanceEvents => "instanceEvents"

def memberKind : Collection → MemberKind
  | methods | staticMethods | instanceMethods => .method
  | instanceProperties => .property
  | events | instanceEvents => .event

/-- The collection that a heading introduces. White space around the label does not matter. -/
def ofLabel? (heading : String) : Option Collection :=
  all.find? fun collection => collection.label == trimmed heading

def ofKey? (key : String) : Option Collection :=
  all.find? fun collection => collection.key == key

end Collection

inductive Platform where
  | macOS
  | windows
  | linux
deriving DecidableEq, Repr

namespace Platform

def name : Platform → String
  | macOS => "macOS"
  | windows => "Windows"
  | linux => "Linux"

def ofName? (name : String) : Option Platform :=
  [macOS, windows, linux].find? fun platform => platform.name == name

/-- The platform named by a marker word; the older spellings of macOS are accepted. -/
def ofWord? (word : String) : Option Platform :=
  let word := trimmed word
  if word = "OS X" ∨ word = "OSX" then some macOS else ofName? word

/-- The text with each `OS X` written as one word. -/
def joinOsx : List Char → List Char
  | 'O' :: 'S' :: ' ' :: 'X' :: rest => 'O' :: 'S' :: 'X' :: joinOsx rest
  | c :: rest => c :: joinOsx rest
  | [] => []

/-- The words of a marker: its pieces between commas and white space, less the empty ones and each
`and`. -/
def markerWords (text : String) : List String :=
  ((joinOsx text.toList).splitOnP fun c => c == ',' || Unicode.isWhite c)
    |>.map String.ofList
    |>.filter fun word => word ≠ "" ∧ word ≠ "and"

def distinct : List Platform → List Platform
  | [] => []
  | p :: rest => p :: (distinct rest).filter (· ≠ p)

/-- The platforms named by a marker such as `macOS, Windows` or `macOS and Linux`, in order of first
mention; none when another word appears or no platform is named. -/
def ofMarker? (text : String) : Option (List Platform) :=
  match (markerWords text).mapM ofWord? with
  | some [] | none => none
  | some platforms => some (distinct platforms)

end Platform

end ApiDocs
