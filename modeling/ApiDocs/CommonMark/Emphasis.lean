import ApiDocs.Markup.Event

/-!
# Emphasis

Runs of asterisks and underscores open and close emphasis. A run that can close goes with the
nearest run of the same mark before it that can open; pairs of marks are strong emphasis, taken from
the inside out. Runs between two that go together, and those that nothing closes, are plain text. Of
two runs one of which can both open and close, the lengths must not add up to a multiple of three,
unless both are such multiples.
-/

namespace ApiDocs.CommonMark

/-- A piece of running text: characters, the last first, finished events, or a run of marks. -/
inductive Piece where
  | text (s : List Char)
  | events (es : List Event)
  | run (mark : Char) (count : Nat) (canOpen canClose : Bool)
deriving Repr

namespace Emphasis

/-- A run that waits to be closed: the marks left of it, its first length, whether it could close as
well, and the events before it, back to the opener before. -/
structure Opener where
  mark : Char
  count : Nat
  length : Nat
  both : Bool
  before : List Event

def plain (mark : Char) (count : Nat) : Event :=
  .text (String.ofList (List.replicate count mark))

/-- The events since the opener before, when this opener stays plain text. -/
def Opener.flatten (o : Opener) (content : List Event) : List Event :=
  o.before ++ plain o.mark o.count :: content

def Opener.accepts (mark : Char) (length : Nat) (both : Bool) (o : Opener) : Bool :=
  o.mark == mark &&
    (!both && !o.both || (length + o.length) % 3 != 0 || length % 3 == 0)

def wrapped (tag : Tag) (content : List Event) : List Event :=
  .opening tag :: content ++ [.closing]

/-- Events between runs of `n` marks: strong emphasis for each two of them, inside the emphasis of
an odd one. -/
def emphasized (n : Nat) (content : List Event) : List Event :=
  let strong := (n / 2).repeat (wrapped .strong) content
  if n % 2 = 1 then wrapped .emphasis strong else strong

/-- Closes openers by a run with `count` marks left: the marks then left, the openers, and the
events since the last of them. -/
def close (mark : Char) (length : Nat) (both : Bool) (count : Nat) :
    List Opener → List Event → Nat × List Opener × List Event
  | [], content => (count, [], content)
  | o :: below, content =>
    if count = 0 || !(o :: below).any (Opener.accepts mark length both) then
      (count, o :: below, content)
    else if o.accepts mark length both then
      if count < o.count then
        (0, { o with count := o.count - count, both } :: below, emphasized count content)
      else
        close mark length both (count - o.count) below (o.before ++ emphasized o.count content)
    else close mark length both count below (o.flatten content)

def take (state : List Opener × List Event) : Piece → List Opener × List Event
  | .text s => (state.1, state.2 ++ [.text (String.ofList s.reverse)])
  | .events es => (state.1, state.2 ++ es)
  | .run mark count canOpen canClose =>
    let both := canOpen && canClose
    let (left, openers, content) :=
      if canClose then close mark count both count state.1 state.2 else (count, state.1, state.2)
    if left = 0 then (openers, content)
    else if canOpen then (⟨mark, left, count, both, content⟩ :: openers, [])
    else (openers, content ++ [plain mark left])

/-- The events of a stretch of text. -/
def resolve (pieces : List Piece) : List Event :=
  let (openers, content) := pieces.foldl take ([], [])
  openers.foldl (fun content o => o.flatten content) content

end Emphasis

end ApiDocs.CommonMark
