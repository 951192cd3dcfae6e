import ApiDocs.Markup.Basic
import ApiDocs.Markup.Event

/-!
# Building blocks from events

Events are folded over a stack of open parts. Text that comes where only blocks can stand opens a
paragraph of its own, which the next block or closing ends. HTML blocks are left out, an image
leaves the content of its description in place, and neighbouring pieces of text become one.
-/

namespace ApiDocs.Tree

inductive Holder where
  | document
  | item
  | quote
deriving DecidableEq, Repr

/-- An open part that holds inlines; `implicit` is the paragraph that bare text opens, and `image`
hands its content on. -/
inductive Run where
  | heading (level : Nat)
  | paragraph
  | implicit
  | emphasis
  | strong
  | link (url : String)
  | image
deriving DecidableEq, Repr

def Run.isInline : Run → Bool
  | emphasis | strong | link _ | image => true
  | _ => false

/-- An open part with what it holds so far, the last first. -/
inductive Frame where
  | blocks (holder : Holder) (done : List Block)
  | list (ordered : Bool) (done : List (List Block))
  | inlines (run : Run) (done : List Inline)
  | code (done : String)
  | skip
deriving Repr

/-- The open parts, the innermost first. -/
abbrev Stack :=
  List Frame

def start : Stack :=
  [.blocks .document []]

/-- Adds an inline in front of those done; text joins text. -/
def joined (inline : Inline) (done : List Inline) : List Inline :=
  match inline, done with
  | .text next, .text last :: rest => .text (last ++ next) :: rest
  | inline, done => inline :: done

/-- Puts a block into the innermost part, when that holds blocks. -/
def put (block : Block) : Stack → Stack
  | .blocks holder done :: rest => .blocks holder (block :: done) :: rest
  | stack => stack

/-- Ends a paragraph opened by bare text. It lies on a part that holds blocks, so nothing else has
to be ended before it is put there. -/
def closeImplicit : Stack → Stack
  | .inlines .implicit [] :: rest => rest
  | .inlines .implicit done :: rest => put (.paragraph done.reverse) rest
  | stack => stack

/-- Opens a paragraph where bare text would stand among blocks. -/
def openImplicit : Stack → Stack
  | .blocks holder done :: rest => .inlines .implicit [] :: .blocks holder done :: rest
  | stack => stack

def addBlock (block : Block) (stack : Stack) : Stack :=
  put block (closeImplicit stack)

def addInline (inline : Inline) (stack : Stack) : Stack :=
  match openImplicit stack with
  | .inlines run done :: rest => .inlines run (joined inline done) :: rest
  | stack => stack

def attach : Frame → Stack → Stack
  | .blocks .item done, stack =>
    match stack with
    | .list ordered items :: rest => .list ordered (done.reverse :: items) :: rest
    | stack => stack
  | .blocks .quote done, stack => addBlock (.quote done.reverse) stack
  | .blocks .document _, stack => stack
  | .skip, stack => stack
  | .list ordered items, stack => addBlock (.list ordered items.reverse) stack
  | .code done, stack => addBlock (.code done) stack
  | .inlines run done, stack =>
    match run with
    | .heading level => addBlock (.heading level done.reverse) stack
    | .paragraph | .implicit => addBlock (.paragraph done.reverse) stack
    | .emphasis => addInline (.emphasis done.reverse) stack
    | .strong => addInline (.strong done.reverse) stack
    | .link url => addInline (.link url done.reverse) stack
    | .image => done.reverse.foldl (fun stack inline => addInline inline stack) stack

def Frame.ofTag : Tag → Frame
  | .paragraph => .inlines .paragraph []
  | .heading level => .inlines (.heading level) []
  | .quote => .blocks .quote []
  | .codeBlock => .code ""
  | .htmlBlock => .skip
  | .list ordered => .list ordered []
  | .item => .blocks .item []
  | .emphasis => .inlines .emphasis []
  | .strong => .inlines .strong []
  | .link url => .inlines (.link url) []
  | .image => .inlines .image []

def Frame.isInline : Frame → Bool
  | .inlines run _ => run.isInline
  | _ => false

def opening (tag : Tag) (stack : Stack) : Stack :=
  let frame := Frame.ofTag tag
  frame :: (if frame.isInline then openImplicit stack else closeImplicit stack)

/-- Closes the innermost part, unless only the document is open. -/
def closing (stack : Stack) : Stack :=
  match closeImplicit stack with
  | frame :: next :: rest => attach frame (next :: rest)
  | stack => stack

def text (s : String) : Stack → Stack
  | .code done :: rest => .code (done ++ s) :: rest
  | .skip :: rest => .skip :: rest
  | stack => addInline (.text s) stack

def html (s : String) : Stack → Stack
  | .skip :: rest => .skip :: rest
  | stack => addInline (.html s) stack

def push (stack : Stack) : Event → Stack
  | .opening tag => opening tag stack
  | .closing => closing stack
  | .text s => text s stack
  | .code s => addInline (.code s) stack
  | .html s => html s stack
  | .softBreak | .hardBreak => addInline .lineBreak stack
  | .rule => stack

theorem length_put (block : Block) (stack : Stack) : (put block stack).length = stack.length := by
  unfold put
  split <;> simp

theorem length_closeImplicit_le (stack : Stack) :
    (closeImplicit stack).length ≤ stack.length := by
  unfold closeImplicit
  split <;> simp [length_put]

theorem length_closeImplicit_addInline (inline : Inline) (stack : Stack) :
    (closeImplicit (addInline inline stack)).length = (closeImplicit stack).length := by
  match stack with
  | [] => rfl
  | .blocks holder done :: rest => simp [addInline, openImplicit, joined, closeImplicit, length_put]
  | .list ordered done :: rest => rfl
  | .code done :: rest => rfl
  | .skip :: rest => rfl
  | .inlines run done :: rest =>
    simp only [addInline, openImplicit]
    cases run <;> simp only [closeImplicit, List.length_cons]
    cases done <;> cases h : joined inline _ <;> simp only [length_put]

theorem length_closeImplicit_addBlock (block : Block) (stack : Stack) :
    (closeImplicit (addBlock block stack)).length ≤ stack.length := by
  refine Nat.le_trans (length_closeImplicit_le _) ?_
  rw [addBlock, length_put]
  exact length_closeImplicit_le stack

theorem length_closeImplicit_addInlines (content : List Inline) (stack : Stack) :
    (closeImplicit (content.foldl (fun stack inline => addInline inline stack) stack)).length =
      (closeImplicit stack).length := by
  induction content generalizing stack with
  | nil => rfl
  | cons inline rest ih => rw [List.foldl_cons, ih, length_closeImplicit_addInline]

theorem length_closeImplicit_attach (frame : Frame) (stack : Stack) :
    (closeImplicit (attach frame stack)).length ≤ stack.length := by
  have hi := fun inline => length_closeImplicit_addInline inline stack
  have hb := fun block => length_closeImplicit_addBlock block stack
  have hs := length_closeImplicit_le stack
  unfold attach
  split
  · split
    · simp [closeImplicit]
    · exact hs
  · exact hb _
  · exact hs
  · exact hs
  · exact hb _
  · exact hb _
  · split
    · exact hb _
    · exact hb _
    · exact hb _
    · rw [hi]; exact hs
    · rw [hi]; exact hs
    · rw [hi]; exact hs
    · rw [length_closeImplicit_addInlines]; exact hs

/-- Closes all that is open, from the inside out; the last part left holds the document. -/
def finish (stack : Stack) : List Block :=
  match h : closeImplicit stack with
  | [.blocks _ done] => done.reverse
  | frame :: next :: rest =>
    have : (closeImplicit (attach frame (next :: rest))).length < (closeImplicit stack).length := by
      rw [h]
      exact Nat.lt_succ_of_le (length_closeImplicit_attach frame (next :: rest))
    finish (attach frame (next :: rest))
  | _ => []
termination_by (closeImplicit stack).length

end ApiDocs.Tree

namespace ApiDocs

/-- The blocks that a sequence of events writes down. -/
def Block.ofEvents (events : List Event) : List Block :=
  Tree.finish (events.foldl Tree.push Tree.start)

end ApiDocs
