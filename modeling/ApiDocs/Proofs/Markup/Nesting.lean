import ApiDocs.Proofs.Markup.Folding
import ApiDocs.Proofs.Markup.Stack

/-!
# Well-nested events

Which events fit where, told by the tags that are open. Blocks stand in the document, in quotes and
in items, and inlines stand in the parts made for them and, bare, where blocks stand. As long as
events fit, the stack holds one part for each open tag and a paragraph of bare text at the most.
-/

namespace ApiDocs

namespace Tag

/-- Whether blocks stand right in a part; where no part is open that is the document. -/
def holdsBlocks : Option Tag → Bool
  | none | some quote | some item => true
  | _ => false

def holdsInlines : Option Tag → Bool
  | some codeBlock | some htmlBlock | some (list _) => false
  | _ => true

def isSpan : Tag → Bool
  | emphasis | strong | link _ | image => true
  | _ => false

/-- Whether a part can be opened right in another. -/
def fits (outer : Option Tag) : Tag → Bool
  | item =>
    match outer with
    | some (list _) => true
    | _ => false
  | tag => if tag.isSpan then holdsInlines outer else holdsBlocks outer

theorem fits_of_isSpan : ∀ {tag : Tag}, tag.isSpan → ∀ outer, tag.fits outer = holdsInlines outer
  | emphasis, _, _ | strong, _, _ | link _, _, _ | image, _, _ => rfl

theorem fits_of_not_isSpan {tag : Tag} (hs : ¬ tag.isSpan) (hi : tag ≠ item) (outer : Option Tag) :
    tag.fits outer = holdsBlocks outer := by
  rw [fits, if_neg hs]
  exact hi

theorem holdsInlines_of_isSpan : ∀ {tag : Tag}, tag.isSpan → holdsInlines (some tag)
  | emphasis, _ | strong, _ | link _, _ | image, _ => rfl

theorem holdsBlocks_of_isSpan : ∀ {tag : Tag}, tag.isSpan → holdsBlocks (some tag) = false
  | emphasis, _ | strong, _ | link _, _ | image, _ => rfl

/-- Where blocks stand inlines do, as bare ones. -/
theorem holdsInlines_of_holdsBlocks : ∀ {outer : Option Tag}, holdsBlocks outer →
    holdsInlines outer
  | none, _ | some quote, _ | some item, _ => rfl

theorem exists_list_of_fits : ∀ {outer : Option Tag}, item.fits outer →
    ∃ ordered, outer = some (list ordered)
  | some (list ordered), _ => ⟨ordered, rfl⟩

end Tag

namespace Event

/-- Whether an event can come right in a part. -/
def fits (outer : Option Tag) : Event → Bool
  | opening tag => tag.fits outer
  | closing => outer.isSome
  | text _ => Tag.holdsInlines outer || outer == some .codeBlock || outer == some .htmlBlock
  | html _ => Tag.holdsInlines outer || outer == some .htmlBlock
  | rule => Tag.holdsBlocks outer
  | _ => Tag.holdsInlines outer

/-- The inline that an event is among inlines. -/
def inline? : Event → Option Inline
  | text s => some (.text s)
  | code s => some (.code s)
  | html s => some (.html s)
  | softBreak | hardBreak => some .lineBreak
  | _ => none

/-- The tags that are open behind an event, the innermost first. -/
def after (tags : List Tag) : Event → List Tag
  | opening tag => tag :: tags
  | closing => tags.tail
  | _ => tags

/-- Whether inlines stand right before the place behind an event, when `before` says so of the place
before it: no bound of a block lies between, and an image counts for what its description says. -/
def flowing (tags : List Tag) (before : Bool) : Event → Bool
  | opening tag => tag.isSpan && (before || tag != .image)
  | closing => before && tags.head?.any Tag.isSpan
  | rule => before
  | _ => Tag.holdsInlines tags.head?

end Event

/-- The tags that events leave open, the innermost first. -/
def openTags (tags : List Tag) (events : List Event) : List Tag :=
  events.foldl Event.after tags

/-- Whether each event fits where it comes, when the given tags are open before the first. -/
def Fit (tags : List Tag) : List Event → Prop
  | [] => True
  | event :: rest => event.fits tags.head? ∧ Fit (event.after tags) rest

/-- Whether events write a document: each fits where it comes, and what was opened is closed. -/
def WellNested (events : List Event) : Prop :=
  Fit [] events ∧ openTags [] events = []

/-- Whether inlines stand right before the place behind events, when `before` says so of the place
before them. -/
def flowTo (tags : List Tag) (before : Bool) : List Event → Bool
  | [] => before
  | event :: rest => flowTo (event.after tags) (event.flowing tags before) rest

/-- Whether inlines stand right behind the place before events, which is so if some come before the
next bound of a block; `behind` says whether some have come. -/
def flowFrom (tags : List Tag) (behind : Bool) : List Event → Bool
  | [] => behind
  | event :: rest =>
    if event.flowing tags true then flowFrom (event.after tags) (event.flowing tags behind) rest
    else behind

theorem openTags_append (tags : List Tag) (events more : List Event) :
    openTags tags (events ++ more) = openTags (openTags tags events) more :=
  List.foldl_append

theorem fit_append {tags : List Tag} {events more : List Event} :
    Fit tags (events ++ more) ↔ Fit tags events ∧ Fit (openTags tags events) more := by
  induction events generalizing tags with
  | nil => simp [Fit, openTags]
  | cons event rest ih =>
    rw [List.cons_append, Fit, ih, Fit, and_assoc]
    rfl

namespace Tree

/-- Which parts a tag opens, whatever they hold by now. -/
inductive OpenedBy : Tag → Frame → Prop
  | paragraph (done : List Inline) : OpenedBy .paragraph (.inlines .paragraph done)
  | heading (level : Nat) (done : List Inline) :
    OpenedBy (.heading level) (.inlines (.heading level) done)
  | quote (done : List Block) : OpenedBy .quote (.blocks .quote done)
  | codeBlock (s : String) : OpenedBy .codeBlock (.code s)
  | htmlBlock : OpenedBy .htmlBlock .skip
  | list (ordered : Bool) (items : List (List Block)) :
    OpenedBy (.list ordered) (.list ordered items)
  | item (done : List Block) : OpenedBy .item (.blocks .item done)
  | emphasis (done : List Inline) : OpenedBy .emphasis (.inlines .emphasis done)
  | strong (done : List Inline) : OpenedBy .strong (.inlines .strong done)
  | link (url : String) (done : List Inline) : OpenedBy (.link url) (.inlines (.link url) done)
  | image (done : List Inline) : OpenedBy .image (.inlines .image done)

/-- Whether a part that a tag opens can lie right on another. -/
def Frame.takes : Frame → Tag → Bool
  | .blocks _ _, tag => !tag.isSpan && tag != .item
  | .list _ _, tag => tag == .item
  | .inlines _ _, tag => tag.isSpan
  | _, _ => false

/-- Whether a part is a run. -/
def Frame.isRun : Frame → Bool
  | .inlines _ _ => true
  | _ => false

/-- Whether a part holds blocks, right in it or in items. -/
def Frame.isHolder : Frame → Bool
  | .blocks _ _ | .list _ _ => true
  | _ => false

theorem isRun_of_takes {next : Frame} {tag : Tag} (h : next.takes tag) :
    next.isRun = tag.isSpan := by
  cases next with
  | blocks holder done =>
    have hs : (!tag.isSpan) = true := (Bool.and_eq_true_iff.mp h).1
    rw [Bool.not_eq_true'] at hs
    exact hs.symm
  | list ordered items =>
    obtain rfl := eq_of_beq h
    rfl
  | inlines run done => exact h.symm
  | code s => cases h
  | skip => cases h

/-- What does not stand among inlines stands in a part that holds blocks. -/
theorem isHolder_of_takes {next : Frame} {tag : Tag} (h : next.takes tag) (hs : ¬ tag.isSpan) :
    next.isHolder := by
  cases next with
  | blocks holder done => rfl
  | list ordered items => rfl
  | inlines run done => exact absurd h hs
  | code s => cases h
  | skip => cases h

theorem Frame.isHolder_of_isRun : ∀ {frame : Frame}, frame.isRun → frame.isHolder = false
  | .inlines _ _, _ => rfl

/-- A stack with one part for each tag, over the document. -/
inductive Orderly : List Tag → Stack → Prop
  | document (done : List Block) : Orderly [] [.blocks .document done]
  | implicit (done : List Inline) {tags : List Tag} {holder : Holder} {blocks : List Block}
    {outer : Stack} (h : Orderly tags (.blocks holder blocks :: outer)) :
    Orderly tags (.inlines .implicit done :: .blocks holder blocks :: outer)
  | part {tag : Tag} {frame next : Frame} {tags : List Tag} {outer : Stack}
    (hf : OpenedBy tag frame) (hn : next.takes tag) (h : Orderly tags (next :: outer)) :
    Orderly (tag :: tags) (frame :: next :: outer)

theorem openedBy_ofTag (tag : Tag) : OpenedBy tag (Frame.ofTag tag) := by
  cases tag <;> constructor

theorem openedBy_iff {tag : Tag} {frame : Frame} :
    OpenedBy tag frame ↔ frame.emptied = Frame.ofTag tag := by
  constructor
  · rintro (_ | _) <;> rfl
  · intro h
    cases tag <;> cases frame <;> cases h <;> constructor

theorem isInline_ofTag (tag : Tag) : (Frame.ofTag tag).isInline = tag.isSpan := by
  cases tag <;> rfl

namespace OpenedBy

variable {tag : Tag} {frame filled : Frame}

theorem refill (h : OpenedBy tag frame) (he : filled.emptied = frame.emptied) :
    OpenedBy tag filled :=
  openedBy_iff.mpr (he.trans (openedBy_iff.mp h))

theorem closeImplicit_eq (h : OpenedBy tag frame) (outer : Stack) :
    closeImplicit (frame :: outer) = frame :: outer := by
  cases h <;> rfl

theorem isRun_of_isSpan (h : OpenedBy tag frame) (hs : tag.isSpan) : frame.isRun := by
  cases h with
  | emphasis | strong | link | image => rfl
  | _ => cases hs

theorem holdsInlines_of_isRun (h : OpenedBy tag frame) (hr : frame.isRun) :
    Tag.holdsInlines (some tag) := by
  cases h with
  | quote | codeBlock | htmlBlock | list | item => cases hr
  | _ => rfl

theorem exists_blocks (h : OpenedBy tag frame) (hb : Tag.holdsBlocks (some tag)) :
    ∃ holder done, frame = .blocks holder done := by
  cases h with
  | quote done => exact ⟨.quote, done, rfl⟩
  | item done => exact ⟨.item, done, rfl⟩
  | _ => cases hb

end OpenedBy

namespace Orderly

variable {tags : List Tag} {stack outer : Stack} {frame filled : Frame}

theorem start : Orderly [] start :=
  .document []

theorem refill (h : Orderly tags (frame :: outer)) (he : filled.emptied = frame.emptied) :
    Orderly tags (filled :: outer) := by
  cases h with
  | document done =>
    cases filled with
    | blocks holder more =>
      obtain rfl : holder = .document := by simpa [Frame.emptied] using he
      exact .document more
    | _ => simp [Frame.emptied] at he
  | implicit done h =>
    cases filled with
    | inlines run more =>
      obtain rfl : run = .implicit := by simpa [Frame.emptied] using he
      exact .implicit more h
    | _ => simp [Frame.emptied] at he
  | part hf hn h => exact .part (hf.refill he) hn h

theorem closeImplicit (h : Orderly tags stack) : Orderly tags (closeImplicit stack) := by
  cases h with
  | document done => exact .document done
  | implicit done h =>
    cases done with
    | nil => exact h
    | cons last rest => exact h.refill rfl
  | part hf hn h =>
    rw [hf.closeImplicit_eq]
    exact .part hf hn h

theorem openImplicit (h : Orderly tags stack) : Orderly tags (openImplicit stack) := by
  rcases openImplicit_cases stack with ho | ⟨holder, done, outer, rfl⟩
  · rwa [ho]
  · exact .implicit [] h

/-- Once a paragraph of bare text is closed, the innermost part is the document or was opened by the
innermost tag. -/
theorem closed_cases (h : Orderly tags stack) :
    (tags = [] ∧ ∃ done, Tree.closeImplicit stack = [.blocks .document done]) ∨
      ∃ tag rest frame next outer, tags = tag :: rest ∧
        Tree.closeImplicit stack = frame :: next :: outer ∧ OpenedBy tag frame ∧
        next.takes tag ∧ Orderly rest (next :: outer) := by
  cases h with
  | document done => exact .inl ⟨rfl, done, rfl⟩
  | part hf hn h => exact .inr ⟨_, _, _, _, _, rfl, hf.closeImplicit_eq _, hf, hn, h⟩
  | @implicit done _ holder blocks outer h =>
    obtain ⟨more, hm⟩ : ∃ more, Tree.closeImplicit (.inlines .implicit done ::
        .blocks holder blocks :: outer) = .blocks holder more :: outer := by
      cases done <;> exact ⟨_, rfl⟩
    rw [hm]
    cases h with
    | document => exact .inl ⟨rfl, more, rfl⟩
    | part hf hn h => exact .inr ⟨_, _, _, _, _, rfl, rfl, hf.refill rfl, hn, h⟩

/-- Where blocks fit, they come into a part that holds some, once a paragraph of bare text is
closed. -/
theorem exists_blocks (h : Orderly tags stack) (ht : Tag.holdsBlocks tags.head?) :
    ∃ holder done outer, Tree.closeImplicit stack = .blocks holder done :: outer := by
  obtain ⟨-, done, hc⟩ | ⟨tag, rest, frame, next, outer, rfl, hc, hf, -, -⟩ := h.closed_cases
  · exact ⟨_, _, _, hc⟩
  · obtain ⟨holder, done, rfl⟩ := hf.exists_blocks ht
    exact ⟨_, _, _, hc⟩

/-- Where inlines fit, they come into a run, which may be one opened for them. -/
theorem exists_inlines (h : Orderly tags stack) (ht : Tag.holdsInlines tags.head?) :
    ∃ run done outer, Tree.openImplicit stack = .inlines run done :: outer := by
  cases h with
  | document done => exact ⟨_, _, _, rfl⟩
  | implicit done h => exact ⟨_, _, _, rfl⟩
  | part hf hn h =>
    cases hf with
    | codeBlock | htmlBlock | list => cases ht
    | _ => exact ⟨_, _, _, rfl⟩

/-- A part that holds no blocks is innermost without one of bare text over it. -/
theorem exists_part {tag : Tag} {rest : List Tag} (h : Orderly (tag :: rest) stack)
    (hb : Tag.holdsBlocks (some tag) = false) :
    ∃ frame next outer, stack = frame :: next :: outer ∧ OpenedBy tag frame ∧ next.takes tag ∧
      Orderly rest (next :: outer) := by
  cases h with
  | part hf hn h => exact ⟨_, _, _, rfl, hf, hn, h⟩
  | implicit done h =>
    cases h with
    | part hf => cases hf <;> cases hb

end Orderly

def Frame.block? : Frame → Option Block
  | .blocks .quote done => some (.quote done.reverse)
  | .list ordered items => some (.list ordered items.reverse)
  | .code s => some (.code s)
  | .inlines (.heading level) done => some (.heading level done.reverse)
  | .inlines .paragraph done => some (.paragraph done.reverse)
  | _ => none

/-- The inlines that a span becomes. -/
def Frame.given : Frame → List Inline
  | .inlines .emphasis done => [.emphasis done.reverse]
  | .inlines .strong done => [.strong done.reverse]
  | .inlines (.link url) done => [.link url done.reverse]
  | .inlines .image done => done.reverse
  | _ => []

theorem foldl_addInline (content : List Inline) (run : Run) (done : List Inline) (outer : Stack) :
    content.foldl (fun stack inline => addInline inline stack) (.inlines run done :: outer) =
      .inlines run (content.foldl (fun done inline => joined inline done) done) :: outer := by
  induction content generalizing done with
  | nil => rfl
  | cons inline rest ih => rw [List.foldl_cons, addInline_inlines, ih, List.foldl_cons]

section Attach

variable {tag : Tag} {frame : Frame}

theorem attach_blocks (hf : OpenedBy tag frame) {holder : Holder} {blocks : List Block}
    (hn : (Frame.blocks holder blocks).takes tag) (outer : Stack) :
    attach frame (.blocks holder blocks :: outer) =
      .blocks holder (frame.block?.toList ++ blocks) :: outer := by
  cases hf with
  | item | emphasis | strong | link | image => cases hn
  | _ => rfl

theorem attach_list (hf : OpenedBy tag frame) {ordered : Bool} {items : List (List Block)}
    (hn : (Frame.list ordered items).takes tag) : ∃ done, frame = .blocks .item done := by
  cases hf with
  | item done => exact ⟨done, rfl⟩
  | _ => cases hn

theorem attach_inlines (hf : OpenedBy tag frame) {run : Run} {done : List Inline}
    (hn : (Frame.inlines run done).takes tag) (outer : Stack) :
    attach frame (.inlines run done :: outer) =
      .inlines run (frame.given.foldl (fun done inline => joined inline done) done) :: outer := by
  cases hf with
  | emphasis | strong | link => rfl
  | image content => exact foldl_addInline content.reverse run done outer
  | _ => cases hn

end Attach

namespace Orderly

variable {tags : List Tag} {stack outer : Stack} {frame next : Frame}

theorem attach {tag : Tag} (hf : OpenedBy tag frame) (hn : next.takes tag)
    (h : Orderly tags (next :: outer)) : Orderly tags (attach frame (next :: outer)) := by
  cases next with
  | blocks holder blocks =>
    rw [attach_blocks hf hn]
    exact h.refill rfl
  | list ordered items =>
    obtain ⟨done, rfl⟩ := attach_list hf hn
    exact h.refill rfl
  | inlines run done =>
    rw [attach_inlines hf hn]
    exact h.refill rfl
  | code s => cases hn
  | skip => cases hn

/-- What a tag opens fits on what is innermost then. -/
theorem exists_host {tag : Tag} (h : Orderly tags stack) (ht : tag.fits tags.head?) :
    ∃ next outer, next.takes tag ∧ Orderly tags (next :: outer) ∧
      (if tag.isSpan then Tree.openImplicit stack else Tree.closeImplicit stack) =
        next :: outer := by
  by_cases hs : tag.isSpan
  · rw [Tag.fits_of_isSpan hs] at ht
    obtain ⟨run, done, outer, ho⟩ := h.exists_inlines ht
    exact ⟨.inlines run done, outer, hs, ho ▸ h.openImplicit, by rw [if_pos hs, ho]⟩
  rw [if_neg hs]
  by_cases hi : tag = .item
  · subst hi
    obtain ⟨ordered, hl⟩ := Tag.exists_list_of_fits ht
    obtain ⟨rest, rfl⟩ := List.head?_eq_some_iff.mp hl
    obtain ⟨frame, next, outer, rfl, hf, -, -⟩ := h.exists_part rfl
    cases hf
    exact ⟨_, _, rfl, h, rfl⟩
  · rw [Tag.fits_of_not_isSpan hs hi] at ht
    obtain ⟨holder, done, outer, hc⟩ := h.exists_blocks ht
    exact ⟨.blocks holder done, outer, by simp [Frame.takes, hs, hi], hc ▸ h.closeImplicit, hc⟩

end Orderly

theorem opening_eq (tag : Tag) (stack : Stack) :
    opening tag stack =
      Frame.ofTag tag :: if tag.isSpan then openImplicit stack else closeImplicit stack := by
  rw [opening, isInline_ofTag]

/-- Among inlines an event that is one joins those before it. -/
theorem push_of_inline? {event : Event} {inline : Inline} (he : event.inline? = some inline)
    {stack outer : Stack} {run : Run} {done : List Inline}
    (ho : openImplicit stack = .inlines run done :: outer) :
    push stack event = .inlines run (joined inline done) :: outer := by
  have ha : addInline inline stack = .inlines run (joined inline done) :: outer := by
    rw [addInline, ho]
  cases event with
  | text s =>
    cases he
    rw [← ha]
    change text s stack = _
    unfold text
    split
    · cases ho
    · cases ho
    · rfl
  | html s =>
    cases he
    rw [← ha]
    change html s stack = _
    unfold html
    split <;> rfl
  | code s => cases he; exact ha
  | softBreak => cases he; exact ha
  | hardBreak => cases he; exact ha
  | _ => cases he

/-- In a part without inlines such an event changes at most what the part holds, and no blocks. -/
theorem exists_grown {event : Event} {inline : Inline} (he : event.inline? = some inline)
    {tag : Tag} (hf : event.fits (some tag)) (hi : Tag.holdsInlines (some tag) = false)
    {frame : Frame} (ho : OpenedBy tag frame) :
    ∃ grown, grown.emptied = frame.emptied ∧ grown.isRun = frame.isRun ∧
      (frame.isHolder = false ∧ grown.isHolder = false) ∧
      ∀ outer, push (frame :: outer) event = grown :: outer := by
  cases ho with
  | codeBlock s =>
    cases event with
    | text piece => exact ⟨.code (s ++ piece), rfl, rfl, ⟨rfl, rfl⟩, fun _ => rfl⟩
    | opening | closing | rule => cases he
    | _ => exact absurd hf Bool.false_ne_true
  | htmlBlock =>
    cases event with
    | text piece => exact ⟨.skip, rfl, rfl, ⟨rfl, rfl⟩, fun _ => rfl⟩
    | html piece => exact ⟨.skip, rfl, rfl, ⟨rfl, rfl⟩, fun _ => rfl⟩
    | opening | closing | rule => cases he
    | _ => exact absurd hf Bool.false_ne_true
  | list ordered items =>
    cases event with
    | opening | closing | rule => cases he
    | _ => exact absurd hf Bool.false_ne_true
  | _ => cases hi

namespace Orderly

variable {tags : List Tag} {stack : Stack}

/-- Where an event that is an inline among inlines is none, the part is no run. -/
theorem exists_dull (h : Orderly tags stack) (hi : ¬ Tag.holdsInlines tags.head?) :
    ∃ tag rest frame next outer, tags = tag :: rest ∧ stack = frame :: next :: outer ∧
      OpenedBy tag frame ∧ Tag.holdsInlines (some tag) = false ∧ frame.isRun = false ∧
      next.isRun = false := by
  match tags, h, hi with
  | [], _, hi => exact absurd rfl hi
  | tag :: rest, h, hi =>
    have hd : Tag.holdsInlines (some tag) = false := eq_false_of_ne_true hi
    have hb := eq_false_of_ne_true (mt Tag.holdsInlines_of_holdsBlocks hi)
    obtain ⟨frame, next, outer, hs, ho, hn, hr⟩ := h.exists_part hb
    refine ⟨tag, rest, frame, next, outer, rfl, hs, ho, hd, ?_, ?_⟩
    · exact eq_false_of_ne_true (mt ho.holdsInlines_of_isRun hi)
    · rw [isRun_of_takes hn]
      exact eq_false_of_ne_true (mt Tag.holdsInlines_of_isSpan hi)

/-- An event that fits keeps the stack in order. -/
theorem push {event : Event} (h : Orderly tags stack) (hf : event.fits tags.head?) :
    Orderly (event.after tags) (push stack event) := by
  have leaf {inline : Inline} (he : event.inline? = some inline) :
      Orderly tags (Tree.push stack event) := by
    by_cases hi : Tag.holdsInlines tags.head?
    · obtain ⟨run, done, outer, ho⟩ := h.exists_inlines hi
      have hr := h.openImplicit
      rw [ho] at hr
      rw [push_of_inline? he ho]
      exact hr.refill rfl
    · obtain ⟨tag, rest, frame, next, outer, rfl, rfl, ho, hd, -, -⟩ := h.exists_dull hi
      obtain ⟨grown, hg, -, -, hp⟩ := exists_grown he hf hd ho
      rw [hp]
      exact h.refill hg
  cases event with
  | opening tag =>
    obtain ⟨next, outer, hn, hr, he⟩ := h.exists_host hf
    change Orderly (tag :: tags) (Tree.opening tag stack)
    rw [opening_eq, he]
    exact .part (openedBy_ofTag tag) hn hr
  | closing =>
    obtain ⟨rfl, -⟩ | ⟨tag, rest, frame, next, outer, rfl, hc, ho, hn, hr⟩ := h.closed_cases
    · cases hf
    · change Orderly rest (Tree.closing stack)
      rw [closing_eq hc]
      exact hr.attach ho hn
  | rule => exact h
  | text s => exact leaf rfl
  | code s => exact leaf rfl
  | html s => exact leaf rfl
  | softBreak => exact leaf rfl
  | hardBreak => exact leaf rfl

/-- Events that fit keep the stack in order. -/
theorem foldl {events : List Event} (h : Orderly tags stack) (hf : Fit tags events) :
    Orderly (openTags tags events) (events.foldl Tree.push stack) := by
  induction events generalizing tags stack with
  | nil => exact h
  | cons event rest ih => exact ih (h.push hf.1) hf.2

end Orderly

/-- Whether a part is a run that has inlines, or one that is an inline itself once it is closed. -/
def Frame.filled : Frame → Bool
  | .inlines .emphasis _ | .inlines .strong _ | .inlines (.link _) _ => true
  | .inlines _ done => !done.isEmpty
  | _ => false

theorem Frame.isRun_of_filled : ∀ {frame : Frame}, frame.filled → frame.isRun
  | .inlines _ _, _ => rfl

/-- Under a part that is no run there are none. -/
theorem Orderly.any_filled_eq_false {tags : List Tag} {frame : Frame} {outer : Stack}
    (h : Orderly tags (frame :: outer)) (hr : frame.isRun = false) :
    (frame :: outer).any Frame.filled = false := by
  generalize hs : frame :: outer = stack at h
  induction h generalizing frame outer with
  | document done => rfl
  | implicit done => cases hs; cases hr
  | @part tag frame next tags outer hf hn h ih =>
    cases hs
    have hr := ne_true_of_eq_false hr
    have hn : next.isRun = false := by
      rw [isRun_of_takes hn]
      exact eq_false_of_ne_true (mt hf.isRun_of_isSpan hr)
    rw [List.any_cons, ih hn rfl, eq_false_of_ne_true (mt Frame.isRun_of_filled hr)]
    rfl

theorem filled_inlines (run : Run) {inline : Inline} {done : List Inline} :
    (Frame.inlines run (inline :: done)).filled := by
  cases run <;> rfl

theorem exists_joined (inline : Inline) (done : List Inline) :
    ∃ last rest, joined inline done = last :: rest := by
  unfold joined
  split <;> exact ⟨_, _, rfl⟩

theorem filled_foldl_joined (run : Run) (content done : List Inline) :
    (Frame.inlines run (content.foldl (fun done inline => joined inline done) done)).filled =
      (!content.isEmpty || (Frame.inlines run done).filled) := by
  induction content generalizing done with
  | nil => rfl
  | cons inline rest ih =>
    obtain ⟨last, front, hj⟩ := exists_joined inline done
    rw [List.foldl_cons, ih, hj, filled_inlines, Bool.or_true]
    rfl

theorem any_filled_openImplicit (stack : Stack) :
    (openImplicit stack).any Frame.filled = stack.any Frame.filled := by
  rcases openImplicit_cases stack with ho | ⟨holder, done, outer, rfl⟩
  · rw [ho]
  · rfl

theorem OpenedBy.filled_eq {tag : Tag} {frame : Frame} (h : OpenedBy tag frame) (hs : tag.isSpan) :
    frame.filled = !frame.given.isEmpty := by
  cases h with
  | emphasis | strong | link => rfl
  | image done => simp [Frame.filled, Frame.given]
  | _ => cases hs

theorem any_filled_closing {tag : Tag} {rest : List Tag} {stack : Stack}
    (h : Orderly (tag :: rest) stack) :
    (closing stack).any Frame.filled = (stack.any Frame.filled && tag.isSpan) := by
  by_cases hs : tag.isSpan
  · obtain ⟨frame, next, outer, rfl, ho, hn, -⟩ := h.exists_part (Tag.holdsBlocks_of_isSpan hs)
    rw [closing_eq (ho.closeImplicit_eq _), hs, Bool.and_true]
    cases next with
    | inlines run done =>
      rw [attach_inlines ho hn, List.any_cons, List.any_cons, List.any_cons, filled_foldl_joined,
        ho.filled_eq hs, Bool.or_assoc]
    | _ => have hr := isRun_of_takes hn; rw [hs] at hr; cases hr
  · rw [eq_false_of_ne_true hs, Bool.and_false]
    obtain ⟨ht, -⟩ | ⟨_, _, frame, next, outer, ht, hc, ho, hn, hr⟩ := h.closed_cases
    · cases ht
    cases ht
    have ha := hr.attach ho hn
    rw [closing_eq hc]
    cases next with
    | blocks holder blocks =>
      rw [attach_blocks ho hn] at ha ⊢
      exact ha.any_filled_eq_false rfl
    | list ordered items =>
      obtain ⟨done, rfl⟩ := attach_list ho hn
      exact ha.any_filled_eq_false rfl
    | inlines run done => exact absurd hn hs
    | code s => cases hn
    | skip => cases hn

/-- Whether there is a filled run on an orderly stack, the events tell. -/
theorem any_filled_push {tags : List Tag} {stack : Stack} {event : Event} (h : Orderly tags stack)
    (hf : event.fits tags.head?) :
    (push stack event).any Frame.filled = event.flowing tags (stack.any Frame.filled) := by
  have leaf {inline : Inline} (he : event.inline? = some inline) :
      (push stack event).any Frame.filled = Tag.holdsInlines tags.head? := by
    by_cases hi : Tag.holdsInlines tags.head?
    · obtain ⟨run, done, outer, ho⟩ := h.exists_inlines hi
      obtain ⟨last, front, hj⟩ := exists_joined inline done
      rw [push_of_inline? he ho, hj, List.any_cons, filled_inlines, Bool.true_or, hi]
    · have hp := h.push hf
      obtain ⟨tag, rest, frame, next, outer, rfl, rfl, ho, hd, hr, -⟩ := h.exists_dull hi
      obtain ⟨grown, -, hg, -, he⟩ := exists_grown he hf hd ho
      rw [he] at hp ⊢
      rw [hp.any_filled_eq_false (hg.trans hr)]
      exact hd.symm
  cases event with
  | opening tag =>
    obtain ⟨next, outer, hn, hr, he⟩ := h.exists_host hf
    change (opening tag stack).any Frame.filled = (tag.isSpan && _)
    rw [opening_eq, List.any_cons]
    by_cases hs : tag.isSpan
    · have hg : (Frame.ofTag tag).filled = (tag != .image) := by
        cases tag with
        | emphasis | strong | link | image => rfl
        | _ => cases hs
      rw [if_pos hs, any_filled_openImplicit, hg, hs, Bool.true_and, Bool.or_comm]
    · have hg : (Frame.ofTag tag).filled = false := by
        cases tag with
        | emphasis | strong | link | image => exact absurd rfl hs
        | _ => rfl
      have hn : next.isRun = false := (isRun_of_takes hn).trans (eq_false_of_ne_true hs)
      rw [he, hr.any_filled_eq_false hn, hg, eq_false_of_ne_true hs]
      rfl
  | closing =>
    match tags, h, hf with
    | tag :: rest, h, _ => exact any_filled_closing h
  | rule => rfl
  | text s => exact leaf rfl
  | code s => exact leaf rfl
  | html s => exact leaf rfl
  | softBreak => exact leaf rfl
  | hardBreak => exact leaf rfl

end Tree

end ApiDocs
