import ApiDocs.Proofs.Markup.Nesting

/-!
# Paragraphs on both sides of a place

What stands before a place where blocks can stand and what stands behind it are documents of their
own, once the parts that are open there are opened again. A block of HTML leaves nothing in a
document but ends the paragraph of bare text before it, so the paragraphs of the document are those
of both sides. A rule leaves nothing either and ends no paragraph: where inlines stand right before
it and right behind it, the last paragraph of the one side and the first of the other are one.
-/

namespace ApiDocs

namespace Block

mutual

/-- The paragraphs of a block, at any depth, in their order. -/
def paragraphs : Block → List (List Inline)
  | paragraph content => [content]
  | list _ items => itemsParagraphs items
  | quote blocks => allParagraphs blocks
  | heading _ _ | code _ => []

def allParagraphs : List Block → List (List Inline)
  | [] => []
  | block :: rest => block.paragraphs ++ allParagraphs rest

def itemsParagraphs : List (List Block) → List (List Inline)
  | [] => []
  | blocks :: rest => allParagraphs blocks ++ itemsParagraphs rest

end

theorem allParagraphs_append (blocks more : List Block) :
    allParagraphs (blocks ++ more) = allParagraphs blocks ++ allParagraphs more := by
  induction blocks with
  | nil => rfl
  | cons block rest ih =>
    rw [List.cons_append, allParagraphs, allParagraphs, ih, List.append_assoc]

theorem allParagraphs_singleton (block : Block) : allParagraphs [block] = block.paragraphs :=
  List.append_nil _

theorem itemsParagraphs_append (items more : List (List Block)) :
    itemsParagraphs (items ++ more) = itemsParagraphs items ++ itemsParagraphs more := by
  induction items with
  | nil => rfl
  | cons blocks rest ih =>
    rw [List.cons_append, itemsParagraphs, itemsParagraphs, ih, List.append_assoc]

theorem itemsParagraphs_singleton (blocks : List Block) :
    itemsParagraphs [blocks] = allParagraphs blocks :=
  List.append_nil _

end Block

/-- The events that open parts again, the innermost first among the tags. -/
def reopened (tags : List Tag) : List Event :=
  tags.reverse.map .opening

/-- The events behind others as a document of their own, which opens again what is open there. -/
def resumed (before behind : List Event) : List Event :=
  reopened (openTags [] before) ++ behind

/-- Inlines and those right behind them in one run; texts that come together there are one. -/
def Inline.met (first second : List Inline) : List Inline :=
  (second.foldl (fun done inline => Tree.joined inline done) first.reverse).reverse

namespace Tree

/-- The paragraphs of the blocks that a part holds. -/
def Frame.paragraphs : Frame → List (List Inline)
  | .blocks _ done => Block.allParagraphs done.reverse
  | .list _ items => Block.itemsParagraphs items.reverse
  | _ => []

def paragraphs : Stack → List (List Inline)
  | [] => []
  | frame :: outer => paragraphs outer ++ frame.paragraphs

/-- A part without the blocks that it holds. -/
def Frame.swept : Frame → Frame
  | .blocks holder _ => .blocks holder []
  | .list ordered _ => .list ordered []
  | frame => frame

/-- The paragraphs of a part once it is closed. -/
def Frame.left : Frame → List (List Inline)
  | .inlines .paragraph done => [done.reverse]
  | frame => frame.paragraphs

theorem paragraphs_swept (frame : Frame) : frame.swept.paragraphs = [] := by
  cases frame <;> rfl

theorem paragraphs_map_swept (stack : Stack) : paragraphs (stack.map Frame.swept) = [] := by
  induction stack with
  | nil => rfl
  | cons frame outer ih => rw [List.map_cons, paragraphs, ih, paragraphs_swept, List.append_nil]

theorem swept_swept (frame : Frame) : frame.swept.swept = frame.swept := by
  cases frame <;> rfl

theorem map_swept_map_swept (stack : Stack) :
    (stack.map Frame.swept).map Frame.swept = stack.map Frame.swept := by
  rw [List.map_map]
  exact List.map_congr_left fun frame _ => swept_swept frame

theorem isHolder_swept (frame : Frame) : frame.swept.isHolder = frame.isHolder := by
  cases frame <;> rfl

/-- A part that holds no blocks is as it is without them. -/
theorem swept_of_isHolder : ∀ {frame : Frame}, frame.isHolder = false → frame.swept = frame
  | .inlines _ _, _ | .code _, _ | .skip, _ => rfl

theorem eq_of_swept {frame frame' : Frame} (h : frame'.swept = frame.swept)
    (hf : frame.isHolder = false) : frame' = frame := by
  have hf' : frame'.isHolder = false := by rw [← isHolder_swept, h, isHolder_swept, hf]
  rw [← swept_of_isHolder hf', h, swept_of_isHolder hf]

theorem paragraphs_of_isHolder : ∀ {frame : Frame}, frame.isHolder = false → frame.paragraphs = []
  | .inlines _ _, _ | .code _, _ | .skip, _ => rfl

theorem paragraphs_blocks_cons (block : Block) (holder : Holder) (done : List Block)
    (outer : Stack) :
    paragraphs (.blocks holder (block :: done) :: outer) =
      paragraphs (.blocks holder done :: outer) ++ block.paragraphs := by
  rw [paragraphs, paragraphs, Frame.paragraphs, Frame.paragraphs, List.reverse_cons,
    Block.allParagraphs_append, Block.allParagraphs_singleton, List.append_assoc]

theorem paragraphs_list_cons (blocks : List Block) (ordered : Bool) (items : List (List Block))
    (outer : Stack) :
    paragraphs (.list ordered (blocks :: items) :: outer) =
      paragraphs (.list ordered items :: outer) ++ Block.allParagraphs blocks := by
  rw [paragraphs, paragraphs, Frame.paragraphs, Frame.paragraphs, List.reverse_cons,
    Block.itemsParagraphs_append, Block.itemsParagraphs_singleton, List.append_assoc]

theorem left_of_isHolder : ∀ {frame : Frame}, frame.isHolder → frame.left = frame.paragraphs
  | .blocks _ _, _ | .list _ _, _ => rfl

theorem paragraphs_ofTag (tag : Tag) : (Frame.ofTag tag).paragraphs = [] := by
  cases tag <;> rfl

section Attach

variable {tag : Tag} {frame next : Frame}

theorem allParagraphs_block? (hf : OpenedBy tag frame) {holder : Holder} {blocks : List Block}
    (hn : (Frame.blocks holder blocks).takes tag) :
    Block.allParagraphs frame.block?.toList = frame.left := by
  cases hf with
  | item | emphasis | strong | link | image => cases hn
  | htmlBlock => rfl
  | _ => exact List.append_nil _

theorem left_of_isSpan (hf : OpenedBy tag frame) (hs : tag.isSpan) : frame.left = [] := by
  cases hf with
  | emphasis | strong | link | image => rfl
  | _ => cases hs

/-- A closed part adds its paragraphs to those around it. -/
theorem paragraphs_attach (hf : OpenedBy tag frame) (hn : next.takes tag) (outer : Stack) :
    paragraphs (attach frame (next :: outer)) = paragraphs (next :: outer) ++ frame.left := by
  cases next with
  | blocks holder blocks =>
    rw [attach_blocks hf hn, ← allParagraphs_block? hf hn]
    cases frame.block? with
    | none => rw [Option.toList, Block.allParagraphs, List.append_nil]; rfl
    | some block =>
      rw [Option.toList, Block.allParagraphs_singleton, List.singleton_append,
        paragraphs_blocks_cons]
  | list ordered items =>
    obtain ⟨done, rfl⟩ := attach_list hf hn
    exact paragraphs_list_cons done.reverse ordered items outer
  | inlines run done =>
    rw [attach_inlines hf hn, left_of_isSpan hf hn, List.append_nil]
    rfl
  | code s => cases hn
  | skip => cases hn

end Attach

theorem map_swept_put (block : Block) (stack : Stack) :
    (put block stack).map Frame.swept = stack.map Frame.swept := by
  unfold put
  split <;> rfl

/-- What closing a paragraph of bare text adds does not depend on the blocks that are done. -/
theorem paragraphs_put (block : Block) (stack : Stack) :
    paragraphs (put block stack) =
      paragraphs stack ++ paragraphs (put block (stack.map Frame.swept)) := by
  match stack with
  | [] => rfl
  | .blocks holder done :: outer =>
    have hs := paragraphs_map_swept (.blocks holder done :: outer)
    rw [List.map_cons, Frame.swept] at hs ⊢
    rw [put, paragraphs_blocks_cons, put, paragraphs_blocks_cons, hs, List.nil_append]
  | .list _ _ :: _ | .inlines _ _ :: _ | .code _ :: _ | .skip :: _ =>
    simp [put, paragraphs, paragraphs_map_swept, Frame.swept, Frame.paragraphs,
      Block.itemsParagraphs]

theorem exists_implicit {frame : Frame} (h : frame.isImplicit) :
    ∃ done, frame = .inlines .implicit done := by
  unfold Frame.isImplicit at h
  split at h
  · exact ⟨_, rfl⟩
  · cases h

theorem closeImplicit_cons {frame : Frame} (h : ¬ frame.isImplicit) (outer : Stack) :
    closeImplicit (frame :: outer) = frame :: outer := by
  unfold closeImplicit
  split
  · rename_i he
    cases he
    exact absurd rfl h
  · rename_i he
    cases he
    exact absurd rfl h
  · rfl

theorem isImplicit_swept (frame : Frame) : frame.swept.isImplicit = frame.isImplicit := by
  cases frame <;> rfl

theorem map_swept_closeImplicit (stack : Stack) :
    (closeImplicit stack).map Frame.swept =
      (closeImplicit (stack.map Frame.swept)).map Frame.swept := by
  cases stack with
  | nil => rfl
  | cons frame outer =>
    by_cases hi : frame.isImplicit
    · obtain ⟨done, rfl⟩ := exists_implicit hi
      cases done with
      | nil => exact (map_swept_map_swept outer).symm
      | cons last rest =>
        change (put _ outer).map Frame.swept =
          (put _ (outer.map Frame.swept)).map Frame.swept
        rw [map_swept_put, map_swept_put, map_swept_map_swept]
    · rw [closeImplicit_cons hi, List.map_cons,
        closeImplicit_cons (by rwa [isImplicit_swept]), ← List.map_cons, map_swept_map_swept]

theorem paragraphs_closeImplicit (stack : Stack) :
    paragraphs (closeImplicit stack) =
      paragraphs stack ++ paragraphs (closeImplicit (stack.map Frame.swept)) := by
  cases stack with
  | nil => rfl
  | cons frame outer =>
    by_cases hi : frame.isImplicit
    · obtain ⟨done, rfl⟩ := exists_implicit hi
      rw [paragraphs, paragraphs_of_isHolder rfl, List.append_nil]
      cases done with
      | nil =>
        have hs := paragraphs_map_swept outer
        change paragraphs outer = paragraphs outer ++ paragraphs (outer.map Frame.swept)
        rw [hs, List.append_nil]
      | cons last rest => exact paragraphs_put _ outer
    · have hs := paragraphs_map_swept (frame :: outer)
      rw [List.map_cons] at hs
      rw [closeImplicit_cons hi, List.map_cons,
        closeImplicit_cons (by rwa [isImplicit_swept]), hs, List.append_nil]

theorem map_swept_openImplicit (stack : Stack) :
    (openImplicit stack).map Frame.swept = openImplicit (stack.map Frame.swept) := by
  match stack with
  | [] => rfl
  | .blocks _ _ :: _ | .list _ _ :: _ | .inlines _ _ :: _ | .code _ :: _ | .skip :: _ => rfl

theorem paragraphs_openImplicit (stack : Stack) :
    paragraphs (openImplicit stack) = paragraphs stack := by
  rcases openImplicit_cases stack with ho | ⟨holder, done, outer, rfl⟩
  · rw [ho]
  · exact List.append_nil _

/-- Two stacks of the same parts whose runs hold the same, and that have added the same paragraphs
to those before. -/
structure Abreast (before before' : List (List Inline)) (stack stack' : Stack) : Prop where
  swept : stack.map Frame.swept = stack'.map Frame.swept
  more : ∃ more, paragraphs stack = before ++ more ∧ paragraphs stack' = before' ++ more

namespace Abreast

variable {before before' : List (List Inline)} {stack stack' outer outer' : Stack}
  {frame frame' next next' : Frame}

theorem of_swept (h : stack.map Frame.swept = stack'.map Frame.swept) :
    Abreast (paragraphs stack) (paragraphs stack') stack stack' :=
  ⟨h, [], (List.append_nil _).symm, (List.append_nil _).symm⟩

theorem cons (h : Abreast before before' stack stack') (hp : frame.paragraphs = []) :
    Abreast before before' (frame :: stack) (frame :: stack') := by
  obtain ⟨hs, more, hm, hm'⟩ := h
  refine ⟨by rw [List.map_cons, hs, List.map_cons], more, ?_, ?_⟩
  · rw [paragraphs, hp, hm, List.append_nil]
  · rw [paragraphs, hp, hm', List.append_nil]

/-- A part that holds no blocks is the same on both sides. -/
theorem exists_tail (h : Abreast before before' (frame :: outer) stack')
    (hf : frame.isHolder = false) :
    ∃ outer', stack' = frame :: outer' ∧ Abreast before before' outer outer' := by
  obtain ⟨hs, more, hm, hm'⟩ := h
  obtain ⟨frame', outer', rfl, he, ho⟩ := List.map_eq_cons_iff.mp hs.symm
  obtain rfl := eq_of_swept he hf
  rw [paragraphs, paragraphs_of_isHolder hf, List.append_nil] at hm hm'
  exact ⟨outer', rfl, ho.symm, more, hm, hm'⟩

theorem closeImplicit (h : Abreast before before' stack stack') :
    Abreast before before' (closeImplicit stack) (closeImplicit stack') := by
  obtain ⟨hs, more, hm, hm'⟩ := h
  refine ⟨?_, more ++ paragraphs (Tree.closeImplicit (stack.map Frame.swept)), ?_, ?_⟩
  · rw [map_swept_closeImplicit, hs, ← map_swept_closeImplicit]
  · rw [paragraphs_closeImplicit, hm, List.append_assoc]
  · rw [paragraphs_closeImplicit, hm', hs, List.append_assoc]

theorem openImplicit (h : Abreast before before' stack stack') :
    Abreast before before' (openImplicit stack) (openImplicit stack') := by
  obtain ⟨hs, hm⟩ := h
  refine ⟨?_, ?_⟩
  · rw [map_swept_openImplicit, hs, ← map_swept_openImplicit]
  · rwa [paragraphs_openImplicit, paragraphs_openImplicit]

/-- The same part closed on both sides. -/
theorem attach {tag : Tag} (h : Abreast before before' (frame :: next :: outer)
      (frame' :: next' :: outer')) (hf : OpenedBy tag frame) (hn : next.takes tag)
    (hf' : OpenedBy tag frame') (hn' : next'.takes tag) :
    Abreast before before' (attach frame (next :: outer)) (attach frame' (next' :: outer')) := by
  obtain ⟨hs, more, hm, hm'⟩ := h
  have ⟨hw, hr⟩ := List.cons.inj hs
  have ⟨hx, ho⟩ := List.cons.inj hr
  refine ⟨?_, ?_⟩
  · cases next with
    | blocks holder blocks =>
      obtain ⟨blocks', rfl⟩ : ∃ blocks', next' = .blocks holder blocks' := by
        cases next' <;> cases hx
        exact ⟨_, rfl⟩
      rw [attach_blocks hf hn, attach_blocks hf' hn']
      exact congrArg (List.cons _) ho
    | list ordered items =>
      obtain ⟨items', rfl⟩ : ∃ items', next' = .list ordered items' := by
        cases next' <;> cases hx
        exact ⟨_, rfl⟩
      obtain ⟨done, rfl⟩ := attach_list hf hn
      obtain ⟨done', rfl⟩ := attach_list hf' hn'
      exact congrArg (List.cons _) ho
    | inlines run done =>
      obtain rfl := eq_of_swept hx.symm rfl
      obtain rfl := eq_of_swept hw.symm (Frame.isHolder_of_isRun (hf.isRun_of_isSpan hn))
      rw [attach_inlines hf hn, attach_inlines hf hn]
      exact congrArg (List.cons _) ho
    | code s => cases hn
    | skip => cases hn
  · rw [paragraphs_attach hf hn, paragraphs_attach hf' hn']
    rw [paragraphs] at hm hm'
    by_cases hh : frame.isHolder
    · have hh' : frame'.isHolder := by rwa [← isHolder_swept, ← hw, isHolder_swept]
      rw [left_of_isHolder hh, left_of_isHolder hh']
      exact ⟨more, hm, hm'⟩
    · have hh := eq_false_of_ne_true hh
      obtain rfl := eq_of_swept hw.symm hh
      rw [paragraphs_of_isHolder hh, List.append_nil] at hm hm'
      exact ⟨more ++ frame'.left, by rw [hm, List.append_assoc], by rw [hm', List.append_assoc]⟩

end Abreast

/-- What an event adds does not depend on the blocks that are done. -/
theorem Abreast.push {before before' : List (List Inline)} {tags : List Tag} {stack stack' : Stack}
    {event : Event} (h : Abreast before before' stack stack') (ho : Orderly tags stack)
    (ho' : Orderly tags stack') (hf : event.fits tags.head?) :
    Abreast before before' (push stack event) (push stack' event) := by
  have leaf {inline : Inline} (he : event.inline? = some inline) :
      Abreast before before' (Tree.push stack event) (Tree.push stack' event) := by
    by_cases hi : Tag.holdsInlines tags.head?
    · obtain ⟨run, done, outer, hr⟩ := ho.exists_inlines hi
      have hb := h.openImplicit
      rw [hr] at hb
      obtain ⟨outer', hr', ht⟩ := hb.exists_tail rfl
      rw [push_of_inline? he hr, push_of_inline? he hr']
      exact ht.cons rfl
    · obtain ⟨tag, rest, frame, next, outer, rfl, rfl, hb, hd, -, -⟩ := ho.exists_dull hi
      obtain ⟨grown, -, -, ⟨hh, hg⟩, hp⟩ := exists_grown he hf hd hb
      obtain ⟨outer', rfl, ht⟩ := h.exists_tail hh
      rw [hp, hp]
      exact ht.cons (paragraphs_of_isHolder hg)
  cases event with
  | opening tag =>
    change Abreast before before' (Tree.opening tag stack) (Tree.opening tag stack')
    rw [opening_eq, opening_eq]
    apply Abreast.cons _ (paragraphs_ofTag tag)
    by_cases hs : tag.isSpan
    · rw [if_pos hs, if_pos hs]
      exact h.openImplicit
    · rw [if_neg hs, if_neg hs]
      exact h.closeImplicit
  | closing =>
    obtain ⟨rfl, -⟩ | ⟨tag, rest, frame, next, outer, rfl, hc, hb, hn, -⟩ := ho.closed_cases
    · cases hf
    · obtain ⟨ht, -⟩ | ⟨_, _, frame', next', outer', ht, hc', hb', hn', -⟩ := ho'.closed_cases
      · cases ht
      cases ht
      have hk := h.closeImplicit
      rw [hc, hc'] at hk
      change Abreast before before' (Tree.closing stack) (Tree.closing stack')
      rw [closing_eq hc, closing_eq hc']
      exact hk.attach hb hn hb' hn'
  | rule => exact h
  | text s => exact leaf rfl
  | code s => exact leaf rfl
  | html s => exact leaf rfl
  | softBreak => exact leaf rfl
  | hardBreak => exact leaf rfl

theorem Abreast.foldl {before before' : List (List Inline)} {tags : List Tag}
    {stack stack' : Stack} {events : List Event} (h : Abreast before before' stack stack')
    (ho : Orderly tags stack) (ho' : Orderly tags stack') (hf : Fit tags events) :
    Abreast before before' (events.foldl Tree.push stack) (events.foldl Tree.push stack') := by
  induction events generalizing tags stack stack' with
  | nil => exact h
  | cons event rest ih =>
    exact ih (h.push ho ho' hf.1) (ho.push hf.1) (ho'.push hf.1) hf.2

theorem finish_congr {tags : List Tag} {stack stack' : Stack} (ho : Orderly tags stack)
    (h : closeImplicit stack = closeImplicit stack') : finish stack = finish stack' := by
  obtain ⟨-, done, hc⟩ | ⟨tag, rest, frame, next, outer, -, hc, -, -, -⟩ := ho.closed_cases
  · rw [finish_of_ended hc, finish_of_ended (h ▸ hc)]
  · have hc' := h ▸ hc
    rw [finish_closing hc, finish_closing hc', closing_eq hc, closing_eq hc']

theorem closeImplicit_closeImplicit {tags : List Tag} {stack : Stack} (h : Orderly tags stack) :
    closeImplicit (closeImplicit stack) = closeImplicit stack := by
  obtain ⟨-, done, hc⟩ | ⟨tag, rest, frame, next, outer, -, hc, hf, -, -⟩ := h.closed_cases
  · rw [hc]
    rfl
  · rw [hc, hf.closeImplicit_eq]

theorem allParagraphs_finish {stack : Stack} (h : Orderly [] stack) :
    Block.allParagraphs (finish stack) = paragraphs (closeImplicit stack) := by
  obtain ⟨-, done, hc⟩ | ⟨_, _, _, _, _, ht, -⟩ := h.closed_cases
  · rw [finish_of_ended hc, hc]
    rfl
  · cases ht

theorem OpenedBy.swept_eq {tag : Tag} {frame : Frame} (h : OpenedBy tag frame)
    (hh : frame.isHolder) : frame.swept = Frame.ofTag tag ∧ ¬ tag.isSpan := by
  cases h with
  | quote | list | item => exact ⟨rfl, Bool.false_ne_true⟩
  | _ => cases hh

/-- A stack on which blocks or items can come next. Only the document lies under such a part, and
parts of the same kind. -/
theorem Orderly.holder_cases {tags : List Tag} {frame : Frame} {outer : Stack}
    (h : Orderly tags (frame :: outer)) (hh : frame.isHolder) :
    (tags = [] ∧ ∃ done, frame = .blocks .document done ∧ outer = []) ∨
      ∃ tag rest next under, tags = tag :: rest ∧ outer = next :: under ∧ OpenedBy tag frame ∧
        next.takes tag ∧ Orderly rest (next :: under) ∧ next.isHolder := by
  cases h with
  | document done => exact .inl ⟨rfl, done, rfl, rfl⟩
  | implicit done h => cases hh
  | @part tag _ next tags under hf hn h =>
    have hx := isHolder_of_takes hn (hf.swept_eq hh).2
    exact .inr ⟨tag, tags, next, under, rfl, rfl, hf, hn, h, hx⟩

theorem not_isImplicit_of_isHolder : ∀ {frame : Frame}, frame.isHolder → ¬ frame.isImplicit
  | .blocks _ _, _ | .list _ _, _ => Bool.false_ne_true

/-- Where blocks can stand, closing all that is open adds no paragraphs. -/
theorem allParagraphs_finish_of_isHolder {tags : List Tag} {frame : Frame} {outer : Stack}
    (h : Orderly tags (frame :: outer)) (hh : frame.isHolder) :
    Block.allParagraphs (finish (frame :: outer)) = paragraphs (frame :: outer) := by
  induction tags generalizing frame outer with
  | nil => rw [allParagraphs_finish h, closeImplicit_cons (not_isImplicit_of_isHolder hh)]
  | cons tag rest ih =>
    obtain ⟨ht, -⟩ | ⟨_, _, next, under, ht, rfl, hf, hn, hr, hx⟩ := h.holder_cases hh
    · cases ht
    cases ht
    have hc := closeImplicit_cons (not_isImplicit_of_isHolder hh) (next :: under)
    have ha := hr.attach hf hn
    have hp := paragraphs_attach hf hn under
    obtain ⟨grown, hg, hb⟩ : ∃ grown, attach frame (next :: under) = grown :: under ∧
        grown.isHolder := by
      cases next with
      | blocks holder blocks => exact ⟨_, attach_blocks hf hn under, rfl⟩
      | list ordered items =>
        obtain ⟨done, rfl⟩ := attach_list hf hn
        exact ⟨_, rfl, rfl⟩
      | _ => cases hx
    rw [finish_closing hc, closing_eq hc]
    rw [hg] at ha hp ⊢
    rw [ih ha hb, hp, left_of_isHolder hh]
    rfl

/-- Opening parts again gives the parts without what they held. -/
theorem foldl_reopened {tags : List Tag} {frame : Frame} {outer : Stack}
    (h : Orderly tags (frame :: outer)) (hh : frame.isHolder) :
    (reopened tags).foldl push start = (frame :: outer).map Frame.swept := by
  induction tags generalizing frame outer with
  | nil =>
    obtain ⟨-, done, rfl, rfl⟩ | ⟨_, _, _, _, ht, -⟩ := h.holder_cases hh
    · rfl
    · cases ht
  | cons tag rest ih =>
    obtain ⟨ht, -⟩ | ⟨_, _, next, under, ht, rfl, hf, hn, hr, hx⟩ := h.holder_cases hh
    · cases ht
    cases ht
    have hi : ¬ next.swept.isImplicit := by
      rw [isImplicit_swept]
      exact not_isImplicit_of_isHolder hx
    obtain ⟨he, hs⟩ := hf.swept_eq hh
    rw [reopened, List.reverse_cons, List.map_append, List.foldl_append, ← reopened, ih hr hx]
    change opening tag (next.swept :: under.map Frame.swept) = _
    rw [opening_eq, if_neg hs, closeImplicit_cons hi, ← he]
    rfl

theorem Orderly.map_swept {tags : List Tag} {stack : Stack} (h : Orderly tags stack) :
    Orderly tags (stack.map Frame.swept) := by
  induction h with
  | document done => exact .document []
  | implicit done h ih => exact .implicit done ih
  | @part tag frame next tags outer hf hn h ih =>
    have he : frame.swept.emptied = frame.emptied := by cases frame <;> rfl
    have ht : next.swept.takes tag := by cases next <;> exact hn
    exact .part (hf.refill he) ht ih

/-- Behind a place where blocks can stand come the paragraphs of what stands there, and no other. -/
theorem allParagraphs_finish_foldl {tags : List Tag} {frame : Frame} {outer : Stack}
    (h : Orderly tags (frame :: outer)) (hh : frame.isHolder) {events : List Event}
    (hf : Fit tags events) (he : openTags tags events = []) :
    Block.allParagraphs (finish (events.foldl push (frame :: outer))) =
      paragraphs (frame :: outer) ++
        Block.allParagraphs (Block.ofEvents (reopened tags ++ events)) := by
  have hs : (frame :: outer).map Frame.swept = ((frame :: outer).map Frame.swept).map Frame.swept :=
    (map_swept_map_swept _).symm
  obtain ⟨-, more, hm, hm'⟩ := ((Abreast.of_swept hs).foldl h h.map_swept hf).closeImplicit
  have ho := h.foldl hf
  have ho' := h.map_swept.foldl hf
  rw [he] at ho ho'
  rw [Block.ofEvents, List.foldl_append, foldl_reopened h hh, allParagraphs_finish ho,
    allParagraphs_finish ho', hm, hm', paragraphs_map_swept, List.nil_append]

/-- Nothing in a block of HTML leaves anything. -/
theorem foldl_skip {tags : List Tag} {body : List Event} (hb : .closing ∉ body)
    (hf : Fit (.htmlBlock :: tags) body) (outer : Stack) :
    body.foldl push (.skip :: outer) = .skip :: outer ∧
      openTags (.htmlBlock :: tags) body = .htmlBlock :: tags := by
  induction body with
  | nil => exact ⟨rfl, rfl⟩
  | cons event rest ih =>
    rw [List.mem_cons, not_or] at hb
    cases event with
    | opening tag => cases tag <;> exact absurd hf.1 Bool.false_ne_true
    | closing => exact absurd rfl hb.1
    | text s => exact ih hb.2 hf.2
    | html s => exact ih hb.2 hf.2
    | _ => exact absurd hf.1 Bool.false_ne_true

/-- A block of HTML does no more than end the paragraph of bare text before it. -/
theorem foldl_html {tags : List Tag} {body : List Event} {stack outer : Stack} {holder : Holder}
    {done : List Block} (hs : closeImplicit stack = .blocks holder done :: outer)
    (hb : .closing ∉ body) (hf : Fit (.htmlBlock :: tags) body) :
    (enclosed .htmlBlock body).foldl push stack = .blocks holder done :: outer := by
  have ho : opening .htmlBlock stack = .skip :: .blocks holder done :: outer := by
    rw [← hs]
    rfl
  rw [foldl_enclosed, ho, (foldl_skip hb hf _).1]
  rfl

theorem joined_cases (inline : Inline) (done : List Inline) :
    joined inline done = inline :: done ∨
      ∃ s t rest, inline = .text t ∧ done = .text s :: rest := by
  unfold joined
  split
  · exact .inr ⟨_, _, _, rfl, rfl⟩
  · exact .inl rfl

theorem joined_text_joined (s t : String) (done : List Inline) :
    joined (.text t) (joined (.text s) done) = joined (.text (s ++ t)) done := by
  match done with
  | [] => rfl
  | .text last :: rest => simp [joined, String.append_assoc]
  | .code _ :: _ | .emphasis _ :: _ | .strong _ :: _ | .link _ _ :: _ | .html _ :: _
  | .lineBreak :: _ => rfl

/-- What is done of a run once more inlines have come, the last first, of which no two are texts
next to each other. -/
def continued (done more : List Inline) : List Inline :=
  more.reverse.foldl (fun done inline => joined inline done) done

theorem continued_cons (done : List Inline) (inline : Inline) (more : List Inline) :
    continued done (inline :: more) = joined inline (continued done more) := by
  rw [continued, List.reverse_cons, List.foldl_append]
  rfl

theorem continued_joined (done : List Inline) (inline : Inline) (more : List Inline) :
    continued done (joined inline more) = joined inline (continued done more) := by
  rcases joined_cases inline more with hj | ⟨s, t, rest, rfl, rfl⟩
  · rw [hj, continued_cons]
  · change continued done (.text (s ++ t) :: rest) = _
    rw [continued_cons, continued_cons, joined_text_joined]

/-- Inlines that come one by one go on behind those before. -/
theorem continued_foldl (done more content : List Inline) :
    continued done (content.foldl (fun done inline => joined inline done) more) =
      content.foldl (fun done inline => joined inline done) (continued done more) := by
  induction content generalizing more with
  | nil => rfl
  | cons inline rest ih => rw [List.foldl_cons, ih, continued_joined, List.foldl_cons]

theorem continued_ne_nil {done : List Inline} (h : done ≠ []) (more : List Inline) :
    continued done more ≠ [] := by
  cases more with
  | nil => exact h
  | cons inline rest =>
    obtain ⟨last, front, hj⟩ := exists_joined inline (continued done rest)
    rw [continued_cons, hj]
    exact List.cons_ne_nil last front

/-- Two stacks with the same spans over a paragraph of bare text, which on the second has begun
only behind what is done of it on the first. -/
inductive Beside (done : List Inline) (outer outer' : Stack) : Stack → Stack → Prop
  | bare (more : List Inline) :
    Beside done outer outer' (.inlines .implicit (continued done more) :: outer)
      (.inlines .implicit more :: outer')
  | span {run : Run} (hr : run.isInline) (content : List Inline) {stack stack' : Stack}
    (h : Beside done outer outer' stack stack') :
    Beside done outer outer' (.inlines run content :: stack) (.inlines run content :: stack')

namespace Beside

variable {done : List Inline} {outer outer' stack stack' : Stack} {tags : List Tag} {event : Event}

theorem exists_run (h : Beside done outer outer' stack stack') :
    ∃ run content content' under under', stack = .inlines run content :: under ∧
      stack' = .inlines run content' :: under' := by
  cases h <;> exact ⟨_, _, _, _, _, rfl, rfl⟩

/-- Inlines that come into the innermost run. -/
theorem fill {run run' : Run} {content content' : List Inline} {under under' : Stack}
    (h : Beside done outer outer' (.inlines run content :: under)
      (.inlines run' content' :: under'))
    (more : List Inline) :
    Beside done outer outer'
      (.inlines run (more.foldl (fun done inline => joined inline done) content) :: under)
      (.inlines run' (more.foldl (fun done inline => joined inline done) content') :: under') := by
  cases h with
  | bare begun =>
    rw [← continued_foldl]
    exact .bare _
  | span hr _ h => exact .span hr _ h

/-- An event that bounds no block. -/
theorem push (h : Beside done outer outer' stack stack') (ho : Orderly tags stack)
    (hf : event.fits tags.head?) (he : event.flowing tags true) :
    Beside done outer outer' (push stack event) (push stack' event) := by
  obtain ⟨run, content, content', under, under', rfl, rfl⟩ := h.exists_run
  have leaf {inline : Inline} (hi : event.inline? = some inline) :
      Beside done outer outer' (Tree.push (.inlines run content :: under) event)
        (Tree.push (.inlines run content' :: under') event) := by
    rw [push_of_inline? hi rfl, push_of_inline? hi rfl]
    exact h.fill [inline]
  cases event with
  | opening tag =>
    have hs : tag.isSpan := (Bool.and_eq_true_iff.mp he).1
    obtain ⟨run, hr, ht⟩ : ∃ run, run.isInline ∧ Frame.ofTag tag = .inlines run [] := by
      cases tag with
      | emphasis | strong | link | image => exact ⟨_, rfl, rfl⟩
      | _ => cases hs
    change Beside done outer outer' (opening tag _) (opening tag _)
    rw [opening_eq, opening_eq, if_pos hs, if_pos hs, ht]
    exact .span hr [] h
  | closing =>
    match tags, ho, he with
    | tag :: rest, ho, he =>
      have hs : tag.isSpan := he
      obtain ⟨frame, next, low, hl, hg, hn, -⟩ := ho.exists_part (Tag.holdsBlocks_of_isSpan hs)
      cases hl
      cases h with
      | bare more => cases hg
      | span hr _ h =>
        obtain ⟨run, content, content', low, low', hl, rfl⟩ := h.exists_run
        cases hl
        have hn' : (Frame.inlines run content').takes tag := hn
        change Beside done outer outer' (Tree.closing _) (Tree.closing _)
        rw [closing_eq (hg.closeImplicit_eq _), closing_eq (hg.closeImplicit_eq _),
          attach_inlines hg hn, attach_inlines hg hn']
        exact h.fill _
  | rule => exact h
  | text s => exact leaf rfl
  | code s => exact leaf rfl
  | html s => exact leaf rfl
  | softBreak => exact leaf rfl
  | hardBreak => exact leaf rfl

/-- Only a paragraph of bare text can be ended by the bound of a block. -/
theorem exists_bare (h : Beside done outer outer' stack stack') (ho : Orderly tags stack)
    (hf : event.fits tags.head?) (he : event.flowing tags true = false) :
    ∃ more, stack = .inlines .implicit (continued done more) :: outer ∧
      stack' = .inlines .implicit more :: outer' := by
  cases h with
  | bare more => exact ⟨more, rfl, rfl⟩
  | span hr content h =>
    cases ho with
    | implicit => cases hr
    | @part tag _ next tags under hg hn ho =>
      have hs : tag.isSpan := by
        cases hg with
        | paragraph | heading => cases hr
        | _ => rfl
      have hi := Tag.holdsInlines_of_isSpan hs
      -- Inside a span no blocks fit, and all else goes on.
      cases event with
      | opening inner =>
        have hn : ¬ inner.isSpan := fun h => by simp [Event.flowing, h] at he
        by_cases hl : inner = .item
        · subst hl
          obtain ⟨ordered, hl⟩ := Tag.exists_list_of_fits hf
          cases hl
          cases hs
        · rw [Event.fits, Tag.fits_of_not_isSpan hn hl, List.head?_cons,
            Tag.holdsBlocks_of_isSpan hs] at hf
          cases hf
      | closing => exact absurd (hs.symm.trans he) (by simp)
      | rule => cases he
      | _ => exact absurd (hi.symm.trans he) (by simp)

end Beside

theorem any_filled_foldl {tags : List Tag} {stack : Stack} {events : List Event}
    (h : Orderly tags stack) (hf : Fit tags events) :
    (events.foldl push stack).any Frame.filled = flowTo tags (stack.any Frame.filled) events := by
  induction events generalizing tags stack with
  | nil => rfl
  | cons event rest ih =>
    rw [List.foldl_cons, ih (h.push hf.1) hf.2, any_filled_push h hf.1, flowTo]

/-- An event that bounds a block closes the paragraph of bare text first. -/
theorem push_closeImplicit {tags : List Tag} {stack : Stack} {event : Event}
    (h : Orderly tags stack) (hb : Tag.holdsBlocks tags.head?)
    (he : event.flowing tags true = false) :
    push (closeImplicit stack) event = push stack event := by
  have hi := Tag.holdsInlines_of_holdsBlocks hb
  have hc := closeImplicit_closeImplicit h
  cases event with
  | opening tag =>
    have hn : ¬ tag.isSpan := fun h => by simp [Event.flowing, h] at he
    change opening tag (closeImplicit stack) = opening tag stack
    rw [opening_eq, opening_eq, if_neg hn, if_neg hn, hc]
  | closing =>
    change closing (closeImplicit stack) = closing stack
    rw [closing, closing, hc]
  | rule => cases he
  | _ => exact absurd (hi.symm.trans he) (by simp)

/-- A paragraph of bare text without any leaves nothing. -/
theorem finish_foldl_openImplicit {tags : List Tag} {holder : Holder} {done : List Block}
    {outer : Stack} (h : Orderly tags (.blocks holder done :: outer)) (events : List Event) :
    finish (events.foldl push (openImplicit (.blocks holder done :: outer))) =
      finish (events.foldl push (.blocks holder done :: outer)) := by
  induction events with
  | nil => exact finish_congr h.openImplicit rfl
  | cons event rest ih =>
    cases event with
    | rule => exact ih
    | closing => rfl
    | opening tag =>
      by_cases hs : tag.isSpan
      · have hi : isInlineEvent (.opening tag) := (isInline_ofTag tag).trans hs
        rw [List.foldl_cons, push_openImplicit hi, List.foldl_cons]
      · rw [List.foldl_cons, List.foldl_cons]
        change finish (rest.foldl push (opening tag _)) = finish (rest.foldl push (opening tag _))
        rw [opening_eq, opening_eq, if_neg hs, if_neg hs]
        rfl
    | _ => rfl

theorem paragraphs_closeImplicit_bare (content : List Inline) (holder : Holder) (done : List Block)
    (outer : Stack) :
    paragraphs (closeImplicit (.inlines .implicit content :: .blocks holder done :: outer)) =
      paragraphs (.blocks holder done :: outer) ++
        if content = [] then [] else [content.reverse] := by
  cases content with
  | nil => exact (List.append_nil _).symm
  | cons last rest =>
    rw [if_neg (List.cons_ne_nil last rest)]
    exact paragraphs_blocks_cons _ holder done outer

theorem map_swept_closeImplicit_bare (content : List Inline) (outer : Stack) :
    (closeImplicit (.inlines .implicit content :: outer)).map Frame.swept =
      outer.map Frame.swept := by
  cases content with
  | nil => rfl
  | cons last rest => exact map_swept_put _ outer

theorem Orderly.holdsBlocks_of_bare {tags : List Tag} {content : List Inline} {outer : Stack}
    (h : Orderly tags (.inlines .implicit content :: outer)) : Tag.holdsBlocks tags.head? := by
  cases h with
  | implicit _ h =>
    cases h with
    | document => rfl
    | part hf => cases hf <;> rfl
  | part hf => cases hf

/-- Runs beside each other end the same way: the paragraph of bare text is closed on both stacks,
and what comes then is the same. -/
theorem Beside.exists_behind {done : List Inline} {outer outer' stack stack' : Stack}
    {tags : List Tag} {events : List Event} (h : Beside done outer outer' stack stack')
    (ho : Orderly tags stack) (ho' : Orderly tags stack')
    (hs : outer.map Frame.swept = outer'.map Frame.swept)
    (hn : outer'.any Frame.filled = false)
    (hf : Fit tags events) (he : openTags tags events = []) :
    ∃ more behind, (more ≠ [] ↔ flowFrom tags (stack'.any Frame.filled) events) ∧
      Block.allParagraphs (finish (events.foldl Tree.push stack)) =
        paragraphs (closeImplicit (.inlines .implicit (continued done more) :: outer)) ++ behind ∧
      Block.allParagraphs (finish (events.foldl Tree.push stack')) =
        paragraphs (closeImplicit (.inlines .implicit more :: outer')) ++ behind := by
  induction events generalizing tags stack stack' with
  | nil =>
    obtain rfl : tags = [] := he
    cases h with
    | span hr _ h => cases ho; cases hr
    | bare more =>
      refine ⟨more, [], ?_, ?_, ?_⟩
      · simp [flowFrom, Frame.filled, hn]
      · rw [List.foldl_nil, allParagraphs_finish ho, List.append_nil]
      · rw [List.foldl_nil, allParagraphs_finish ho', List.append_nil]
  | cons event rest ih =>
    by_cases hg : event.flowing tags true
    · obtain ⟨more, behind, hm, hb, hb'⟩ :=
        ih (h.push ho hf.1 hg) (ho.push hf.1) (ho'.push hf.1) hf.2 he
      refine ⟨more, behind, ?_, hb, hb'⟩
      rw [hm, any_filled_push ho' hf.1, flowFrom, if_pos hg]
    · have hg := eq_false_of_ne_true hg
      obtain ⟨more, rfl, rfl⟩ := h.exists_bare ho hf.1 hg
      have hb := ho.holdsBlocks_of_bare
      have hc := (map_swept_closeImplicit_bare (continued done more) outer).trans
        (hs.trans (map_swept_closeImplicit_bare more outer').symm)
      obtain ⟨-, behind, hm, hm'⟩ := ((Abreast.of_swept hc).foldl ho.closeImplicit
        ho'.closeImplicit hf).closeImplicit
      rw [List.foldl_cons, push_closeImplicit ho hb hg, ← List.foldl_cons] at hm
      rw [List.foldl_cons, push_closeImplicit ho' hb hg, ← List.foldl_cons] at hm'
      have hd := ho.foldl hf
      have hd' := ho'.foldl hf
      rw [he] at hd hd'
      refine ⟨more, behind, ?_, ?_, ?_⟩
      · simp [flowFrom, Frame.filled, hn, hg]
      · rw [allParagraphs_finish hd, hm]
      · rw [allParagraphs_finish hd', hm']

theorem continued_reverse (first second : List Inline) :
    (continued first.reverse second.reverse).reverse = Inline.met first second := by
  rw [continued, List.reverse_reverse]
  rfl

/-- A place where blocks can stand lies on a part with blocks, once the paragraph of bare text
before it is closed. -/
theorem exists_place {before : List Event} (hf : Fit [] before)
    (hb : Tag.holdsBlocks (openTags [] before).head?) :
    ∃ holder done outer,
      closeImplicit (before.foldl push start) = .blocks holder done :: outer ∧
      Orderly (openTags [] before) (.blocks holder done :: outer) ∧
      Block.allParagraphs (Block.ofEvents before) = paragraphs (.blocks holder done :: outer) ∧
      ∀ behind, Fit (openTags [] before) behind → openTags (openTags [] before) behind = [] →
        Block.allParagraphs (finish (behind.foldl push (.blocks holder done :: outer))) =
          Block.allParagraphs (Block.ofEvents before) ++
            Block.allParagraphs (Block.ofEvents (resumed before behind)) := by
  have ho := Orderly.start.foldl hf
  obtain ⟨holder, done, outer, hc⟩ := ho.exists_blocks hb
  have hp := ho.closeImplicit
  rw [hc] at hp
  have hr : Block.allParagraphs (Block.ofEvents before) =
      paragraphs (.blocks holder done :: outer) := by
    rw [← allParagraphs_finish_of_isHolder hp rfl]
    exact congrArg _ (finish_congr ho hc)
  refine ⟨holder, done, outer, hc, hp, hr, fun behind hf he => ?_⟩
  rw [allParagraphs_finish_foldl hp rfl hf he, hr, resumed]

/-- Where blocks can stand there is bare text that events can go on with, or closing its paragraph
makes no difference. -/
theorem Orderly.bare_cases {tags : List Tag} {stack : Stack} (h : Orderly tags stack)
    (hb : Tag.holdsBlocks tags.head?) :
    (stack.any Frame.filled = false ∧ ∀ events : List Event,
      finish (events.foldl Tree.push stack) =
        finish (events.foldl Tree.push (Tree.closeImplicit stack))) ∨
      ∃ content holder done outer, content ≠ [] ∧
        stack = .inlines .implicit content :: .blocks holder done :: outer ∧
        Orderly tags (.blocks holder done :: outer) := by
  cases h with
  | document done => exact .inl ⟨rfl, fun _ => rfl⟩
  | part hf hn h =>
    obtain ⟨holder, done, rfl⟩ := hf.exists_blocks hb
    exact .inl ⟨(Orderly.part hf hn h).any_filled_eq_false rfl, fun _ => rfl⟩
  | implicit content h =>
    by_cases hc : content = []
    · subst hc
      exact .inl ⟨h.any_filled_eq_false rfl, finish_foldl_openImplicit h⟩
    · exact .inr ⟨content, _, _, _, hc, rfl, h⟩

/-- Behind bare text events go on with its paragraph or begin the next one; either way what comes
then is the same. -/
theorem exists_met {tags : List Tag} {content : List Inline} {holder : Holder} {done : List Block}
    {outer : Stack} (ho : Orderly tags (.blocks holder done :: outer)) (hc : content ≠ [])
    {events : List Event} (hf : Fit tags events) (he : openTags tags events = []) :
    ∃ more behind, (more ≠ [] ↔ flowFrom tags false events) ∧
      Block.allParagraphs (finish (events.foldl push
          (.inlines .implicit content :: .blocks holder done :: outer))) =
        paragraphs (.blocks holder done :: outer) ++ (continued content more).reverse :: behind ∧
      Block.allParagraphs (finish (events.foldl push
          (.blocks holder (.paragraph content.reverse :: done) :: outer))) =
        paragraphs (.blocks holder done :: outer) ++ content.reverse ::
          ((if more = [] then [] else [more.reverse]) ++ behind) := by
  have hp : Orderly tags (.blocks holder (.paragraph content.reverse :: done) :: outer) :=
    ho.refill rfl
  have hn := hp.any_filled_eq_false rfl
  have hs : Beside content (.blocks holder done :: outer)
      (.blocks holder (.paragraph content.reverse :: done) :: outer)
      (.inlines .implicit content :: .blocks holder done :: outer)
      (.inlines .implicit [] :: .blocks holder (.paragraph content.reverse :: done) :: outer) :=
    .bare []
  obtain ⟨more, behind, hm, hb, hb'⟩ :=
    hs.exists_behind (.implicit content ho) (.implicit [] hp) rfl hn hf he
  refine ⟨more, behind, ?_, ?_, ?_⟩
  · rw [hm, List.any_cons, hn]
    rfl
  · rw [paragraphs_closeImplicit_bare, if_neg (continued_ne_nil hc more), List.append_assoc] at hb
    exact hb
  · have ho := finish_foldl_openImplicit hp events
    rw [openImplicit] at ho
    rw [ho, paragraphs_closeImplicit_bare, paragraphs_blocks_cons, List.append_assoc,
      List.append_assoc] at hb'
    exact hb'

end Tree

namespace Block

/-- Whether no paragraph goes on over some events: the paragraphs of a document are those of what
stands before them and those of what stands behind. -/
def Divided (before between behind : List Event) : Prop :=
  allParagraphs (ofEvents (before ++ (between ++ behind))) =
    allParagraphs (ofEvents before) ++ allParagraphs (ofEvents (resumed before behind))

/-- Whether a paragraph goes on over some events: the last before them and the first behind them are
one in the document. -/
def GoesOn (before between behind : List Event) : Prop :=
  ∃ front first second back, first ≠ [] ∧ second ≠ [] ∧
    allParagraphs (ofEvents before) = front ++ [first] ∧
    allParagraphs (ofEvents (resumed before behind)) = second :: back ∧
    allParagraphs (ofEvents (before ++ (between ++ behind))) =
      front ++ Inline.met first second :: back

theorem GoesOn.not_divided {before between behind : List Event} (h : GoesOn before between behind) :
    ¬ Divided before between behind := by
  obtain ⟨front, first, second, back, -, -, hb, hr, hw⟩ := h
  intro hd
  rw [Divided, hw, hb, hr] at hd
  have hl := congrArg List.length hd
  simp only [List.length_append, List.length_cons, List.length_nil] at hl
  omega

variable {before behind : List Event}

theorem divided_html {body : List Event} (hn : .closing ∉ body)
    (h : WellNested (before ++ (enclosed .htmlBlock body ++ behind))) :
    Divided before (enclosed .htmlBlock body) behind := by
  obtain ⟨hf, he⟩ := h
  obtain ⟨hp, hf⟩ := fit_append.mp hf
  obtain ⟨⟨ht, hi⟩, hr⟩ := fit_append.mp hf
  obtain ⟨hi, -⟩ := fit_append.mp hi
  have hk : openTags (openTags [] before) (enclosed .htmlBlock body) = openTags [] before := by
    change openTags (.htmlBlock :: openTags [] before) (body ++ [.closing]) = _
    rw [openTags_append, (Tree.foldl_skip hn hi []).2]
    rfl
  rw [openTags_append, openTags_append, hk] at he
  rw [hk] at hr
  obtain ⟨holder, done, outer, hc, -, -, hs⟩ := Tree.exists_place hp ht
  rw [Divided, ← hs behind hr he, ofEvents, List.foldl_append, List.foldl_append,
    Tree.foldl_html hc hn hi]

/-- At a rule a paragraph goes on if there are inlines on both sides of it to go on with. -/
theorem rule_cases (h : WellNested (before ++ ([.rule] ++ behind))) :
    ¬ (flowTo [] false before ∧ flowFrom (openTags [] before) false behind) ∧
        Divided before [.rule] behind ∨
      (flowTo [] false before ∧ flowFrom (openTags [] before) false behind) ∧
        GoesOn before [.rule] behind := by
  obtain ⟨hf, he⟩ := h
  obtain ⟨hp, ht, hr⟩ := fit_append.mp hf
  replace hr : Fit (openTags [] before) behind := hr
  rw [openTags_append] at he
  have hw : ofEvents (before ++ ([.rule] ++ behind)) =
      Tree.finish (behind.foldl Tree.push (before.foldl Tree.push Tree.start)) := by
    rw [ofEvents, List.foldl_append]
    rfl
  obtain ⟨holder, done, outer, hc, -, hl, hs⟩ := Tree.exists_place hp ht
  have ho := Tree.Orderly.start.foldl hp
  have hg : _ = flowTo [] false before := Tree.any_filled_foldl Tree.Orderly.start hp
  have hs := hs behind hr he
  obtain ⟨hn, hb⟩ | ⟨content, _, done, outer, hn, hb, hu⟩ := ho.bare_cases ht
  · refine .inl ⟨fun h => ?_, ?_⟩
    · rw [← hg, hn] at h
      cases h.1
    · rw [Divided, hw, hb, hc, hs]
  · obtain ⟨last, rest, rfl⟩ := List.exists_cons_of_ne_nil hn
    rw [hb, List.any_cons, Tree.filled_inlines, Bool.true_or] at hg
    rw [hb] at hw hc
    cases hc
    obtain ⟨more, back, hm, hd, hd'⟩ := Tree.exists_met hu hn hr he
    rw [Tree.paragraphs_blocks_cons] at hl
    have hk : allParagraphs (ofEvents (resumed before behind)) =
        (if more = [] then [] else [more.reverse]) ++ back := by
      rw [hd', hl, List.append_assoc] at hs
      exact (List.cons.inj (List.append_cancel_left hs)).2.symm
    by_cases hne : more = []
    · refine .inl ⟨fun h => hm.mpr h.2 hne, ?_⟩
      subst hne
      rw [Divided, hw, hd, hk, hl, List.append_assoc]
      rfl
    · rw [if_neg hne] at hk
      refine .inr ⟨⟨hg.symm, hm.mp hne⟩, _, (last :: rest).reverse, more.reverse, back, ?_, ?_, hl,
        hk, ?_⟩
      · exact List.reverse_ne_nil_iff.mpr hn
      · exact List.reverse_ne_nil_iff.mpr hne
      · rw [hw, hd, ← Tree.continued_reverse, List.reverse_reverse, List.reverse_reverse]

/-- No paragraph goes on over a block of HTML. Over a rule one goes on just where inlines stand
right before it and right behind it. -/
theorem divided_or_goesOn (before behind : List Event) :
    (∀ body, .closing ∉ body → WellNested (before ++ (enclosed .htmlBlock body ++ behind)) →
      Divided before (enclosed .htmlBlock body) behind) ∧
    (WellNested (before ++ ([.rule] ++ behind)) →
      (Divided before [.rule] behind ↔
        ¬ (flowTo [] false before ∧ flowFrom (openTags [] before) false behind)) ∧
      (GoesOn before [.rule] behind ↔
        flowTo [] false before ∧ flowFrom (openTags [] before) false behind)) := by
  refine ⟨fun body => divided_html, fun h => ?_⟩
  obtain ⟨hf, hd⟩ | ⟨hf, hg⟩ := rule_cases h
  · exact ⟨iff_of_true hd hf, iff_of_false (fun hg => hg.not_divided hd) hf⟩
  · exact ⟨iff_of_false hg.not_divided (not_not_intro hf), iff_of_true hg hf⟩

/-- The events of a tight item up to a place in its text. -/
def itemBefore : List Event :=
  [.opening (.list false), .opening .item, .text "a"]

/-- The events of a tight item from that place on. -/
def itemBehind : List Event :=
  [.text "b", .closing, .closing]

theorem divided_or_goesOn_item :
    (.closing ∉ [Event.html "<hr>\n"] ∧
      WellNested (itemBefore ++ (enclosed .htmlBlock [.html "<hr>\n"] ++ itemBehind)) ∧
      Divided itemBefore (enclosed .htmlBlock [.html "<hr>\n"]) itemBehind) ∧
    (WellNested (itemBefore ++ ([.rule] ++ itemBehind)) ∧
      GoesOn itemBefore [.rule] itemBehind) := by
  have hh : WellNested (itemBefore ++ (enclosed .htmlBlock [.html "<hr>\n"] ++ itemBehind)) :=
    ⟨⟨rfl, rfl, rfl, rfl, rfl, rfl, rfl, rfl, rfl, trivial⟩, rfl⟩
  have hr : WellNested (itemBefore ++ ([.rule] ++ itemBehind)) :=
    ⟨⟨rfl, rfl, rfl, rfl, rfl, rfl, rfl, trivial⟩, rfl⟩
  obtain ⟨h, h'⟩ := divided_or_goesOn itemBefore itemBehind
  exact ⟨⟨by simp, hh, h _ (by simp) hh⟩, hr, (h' hr).2.mpr ⟨rfl, rfl⟩⟩

/-- The two texts of a tight item around a rule are one paragraph. -/
theorem not_forall_divided :
    ¬ ∀ before behind, WellNested (before ++ ([.rule] ++ behind)) →
      Divided before [.rule] behind := by
  have hr : WellNested (itemBefore ++ ([.rule] ++ itemBehind)) :=
    ⟨⟨rfl, rfl, rfl, rfl, rfl, rfl, rfl, trivial⟩, rfl⟩
  have hw : ofEvents (itemBefore ++ ([.rule] ++ itemBehind)) =
      [.list false [[.paragraph [.text "ab"]]]] := by
    cbv
  have hp : ofEvents itemBefore = [.list false [[.paragraph [.text "a"]]]] := by
    cbv
  have hb : ofEvents (resumed itemBefore itemBehind) =
      [.list false [[.paragraph [.text "b"]]]] := by
    cbv
  intro h
  have hd := h itemBefore itemBehind hr
  rw [Divided, hw, hp, hb] at hd
  exact absurd (congrArg List.length hd) (by decide)

end Block

end ApiDocs
