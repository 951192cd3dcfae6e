import ApiDocs.Markup.Tree
import ApiDocs.Proofs.Markup.Written

/-!
# Documents rebuilt from their events

Building blocks from events that write a document gives that document, where no two texts stand next
to each other. A written inline goes to the front of the run that is open; a written block goes to
the front of the blocks that are left once a paragraph of bare text is closed.
-/

namespace ApiDocs

namespace Tree

theorem joined_of_apart {inline : Inline} {done : List Inline}
    (h : inline.isText → ∀ last ∈ done.head?, ¬ last.isText) :
    joined inline done = inline :: done := by
  unfold joined
  split
  · rename_i next last rest
    exact absurd rfl (h rfl (.text last) rfl)
  · rfl

theorem addInline_inlines (inline : Inline) (run : Run) (done : List Inline) (outer : Stack) :
    addInline inline (.inlines run done :: outer) = .inlines run (joined inline done) :: outer :=
  rfl

theorem push_text_inlines (s : String) (run : Run) (done : List Inline) (outer : Stack) :
    push (.inlines run done :: outer) (.text s) =
      .inlines run (joined (.text s) done) :: outer :=
  rfl

/-- Pieces of a text make one text. -/
theorem foldl_pieces (pieces : List String) (run : Run) (s : String) (done : List Inline)
    (outer : Stack) :
    (pieces.map Event.text).foldl push (.inlines run (.text s :: done) :: outer) =
      .inlines run (.text (s ++ String.join pieces) :: done) :: outer := by
  induction pieces generalizing s with
  | nil => simp
  | cons piece rest ih =>
    rw [List.map_cons, List.foldl_cons, push_text_inlines, joined, ih, String.join_cons,
      String.append_assoc]

/-- Pieces of a block of code make one block. -/
theorem foldl_code (pieces : List String) (s : String) (outer : Stack) :
    (pieces.map Event.text).foldl push (.code s :: outer) =
      .code (s ++ String.join pieces) :: outer := by
  induction pieces generalizing s with
  | nil => simp
  | cons piece rest ih =>
    rw [List.map_cons, List.foldl_cons, String.join_cons, ← String.append_assoc]
    exact ih (s ++ piece)

theorem foldl_enclosed (tag : Tag) (events : List Event) (stack : Stack) :
    (enclosed tag events).foldl push stack = closing (events.foldl push (opening tag stack)) := by
  rw [enclosed, List.foldl_cons, List.foldl_append]
  rfl

/-- A span around written inlines goes to the front of the open run as one inline. -/
theorem foldl_span {tag : Tag} {inner : Run} {wrap : List Inline → Inline}
    (hf : Frame.ofTag tag = .inlines inner []) (hi : inner.isInline)
    (ha : ∀ content stack, attach (.inlines inner content) stack =
      addInline (wrap content.reverse) stack)
    {content : List Inline} {events : List Event} {run : Run} {done : List Inline} {outer : Stack}
    (hc : events.foldl push (.inlines inner [] :: .inlines run done :: outer) =
      .inlines inner (content.reverse ++ []) :: .inlines run done :: outer)
    (hw : ¬ (wrap content).isText) :
    (enclosed tag events).foldl push (.inlines run done :: outer) =
      .inlines run (wrap content :: done) :: outer := by
  have ho : opening tag (.inlines run done :: outer) =
      .inlines inner [] :: .inlines run done :: outer := by
    simp only [opening, hf, Frame.isInline, hi, if_true, openImplicit]
  have hk : closeImplicit (.inlines inner content.reverse :: .inlines run done :: outer) =
      .inlines inner content.reverse :: .inlines run done :: outer := by
    cases inner with
    | heading level => cases hi
    | paragraph => cases hi
    | implicit => cases hi
    | _ => rfl
  rw [List.append_nil] at hc
  rw [foldl_enclosed, ho, hc, closing, hk]
  change attach _ _ = _
  rw [ha, List.reverse_reverse, addInline_inlines, joined_of_apart fun ht => absurd ht hw]

mutual

/-- A written inline goes to the front of the open run. -/
theorem foldl_inline : ∀ (inline : Inline) {events : List Event} (run : Run) (done : List Inline)
    (outer : Stack), inline.Written events → inline.Parted →
    (inline.isText → ∀ last ∈ done.head?, ¬ last.isText) →
    events.foldl push (.inlines run done :: outer) = .inlines run (inline :: done) :: outer
  | .text s, events, run, done, outer, hw, _, hd => by
    cases hw with
    | text pieces hn =>
      cases pieces with
      | nil => exact absurd rfl hn
      | cons piece rest =>
        have hj : joined (.text piece) done = .text piece :: done := joined_of_apart hd
        rw [List.map_cons, List.foldl_cons, push_text_inlines, hj, foldl_pieces, String.join_cons]
  | .code s, _, run, done, outer, hw, _, hd => by
    cases hw
    exact congrArg (.inlines run · :: outer) (joined_of_apart hd)
  | .emphasis content, _, run, done, outer, hw, hp, _ => by
    cases hw with
    | emphasis h =>
      exact foldl_span rfl rfl (fun _ _ => rfl)
        (foldl_inlines content .emphasis [] _ h hp (by simp)) Bool.false_ne_true
  | .strong content, _, run, done, outer, hw, hp, _ => by
    cases hw with
    | strong h =>
      exact foldl_span rfl rfl (fun _ _ => rfl)
        (foldl_inlines content .strong [] _ h hp (by simp)) Bool.false_ne_true
  | .link url content, _, run, done, outer, hw, hp, _ => by
    cases hw with
    | link _ h =>
      exact foldl_span rfl rfl (fun _ _ => rfl)
        (foldl_inlines content (.link url) [] _ h hp (by simp)) Bool.false_ne_true
  | .html s, _, run, done, outer, hw, _, hd => by
    cases hw
    exact congrArg (.inlines run · :: outer) (joined_of_apart hd)
  | .lineBreak, _, run, done, outer, hw, _, hd => by
    cases hw <;> exact congrArg (.inlines run · :: outer) (joined_of_apart hd)

/-- Written inlines go to the front of the open run one by one. -/
theorem foldl_inlines : ∀ (content : List Inline) {events : List Event} (run : Run)
    (done : List Inline) (outer : Stack), Inline.AllWritten content events →
    Inline.AllParted content →
    (∀ first ∈ content.head?, first.isText → ∀ last ∈ done.head?, ¬ last.isText) →
    events.foldl push (.inlines run done :: outer) =
      .inlines run (content.reverse ++ done) :: outer
  | [], _, run, done, outer, hw, _, _ => by
    cases hw
    rfl
  | inline :: content, _, run, done, outer, hw, hp, hd => by
    cases hw with
    | cons h hr =>
      obtain ⟨hi, hn, hc⟩ := hp
      rw [List.foldl_append, foldl_inline inline run done outer h hi (hd inline rfl),
        foldl_inlines content run (inline :: done) outer hr hc, List.reverse_cons,
        List.append_assoc, List.singleton_append]
      intro first hf ht last hl
      obtain rfl : inline = last := by simpa using hl
      exact fun hi => hn hi first hf ht

end

/-- Whether an event stands among inlines. -/
def isInlineEvent : Event → Bool
  | .opening tag => (Frame.ofTag tag).isInline
  | .closing => false
  | .rule => false
  | _ => true

theorem openImplicit_cases (stack : Stack) :
    openImplicit stack = stack ∨ ∃ holder done outer, stack = .blocks holder done :: outer := by
  unfold openImplicit
  split
  · exact .inr ⟨_, _, _, rfl⟩
  · exact .inl rfl

/-- An event among inlines opens the paragraph that it needs. -/
theorem push_openImplicit {event : Event} (h : isInlineEvent event) (stack : Stack) :
    push (openImplicit stack) event = push stack event := by
  rcases openImplicit_cases stack with ho | ⟨holder, done, outer, rfl⟩
  · rw [ho]
  · cases event with
    | opening tag =>
      change (Frame.ofTag tag).isInline = true at h
      simp only [push, opening, h, if_true, openImplicit]
    | closing => cases h
    | rule => cases h
    | _ => rfl

theorem isInlineEvent_of_written {inline : Inline} {events : List Event}
    (h : inline.Written events) : ∃ event rest, events = event :: rest ∧ isInlineEvent event := by
  cases h with
  | text pieces hn =>
    obtain ⟨piece, rest, rfl⟩ := List.exists_cons_of_ne_nil hn
    exact ⟨_, _, rfl, rfl⟩
  | _ => exact ⟨_, _, rfl, rfl⟩

/-- Written inlines among blocks go into a paragraph of their own, which stays open. -/
theorem foldl_bare {content : List Inline} {events : List Event}
    (hw : Inline.AllWritten content events) (hp : Inline.AllParted content) (hc : content ≠ [])
    (holder : Holder) (done : List Block) (outer : Stack) :
    events.foldl push (.blocks holder done :: outer) =
      .inlines .implicit content.reverse :: .blocks holder done :: outer := by
  have ho : events.foldl push (.blocks holder done :: outer) =
      events.foldl push (.inlines .implicit [] :: .blocks holder done :: outer) := by
    cases hw with
    | nil => exact absurd rfl hc
    | cons h hr =>
      obtain ⟨event, rest, rfl, he⟩ := isInlineEvent_of_written h
      rw [List.cons_append, List.foldl_cons, List.foldl_cons, ← push_openImplicit he]
      rfl
  have hf := foldl_inlines content .implicit [] (.blocks holder done :: outer) hw hp (by simp)
  rw [ho, hf, List.append_nil]

/-- A part with inlines that is not itself an inline becomes a block. -/
theorem foldl_run {tag : Tag} {run : Run} {wrap : List Inline → Block}
    (hf : Frame.ofTag tag = .inlines run []) (hi : run.isInline = false) (hr : run ≠ .implicit)
    (ha : ∀ content stack, attach (.inlines run content) stack =
      addBlock (wrap content.reverse) stack)
    {content : List Inline} {events : List Event} (hw : Inline.AllWritten content events)
    (hp : Inline.AllParted content) {stack : Stack} {holder : Holder} {done : List Block}
    {outer : Stack} (hs : closeImplicit stack = .blocks holder done :: outer) :
    (enclosed tag events).foldl push stack = .blocks holder (wrap content :: done) :: outer := by
  have ho : opening tag stack = .inlines run [] :: .blocks holder done :: outer := by
    simp [opening, hf, Frame.isInline, hi, hs]
  have hc := foldl_inlines content run [] (.blocks holder done :: outer) hw hp (by simp)
  have hk : closeImplicit (.inlines run content.reverse :: .blocks holder done :: outer) =
      .inlines run content.reverse :: .blocks holder done :: outer := by
    cases run with
    | implicit => exact absurd rfl hr
    | _ => rfl
  rw [foldl_enclosed, ho, hc, List.append_nil, closing, hk]
  change attach _ _ = _
  rw [ha, List.reverse_reverse]
  rfl

mutual

/-- A written block goes to the front of the blocks that are left once a paragraph of bare text is
closed. -/
theorem foldl_block : ∀ (block : Block) {events : List Event} {stack : Stack} {holder : Holder}
    {done : List Block} {outer : Stack}, block.Written events → block.Parted →
    closeImplicit stack = .blocks holder done :: outer →
    events.foldl push stack = .blocks holder (block :: done) :: outer
  | .heading level content, _, stack, _, _, _, hw, hp, hs => by
    cases hw with
    | heading _ h => exact foldl_run rfl rfl (by simp) (fun _ _ => rfl) h hp hs
  | .paragraph content, _, stack, _, _, _, hw, hp, hs => by
    cases hw with
    | paragraph h => exact foldl_run rfl rfl (by simp) (fun _ _ => rfl) h hp hs
  | .list ordered items, _, stack, holder, done, outer, hw, hp, hs => by
    cases hw with
    | @list _ _ events h =>
      have ho : opening (.list ordered) stack =
          .list ordered [] :: .blocks holder done :: outer := by
        rw [← hs]
        rfl
      rw [foldl_enclosed, ho, foldl_items items h hp, List.append_nil]
      change addBlock (.list ordered items.reverse.reverse) (.blocks holder done :: outer) = _
      rw [List.reverse_reverse]
      rfl
  | .quote blocks, _, stack, holder, done, outer, hw, hp, hs => by
    cases hw with
    | @quote _ events h =>
      have ho : opening .quote stack = .blocks .quote [] :: .blocks holder done :: outer := by
        rw [← hs]
        rfl
      rw [foldl_enclosed, ho, foldl_blocks blocks h hp, List.append_nil]
      change addBlock (.quote blocks.reverse.reverse) (.blocks holder done :: outer) = _
      rw [List.reverse_reverse]
      rfl
  | .code s, _, stack, holder, done, outer, hw, _, hs => by
    cases hw with
    | code pieces =>
      have ho : opening .codeBlock stack = .code "" :: .blocks holder done :: outer := by
        rw [← hs]
        rfl
      rw [foldl_enclosed, ho, foldl_code, String.empty_append]
      rfl

/-- Written blocks go to the front one by one. -/
theorem foldl_blocks : ∀ (blocks : List Block) {events : List Event} {holder : Holder}
    {done : List Block} {outer : Stack}, Block.AllWritten blocks events → Block.AllParted blocks →
    events.foldl push (.blocks holder done :: outer) =
      .blocks holder (blocks.reverse ++ done) :: outer
  | [], _, _, _, _, hw, _ => by
    cases hw
    rfl
  | block :: blocks, _, holder, done, outer, hw, hp => by
    cases hw with
    | cons h hr =>
      rw [List.foldl_append, foldl_block block h hp.1 rfl, foldl_blocks blocks hr hp.2,
        List.reverse_cons, List.append_assoc, List.singleton_append]

/-- Written items go to the front of their list one by one. -/
theorem foldl_items : ∀ (items : List (List Block)) {events : List Event} {ordered : Bool}
    {done : List (List Block)} {outer : Stack}, Block.ItemsWritten items events →
    Block.ItemsParted items →
    events.foldl push (.list ordered done :: outer) =
      .list ordered (items.reverse ++ done) :: outer
  | [], _, _, _, _, hw, _ => by
    cases hw
    rfl
  | blocks :: items, _, ordered, done, outer, hw, hp => by
    cases hw with
    | @cons _ _ events rest h hr =>
      have ho : opening .item (.list ordered done :: outer) =
          .blocks .item [] :: .list ordered done :: outer :=
        rfl
      have hk : closeImplicit
          (events.foldl push (.blocks .item [] :: .list ordered done :: outer)) =
          .blocks .item (blocks.reverse ++ []) :: .list ordered done :: outer :=
        closeImplicit_foldl_item blocks h hp.1 rfl fun _ => rfl
      have hc : closing (events.foldl push (.blocks .item [] :: .list ordered done :: outer)) =
          .list ordered (blocks :: done) :: outer := by
        rw [closing, hk, List.append_nil]
        change Frame.list ordered (blocks.reverse.reverse :: done) :: outer = _
        rw [List.reverse_reverse]
      rw [List.foldl_append, foldl_enclosed, ho, hc, foldl_items items hr hp.2, List.reverse_cons,
        List.append_assoc, List.singleton_append]

/-- The written blocks of an item go to its front one by one, the last once it is closed. -/
theorem closeImplicit_foldl_item : ∀ (blocks : List Block) {events : List Event}
    {afterBare : Bool} {stack : Stack} {holder : Holder} {done : List Block} {outer : Stack},
    Block.ItemWritten afterBare blocks events → Block.AllParted blocks →
    closeImplicit stack = .blocks holder done :: outer →
    (afterBare = false → stack = .blocks holder done :: outer) →
    closeImplicit (events.foldl push stack) = .blocks holder (blocks.reverse ++ done) :: outer
  | [], _, _, _, _, _, _, hw, _, hs, _ => by
    cases hw
    exact hs
  | block :: blocks, _, _, stack, holder, done, outer, hw, hp, hs, hb => by
    cases hw with
    | block _ h hr =>
      have hf := foldl_block block h hp.1 hs
      rw [List.foldl_append, hf, List.reverse_cons, List.append_assoc, List.singleton_append]
      exact closeImplicit_foldl_item blocks hr hp.2 rfl fun _ => rfl
    | @bare content _ events rest hc h hr =>
      have hf := foldl_bare h hp.1 hc holder done outer
      have hk : closeImplicit (.inlines .implicit content.reverse :: .blocks holder done :: outer) =
          .blocks holder (.paragraph content :: done) :: outer := by
        obtain ⟨last, front, he⟩ := List.exists_cons_of_ne_nil (List.reverse_ne_nil_iff.mpr hc)
        have hr := congrArg List.reverse he
        rw [List.reverse_reverse] at hr
        rw [he, hr]
        rfl
      rw [List.foldl_append, hb rfl, hf, List.reverse_cons, List.append_assoc,
        List.singleton_append]
      exact closeImplicit_foldl_item blocks hr hp.2 hk (fun h => by cases h)

end

theorem finish_document (done : List Block) : finish [.blocks .document done] = done.reverse := by
  unfold finish
  rfl

end Tree

namespace Block

/-- A document in which no two texts stand next to each other can be written as events, and each
way to write it gives it back. -/
theorem ofEvents_written {blocks : List Block} (h : AllParted blocks) :
    (∃ events, AllWritten blocks events) ∧
      ∀ events, AllWritten blocks events → ofEvents events = blocks := by
  refine ⟨exists_allWritten blocks, fun events hw => ?_⟩
  have hf : events.foldl Tree.push Tree.start = [.blocks .document (blocks.reverse ++ [])] :=
    Tree.foldl_blocks blocks hw h
  rw [ofEvents, hf, List.append_nil, Tree.finish_document, List.reverse_reverse]

/-- A tight list whose first item goes on after a list inside it. -/
def tightBlocks : List Block :=
  [.list false
    [[.paragraph [.emphasis [.text "macOS"], .text " only"],
        .list true [[.paragraph [.code "size"]]], .paragraph [.text "and ", .strong []]],
      [.paragraph [], .paragraph [.lineBreak]]]]

/-- The events of that list, texts in pieces and paragraphs bare where they can be. -/
def tightEvents : List Event :=
  [.opening (.list false), .opening .item, .opening .emphasis, .text "mac", .text "OS", .closing,
    .text " only", .opening (.list true), .opening .item, .code "size", .closing, .closing,
    .text "and ", .opening .strong, .closing, .closing, .opening .item, .opening .paragraph,
    .closing, .hardBreak, .closing, .closing]

theorem ofEvents_written_tight :
    AllParted tightBlocks ∧ AllWritten tightBlocks tightEvents ∧
      ofEvents tightEvents = tightBlocks := by
  have h : AllParted tightBlocks := by
    simp [tightBlocks, AllParted, Parted, ItemsParted, Inline.AllParted, Inline.Parted,
      Inline.isText]
  have hw : AllWritten tightBlocks tightEvents := by
    have hsize : ItemsWritten [[.paragraph [.code "size"]]] _ :=
      .cons (.bare (by simp) (.cons (.code "size") .nil) (.nil true)) .nil
    have hfirst : Inline.AllWritten [.emphasis [.text "macOS"], .text " only"] _ :=
      .cons (.emphasis (.cons (.text ["mac", "OS"] (by simp)) .nil))
        (.cons (.text [" only"] (by simp)) .nil)
    have hlast : Inline.AllWritten [.text "and ", .strong []] _ :=
      .cons (.text ["and "] (by simp)) (.cons (.strong .nil) .nil)
    exact .cons (.list false (.cons (.bare (by simp) hfirst (.block true (.list true hsize)
      (.bare (by simp) hlast (.nil true))))
      (.cons (.block false (.paragraph .nil) (.bare (by simp) (.cons .hardBreak .nil) (.nil true)))
        .nil))) .nil
  exact ⟨h, hw, (ofEvents_written h).2 _ hw⟩

end Block

end ApiDocs
