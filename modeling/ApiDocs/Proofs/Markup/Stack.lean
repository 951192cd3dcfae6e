import ApiDocs.Markup.Tree
import ApiDocs.Proofs.Markup.Written
import Mathlib.Data.List.Chain
import Mathlib.Logic.Function.Iterate

/-!
# Stacks of open parts

What holds of the open parts after any events, balanced or not. The document lies at the bottom, a
paragraph of bare text lies right on a part that holds blocks, and no part holds two texts next to
each other. So closing the innermost part over and over comes to an end when only the document is
left.
-/

namespace ApiDocs

/-- Whether two inlines are not both texts. -/
def Inline.Apart (a b : Inline) : Prop :=
  a.isText → ¬ b.isText

theorem Inline.allParted_iff {content : List Inline} :
    AllParted content ↔ (∀ inline ∈ content, inline.Parted) ∧ content.IsChain Apart := by
  induction content with
  | nil => simp [AllParted]
  | cons inline rest ih =>
    rw [AllParted, ih, List.forall_mem_cons, List.isChain_cons]
    constructor
    · rintro ⟨hi, hn, hr, hc⟩
      exact ⟨⟨hi, hr⟩, fun next h ht => hn ht next h, hc⟩
    · rintro ⟨⟨hi, hr⟩, hn, hc⟩
      exact ⟨hi, fun ht next h => hn next h ht, hr, hc⟩

theorem Inline.AllParted.reverse {content : List Inline} (h : AllParted content) :
    AllParted content.reverse := by
  obtain ⟨hi, hc⟩ := allParted_iff.mp h
  apply allParted_iff.mpr
  refine ⟨fun inline hm => hi inline (List.mem_reverse.mp hm), List.isChain_reverse.mpr ?_⟩
  exact hc.imp fun a b hab hb ha => hab ha hb

theorem Block.allParted_iff {blocks : List Block} :
    AllParted blocks ↔ ∀ block ∈ blocks, block.Parted := by
  induction blocks with
  | nil => simp [AllParted]
  | cons block rest ih => rw [AllParted, ih, List.forall_mem_cons]

theorem Block.itemsParted_iff {items : List (List Block)} :
    ItemsParted items ↔ ∀ blocks ∈ items, AllParted blocks := by
  induction items with
  | nil => simp [ItemsParted]
  | cons blocks rest ih => rw [ItemsParted, ih, List.forall_mem_cons]

theorem Block.AllParted.reverse {blocks : List Block} (h : AllParted blocks) :
    AllParted blocks.reverse := by
  rw [allParted_iff] at h ⊢
  exact fun block hm => h block (List.mem_reverse.mp hm)

namespace Tree

/-- A text that comes next to a text becomes one with it. -/
theorem allParted_joined {inline : Inline} {done : List Inline} (hi : inline.Parted)
    (hd : Inline.AllParted done) : Inline.AllParted (joined inline done) := by
  unfold joined
  split
  · exact ⟨trivial, hd.2.1, hd.2.2⟩
  · rename_i hne
    refine ⟨hi, fun ht last hl hlast => ?_, hd⟩
    cases inline with
    | text next =>
      cases last with
      | text s =>
        obtain ⟨rest, rfl⟩ := List.head?_eq_some_iff.mp hl
        exact hne next s rest rfl rfl
      | _ => cases hlast
    | _ => cases ht

def Frame.isImplicit : Frame → Bool
  | .inlines .implicit _ => true
  | _ => false

def Frame.holdsBlocks : Frame → Bool
  | .blocks _ _ => true
  | _ => false

/-- The document lies at the bottom, and each paragraph of bare text right on a part that holds
blocks. -/
def Grounded : Stack → Prop
  | [] => False
  | [frame] => ∃ done, frame = .blocks .document done
  | frame :: next :: rest => (frame.isImplicit → next.holdsBlocks) ∧ Grounded (next :: rest)

/-- Whether no two texts stand next to each other in a part. The order of what is done, the last
first, makes no difference. -/
def Frame.Parted : Frame → Prop
  | .blocks _ done => Block.AllParted done
  | .list _ done => Block.ItemsParted done
  | .inlines _ done => Inline.AllParted done
  | .code _ => True
  | .skip => True

/-- A stack as events leave it. -/
structure Sound (stack : Stack) : Prop where
  grounded : Grounded stack
  parted : ∀ frame ∈ stack, frame.Parted

/-- A part without what it holds. -/
def Frame.emptied : Frame → Frame
  | .blocks holder _ => .blocks holder []
  | .list ordered _ => .list ordered []
  | .inlines run _ => .inlines run []
  | .code _ => .code ""
  | .skip => .skip

theorem Frame.isImplicit_emptied (frame : Frame) : frame.emptied.isImplicit = frame.isImplicit := by
  cases frame with
  | inlines run done => cases run <;> rfl
  | _ => rfl

/-- What the innermost part holds does not matter to where it lies. -/
theorem Grounded.refill {frame filled : Frame} {rest : Stack} (h : Grounded (frame :: rest))
    (he : filled.emptied = frame.emptied) : Grounded (filled :: rest) := by
  cases rest with
  | nil =>
    obtain ⟨done, rfl⟩ := h
    cases filled with
    | blocks holder more =>
      obtain rfl : holder = .document := by simpa [Frame.emptied] using he
      exact ⟨more, rfl⟩
    | _ => simp [Frame.emptied] at he
  | cons next rest =>
    have hi : filled.isImplicit = frame.isImplicit := by
      rw [← filled.isImplicit_emptied, he, frame.isImplicit_emptied]
    exact ⟨hi ▸ h.1, h.2⟩

theorem Grounded.cons {frame : Frame} {stack : Stack} (h : Grounded stack)
    (hf : frame.isImplicit → stack.head?.any Frame.holdsBlocks) : Grounded (frame :: stack) := by
  cases stack with
  | nil => exact absurd h id
  | cons next rest => exact ⟨hf, h⟩

/-- Ending a paragraph of bare text is adding it as a block. Before it is put down there is no
further paragraph to end, since a part that holds blocks lies under it. -/
theorem Grounded.closeImplicit_eq_addBlock {done : List Inline} {rest : Stack}
    (h : Grounded (.inlines .implicit done :: rest)) (hne : done ≠ []) :
    closeImplicit (.inlines .implicit done :: rest) =
      addBlock (.paragraph done.reverse) rest := by
  obtain ⟨inline, more, rfl⟩ := List.exists_cons_of_ne_nil hne
  cases rest with
  | nil =>
    obtain ⟨blocks, hb⟩ := h
    cases hb
  | cons next rest =>
    have hn := h.1 rfl
    cases next with
    | blocks holder blocks => rfl
    | _ => cases hn

namespace Sound

variable {stack : Stack} {frame next : Frame} {rest : Stack}

theorem start : Sound start :=
  ⟨⟨[], rfl⟩, fun frame h => by rw [List.mem_singleton.mp h]; exact trivial⟩

theorem tail (h : Sound (frame :: next :: rest)) : Sound (next :: rest) :=
  ⟨h.grounded.2, fun f hf => h.parted f (List.mem_cons_of_mem _ hf)⟩

theorem head (h : Sound (frame :: rest)) : frame.Parted :=
  h.parted frame List.mem_cons_self

theorem refill {filled : Frame} (h : Sound (frame :: rest)) (he : filled.emptied = frame.emptied)
    (hf : filled.Parted) : Sound (filled :: rest) :=
  ⟨h.grounded.refill he,
    List.forall_mem_cons.mpr ⟨hf, fun f hm => h.parted f (List.mem_cons_of_mem _ hm)⟩⟩

theorem cons (h : Sound stack) (hf : frame.isImplicit → stack.head?.any Frame.holdsBlocks)
    (hp : frame.Parted) : Sound (frame :: stack) :=
  ⟨h.grounded.cons hf, List.forall_mem_cons.mpr ⟨hp, h.parted⟩⟩

theorem put {block : Block} (h : Sound stack) (hb : block.Parted) : Sound (put block stack) := by
  unfold Tree.put
  split
  · exact h.refill rfl ⟨hb, h.head⟩
  · exact h

/-- What a paragraph of bare text lies on is sound itself. -/
theorem closeImplicit (h : Sound stack) : Sound (closeImplicit stack) := by
  unfold Tree.closeImplicit
  split
  · rename_i rest
    cases rest with
    | nil => obtain ⟨done, hd⟩ := h.grounded; cases hd
    | cons next rest => exact h.tail
  · rename_i done rest _
    cases rest with
    | nil => obtain ⟨done, hd⟩ := h.grounded; cases hd
    | cons next rest => exact h.tail.put h.head.reverse
  · exact h

theorem openImplicit (h : Sound stack) : Sound (openImplicit stack) := by
  unfold Tree.openImplicit
  split
  · exact h.cons (fun _ => rfl) trivial
  · exact h

theorem addBlock {block : Block} (h : Sound stack) (hb : block.Parted) :
    Sound (addBlock block stack) :=
  h.closeImplicit.put hb

theorem addInline {inline : Inline} (h : Sound stack) (hi : inline.Parted) :
    Sound (addInline inline stack) := by
  have ho := h.openImplicit
  unfold Tree.addInline
  split
  · rename_i run done rest he
    rw [he] at ho
    exact ho.refill rfl (allParted_joined hi ho.head)
  · exact ho

/-- An image leaves its inlines one by one. -/
theorem addInlines {content : List Inline} (h : Sound stack)
    (hc : ∀ inline ∈ content, inline.Parted) :
    Sound (content.foldl (fun stack inline => Tree.addInline inline stack) stack) := by
  induction content generalizing stack with
  | nil => exact h
  | cons inline rest ih =>
    rw [List.forall_mem_cons] at hc
    exact ih (h.addInline hc.1) hc.2

theorem attach (h : Sound stack) (hf : frame.Parted) : Sound (attach frame stack) := by
  unfold Tree.attach
  split
  · rename_i done
    split
    · exact h.refill rfl ⟨Block.AllParted.reverse hf, h.head⟩
    · exact h
  · exact h.addBlock (Block.AllParted.reverse hf)
  · exact h
  · exact h
  · rename_i ordered items
    refine h.addBlock (Block.itemsParted_iff.mpr fun blocks hm => ?_)
    exact Block.itemsParted_iff.mp hf blocks (List.mem_reverse.mp hm)
  · exact h.addBlock trivial
  · rename_i run done
    have hd : Inline.AllParted done.reverse := Inline.AllParted.reverse hf
    cases run with
    | heading level => exact h.addBlock hd
    | paragraph => exact h.addBlock hd
    | implicit => exact h.addBlock hd
    | emphasis => exact h.addInline hd
    | strong => exact h.addInline hd
    | link url => exact h.addInline hd
    | image => exact h.addInlines (Inline.allParted_iff.mp hd).1

theorem opening (h : Sound stack) (tag : Tag) : Sound (opening tag stack) := by
  have hi : (Frame.ofTag tag).isImplicit = false := by cases tag <;> rfl
  have hp : (Frame.ofTag tag).Parted := by cases tag <;> trivial
  unfold Tree.opening
  dsimp only
  split
  · exact h.openImplicit.cons (by simp [hi]) hp
  · exact h.closeImplicit.cons (by simp [hi]) hp

theorem closing (h : Sound stack) : Sound (closing stack) := by
  have hc := h.closeImplicit
  unfold Tree.closing
  split
  · rename_i frame next rest he
    rw [he] at hc
    exact hc.tail.attach hc.head
  · exact hc

theorem text (h : Sound stack) (s : String) : Sound (text s stack) := by
  unfold Tree.text
  split
  · exact h.refill rfl trivial
  · exact h
  · exact h.addInline trivial

theorem html (h : Sound stack) (s : String) : Sound (html s stack) := by
  unfold Tree.html
  split
  · exact h
  · exact h.addInline trivial

/-- Each event keeps the stack sound, wherever it comes. -/
theorem push (h : Sound stack) (event : Event) : Sound (push stack event) := by
  cases event with
  | opening tag => exact h.opening tag
  | closing => exact h.closing
  | text s => exact h.text s
  | code s => exact h.addInline trivial
  | html s => exact h.html s
  | softBreak => exact h.addInline trivial
  | hardBreak => exact h.addInline trivial
  | rule => exact h

theorem foldl (h : Sound stack) (events : List Event) : Sound (events.foldl Tree.push stack) := by
  induction events generalizing stack with
  | nil => exact h
  | cons event rest ih => exact ih (h.push event)

end Sound

theorem finish_of_ended {stack : Stack} {holder : Holder} {done : List Block}
    (h : closeImplicit stack = [.blocks holder done]) : finish stack = done.reverse := by
  rw [finish]
  split
  · rename_i he
    rw [h] at he
    cases he
    rfl
  · rename_i he
    rw [h] at he
    cases he
  · rename_i hne _
    exact absurd h (hne holder done)

theorem closing_eq {stack rest : Stack} {frame next : Frame}
    (h : closeImplicit stack = frame :: next :: rest) :
    closing stack = attach frame (next :: rest) := by
  rw [closing, h]

theorem finish_closing {stack rest : Stack} {frame next : Frame}
    (h : closeImplicit stack = frame :: next :: rest) : finish stack = finish (closing stack) := by
  rw [closing_eq h, finish]
  split
  · rename_i he
    rw [h] at he
    cases he
  · rename_i he
    rw [h] at he
    cases he
    rfl
  · rename_i hne
    exact absurd h (hne frame next rest)

/-- Each round of closing leaves fewer parts open, and the last one only the document. -/
theorem exists_rounds {stack : Stack} (h : Sound stack) :
    ∃ rounds done, rounds < (closeImplicit stack).length ∧
      closeImplicit (closing^[rounds] stack) = [.blocks .document done] ∧
      finish stack = done.reverse ∧ Block.AllParted done := by
  induction hn : (closeImplicit stack).length using Nat.strong_induction_on generalizing stack with
  | h n ih =>
    have hc := h.closeImplicit
    match hs : closeImplicit stack with
    | [] =>
      rw [hs] at hc
      exact absurd hc.grounded id
    | [frame] =>
      rw [hs] at hc hn
      obtain ⟨done, rfl⟩ := hc.grounded
      exact ⟨0, done, by simp [← hn], hs, finish_of_ended hs, hc.head⟩
    | frame :: next :: rest =>
      have hl : (closeImplicit (closing stack)).length < n := by
        have ha := length_closeImplicit_attach frame (next :: rest)
        rw [← hn, closing, hs]
        exact Nat.lt_succ_of_le ha
      obtain ⟨rounds, done, hr, he, hf, hp⟩ := ih _ hl h.closing rfl
      refine ⟨rounds + 1, done, by omega, ?_, ?_, hp⟩
      · rw [Function.iterate_succ_apply, he]
      · rw [finish_closing hs, hf]

/-- After any events the document lies at the bottom of the stack and every paragraph of bare text
right on a part that holds blocks. The innermost part can be closed until only the document is
left, in no more rounds than parts are open, and the blocks of the document are the outcome. In
these no two texts stand next to each other, at any depth. -/
theorem finish_foldl_push (events : List Event) :
    Grounded (events.foldl push start) ∧
      (∃ rounds done, rounds < (closeImplicit (events.foldl push start)).length ∧
        closeImplicit (closing^[rounds] (events.foldl push start)) = [.blocks .document done] ∧
        Block.ofEvents events = done.reverse) ∧
      Block.AllParted (Block.ofEvents events) := by
  have hs := Sound.start.foldl events
  obtain ⟨rounds, done, hr, hc, hf, hp⟩ := exists_rounds hs
  refine ⟨hs.grounded, ⟨rounds, done, hr, hc, hf⟩, ?_⟩
  rw [Block.ofEvents, hf]
  exact hp.reverse

end Tree

end ApiDocs
