import ApiDocs.Proofs.Markup.Spacing
import Mathlib.Logic.Relation

/-!
# Flat text as words

Flat text is the words of the inlines with a space between each two. The words are told without a
state: the leaves of the inlines are cut at white space, and a code span is one leaf whatever it
holds. So wrappers, HTML and the bounds of texts leave no trace in flat text, and text without code
is not changed by flattening it again.
-/

namespace ApiDocs

open Unicode

/-- What running text is made of once its wrappers are gone. -/
inductive Leaf where
  | prose (c : Char)
  | code (s : String)
  | lineBreak
deriving DecidableEq, Repr

mutual

def Inline.leaves : Inline → List Leaf
  | .text s => s.toList.map .prose
  | .code s => [.code s]
  | .emphasis content => leavesOf content
  | .strong content => leavesOf content
  | .link _ content => leavesOf content
  | .html _ => []
  | .lineBreak => [.lineBreak]

def leavesOf : List Inline → List Leaf
  | [] => []
  | first :: rest => first.leaves ++ leavesOf rest

end

namespace Leaf

/-- Whether a leaf is white space. -/
def isGap : Leaf → Bool
  | prose c => isWhite c
  | code _ => false
  | lineBreak => true

/-- A leaf of a word as text, code between backticks or not. -/
def written (ticks : Bool) : Leaf → List Char
  | prose c => [c]
  | code s => if ticks then '`' :: s.toList ++ ['`'] else s.toList
  | lineBreak => []

/-- The maximal runs without white space. -/
def words (leaves : List Leaf) : List (List Leaf) :=
  (leaves.splitOnP isGap).filter (· ≠ [])

def joined (ticks : Bool) (leaves : List Leaf) : List Char :=
  [' '].intercalate ((words leaves).map fun word => word.flatMap (written ticks))

end Leaf

/-- Inlines before and after one change that their words do not show: a wrapper or a piece of HTML
is taken away, a text is cut in two, or a line break becomes a space. -/
inductive Restyled : List Inline → List Inline → Prop
  | emphasis (content behind : List Inline) :
      Restyled (.emphasis content :: behind) (content ++ behind)
  | strong (content behind : List Inline) :
      Restyled (.strong content :: behind) (content ++ behind)
  | link (url : String) (content behind : List Inline) :
      Restyled (.link url content :: behind) (content ++ behind)
  | html (s : String) (behind : List Inline) : Restyled (.html s :: behind) behind
  | cut (s t : String) (behind : List Inline) :
      Restyled (.text (s ++ t) :: behind) (.text s :: .text t :: behind)
  | space (behind : List Inline) : Restyled (.lineBreak :: behind) (.text " " :: behind)
  | inEmphasis {content changed : List Inline} (h : Restyled content changed)
      (behind : List Inline) : Restyled (.emphasis content :: behind) (.emphasis changed :: behind)
  | inStrong {content changed : List Inline} (h : Restyled content changed)
      (behind : List Inline) : Restyled (.strong content :: behind) (.strong changed :: behind)
  | inLink {content changed : List Inline} (h : Restyled content changed) (url : String)
      (behind : List Inline) : Restyled (.link url content :: behind) (.link url changed :: behind)
  | later (first : Inline) {content changed : List Inline} (h : Restyled content changed) :
      Restyled (first :: content) (first :: changed)

namespace Flat

def State.leaf (ticks : Bool) (state : State) : Leaf → State
  | .prose c => state.char c
  | .code s => state.code (codeText ticks s)
  | .lineBreak => { state with gap := true }

mutual

theorem inline_leaves (ticks : Bool) (state : State) :
    ∀ first : Inline, inline ticks state first = first.leaves.foldl (State.leaf ticks) state
  | .text s => by rw [inline, Inline.leaves, List.foldl_map]; rfl
  | .code _ => rfl
  | .emphasis content => inlines_leaves ticks state content
  | .strong content => inlines_leaves ticks state content
  | .link _ content => inlines_leaves ticks state content
  | .html _ => rfl
  | .lineBreak => rfl

/-- Inlines are added by adding their leaves. -/
theorem inlines_leaves (ticks : Bool) (state : State) :
    ∀ content : List Inline,
      inlines ticks state content = (leavesOf content).foldl (State.leaf ticks) state
  | [] => rfl
  | first :: rest => by
    rw [inlines, leavesOf, List.foldl_append, ← inline_leaves, inlines_leaves]

end

theorem State.leaf_gap {leaf : Leaf} (h : leaf.isGap = true) (ticks : Bool) (state : State) :
    state.leaf ticks leaf = { state with gap := true } := by
  cases leaf with
  | prose c => exact if_pos h
  | code s => cases h
  | lineBreak => rfl

theorem State.leaf_word {leaf : Leaf} (h : leaf.isGap = false) (ticks : Bool) (state : State) :
    state.leaf ticks leaf = ⟨(leaf.written ticks).reverse ++ state.settled, false⟩ := by
  cases leaf with
  | prose c => exact if_neg (ne_true_of_eq_false h)
  | code s => rfl
  | lineBreak => cases h

/-- The text of pieces of which each but the first stands behind white space, and the first too
where there is a gap. Empty pieces have no text and no space. -/
def onward (ticks gap : Bool) : List (List Leaf) → List Char
  | [] => []
  | piece :: rest =>
    (if gap && !piece.isEmpty then [' '] else []) ++ piece.flatMap (Leaf.written ticks) ++
      onward ticks true rest

theorem onward_true (ticks : Bool) (pieces : List (List Leaf)) :
    onward ticks true pieces =
      (((pieces.filter (· ≠ [])).map fun word => word.flatMap (Leaf.written ticks)).map
        ([' '] ++ ·)).flatten := by
  induction pieces with
  | nil => rfl
  | cons piece rest ih =>
    cases piece with
    | nil => simpa [onward] using ih
    | cons leaf piece => simp [onward, ih]

variable {ticks : Bool} {leaves : List Leaf}

/-- Leaves behind text are added as their pieces between white space. -/
theorem foldl_leaf (hv : ∀ leaf ∈ leaves, leaf.isGap = false → leaf.written ticks ≠ [])
    {done : List Char} (hd : done ≠ []) (gap : Bool) :
    (leaves.foldl (State.leaf ticks) ⟨done, gap⟩).done.reverse =
      done.reverse ++ onward ticks gap (leaves.splitOnP Leaf.isGap) := by
  induction leaves generalizing done gap with
  | nil => simp [onward]
  | cons leaf rest ih =>
    rw [List.forall_mem_cons] at hv
    rw [List.foldl_cons, List.splitOnP_cons_eq_if_modifyHead]
    by_cases hg : leaf.isGap
    · rw [if_pos hg, State.leaf_gap hg, ih hv.2 hd]
      simp [onward]
    · have hg := eq_false_of_ne_true hg
      obtain ⟨first, pieces, hp, -⟩ := Text.splitOnP_eq_cons Leaf.isGap rest
      have hne : (leaf.written ticks).reverse ++ State.settled ⟨done, gap⟩ ≠ [] := by
        simp [hv.1 hg]
      rw [if_neg (ne_true_of_eq_false hg), State.leaf_word hg, ih hv.2 hne, hp]
      cases gap <;> simp [onward, State.settled, hd]

/-- Leaves are added as their words with a space between each two. -/
theorem foldl_leaf_start (hv : ∀ leaf ∈ leaves, leaf.isGap = false → leaf.written ticks ≠ [])
    (gap : Bool) :
    (leaves.foldl (State.leaf ticks) ⟨[], gap⟩).done.reverse = Leaf.joined ticks leaves := by
  induction leaves generalizing gap with
  | nil => rfl
  | cons leaf rest ih =>
    rw [List.forall_mem_cons] at hv
    rw [List.foldl_cons, Leaf.joined, Leaf.words, List.splitOnP_cons_eq_if_modifyHead]
    by_cases hg : leaf.isGap
    · rw [if_pos hg, State.leaf_gap hg, ih hv.2]
      rfl
    · have hg := eq_false_of_ne_true hg
      obtain ⟨first, pieces, hp, -⟩ := Text.splitOnP_eq_cons Leaf.isGap rest
      have hne : (leaf.written ticks).reverse ++ State.settled ⟨[], gap⟩ ≠ [] := by
        simp [hv.1 hg]
      rw [if_neg (ne_true_of_eq_false hg), State.leaf_word hg, foldl_leaf hv.2 hne, hp]
      rw [List.modifyHead_cons, List.filter_cons_of_pos (by simp), List.map_cons,
        Text.intercalate_cons, ← onward_true]
      simp [onward, State.settled]

namespace State

/-- Whether text, written backwards, is flattened to itself. -/
def Settles (done : List Char) : Prop :=
  done.reverse.foldl char start = ⟨done, false⟩

theorem Settles.cons {done : List Char} (h : Settles done) {c : Char} (hc : isWhite c = false) :
    Settles (c :: done) := by
  rw [Settles, List.reverse_cons, List.foldl_append, h]
  exact char_of_not_white hc done

theorem Settles.cons_space {done : List Char} (h : Settles done) (hd : done ≠ []) {c : Char}
    (hc : isWhite c = false) : Settles (c :: ' ' :: done) := by
  have hs : [' '].foldl State.char ⟨done, false⟩ = ⟨done, true⟩ := rfl
  rw [Settles, List.reverse_cons, List.reverse_cons, List.foldl_append, List.foldl_append, h, hs]
  simp [State.char, settled, hc, hd]

/-- Prose keeps what is flattened in a form that flattening does not change. -/
theorem Settles.char {state : State} (h : Settles state.done) (c : Char) :
    Settles (state.char c).done := by
  rw [State.char]
  split
  · exact h
  · rename_i hc
    have hc := eq_false_of_ne_true hc
    by_cases hg : state.gap = true ∧ state.done ≠ []
    · have hs : state.settled = ' ' :: state.done := by simp [settled, hg.1, hg.2]
      rw [hs]
      exact h.cons_space hg.2 hc
    · have hs : state.settled = state.done := by
        rw [settled, if_neg (by simpa using hg)]
      rw [hs]
      exact h.cons hc

end State

/-- Text without code is flattened to itself once it is flattened. -/
theorem settles_foldl (hc : ∀ s, Leaf.code s ∉ leaves) {state : State}
    (h : State.Settles state.done) :
    State.Settles (leaves.foldl (State.leaf ticks) state).done := by
  induction leaves generalizing state with
  | nil => exact h
  | cons leaf rest ih =>
    have hr : ∀ s, Leaf.code s ∉ rest := fun s hm => hc s (List.mem_cons_of_mem _ hm)
    refine ih hr ?_
    cases leaf with
    | prose c => exact h.char c
    | code s => exact absurd List.mem_cons_self (hc s)
    | lineBreak => exact h

/-- Backticks only show where there is code. -/
theorem foldl_leaf_ticks (hc : ∀ s, Leaf.code s ∉ leaves) (state : State) :
    leaves.foldl (State.leaf true) state = leaves.foldl (State.leaf false) state := by
  refine List.foldl_ext _ _ state fun state leaf hm => ?_
  cases leaf with
  | prose c => rfl
  | code s => exact absurd hm (hc s)
  | lineBreak => rfl

end Flat

theorem Restyled.inlines_eq {content changed : List Inline} (h : Restyled content changed)
    (ticks : Bool) (state : Flat.State) :
    Flat.inlines ticks state changed = Flat.inlines ticks state content := by
  induction h generalizing state with
  | emphasis content behind => exact Flat.inlines_append ticks state content behind
  | strong content behind => exact Flat.inlines_append ticks state content behind
  | link url content behind => exact Flat.inlines_append ticks state content behind
  | html s behind => rfl
  | cut s t behind =>
    change Flat.inlines ticks ((state.prose s).prose t) behind = _
    rw [← Flat.State.prose_append]
    rfl
  | space behind => rfl
  | inEmphasis h behind ih => exact congrArg (Flat.inlines ticks · behind) (ih state)
  | inStrong h behind ih => exact congrArg (Flat.inlines ticks · behind) (ih state)
  | inLink h url behind ih => exact congrArg (Flat.inlines ticks · behind) (ih state)
  | later first h ih => exact ih _

theorem flatten_eq_of_restyled {content changed : List Inline}
    (h : Relation.EqvGen Restyled content changed) (ticks : Bool) :
    Flat.flatten ticks changed = Flat.flatten ticks content := by
  induction h with
  | rel content changed h => rw [Flat.flatten, h.inlines_eq, Flat.flatten]
  | refl content => rfl
  | symm content changed h ih => exact ih.symm
  | trans content between changed h h' ih ih' => exact ih'.trans ih

theorem toList_flatten (ticks : Bool) (content : List Inline) :
    (Flat.flatten ticks content).toList =
      ((leavesOf content).foldl (Flat.State.leaf ticks) .start).done.reverse := by
  rw [Flat.flatten, String.toList_ofList, Flat.inlines_leaves]

theorem flatten_eq_joined {ticks : Bool} {content : List Inline}
    (hv : ticks = true ∨ .code "" ∉ leavesOf content) :
    Flat.flatten ticks content = String.ofList (Leaf.joined ticks (leavesOf content)) := by
  rw [← String.toList_inj, toList_flatten, String.toList_ofList]
  refine Flat.foldl_leaf_start (fun leaf hm hg => ?_) false
  cases leaf with
  | prose c => exact List.cons_ne_nil _ _
  | lineBreak => cases hg
  | code s =>
    rcases hv with rfl | hv
    · exact List.cons_ne_nil _ _
    · cases ticks with
      | true => exact List.cons_ne_nil _ _
      | false =>
        intro he
        rw [String.toList_eq_nil_iff.mp he] at hm
        exact hv hm

theorem flatten_flatten {content : List Inline} (hc : ∀ s, .code s ∉ leavesOf content)
    (ticks again : Bool) :
    Flat.flatten again [.text (Flat.flatten ticks content)] = Flat.flatten ticks content := by
  have hs : Flat.State.Settles ((leavesOf content).foldl (Flat.State.leaf ticks) .start).done :=
    Flat.settles_foldl hc rfl
  rw [Flat.State.Settles, ← toList_flatten] at hs
  change String.ofList (Flat.State.prose .start _).done.reverse = _
  rw [Flat.State.prose, hs, ← toList_flatten, String.ofList_toList]

/-- Flat text is the words of the leaves with a space between each two, each code span being part of
a word as it is, between backticks or, where no span is empty, without them. Wrappers, HTML, the
bounds of texts and line breaks in place of spaces do not show in it. Without code the backticks
make no difference, and flattening it again changes nothing. -/
theorem flatText_joined (content : List Inline) :
    richText content = String.ofList (Leaf.joined true (leavesOf content)) ∧
      (.code "" ∉ leavesOf content →
        plainText content = String.ofList (Leaf.joined false (leavesOf content))) ∧
      (∀ changed, Relation.EqvGen Restyled content changed →
        richText changed = richText content ∧ plainText changed = plainText content) ∧
      ((∀ s, .code s ∉ leavesOf content) →
        richText content = plainText content ∧
          richText [.text (richText content)] = richText content ∧
          plainText [.text (plainText content)] = plainText content) := by
  refine ⟨flatten_eq_joined (.inl rfl), fun hv => flatten_eq_joined (.inr hv),
    fun changed h => ⟨flatten_eq_of_restyled h true, flatten_eq_of_restyled h false⟩,
    fun hc => ⟨?_, flatten_flatten hc true true, flatten_flatten hc false false⟩⟩
  rw [← String.toList_inj, richText, plainText, toList_flatten, toList_flatten,
    Flat.foldl_leaf_ticks hc]

/-- Text with a code span and a piece of HTML in it, over two lines. -/
def styledText : List Inline :=
  [.text "Opens \t", .emphasis [.code "a  b", .text ","], .html "<br>", .lineBreak, .text "later "]

/-- The same text without emphasis and on one line. -/
def unstyledText : List Inline :=
  [.text "Opens \t", .code "a  b", .text ",", .html "<br>", .text " ", .text "later "]

theorem restyled_styledText : Relation.EqvGen Restyled styledText unstyledText := by
  have hw : Restyled styledText ([.text "Opens \t", .code "a  b", .text ",", .html "<br>",
      .lineBreak, .text "later "]) :=
    .later _ (.emphasis [.code "a  b", .text ","] _)
  have hb : Restyled ([.text "Opens \t", .code "a  b", .text ",", .html "<br>", .lineBreak,
      .text "later "]) unstyledText :=
    .later _ (.later _ (.later _ (.later _ (.space _))))
  exact (Relation.EqvGen.rel _ _ hw).trans _ _ _ (Relation.EqvGen.rel _ _ hb)

theorem flatText_joined_styledText :
    richText styledText = "Opens `a  b`, later" ∧
      (.code "" ∉ leavesOf styledText ∧ plainText styledText = "Opens a  b, later") ∧
      (Relation.EqvGen Restyled styledText unstyledText ∧
        plainText unstyledText = plainText styledText) ∧
      (∀ s, .code s ∉ leavesOf [.strong [.text " on\n "], .text "top"]) ∧
      richText [.strong [.text " on\n "], .text "top"] =
        plainText [.strong [.text " on\n "], .text "top"] := by
  have hv : .code "" ∉ leavesOf styledText := by decide
  have hc : ∀ s, .code s ∉ leavesOf [.strong [.text " on\n "], .text "top"] := by
    simp [leavesOf, Inline.leaves]
  obtain ⟨hr, hp, hs, -⟩ := flatText_joined styledText
  obtain ⟨-, -, -, hn⟩ := flatText_joined [.strong [.text " on\n "], .text "top"]
  refine ⟨hr.trans (by decide +kernel), ⟨hv, (hp hv).trans (by decide +kernel)⟩,
    ⟨restyled_styledText, (hs _ restyled_styledText).2⟩, hc, (hn hc).1⟩

end ApiDocs
