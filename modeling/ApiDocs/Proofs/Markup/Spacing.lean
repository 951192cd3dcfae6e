import ApiDocs.Markup.Flat
import ApiDocs.Proofs.Text

/-!
# Flat text behind other text

Flat text is the same wherever its inlines stand: behind other text it follows one space, or follows
at once where no white space parts the two.
-/

namespace ApiDocs.Flat

open Unicode

namespace State

/-- The state with other text in front of its own. -/
def onto (front : List Char) (state : State) : State :=
  ⟨state.done ++ front, state.gap⟩

/-- The state with other text and a space in front of its own; where it has no text yet, the space
is still to come. -/
def behind (front : List Char) (state : State) : State :=
  if state.done = [] then ⟨front, true⟩ else state.onto (' ' :: front)

theorem behind_start (front : List Char) : start.behind front = ⟨front, true⟩ :=
  rfl

theorem behind_of_ne {state : State} (h : state.done ≠ []) (front : List Char) :
    state.behind front = state.onto (' ' :: front) := by
  rw [behind, if_neg h]

theorem settled_onto {state : State} (h : state.done ≠ []) (front : List Char) :
    (state.onto front).settled = state.settled ++ front := by
  cases hg : state.gap <;> simp [settled, onto, hg, h]

theorem char_onto {state : State} (h : state.done ≠ []) (front : List Char) (c : Char) :
    (state.onto front).char c = (state.char c).onto front := by
  rw [char, char, settled_onto h]
  split <;> rfl

theorem done_char_ne {state : State} (h : state.done ≠ []) (c : Char) :
    (state.char c).done ≠ [] := by
  rw [char]
  split
  · exact h
  · exact List.cons_ne_nil _ _

theorem settled_behind {front : List Char} (hf : front ≠ []) (state : State) :
    (state.behind front).settled = state.settled ++ ' ' :: front := by
  by_cases h : state.done = []
  · simp [behind, settled, h, hf]
  · rw [behind_of_ne h, settled_onto h]

theorem char_behind {front : List Char} (hf : front ≠ []) (state : State) (c : Char) :
    (state.behind front).char c = (state.char c).behind front := by
  rw [char, char, settled_behind hf]
  by_cases hc : isWhite c
  · rw [if_pos hc, if_pos hc]
    by_cases h : state.done = []
    · simp [behind, h]
    · simp [behind, h, onto]
  · rw [if_neg hc, if_neg hc, behind_of_ne (List.cons_ne_nil _ _)]
    rfl

theorem prose_behind {front : List Char} (hf : front ≠ []) (state : State) (s : String) :
    (state.behind front).prose s = (state.prose s).behind front := by
  rw [prose, prose]
  induction s.toList generalizing state with
  | nil => rfl
  | cons c rest ih => rw [List.foldl_cons, List.foldl_cons, char_behind hf, ih]

theorem code_behind {front : List Char} (hf : front ≠ []) (state : State) {s : List Char}
    (hs : s ≠ []) : (state.behind front).code s = (state.code s).behind front := by
  have hne : (state.code s).done ≠ [] := by simp [code, hs]
  rw [behind_of_ne hne, code, settled_behind hf]
  simp [code, onto]

end State

theorem codeText_ne (s : String) : codeText true s ≠ [] :=
  List.cons_ne_nil _ _

mutual

theorem inline_behind {front : List Char} (hf : front ≠ []) (state : State) :
    ∀ first : Inline,
      inline true (state.behind front) first = (inline true state first).behind front
  | .text s => state.prose_behind hf s
  | .code s => state.code_behind hf (codeText_ne s)
  | .emphasis content => inlines_behind hf state content
  | .strong content => inlines_behind hf state content
  | .link _ content => inlines_behind hf state content
  | .html _ => rfl
  | .lineBreak => by
    rw [inline, inline, State.behind, State.behind]
    split <;> rfl

theorem inlines_behind {front : List Char} (hf : front ≠ []) (state : State) :
    ∀ content : List Inline,
      inlines true (state.behind front) content = (inlines true state content).behind front
  | [] => rfl
  | first :: rest => by
    rw [inlines, inlines, inline_behind hf state first, inlines_behind hf _ rest]

end

theorem inlines_append (ticks : Bool) (state : State) (content more : List Inline) :
    inlines ticks state (content ++ more) = inlines ticks (inlines ticks state content) more := by
  induction content generalizing state with
  | nil => rfl
  | cons first rest ih => rw [List.cons_append, inlines, inlines, ih]

namespace State

theorem tight_cons_settled {state : State} (h : Text.Tight state.done) {c : Char}
    (hc : isWhite c = false) : Text.Tight (c :: state.settled) := by
  by_cases hd : state.done = []
  · have hs : state.settled = [] := by simp [settled, hd]
    rw [hs]
    exact ⟨fun d hd => Option.some.inj hd ▸ hc, fun d hd => Option.some.inj hd ▸ hc⟩
  · rw [settled]
    split
    · exact Text.tight_cons_append hc h hd [' ']
    · exact Text.tight_cons_append hc h hd []

theorem tight_char {state : State} (h : Text.Tight state.done) (c : Char) :
    Text.Tight (state.char c).done := by
  rw [char]
  split
  · exact h
  · exact tight_cons_settled h (eq_false_of_ne_true ‹_›)

theorem tight_prose {state : State} (h : Text.Tight state.done) (s : String) :
    Text.Tight (state.prose s).done := by
  rw [prose]
  induction s.toList generalizing state with
  | nil => exact h
  | cons c rest ih => exact ih (tight_char h c)

theorem tight_codeText {state : State} (h : Text.Tight state.done) (s : String) :
    Text.Tight (state.code (codeText true s)).done := by
  have ht := tight_cons_settled h (c := '`') (by decide)
  have hc : (state.code (codeText true s)).done =
      '`' :: s.toList.reverse ++ '`' :: state.settled := by
    simp [code, codeText]
  rw [hc]
  exact Text.tight_cons_append (by decide) ht (List.cons_ne_nil _ _) _

end State

mutual

theorem tight_inline {state : State} (h : Text.Tight state.done) :
    ∀ first : Inline, Text.Tight (inline true state first).done
  | .text s => State.tight_prose h s
  | .code s => State.tight_codeText h s
  | .emphasis content => tight_inlines h content
  | .strong content => tight_inlines h content
  | .link _ content => tight_inlines h content
  | .html _ => h
  | .lineBreak => h

theorem tight_inlines {state : State} (h : Text.Tight state.done) :
    ∀ content : List Inline, Text.Tight (inlines true state content).done
  | [] => h
  | first :: rest => tight_inlines (tight_inline h first) rest

end

namespace State

theorem char_of_not_white {c : Char} (hc : isWhite c = false) (front : List Char) :
    (⟨front, false⟩ : State).char c = ⟨c :: front, false⟩ := by
  rw [char, if_neg (ne_true_of_eq_false hc)]
  rfl

theorem prose_onto {state : State} (h : state.done ≠ []) (front : List Char) (s : List Char) :
    s.foldl char (state.onto front) = (s.foldl char state).onto front := by
  induction s generalizing state with
  | nil => rfl
  | cons c rest ih => rw [List.foldl_cons, List.foldl_cons, char_onto h, ih (done_char_ne h c)]

theorem prose_append (state : State) (s more : String) :
    state.prose (s ++ more) = (state.prose s).prose more := by
  rw [prose, String.toList_append, List.foldl_append]
  rfl

theorem gap_char (state : State) (c : Char) : (state.char c).gap = isWhite c := by
  rw [char]
  split
  · exact (‹isWhite c = true›).symm
  · exact (eq_false_of_ne_true ‹_›).symm

/-- Text without white space is added as it is. -/
theorem prose_of_unbroken {s : String} (h : ∀ c ∈ s.toList, isWhite c = false)
    (front : List Char) :
    (⟨front, false⟩ : State).prose s = ⟨s.toList.reverse ++ front, false⟩ := by
  rw [prose]
  generalize s.toList = l at h ⊢
  induction l generalizing front with
  | nil => rfl
  | cons c rest ih =>
    rw [List.foldl_cons, char_of_not_white (h c List.mem_cons_self),
      ih _ fun d hd => h d (List.mem_cons_of_mem _ hd)]
    simp

end State

namespace State

theorem done_suffix_settled (state : State) : state.done <:+ state.settled := by
  rw [settled]
  split
  · exact List.suffix_cons _ _
  · exact List.suffix_refl _

theorem done_suffix_char (state : State) (c : Char) : state.done <:+ (state.char c).done := by
  rw [char]
  split
  · exact List.suffix_refl _
  · exact List.IsSuffix.trans state.done_suffix_settled (List.suffix_cons _ _)

theorem done_suffix_prose (state : State) (s : String) : state.done <:+ (state.prose s).done := by
  rw [prose]
  induction s.toList generalizing state with
  | nil => exact List.suffix_refl _
  | cons c rest ih => exact List.IsSuffix.trans (state.done_suffix_char c) (ih _)

end State

mutual

theorem done_suffix_inline (ticks : Bool) (state : State) :
    ∀ first : Inline, state.done <:+ (inline ticks state first).done
  | .text s => state.done_suffix_prose s
  | .code _ => List.IsSuffix.trans state.done_suffix_settled (List.suffix_append _ _)
  | .emphasis content => done_suffix_inlines ticks state content
  | .strong content => done_suffix_inlines ticks state content
  | .link _ content => done_suffix_inlines ticks state content
  | .html _ => List.suffix_refl _
  | .lineBreak => List.suffix_refl _

/-- What is flattened stays at the front. -/
theorem done_suffix_inlines (ticks : Bool) (state : State) :
    ∀ content : List Inline, state.done <:+ (inlines ticks state content).done
  | [] => List.suffix_refl _
  | first :: rest =>
    List.IsSuffix.trans (done_suffix_inline ticks state first)
      (done_suffix_inlines ticks _ rest)

end

end ApiDocs.Flat

namespace ApiDocs

open Flat Unicode

theorem toList_richText (content : List Inline) :
    (richText content).toList = (inlines true .start content).done.reverse :=
  String.toList_ofList

theorem tight_richText (content : List Inline) : Text.Tight (richText content).toList := by
  rw [toList_richText]
  exact (tight_inlines Text.tight_nil content).reverse

/-- What stands behind text and a space is read back behind the two. -/
theorem richText_behind {front content : List Inline} (text : List Char) (ht : text ≠ [])
    (hf : inlines true .start front = ⟨text.reverse, true⟩) (hc : richText content ≠ "") :
    (richText (front ++ content)).toList = text ++ ' ' :: (richText content).toList := by
  have hne : (inlines true .start content).done ≠ [] := by
    intro he
    rw [richText, flatten, he] at hc
    exact hc rfl
  rw [toList_richText, inlines_append, hf, ← State.behind_start, inlines_behind (by simpa using ht),
    State.behind_of_ne hne, toList_richText]
  simp [State.onto]

/-- Flat text starts with that of its first inline. -/
theorem plainText_cons (first : Inline) (rest : List Inline) :
    ∃ behind, (plainText (first :: rest)).toList =
      (inline false .start first).done.reverse ++ behind := by
  obtain ⟨more, hm⟩ := done_suffix_inlines false (inline false .start first) rest
  refine ⟨more.reverse, ?_⟩
  change (String.ofList (inlines false (inline false .start first) rest).done.reverse).toList = _
  rw [String.toList_ofList, ← hm, List.reverse_append]

/-- A text that flattening leaves as it is. -/
def SingleSpaced (s : String) : Prop :=
  plainText [.text s] = s

namespace SingleSpaced

variable {s : String}

theorem done_eq (h : SingleSpaced s) : (State.start.prose s).done = s.toList.reverse := by
  have hd : String.ofList (State.start.prose s).done.reverse = s := h
  rw [← congrArg String.toList hd, String.toList_ofList, List.reverse_reverse]

theorem tight (h : SingleSpaced s) : Text.Tight s.toList := by
  have ht : Text.Tight (State.start.prose s).done := State.tight_prose Text.tight_nil s
  rw [h.done_eq] at ht
  exact List.reverse_reverse s.toList ▸ ht.reverse

theorem prose_start (h : SingleSpaced s) :
    State.start.prose s = ⟨s.toList.reverse, false⟩ := by
  have hg : (State.start.prose s).gap = false := by
    rw [State.prose]
    rcases List.eq_nil_or_concat' s.toList with hl | ⟨front, c, hl⟩
    · rw [hl]
      rfl
    · rw [hl, List.foldl_concat, State.gap_char]
      exact h.tight.last c (by simp [hl])
  rw [← h.done_eq, ← hg]

/-- Single-spaced text is added as it is. -/
theorem prose_eq (h : SingleSpaced s) (front : List Char) :
    (⟨front, false⟩ : State).prose s = ⟨s.toList.reverse ++ front, false⟩ := by
  have hs := h.prose_start
  have ht := h.tight
  rw [State.prose] at hs ⊢
  cases hl : s.toList with
  | nil => rfl
  | cons c rest =>
    rw [hl] at hs ht
    have hc := ht.head c rfl
    rw [List.foldl_cons, State.start, State.char_of_not_white hc] at hs
    rw [List.foldl_cons, State.char_of_not_white hc]
    have ho : rest.foldl State.char (State.onto front ⟨[c], false⟩) = _ :=
      State.prose_onto (List.cons_ne_nil _ _) front rest
    rw [hs] at ho
    exact ho

theorem of_prose_start (h : State.start.prose s = ⟨s.toList.reverse, false⟩) : SingleSpaced s := by
  change String.ofList (State.start.prose s).done.reverse = s
  rw [h, List.reverse_reverse, String.ofList_toList]

theorem of_unbroken (h : ∀ c ∈ s.toList, isWhite c = false) : SingleSpaced s := by
  have hs := State.prose_of_unbroken h []
  rw [List.append_nil] at hs
  exact of_prose_start hs

end SingleSpaced

end ApiDocs
