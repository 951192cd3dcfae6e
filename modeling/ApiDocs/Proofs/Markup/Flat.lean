import ApiDocs.Markup.Flat

/-!
# Line feeds in flat text

Flat text stands on one line when its code spans do: white space in prose becomes spaces.
-/

namespace ApiDocs

mutual

/-- Whether no code span inside an inline holds a line feed. -/
def Inline.OneLine : Inline → Prop
  | .code s => '\n' ∉ s.toList
  | .emphasis content => AllOneLine content
  | .strong content => AllOneLine content
  | .link _ content => AllOneLine content
  | _ => True

def AllOneLine : List Inline → Prop
  | [] => True
  | first :: rest => first.OneLine ∧ AllOneLine rest

end

theorem AllOneLine.of_mem {inline : Inline} {content : List Inline} (h : AllOneLine content)
    (hi : inline ∈ content) : inline.OneLine := by
  induction content with
  | nil => cases hi
  | cons first rest ih =>
    rcases List.mem_cons.mp hi with rfl | hi
    · exact h.1
    · exact ih h.2 hi

mutual

def Block.OneLine : Block → Prop
  | .heading _ content => AllOneLine content
  | .paragraph content => AllOneLine content
  | .list _ items => ItemsOneLine items
  | .quote blocks => BlocksOneLine blocks
  | .code _ => True

def BlocksOneLine : List Block → Prop
  | [] => True
  | block :: rest => block.OneLine ∧ BlocksOneLine rest

def ItemsOneLine : List (List Block) → Prop
  | [] => True
  | blocks :: rest => BlocksOneLine blocks ∧ ItemsOneLine rest

end

theorem blocksOneLine_iff {blocks : List Block} :
    BlocksOneLine blocks ↔ ∀ block ∈ blocks, block.OneLine := by
  induction blocks with
  | nil => simp [BlocksOneLine]
  | cons block rest ih => rw [BlocksOneLine, ih, List.forall_mem_cons]

namespace Flat

theorem State.notMem_settled {state : State} (h : '\n' ∉ state.done) : '\n' ∉ state.settled := by
  rw [settled]
  split
  · simpa using h
  · exact h

theorem State.notMem_prose {state : State} (h : '\n' ∉ state.done) (s : String) :
    '\n' ∉ (state.prose s).done := by
  rw [prose]
  induction s.toList generalizing state with
  | nil => exact h
  | cons c rest ih =>
    rw [List.foldl_cons]
    refine ih ?_
    rw [char]
    split
    · exact h
    · rename_i hc
      have hn : '\n' ≠ c := by
        rintro rfl
        exact hc (by decide)
      exact List.not_mem_cons_of_ne_of_not_mem hn (notMem_settled h)

theorem State.notMem_code {state : State} (h : '\n' ∉ state.done) {s : List Char}
    (hs : '\n' ∉ s) : '\n' ∉ (state.code s).done := by
  rw [code, List.mem_append, List.mem_reverse, not_or]
  exact ⟨hs, notMem_settled h⟩

theorem notMem_codeText {s : String} (h : '\n' ∉ s.toList) (ticks : Bool) :
    '\n' ∉ codeText ticks s := by
  cases ticks with
  | false => exact h
  | true => simpa [codeText] using h

mutual

theorem notMem_inline (ticks : Bool) {state : State} (hs : '\n' ∉ state.done) :
    ∀ first : Inline, first.OneLine → '\n' ∉ (inline ticks state first).done
  | .text s, _ => State.notMem_prose hs s
  | .code _, h => State.notMem_code hs (notMem_codeText h ticks)
  | .emphasis content, h => notMem_inlines ticks hs content h
  | .strong content, h => notMem_inlines ticks hs content h
  | .link _ content, h => notMem_inlines ticks hs content h
  | .html _, _ => hs
  | .lineBreak, _ => hs

theorem notMem_inlines (ticks : Bool) {state : State} (hs : '\n' ∉ state.done) :
    ∀ content : List Inline, AllOneLine content → '\n' ∉ (inlines ticks state content).done
  | [], _ => hs
  | first :: rest, h => notMem_inlines ticks (notMem_inline ticks hs first h.1) rest h.2

end

theorem notMem_flatten (ticks : Bool) {content : List Inline} (h : AllOneLine content) :
    '\n' ∉ (flatten ticks content).toList := by
  rw [flatten, String.toList_ofList, List.mem_reverse]
  exact notMem_inlines ticks List.not_mem_nil content h

end Flat

end ApiDocs
