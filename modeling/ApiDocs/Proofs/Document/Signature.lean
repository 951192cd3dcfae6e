import ApiDocs.Document.Signature
import Mathlib.Data.List.Basic

/-!
# What signatures name

The parameters of a signature are read in one pass over its characters. Here they are told without a
state: brackets and white space are dropped, the rest is parted at its commas, and a name is written
inside brackets when one is open around some of its characters.
-/

namespace ApiDocs.Signature

open ApiDocs.Unicode

/-- The characters of a text other than square brackets and white space, each with the number of
brackets open around it, `depth` of them open before the text. A bracket that closes none counts for
nothing. -/
def levels (depth : Nat) : List Char → List (Char × Nat)
  | [] => []
  | c :: rest =>
    if c == '[' then levels (depth + 1) rest
    else if c == ']' then levels (depth - 1) rest
    else if isWhite c then levels depth rest
    else (c, depth) :: levels depth rest

def isComma (c : Char × Nat) : Bool :=
  c.1 == ','

/-- The pieces between the commas of a signature. -/
def pieces (signature : String) : List (List (Char × Nat)) :=
  (levels 0 (inner signature)).splitOnP isComma

/-- The slot that a piece stands for. -/
def slotOf (piece : List (Char × Nat)) : Slot :=
  ⟨String.ofList (piece.map Prod.fst), piece.any fun c => 0 < c.2⟩

/-- The slots of pieces, none for an empty one. -/
def slotsOf (pieces : List (List (Char × Nat))) : List Slot :=
  (pieces.filter (· ≠ [])).map slotOf

/-- Whether a signature writes a name inside brackets, at least in part. -/
def Bracketed (signature name : String) : Prop :=
  ∃ piece ∈ pieces signature, piece.map Prod.fst = name.toList ∧ ∃ c ∈ piece, 0 < c.2

/-- The state of the pass after a piece was begun, its last character first. -/
def stateOf (begun : List (Char × Nat)) (depth : Nat) : State :=
  ⟨begun.map Prod.fst, begun.any fun c => 0 < c.2, depth⟩

theorem slotsOf_cons (piece : List (Char × Nat)) (rest : List (List (Char × Nat))) :
    slotsOf (piece :: rest) = slotsOf [piece] ++ slotsOf rest := by
  rw [← List.singleton_append, slotsOf, List.filter_append, List.map_append]
  rfl

theorem slots_stateOf (begun : List (Char × Nat)) (depth : Nat) :
    (stateOf begun depth).slots = slotsOf [begun.reverse] := by
  cases begun with
  | nil => rfl
  | cons c rest =>
    rw [slotsOf, List.filter_cons_of_pos (by simp)]
    simp [stateOf, State.slots, slotOf, Bool.or_comm]

/-- What the pass reads after it has begun a piece. -/
theorem scan_stateOf (begun : List (Char × Nat)) (depth : Nat) (text : List Char) :
    scan (stateOf begun depth) text =
      slotsOf ((levels depth text).splitOnPPrepend isComma begun) := by
  induction text generalizing begun depth with
  | nil => exact slots_stateOf begun depth
  | cons c rest ih =>
    rw [scan, levels]
    split
    · exact ih begun (depth + 1)
    split
    · exact ih begun (depth - 1)
    split
    · rename_i hc
      have hw : ¬ isWhite c = true := by
        rw [eq_of_beq hc]
        decide
      have hs : List.splitOnPPrepend isComma ((c, depth) :: levels depth rest) begun =
          begun.reverse :: (levels depth rest).splitOnP isComma :=
        List.splitOnPPrepend_cons_pos hc
      rw [if_neg hw, hs, slotsOf_cons, ← slots_stateOf begun depth]
      exact congrArg _ (ih [] depth)
    · rename_i hc
      split
      · exact ih begun depth
      · have hs : List.splitOnPPrepend isComma ((c, depth) :: levels depth rest) begun =
            (levels depth rest).splitOnPPrepend isComma ((c, depth) :: begun) :=
          List.splitOnPPrepend_cons_neg (eq_false_of_ne_true hc)
        rw [hs, ← ih, stateOf, Bool.or_comm]
        rfl

/-- The slots of a signature are its pieces that are not empty. -/
theorem slots_eq (signature : String) : slots signature = slotsOf (pieces signature) :=
  scan_stateOf [] 0 (inner signature)

theorem mem_optionalNames {signature name : String} :
    name ∈ optionalNames signature ↔ Bracketed signature name := by
  rw [optionalNames, slots_eq, slotsOf]
  simp only [List.mem_map, List.mem_filter, Bracketed]
  constructor
  · rintro ⟨_, ⟨⟨piece, ⟨hp, -⟩, rfl⟩, ho⟩, rfl⟩
    obtain ⟨c, hc, hd⟩ := List.any_eq_true.mp ho
    exact ⟨piece, hp, (String.toList_ofList).symm, c, hc, of_decide_eq_true hd⟩
  · rintro ⟨piece, hp, hn, c, hc, hd⟩
    have hne : decide (piece ≠ []) = true := decide_eq_true (List.ne_nil_of_mem hc)
    refine ⟨slotOf piece, ⟨⟨piece, ⟨hp, hne⟩, rfl⟩, ?_⟩, ?_⟩
    · exact List.any_eq_true.mpr ⟨c, hc, decide_eq_true hd⟩
    · rw [slotOf, hn, String.ofList_toList]

end ApiDocs.Signature
