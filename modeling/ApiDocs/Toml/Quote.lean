import ApiDocs.Numeric.Hex
import ApiDocs.Text.Basic

/-!
# Strings of a TOML document

A string stands between double quotes, where a backslash starts an escape, or between single quotes,
where every character stands for itself. Between three quotes it may span lines: a line end right
behind the opening quotes does not count, every other one is a line feed, and a backslash at the end
of a line takes away all blanks and line ends up to the next visible character.
-/

namespace ApiDocs.Toml

open ApiDocs.Hex (codeChar?)

def isBlank (c : Char) : Bool :=
  c == ' ' || c == '\t'

/-- The characters that may stand in a line: a tab, and all that are no controls. -/
def isLineChar (c : Char) : Bool :=
  c == '\t' || (' ' ≤ c && c ≠ '\x7f')

/-- What is read of a string, and the text behind it. -/
abbrev StringRead :=
  Option (List Char × List Char)

def StringRead.before (front : List Char) (read : StringRead) : StringRead :=
  read.map fun (s, rest) => (front ++ s, rest)

def letterChar? : Char → Option Char
  | 'b' => some '\x08'
  | 't' => some '\t'
  | 'n' => some '\n'
  | 'f' => some '\x0c'
  | 'r' => some '\r'
  | '"' => some '"'
  | '\\' => some '\\'
  | _ => none

/-- The character of an escape behind its backslash, and how many characters write it. -/
def escape? : List Char → Option (Char × Nat)
  | 'u' :: a :: b :: c :: d :: _ => (codeChar? [a, b, c, d]).map fun e => (e, 5)
  | 'U' :: a :: b :: c :: d :: e :: f :: g :: h :: _ =>
    (codeChar? [a, b, c, d, e, f, g, h]).map fun e => (e, 9)
  | c :: _ => (letterChar? c).map fun e => (e, 1)
  | [] => none

/-- Whether only blanks stand before the next line end. -/
def endsLine (s : List Char) : Bool :=
  match s.dropWhile isBlank with
  | '\n' :: _ | '\r' :: '\n' :: _ => true
  | _ => false

def skipLines : List Char → List Char
  | '\r' :: '\n' :: rest => skipLines rest
  | c :: rest => if c = '\n' ∨ isBlank c then skipLines rest else c :: rest
  | [] => []

theorem skipLines_length (s : List Char) : (skipLines s).length ≤ s.length := by
  fun_induction skipLines s <;> simp_all <;> omega

def skipLineEnd : List Char → List Char
  | '\n' :: rest | '\r' :: '\n' :: rest => rest
  | s => s

theorem skipLineEnd_length (s : List Char) : (skipLineEnd s).length ≤ s.length := by
  unfold skipLineEnd
  split
  · exact Nat.le_succ _
  · exact Nat.le_add_right _ 2
  · exact Nat.le_refl _

def literal : List Char → StringRead
  | [] => none
  | '\'' :: rest => some ([], rest)
  | c :: rest => if isLineChar c then (literal rest).before [c] else none

def basic (s : List Char) : StringRead :=
  match s with
  | [] => none
  | '"' :: rest => some ([], rest)
  | '\\' :: rest =>
    match escape? rest with
    | some (c, count) => (basic (rest.drop count)).before [c]
    | none => none
  | c :: rest => if isLineChar c then (basic rest).before [c] else none
termination_by s.length
decreasing_by all_goals (simp_wf; try omega)

/-- Reads a string behind its three single quotes and the line end that does not count. -/
def literalLines : List Char → StringRead
  | [] => none
  | '\'' :: '\'' :: '\'' :: '\'' :: '\'' :: rest => some (['\'', '\''], rest)
  | '\'' :: '\'' :: '\'' :: '\'' :: rest => some (['\''], rest)
  | '\'' :: '\'' :: '\'' :: rest => some ([], rest)
  | '\r' :: '\n' :: rest => (literalLines rest).before ['\n']
  | c :: rest => if c = '\n' ∨ isLineChar c then (literalLines rest).before [c] else none

def basicLines (s : List Char) : StringRead :=
  match s with
  | [] => none
  | '"' :: '"' :: '"' :: '"' :: '"' :: rest => some (['"', '"'], rest)
  | '"' :: '"' :: '"' :: '"' :: rest => some (['"'], rest)
  | '"' :: '"' :: '"' :: rest => some ([], rest)
  | '\\' :: rest =>
    if endsLine rest then
      have := skipLines_length rest
      basicLines (skipLines rest)
    else
      match escape? rest with
      | some (c, count) => (basicLines (rest.drop count)).before [c]
      | none => none
  | '\r' :: '\n' :: rest => (basicLines rest).before ['\n']
  | c :: rest => if c = '\n' ∨ isLineChar c then (basicLines rest).before [c] else none
termination_by s.length
decreasing_by all_goals (simp_wf; try omega)

theorem before_eq_some {front read s rest} (h : StringRead.before front read = some (s, rest)) :
    ∃ t, read = some (t, rest) := by
  unfold StringRead.before at h
  match read with
  | none => simp at h
  | some (t, more) =>
    simp only [Option.map_some, Option.some.injEq, Prod.mk.injEq] at h
    exact ⟨t, by rw [h.2]⟩

theorem literal_length {s read rest} (h : literal s = some (read, rest)) :
    rest.length < s.length := by
  fun_induction literal s generalizing read with
  | case3 c more _ _ ih =>
    obtain ⟨t, ht⟩ := before_eq_some h
    have := ih ht
    simp only [List.length_cons]
    omega
  | _ => simp_all

theorem basic_length {s read rest} (h : basic s = some (read, rest)) :
    rest.length < s.length := by
  fun_induction basic s generalizing read with
  | case3 | case5 =>
    rename_i ih
    obtain ⟨t, ht⟩ := before_eq_some h
    have := ih ht
    simp only [List.length_cons, List.length_drop] at *
    omega
  | _ => simp_all

theorem literalLines_length {s read rest} (h : literalLines s = some (read, rest)) :
    rest.length < s.length := by
  fun_induction literalLines s generalizing read with
  | case5 | case6 =>
    rename_i ih
    obtain ⟨t, ht⟩ := before_eq_some h
    have := ih ht
    simp only [List.length_cons]
    omega
  | _ => simp_all <;> omega

theorem basicLines_length {s read rest} (h : basicLines s = some (read, rest)) :
    rest.length < s.length := by
  fun_induction basicLines s generalizing read with
  | case5 =>
    rename_i ih
    have := ih h
    simp only [List.length_cons]
    omega
  | case6 | case8 | case9 =>
    rename_i ih
    obtain ⟨t, ht⟩ := before_eq_some h
    have := ih ht
    simp only [List.length_cons, List.length_drop] at *
    omega
  | _ => simp_all <;> omega

/-- Reads a string of one line, of the kind that its quote says. -/
def lineString? : List Char → StringRead
  | '"' :: rest => basic rest
  | '\'' :: rest => literal rest
  | _ => none

def string? : List Char → StringRead
  | '"' :: '"' :: '"' :: rest => basicLines (skipLineEnd rest)
  | '\'' :: '\'' :: '\'' :: rest => literalLines (skipLineEnd rest)
  | s => lineString? s

theorem lineString?_length {s read rest} (h : lineString? s = some (read, rest)) :
    rest.length < s.length := by
  unfold lineString? at h
  split at h
  · have := basic_length h; simp only [List.length_cons]; omega
  · have := literal_length h; simp only [List.length_cons]; omega
  · simp at h

theorem string?_length {s read rest} (h : string? s = some (read, rest)) :
    rest.length < s.length := by
  unfold string? at h
  split at h
  · rename_i t
    have := basicLines_length h
    have := skipLineEnd_length t
    simp only [List.length_cons]
    omega
  · rename_i t
    have := literalLines_length h
    have := skipLineEnd_length t
    simp only [List.length_cons]
    omega
  · exact lineString?_length h

end ApiDocs.Toml
