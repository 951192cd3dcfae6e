import ApiDocs.Config.Value
import ApiDocs.Environment
import ApiDocs.Numeric.Hex
import ApiDocs.Text.Basic

/-!
# Settings in variables

A variable whose name starts with the prefix of the program sets the value at a path of keys, which
its name spells with double underscores or points in between. Only the name of an alias keeps its
capitals. The value may be a number, a truth value, a quoted text, a sequence in brackets or a table
in braces; everything else is text as it stands.
-/

namespace ApiDocs.Config

open ApiDocs.Text (Rest Unread length_dropWhile_le)

namespace Variable

/-- The beginning of the names that count, in any case. -/
def prefixText : String :=
  "DOCLINT_"

/-- The text with a point for every two underscores. -/
def pointed : List Char → List Char
  | '_' :: '_' :: rest => '.' :: pointed rest
  | c :: rest => c :: pointed rest
  | [] => []

/-- The keys with their capitals made small, except for the name of an alias and what follows it. -/
def normalKeys : List (List Char) → List (List Char)
  | keys@(outer :: inner :: name :: rest) =>
    if Text.asciiLower outer = "slugs".toList ∧ Text.asciiLower inner = "aliases".toList then
      "slugs".toList :: "aliases".toList :: name :: rest
    else keys.map Text.asciiLower
  | keys => keys.map Text.asciiLower

/-- The path of keys that the name of a variable spells. -/
def path? (name : String) : Option (List String) :=
  let s := Text.trim name.toList
  let front := s.take prefixText.length
  let keys := normalKeys ((pointed (Text.trim (s.drop prefixText.length))).splitOn '.')
  if Text.asciiLower front = Text.asciiLower prefixText.toList ∧ [] ∉ keys then
    some (keys.map String.ofList)
  else none

def isBlank (c : Char) : Bool :=
  c ∈ [' ', '\t', '\n', '\x0c', '\r']

def skipBlanks (s : List Char) : List Char :=
  s.dropWhile isBlank

theorem skipBlanks_length (s : List Char) : (skipBlanks s).length ≤ s.length :=
  length_dropWhile_le isBlank s

/-- The characters that end a text without quotes. -/
def isSeparator (c : Char) : Bool :=
  c ∈ [',', '\x7b', '\x7d', '[', ']']

def isKeyChar (c : Char) : Bool :=
  c.isAlphanum || c == '_' || c == '-'

def bareValue (s : List Char) : Value :=
  let s := Text.trim s
  match if s.contains '.' then Extended.ofText? s else none with
  | some x => .real x
  | none =>
    match Decimal.integer? s with
    | some n =>
      if s.head? ≠ some '-' then
        if n < Int.pow 2 64 then .unsigned n.toNat else .text (String.ofList s)
      else if -Int.pow 2 63 ≤ n then .signed n
      else .text (String.ofList s)
    | none => .text (String.ofList s)

/-- The text between quotes up to the closing one, still with its escapes, and the text behind. -/
def quotedBody : List Char → Option (List Char × List Char)
  | [] => none
  | '"' :: rest => some ([], rest)
  | '\\' :: c :: rest => (quotedBody rest).map fun (read, rest) => ('\\' :: c :: read, rest)
  | c :: rest => (quotedBody rest).map fun (read, rest) => (c :: read, rest)

theorem quotedBody_length {s read rest} (h : quotedBody s = some (read, rest)) :
    rest.length < s.length := by
  fun_induction quotedBody s generalizing read with
  | case3 | case4 =>
    rename_i ih
    simp only [Option.map_eq_some_iff, Prod.mk.injEq, Prod.exists] at h
    obtain ⟨t, u, ht, -, rfl⟩ := h
    have := ih ht
    simp only [List.length_cons]
    omega
  | _ => simp_all

def letterChar? : Char → Option Char
  | 'b' => some '\x08'
  | 't' => some '\t'
  | 'n' => some '\n'
  | 'f' => some '\x0c'
  | 'r' => some '\r'
  | '"' => some '"'
  | '\\' => some '\\'
  | _ => none

def unescaped? : List Char → Option (List Char)
  | [] => some []
  | '\\' :: 'u' :: a :: b :: c :: d :: rest => do
    return (← Hex.codeChar? [a, b, c, d]) :: (← unescaped? rest)
  | '\\' :: 'U' :: a :: b :: c :: d :: e :: f :: g :: h :: rest => do
    return (← Hex.codeChar? [a, b, c, d, e, f, g, h]) :: (← unescaped? rest)
  | '\\' :: c :: rest => do return (← letterChar? c) :: (← unescaped? rest)
  | ['\\'] => none
  | c :: rest => (unescaped? rest).map (c :: ·)

def quoted? (s : List Char) : Option (String × Rest s) :=
  match h : quotedBody s with
  | some (read, rest) =>
    (unescaped? read).map fun text => (String.ofList text, ⟨rest, quotedBody_length h⟩)
  | none => none

def key? (s : List Char) : Option (String × Rest s) :=
  match s with
  | [] => none
  | '"' :: rest =>
    (quoted? rest).map fun (read, ⟨rest, h⟩) => (read, ⟨rest, by grind⟩)
  | c :: rest =>
    if isKeyChar c then
      some (String.ofList (c :: rest.takeWhile isKeyChar),
        ⟨rest.dropWhile isKeyChar, by
          have := length_dropWhile_le isKeyChar rest
          simp only [List.length_cons]
          omega⟩)
    else none

def after? (word s : List Char) : Option (Unread s) :=
  if word.isPrefixOf s then some ⟨s.drop word.length, by simp⟩ else none

def simple? (s : List Char) : Option (Value × Unread s) :=
  match after? ['t', 'r', 'u', 'e'] s, after? ['f', 'a', 'l', 's', 'e'] s with
  | some rest, _ => some (.truth true, rest)
  | none, some rest => some (.truth false, rest)
  | none, none =>
    match s with
    | '"' :: rest =>
      (quoted? rest).map fun (read, ⟨rest, h⟩) => (.text read, ⟨rest, by grind⟩)
    | '\'' :: c :: '\'' :: rest => some (.text (String.ofList [c]), ⟨rest, by grind⟩)
    | '\'' :: _ => none
    | s =>
      some (bareValue (s.takeWhile fun c => !isSeparator c),
        ⟨s.dropWhile fun c => !isSeparator c, length_dropWhile_le _ s⟩)

/-- What is left behind blanks, a value and more blanks is no longer than what it was read from. -/
theorem length_skipBlanks_le {s t start rest : List Char} (hs : t.length ≤ s.length)
    (h : t = start) (hr : rest.length ≤ start.length) : (skipBlanks rest).length ≤ s.length := by
  rw [h] at hs
  exact Nat.le_trans (skipBlanks_length rest) (Nat.le_trans hr hs)

theorem length_skipBlanks_le_of_lt {s t inner rest : List Char} {c : Char}
    (hs : t.length ≤ s.length) (h : t = c :: inner) (hr : rest.length < inner.length) :
    (skipBlanks rest).length ≤ s.length :=
  length_skipBlanks_le hs h (Nat.le_succ_of_le (Nat.le_of_lt hr))

/-- What is left behind a key, blanks and one more character is shorter than what it was read
from. -/
theorem length_lt_of_entry {s t rest u v : List Char} {c : Char} (hs : t.length ≤ s.length)
    (hk : rest.length < t.length) (hr : u.length ≤ rest.length) (h : u = c :: v) :
    v.length < s.length := by
  rw [h, List.length_cons] at hr
  omega

theorem length_lt_of_cons {s rest : List Char} {c : Char} (unread : Unread s)
    (h : unread.val = c :: rest) : rest.length < s.length := by
  have hu := unread.property
  rw [h] at hu
  exact hu

theorem length_lt_of_cons_of_lt {s t rest : List Char} {c : Char} (unread : Unread t)
    (h : unread.val = c :: rest) (ht : t.length < s.length) : rest.length < s.length :=
  Nat.lt_trans (length_lt_of_cons unread h) ht

mutual

def value? (s : List Char) : Option (Value × Unread s) :=
  have hs := skipBlanks_length s
  match h : skipBlanks s with
  | '[' :: rest =>
    match items? rest with
    | some (read, ⟨rest, hi⟩) =>
      some (.sequence read, ⟨skipBlanks rest, length_skipBlanks_le_of_lt hs h hi⟩)
    | none => none
  | '\x7b' :: rest =>
    match entries? rest with
    | some (read, ⟨rest, hi⟩) =>
      some (.table (Dict.ofList read), ⟨skipBlanks rest, length_skipBlanks_le_of_lt hs h hi⟩)
    | none => none
  | start =>
    match simple? start with
    | some (read, ⟨rest, hi⟩) =>
      some (read, ⟨skipBlanks rest, length_skipBlanks_le hs h hi⟩)
    | none => none
termination_by (s.length, 0)
decreasing_by
  all_goals
    rw [h] at hs
    exact Prod.Lex.left _ _ hs

def items? (s : List Char) : Option (List Value × Rest s) :=
  match s with
  | ']' :: rest => some ([], ⟨rest, Nat.lt_add_one _⟩)
  | s =>
    match value? s with
    | none => none
    | some (item, unread) =>
      match h : unread.val with
      | ']' :: rest => some ([item], ⟨rest, length_lt_of_cons unread h⟩)
      | ',' :: rest =>
        have hb := length_lt_of_cons unread h
        match items? rest with
        | some (more, ⟨rest, hi⟩) => some (item :: more, ⟨rest, Nat.lt_trans hi hb⟩)
        | none => none
      | _ => none
termination_by (s.length, 1)
decreasing_by
  · exact Prod.Lex.right _ Nat.zero_lt_one
  · exact Prod.Lex.left _ _ hb

def entries? (s : List Char) : Option (List (String × Value) × Rest s) :=
  match s with
  | '\x7d' :: rest => some ([], ⟨rest, Nat.lt_add_one _⟩)
  | s =>
    have hs := skipBlanks_length s
    match key? (skipBlanks s) with
    | none => none
    | some (key, ⟨rest, hk⟩) =>
      have hr := skipBlanks_length rest
      match h : skipBlanks rest with
      | '=' :: rest =>
        have hb := length_lt_of_entry hs hk hr h
        match value? rest with
        | none => none
        | some (read, unread) =>
          match hv : unread.val with
          | '\x7d' :: rest => some ([(key, read)], ⟨rest, length_lt_of_cons_of_lt unread hv hb⟩)
          | ',' :: rest =>
            have hc := length_lt_of_cons_of_lt unread hv hb
            match entries? rest with
            | some (more, ⟨rest, hi⟩) => some ((key, read) :: more, ⟨rest, Nat.lt_trans hi hc⟩)
            | none => none
          | _ => none
      | _ => none
termination_by (s.length, 1)
decreasing_by
  · exact Prod.Lex.left _ _ hb
  · exact Prod.Lex.left _ _ hc

end

/-- The value that the text of a variable stands for. -/
def valueOf (text : String) : Value :=
  match value? text.toList with
  | some (value, ⟨[], _⟩) => value
  | _ => .text text

end Variable

/-- The settings of the variables of an environment, later ones over earlier ones. -/
def entriesOfVariables (environment : Environment) : Entries :=
  environment.foldl (fun entries (name, text) =>
    match Variable.path? name with
    | some path =>
      match Value.nested path (Variable.valueOf text) with
      | .table additions => Value.overlayEntries entries additions
      | _ => entries
    | none => entries) []

end ApiDocs.Config
