import ApiDocs.Json.Basic
import ApiDocs.Json.Number
import ApiDocs.Json.Syntax
import ApiDocs.Numeric.Hex

/-!
# Reading JSON text

A reader takes the text left to read and gives a value with the text after it, or the failure it
met. Arrays and objects nest less than 128 deep. Of several entries with one key the last counts,
and an object holds its entries in the order of their keys.
-/

namespace ApiDocs.Json

open ApiDocs.Text (Rest length_dropWhile_le)

def isBlank (c : Char) : Bool :=
  c == ' ' || c == '\n' || c == '\t' || c == '\r'

def skipBlanks (s : List Char) : List Char :=
  s.dropWhile isBlank

theorem skipBlanks_length (s : List Char) : (skipBlanks s).length ≤ s.length :=
  length_dropWhile_le isBlank s

def hexWord? (a b c d : Char) : Option Nat := do
  let high := (← Hex.value? a) * 16 + (← Hex.value? b)
  let low := (← Hex.value? c) * 16 + (← Hex.value? d)
  return high * 256 + low

def hexFailure (s : List Char) : Failure :=
  if byteCount s < 4 then ⟨.endInString, [], 0⟩ else ⟨.invalidEscape, s, 4⟩

/-- The code units that start a pair. -/
def isLeading (code : Nat) : Bool :=
  0xD800 ≤ code && code ≤ 0xDBFF

/-- The code units that end a pair. -/
def isTrailing (code : Nat) : Bool :=
  0xDC00 ≤ code && code ≤ 0xDFFF

def pairChar (leading trailing : Nat) : Char :=
  Char.ofNat (0x10000 + (leading - 0xD800) * 0x400 + (trailing - 0xDC00))

/-- The failure where the second unit of a pair does not follow the first. -/
def pairFailure : List Char → Failure
  | [] => ⟨.endInString, [], 0⟩
  | ['\\'] => ⟨.endInString, [], 0⟩
  | '\\' :: 'u' :: rest => hexFailure rest
  | '\\' :: rest => ⟨.unfinishedSurrogate, rest, 1⟩
  | rest => ⟨.unfinishedSurrogate, rest, 1⟩

def escapedChar? : Char → Option Char
  | '"' => some '"'
  | '\\' => some '\\'
  | '/' => some '/'
  | 'b' => some '\x08'
  | 'f' => some '\x0c'
  | 'n' => some '\n'
  | 'r' => some '\r'
  | 't' => some '\t'
  | _ => none

def consChar (c : Char) :
    Except Failure (List Char × List Char) → Except Failure (List Char × List Char)
  | .ok (read, rest) => .ok (c :: read, rest)
  | .error failure => .error failure

def stringBody : List Char → Except Failure (List Char × List Char)
  | [] => .error ⟨.endInString, [], 0⟩
  | '"' :: rest => .ok ([], rest)
  | '\\' :: 'u' :: a :: b :: c :: d :: rest =>
    match hexWord? a b c d with
    | none => .error (hexFailure (a :: b :: c :: d :: rest))
    | some code =>
      if isTrailing code then .error ⟨.loneSurrogate, rest, 0⟩
      else if isLeading code then
        match rest with
        | '\\' :: 'u' :: e :: f :: g :: h :: rest =>
          match hexWord? e f g h with
          | none => .error (hexFailure (e :: f :: g :: h :: rest))
          | some second =>
            if isTrailing second then consChar (pairChar code second) (stringBody rest)
            else .error ⟨.loneSurrogate, rest, 0⟩
        | rest => .error (pairFailure rest)
      else consChar (Char.ofNat code) (stringBody rest)
  | '\\' :: 'u' :: rest => .error (hexFailure rest)
  | ['\\'] => .error ⟨.endInString, [], 0⟩
  | '\\' :: c :: rest =>
    match escapedChar? c with
    | some e => consChar e (stringBody rest)
    | none => .error ⟨.invalidEscape, c :: rest, 1⟩
  | c :: rest =>
    if c.toNat < 32 then .error ⟨.controlCharacter, c :: rest, 1⟩
    else consChar c (stringBody rest)

theorem consChar_ok {c result read rest} (h : consChar c result = .ok (read, rest)) :
    ∃ more, result = .ok (more, rest) ∧ read = c :: more := by
  match result with
  | .ok (more, tail) =>
    simp only [consChar, Except.ok.injEq, Prod.mk.injEq] at h
    exact ⟨more, by rw [h.2], h.1.symm⟩
  | .error failure => simp [consChar] at h

theorem stringBody_length {s read rest} (h : stringBody s = .ok (read, rest)) :
    rest.length < s.length := by
  fun_induction stringBody s generalizing read rest with
  | case6 | case9 | case12 | case15 =>
    rename_i ih
    obtain ⟨more, hm, -⟩ := consChar_ok h
    have := ih hm
    simp only [List.length_cons]
    omega
  | _ => simp_all

/-- Reads the remaining letters of a word. -/
def word (value : Json) : List Char → List Char → Except Failure (Json × List Char)
  | [], s => .ok (value, s)
  | _ :: _, [] => .error ⟨.endInValue, [], 0⟩
  | letter :: letters, c :: rest =>
    if c = letter then word value letters rest else .error ⟨.expectedWord, c :: rest, 1⟩

theorem word_length {value letters s read rest} (h : word value letters s = .ok (read, rest)) :
    rest.length ≤ s.length := by
  fun_induction word value letters s with
  | case3 _ _ _ ih => have := ih h; simp only [List.length_cons]; omega
  | _ => simp_all

/-- Reads a value without parts, given its first character and the text after that. -/
def scalarAt (c : Char) (rest : List Char) : Except Failure (Json × List Char) :=
  if c = 'n' then word .null ['u', 'l', 'l'] rest
  else if c = 't' then word (.bool true) ['r', 'u', 'e'] rest
  else if c = 'f' then word (.bool false) ['a', 'l', 's', 'e'] rest
  else if c = '-' then number true rest
  else if c.isDigit then number false (c :: rest)
  else if c = '"' then
    (stringBody rest).map fun (read, rest) => (.string (String.ofList read), rest)
  else .error ⟨.expectedValue, c :: rest, 1⟩

theorem scalarAt_length {c s value rest} (h : scalarAt c s = .ok (value, rest)) :
    rest.length < (c :: s).length := by
  unfold scalarAt at h
  simp only [List.length_cons]
  split at h
  · have := word_length h; omega
  split at h
  · have := word_length h; omega
  split at h
  · have := word_length h; omega
  split at h
  · have := number_length h; omega
  split at h
  · exact number_length h
  split at h
  · match hs : stringBody s with
    | .ok (read, tail) =>
      simp only [hs, Except.map, Except.ok.injEq, Prod.mk.injEq] at h
      have := stringBody_length hs
      rw [h.2] at this
      omega
    | .error failure => simp [hs, Except.map] at h
  · simp at h

mutual

/-- Reads a value, at most `depth - 1` brackets deep. -/
def value (depth : Nat) (s : List Char) : Except Failure (Json × Rest s) :=
  have hs := skipBlanks_length s
  match h : skipBlanks s with
  | [] => .error ⟨.endInValue, [], 0⟩
  | '[' :: rest =>
    if depth ≤ 1 then .error ⟨.tooDeep, '[' :: rest, 1⟩
    else
      have hr := skipBlanks_length rest
      match h' : skipBlanks rest with
      | [] => .error ⟨.endInList, [], 0⟩
      | ']' :: rest => .ok (.array [], ⟨rest, by grind⟩)
      | c :: rest =>
        match items (depth - 1) (c :: rest) with
        | .ok (read, ⟨rest, hn⟩) => .ok (.array read, ⟨rest, by grind⟩)
        | .error failure => .error failure
  | '\x7b' :: rest =>
    if depth ≤ 1 then .error ⟨.tooDeep, '\x7b' :: rest, 1⟩
    else
      have hr := skipBlanks_length rest
      match h' : skipBlanks rest with
      | [] => .error ⟨.endInObject, [], 0⟩
      | '\x7d' :: rest => .ok (.object [], ⟨rest, by grind⟩)
      | '"' :: rest =>
        match entries (depth - 1) rest with
        | .ok (read, ⟨rest, hn⟩) => .ok (.object (Dict.ofList read), ⟨rest, by grind⟩)
        | .error failure => .error failure
      | c :: rest => .error ⟨.keyNotString, c :: rest, 1⟩
  | c :: rest =>
    match h' : scalarAt c rest with
    | .ok (read, rest) => .ok (read, ⟨rest, by have := scalarAt_length h'; grind⟩)
    | .error failure => .error failure
termination_by (s.length, 0)
decreasing_by all_goals (simp_wf; grind)

def items (depth : Nat) (s : List Char) : Except Failure (List Json × Rest s) :=
  match value depth s with
  | .error failure => .error failure
  | .ok (item, ⟨rest, hv⟩) =>
    have hs := skipBlanks_length rest
    match h : skipBlanks rest with
    | [] => .error ⟨.endInList, [], 0⟩
    | ']' :: rest => .ok ([item], ⟨rest, by grind⟩)
    | ',' :: rest =>
      have hr := skipBlanks_length rest
      match h' : skipBlanks rest with
      | [] => .error ⟨.endInValue, [], 0⟩
      | ']' :: rest => .error ⟨.trailingComma, ']' :: rest, 1⟩
      | c :: rest =>
        match items depth (c :: rest) with
        | .ok (more, ⟨rest, hn⟩) => .ok (item :: more, ⟨rest, by grind⟩)
        | .error failure => .error failure
    | c :: rest => .error ⟨.expectedListEnd, c :: rest, 1⟩
termination_by (s.length, 1)
decreasing_by all_goals (simp_wf; grind)

/-- Reads the entries of an object, from behind the opening quote of a key up to the closing
bracket. -/
def entries (depth : Nat) (s : List Char) : Except Failure (List (String × Json) × Rest s) :=
  match hk : stringBody s with
  | .error failure => .error failure
  | .ok (key, rest) =>
    have hb := stringBody_length hk
    have hs := skipBlanks_length rest
    match h : skipBlanks rest with
    | [] => .error ⟨.endInObject, [], 0⟩
    | ':' :: rest =>
      match value depth rest with
      | .error failure => .error failure
      | .ok (read, ⟨rest, hv⟩) =>
        have hr := skipBlanks_length rest
        match h' : skipBlanks rest with
        | [] => .error ⟨.endInObject, [], 0⟩
        | '\x7d' :: rest => .ok ([(String.ofList key, read)], ⟨rest, by grind⟩)
        | ',' :: rest =>
          have hc := skipBlanks_length rest
          match h'' : skipBlanks rest with
          | [] => .error ⟨.endInValue, [], 0⟩
          | '"' :: rest =>
            match entries depth rest with
            | .ok (more, ⟨rest, hn⟩) =>
              .ok ((String.ofList key, read) :: more, ⟨rest, by grind⟩)
            | .error failure => .error failure
          | '\x7d' :: rest => .error ⟨.trailingComma, '\x7d' :: rest, 1⟩
          | c :: rest => .error ⟨.keyNotString, c :: rest, 1⟩
        | c :: rest => .error ⟨.expectedObjectEnd, c :: rest, 1⟩
    | c :: rest => .error ⟨.expectedColon, c :: rest, 1⟩
termination_by (s.length, 2)
decreasing_by all_goals grind

end

/-- The depth of brackets at which reading stops. -/
def maxDepth : Nat :=
  128

def document (s : List Char) : Except Failure Json :=
  match value maxDepth s with
  | .error failure => .error failure
  | .ok (read, ⟨rest, _⟩) =>
    match skipBlanks rest with
    | [] => .ok read
    | c :: rest => .error ⟨.trailingCharacters, c :: rest, 1⟩

def parse (text : String) : Except SyntaxError Json :=
  (document text.toList).mapError (·.locate text.toList)

end ApiDocs.Json
