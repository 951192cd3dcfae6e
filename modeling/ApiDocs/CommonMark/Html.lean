import ApiDocs.CommonMark.Line
import ApiDocs.CommonMark.Symbol
import ApiDocs.Text.Basic

/-!
# HTML in documents

A block of HTML starts at a line that begins like one of several constructs and ends with the line
that closes the construct, or before a blank line. Inside text a tag, comment, instruction,
declaration or section of character data stands for itself.
-/

namespace ApiDocs.CommonMark.Html

/-- How a block of HTML ends: with the line that holds a text, or before a blank line. -/
inductive Until where
  | line (closing : List Char)
  | blank
deriving DecidableEq, Repr

/-- Elements whose block ends with their own end tag. -/
def verbatimElements : List (String × String) :=
  [("pre", "</pre>"), ("style", "</style>"), ("script", "</script>"), ("textarea", "</textarea>")]

/-- Elements whose tags start a block that ends before a blank line. -/
def blockElements : List String :=
  ["address", "article", "aside", "base", "basefont", "blockquote", "body", "caption", "center",
    "col", "colgroup", "dd", "details", "dialog", "dir", "div", "dl", "dt", "fieldset",
    "figcaption", "figure", "footer", "form", "frame", "frameset", "h1", "h2", "h3", "h4", "h5",
    "h6", "head", "header", "hr", "html", "iframe", "legend", "li", "link", "main", "menu",
    "menuitem", "nav", "noframes", "ol", "optgroup", "option", "p", "param", "search", "section",
    "summary", "table", "tbody", "td", "tfoot", "th", "thead", "title", "tr", "track", "ul"]

/-- The end tag of a verbatim element whose start tag the text goes on with. -/
def verbatimClosing? (s : List Char) : Option (List Char) :=
  verbatimElements.findSome? fun (name, closing) =>
    let n := name.length
    if Text.asciiLower (s.take n) = name.toList then
      match s.drop n with
      | [] => some closing.toList
      | c :: _ => if isBlank c || c == '>' then some closing.toList else none
    else none

/-- What ends the construct that the text after `<` starts, when the construct may hold blank
lines. -/
def closing? (s : List Char) : Option (List Char) :=
  match verbatimClosing? s with
  | some closing => some closing
  | none =>
    if "!--".toList.isPrefixOf s then some "-->".toList
    else if "?".toList.isPrefixOf s then some "?>".toList
    else if "![CDATA[".toList.isPrefixOf s then some "]]>".toList
    else
      match s with
      | '!' :: c :: _ => if c.isAlpha then some ">".toList else none
      | _ => none

def startsBlockElement (s : List Char) : Bool :=
  let s := (Text.after? "/" s).getD s
  let name := s.takeWhile isAsciiWord
  let rest := s.dropWhile isAsciiWord
  blockElements.contains (String.ofList (Text.asciiLower name)) &&
    match rest with
    | [] => true
    | '/' :: '>' :: _ => true
    | c :: _ => c == ' ' || c == '\t' || c == '>'

/-- Where in a start tag a reader stands. -/
inductive TagState where
  | name
  | gap
  | attributeName
  | afterName
  | beforeValue
  | quotedValue (quote : Char)
  | bareValue
  | afterValue
  | slash
deriving DecidableEq, Repr

def isGap (c : Char) : Bool :=
  isBlank c || c == '\n'

def startsAttribute (c : Char) : Bool :=
  c.isAlpha || c == '_' || c == ':'

def isAttributeChar (c : Char) : Bool :=
  isAsciiWord c || c == '_' || c == ':' || c == '.' || c == '-'

def isBareChar (c : Char) : Bool :=
  !(isGap c || c == '"' || c == '\'' || c == '=' || c == '<' || c == '>' || c == '`')

/-- What a character does between the parts of a tag, other than starting an attribute. -/
def TagState.punctuation? (c : Char) : Option TagState :=
  if isGap c then some .gap else if c == '/' then some .slash else none

/-- The state after one more character of a start tag, other than its closing bracket. -/
def TagState.step? (c : Char) : TagState → Option TagState
  | name => if isAsciiWord c || c == '-' then some name else punctuation? c
  | gap => if startsAttribute c then some attributeName else punctuation? c
  | attributeName =>
    if isAttributeChar c then some attributeName
    else if isGap c then some afterName
    else if c == '=' then some beforeValue
    else punctuation? c
  | afterName =>
    if startsAttribute c then some attributeName
    else if isGap c then some afterName
    else if c == '=' then some beforeValue
    else punctuation? c
  | beforeValue =>
    if isGap c then some beforeValue
    else if c == '"' || c == '\'' then some (quotedValue c)
    else if isBareChar c then some bareValue
    else none
  | quotedValue quote => if c == quote then some afterValue else some (quotedValue quote)
  | bareValue => if isBareChar c then some bareValue else if isGap c then some gap else none
  | afterValue => punctuation? c
  | slash => none

def TagState.mayClose : TagState → Bool
  | beforeValue | quotedValue _ => false
  | _ => true

def tagRest? (state : TagState) : List Symbol → Option (List Symbol)
  | [] => none
  | s :: rest =>
    if s.toChar == '>' && state.mayClose then some rest
    else
      match state.step? s.toChar with
      | some next => tagRest? next rest
      | none => none

/-- The text after an end tag whose name was read. -/
def endTagRest? (s : List Symbol) : Option (List Symbol) :=
  let behind := s.dropWhile (·.isChar fun c => isAsciiWord c || c == '-')
  match behind.dropWhile (·.isChar isBlank) with
  | .char '>' :: rest => some rest
  | _ => none

def tag? : List Symbol → Option (List Symbol)
  | .char '/' :: .char c :: rest => if c.isAlpha then endTagRest? rest else none
  | .char c :: rest => if c.isAlpha then tagRest? .name rest else none
  | _ => none

/-- Whether a line that starts with `<` holds one tag and nothing else. -/
def isTagLine (s : List Char) : Bool :=
  match tag? (symbols s) with
  | some rest => rest.all (·.isChar isBlank)
  | none => false

/-- How the block of HTML ends that a line starts after `<`. A lone tag starts one only where no
paragraph is open. -/
def block? (s : List Char) : Option Until :=
  match closing? s with
  | some closing => some (.line closing)
  | none => if startsBlockElement s || isTagLine s then some .blank else none

def endsParagraph : List Char → Bool
  | '<' :: rest => (closing? rest).isSome || startsBlockElement rest
  | _ => false

def restAfter? (pattern : List Char) : List Symbol → Option (List Symbol)
  | [] => none
  | s :: rest =>
    if (symbols pattern).isPrefixOf (s :: rest) then some ((s :: rest).drop pattern.length)
    else restAfter? pattern rest

/-- The text after a section of character data, which its first closing bracket must end. -/
def characterDataRest? (s : List Symbol) : Option (List Symbol) :=
  match s.dropWhile (· ≠ .char ']') with
  | [] => none
  | rest =>
    match rest.dropWhile (· == .char ']') with
    | .char '>' :: rest => some rest
    | _ => none

/-- The text after the declaration, comment or section of character data that goes on after `<!`. -/
def declarationRest? : List Symbol → Option (List Symbol)
  | .char '-' :: .char '-' :: rest =>
    match rest with
    | .char '>' :: rest => some rest
    | .char '-' :: .char '>' :: rest => some rest
    | rest => restAfter? "-->".toList rest
  | .char '[' :: rest =>
    if (symbols "CDATA[".toList).isPrefixOf rest then characterDataRest? (rest.drop 6) else none
  | .char c :: rest => if c.isAlpha then restAfter? ">".toList rest else none
  | _ => none

/-- The HTML that goes on after `<`: its text, which starts with that bracket, and the text after
it. A tag is free of the margins of its lines. -/
def inline? (s : List Symbol) : Option (List Char × List Symbol) :=
  match s with
  | .char '!' :: more =>
    (declarationRest? more).map fun rest => ('<' :: (upTo rest s).flatMap Symbol.written, rest)
  | .char '?' :: more =>
    (restAfter? "?>".toList more).map fun rest =>
      ('<' :: (upTo rest s).flatMap Symbol.written, rest)
  | s => (tag? s).map fun rest => ('<' :: (upTo rest s).flatMap Symbol.unquoted, rest)

end ApiDocs.CommonMark.Html
