import NotebookExport.Python.Layout
import NotebookExport.Text.NameCharacter

/-!
# Lexemes

The tokens that can be told from their characters: names, numbers, operators, comments, and the
pieces of strings. Only tokens that the grammar allows at the point are looked for, and of those
the longest is taken. A word is a keyword where that keyword is allowed, and else a name.

`Lexeme.next` finds the next token, of layout or not. Characters at which no token begins make up
one unreadable lexeme.
-/

namespace NotebookExport.Python

open Text

/-! ### Lengths of tokens -/

/-- Blanks between tokens. -/
def isBlank (c : Char) : Bool :=
  c = ' ' || c = '\t' || c = '\n' || c = '\r' || c = '\x0b' || c = '\x0c' ||
    c = '\ufeff' || c = '\u2060' || c = '\u200b'

def isHexDigit (c : Char) : Bool :=
  c.isDigit || ('a' ≤ c && c ≤ 'f') || ('A' ≤ c && c ≤ 'F')

namespace Lexeme

/-- The number of leading characters of a class. -/
def run (p : Char → Bool) : List Char → Nat
  | [] => 0
  | c :: cs => if p c then run p cs + 1 else 0

/-- Digits, each possibly followed by one underscore; begins with a digit. -/
def digits : List Char → Nat
  | [] => 0
  | c :: '_' :: cs => if c.isDigit then 2 + digits cs else 0
  | c :: cs => if c.isDigit then 1 + digits cs else 0

/-- Digits of a class, each possibly preceded by one underscore; ends with a digit. -/
def digitsAfterPrefix (p : Char → Bool) : List Char → Nat
  | [] => 0
  | '_' :: c :: cs => if p c then 2 + digitsAfterPrefix p cs else 0
  | c :: cs => if p c then 1 + digitsAfterPrefix p cs else 0

/-- One character more if the text goes on with one of the class. -/
def withSuffix (p : Char → Bool) (text : List Char) (length : Nat) : Nat :=
  match text.drop length with
  | c :: _ => if p c then length + 1 else length
  | [] => length

def isLong (c : Char) : Bool := c = 'L' || c = 'l'

def isImaginary (c : Char) : Bool := c = 'J' || c = 'j'

def integerLength (text : List Char) : Nat :=
  let prefixed := match text with
    | '0' :: x :: rest =>
      let n :=
        if x = 'x' || x = 'X' then digitsAfterPrefix isHexDigit rest
        else if x = 'o' || x = 'O' then digitsAfterPrefix (fun c => '0' ≤ c && c ≤ '7') rest
        else if x = 'b' || x = 'B' then digitsAfterPrefix (fun c => c = '0' || c = '1') rest
        else 0
      if n = 0 then 0 else withSuffix isLong text (n + 2)
    | _ => 0
  if prefixed = 0 then
    match digits text with
    | 0 => 0
    | n => withSuffix (fun c => isLong c || isImaginary c) text n
  else prefixed

/-- The length of an exponent: `e`, perhaps a sign, digits. -/
def exponentLength : List Char → Nat
  | e :: rest =>
    if e = 'e' || e = 'E' then
      match rest with
      | s :: rest' =>
        let signed := s = '+' || s = '-'
        match digits (if signed then rest' else rest) with
        | 0 => 0
        | n => n + (if signed then 2 else 1)
      | [] => 0
    else 0
  | [] => 0

def floatLength (text : List Char) : Nat :=
  let whole := digits text
  let mantissa := match text.drop whole with
    | '.' :: rest =>
      let fraction := digits rest
      if whole = 0 && fraction = 0 then 0 else whole + 1 + fraction
    | _ => 0
  let exponent := exponentLength (text.drop (if mantissa = 0 then whole else mantissa))
  if mantissa = 0 && (whole = 0 || exponent = 0) then 0
  else withSuffix isImaginary text ((if mantissa = 0 then whole else mantissa) + exponent)

def nameLength : List Char → Nat
  | [] => 0
  | c :: cs => if isNameStart c then run isNameContinue cs + 1 else 0

/-- A comment runs to the end of its line; a NUL ends it, too. -/
def commentLength : List Char → Nat
  | '#' :: cs => run (fun c => c != '\n' && c != '\x00') cs + 1
  | _ => 0

/-- A backslash at the end of a line, before a NUL or at the end of the text. -/
def continuationLength : List Char → Nat
  | ['\\'] => 1
  | '\\' :: '\n' :: _ => 2
  | '\\' :: '\x00' :: _ => 2
  | '\\' :: '\r' :: '\n' :: _ => 3
  | _ => 0

/-- A backslash with the characters that it gives a meaning. -/
def escapeLength : List Char → Nat
  | '\\' :: c :: rest =>
    let counted (n : Nat) (p : Char → Bool) (text : List Char) : Bool := n ≤ run p (text.take n)
    if c = 'u' then (if counted 4 isHexDigit rest then 6 else 0)
    else if c = 'U' then (if counted 8 isHexDigit rest then 10 else 0)
    else if c = 'x' then (if counted 2 isHexDigit rest then 4 else 0)
    else if c.isDigit then (if counted 2 Char.isDigit rest then 4 else 0)
    else if c = '\n' then 2
    else if c = '\r' then (if rest.head? = some '\n' then 3 else 0)
    else if "'\"abfrntv\\".toList.contains c then 2
    else if c = 'N' then
      match rest with
      | '\x7b' :: name =>
        let n := run (fun c => c != '\x7d' && c != '\x00') name
        if 0 < n && (name.drop n).head? = some '\x7d' then n + 4 else 0
      | _ => 0
    else 0
  | _ => 0

/-- The text between the interpolations of a format specifier. -/
def formatTextLength (text : List Char) : Nat :=
  run (fun c => c != '\x7b' && c != '\x7d' && c != '\n' && c != '\x00') text

def conversionLength : List Char → Nat
  | '!' :: c :: _ => if 'a' ≤ c && c ≤ 'z' then 2 else 0
  | _ => 0

/-- The longest mark of `valid` with which the text begins. -/
def longestMark (valid : TokenSet) (text : List Char) : Option (Token × Nat) :=
  Token.marks.foldl
    (fun best (spelling, token) =>
      if valid.contains token && spelling.toList.isPrefixOf text then
        match best with
        | some (_, n) => if n < spelling.length then some (token, spelling.length) else best
        | none => some (token, spelling.length)
      else best)
    none

/-! ### The next token -/

/-- The longer of two matches, the first of two equally long ones. -/
def longer (a : Option (Token × Nat)) (token : Token) (length : Nat) : Option (Token × Nat) :=
  match a with
  | some (_, n) => if n < length then some (token, length) else a
  | none => if 0 < length then some (token, length) else none

/-- The keywords, as a set. -/
def keywordSet : TokenSet := .ofList (Token.keywords.map Prod.snd)

/-- Words are looked for where a name or any keyword is possible. -/
def allowsWord (valid : TokenSet) : Bool :=
  valid.contains .identifier || (valid.bits &&& keywordSet.bits) != 0

/-- The token of `valid` with which the text begins, and its length. The pieces of a string do not
take part behind blanks (`adjacent` is then false). -/
def match? (valid : TokenSet) (adjacent : Bool) (text : List Char) : Option (Token × Nat) :=
  let when_ (token : Token) (length : List Char → Nat) (best : Option (Token × Nat)) :=
    if valid.contains token then longer best token (length text) else best
  let formatText := when_ .formatText formatTextLength none
  let escape := if adjacent then when_ .escapeSequence escapeLength none else none
  if formatText.isSome then formatText
  else if escape.isSome then escape
  else
    let best := longestMark valid text
    let best := if allowsWord valid then longer best .identifier (nameLength text) else best
    let best := when_ .typeConversion conversionLength best
    let best := when_ .integer integerLength best
    let best := when_ .float floatLength best
    let best := longer best .comment (commentLength text)
    let best := longer best .lineContinuation (continuationLength text)
    if adjacent then when_ .backslash (run (· == '\\') ∘ List.take 1) best else best

/-- What the lexer finds: a token from one cursor to another, or the place where none begins. -/
inductive Match where
  | token (token : Token) (start stop : Cursor)
  | nothing (stop : Cursor)

/-- Skips blanks up to the next token. -/
def lexFrom (valid : TokenSet) : Nat → Bool → Cursor → Match
  | 0, _, c => .nothing c
  | fuel + 1, adjacent, c =>
    match c.rest with
    | [] => .token .endOfInput c c
    | x :: _ =>
      match match? valid adjacent c.rest with
      | some (token, n) => .token token c (c.skip n)
      | none => if isBlank x then lexFrom valid fuel false c.next else .nothing c

end Lexeme

/-- A token of the input with its place, or a stretch in which no token begins. -/
structure Lexeme where
  /-- `none` for unreadable text. -/
  token : Option Token
  /-- Where the previous token ends. -/
  outer : Position
  start : Position
  stop : Cursor
  /-- The layout behind the token, if the scanner found it. -/
  layout : Option Layout
  /-- Whether the layout differs from the one before. -/
  changesLayout : Bool
  /-- Whether the text is also the spelling of a keyword. -/
  isWord : Bool

namespace Lexeme

/-- The tokens that are looked for where the parser has to recover. -/
def recoverable : TokenSet :=
  .ofList (Token.all.filter fun token =>
    token ∉ [.escapeSequence, .backslash, .formatText, .typeConversion])

/-- A layout token, unless it would stand still: an empty token that leaves the layout as it is
does not count while `mayStay` is false. -/
def nextLayout (layout : Layout) (valid : TokenSet) (mayStay : Bool) (c : Cursor) :
    Option LayoutToken :=
  (layout.scan valid c).filter fun found =>
    mayStay || found.layout != layout || c.position.index < found.stop.position.index

/-- The lexeme of a word or other token between two cursors. -/
def ofMatch (valid : TokenSet) (outer : Position) (token : Token) (start stop : Cursor) : Lexeme :=
  let word := start.rest.take (stop.position.index - start.position.index)
  let keyword := if token = .identifier then Token.ofWord? word else none
  let token := match keyword with
    | some k => if valid.contains k then k else token
    | none => token
  ⟨some token, outer, start.position, stop, none, false, keyword.isSome⟩

/-- Looks for any token at all, from `c` on; `unreadable` is the stretch passed over so far. -/
def recover (valid : TokenSet) (layout : Layout) (outer : Position) :
    Nat → Option (Position × Cursor) → Cursor → Lexeme
  | 0, _, c => ⟨none, outer, c.position, c, none, false, false⟩
  | fuel + 1, unreadable, c =>
    let skipped (found : Lexeme) : Lexeme :=
      match unreadable with
      | none => found
      | some (start, stop) => ⟨none, outer, start, stop, none, false, false⟩
    match nextLayout layout recoverable false c with
    | some found =>
      skipped ⟨some found.token, outer, found.start, found.stop, some found.layout,
        found.layout != layout, false⟩
    | none =>
      match lexFrom recoverable (c.rest.length + 1) true c with
      | .token token start stop => skipped (ofMatch valid outer token start stop)
      | .nothing stop =>
        let (start, reached) := unreadable.getD (stop.position, stop)
        let stop := if stop.position = reached.position then stop.next else stop
        recover valid layout outer fuel (some (start, stop)) stop

/-- The next lexeme at `c` where the tokens of `valid` are possible. `lost` says that the parser
is looking for a place to go on; `mayStay` that it has moved since the last error. -/
def next (valid : TokenSet) (lost mayStay : Bool) (layout : Layout) (c : Cursor) : Lexeme :=
  let outer := c.position
  let fuel := 2 * c.rest.length + 2
  if lost then recover recoverable layout outer fuel none c
  else
    match nextLayout layout valid mayStay c with
    | some found =>
      ⟨some found.token, outer, found.start, found.stop, some found.layout,
        found.layout != layout, false⟩
    | none =>
      match lexFrom valid (c.rest.length + 1) true c with
      | .token token start stop => ofMatch valid outer token start stop
      | .nothing _ => recover valid layout outer fuel none c

end Lexeme

end NotebookExport.Python
