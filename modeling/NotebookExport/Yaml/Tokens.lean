import NotebookExport.Yaml.Directive

/-!
# From YAML text to tokens

Cutting a text into tokens. What makes this more than reading scalars one after the other: a key is
known to be one only at the colon behind it, so that its token, and the beginning of the mapping it
is in, go in front of tokens that are there already; and blocks end where a line starts further to
the left.
-/

namespace NotebookExport.Yaml

/-- A token that may turn out to be a key. -/
structure KeyCandidate where
  /-- Whether there is nothing else that it may be. -/
  isRequired : Bool
  /-- The number of tokens before it. -/
  place : Nat
  mark : Mark

/-- How far a text has been cut into tokens. -/
structure Scan where
  cursor : Cursor
  tokens : List Token
  /-- The columns of the blocks around the cursor, the innermost first. -/
  indents : List Nat
  /-- For each flow collection around the cursor, the innermost first, and for what is around them
  all: the last token that may be a key. -/
  candidates : List (Option KeyCandidate)
  /-- Whether a key may start here. -/
  allowsKey : Bool

namespace Scan

def ofText (text : List Char) : Scan := ⟨.ofText text, [], [], [none], true⟩

def inFlow (s : Scan) : Bool := 1 < s.candidates.length

/-- The column of the innermost block; outside of all blocks, one less than the first column. -/
def indent (s : Scan) : Int :=
  match s.indents with
  | [] => -1
  | column :: _ => column

def add (s : Scan) (kind : TokenKind) (start stop : Mark) : Scan :=
  { s with tokens := s.tokens ++ [⟨kind, start, stop⟩] }

/-- Adds a token of one character. -/
def addMark (s : Scan) (kind : TokenKind) : Scan :=
  { s.add kind s.cursor.mark s.cursor.skip.mark with cursor := s.cursor.skip }

/-- A fault at the cursor that is no one's part. -/
def fail (s : Scan) (problem : Problem) : Except SyntaxBreak Scan :=
  .error ⟨problem, s.cursor.mark, none⟩

/-! ### Candidates for keys -/

/-- The largest number of characters between the beginning of a key and its colon. -/
def maxKeyLength : Nat := 1024

/-- Gives up candidates that are too far away to be keys. -/
def dropStale (c : Cursor) : List (Option KeyCandidate) →
    Except SyntaxBreak (List (Option KeyCandidate))
  | [] => .ok []
  | slot :: outer =>
    (dropStale c outer).bind fun outer =>
      match slot with
      | none => .ok (none :: outer)
      | some key =>
        if key.mark.line < c.mark.line || key.mark.index + maxKeyLength < c.mark.index then
          if key.isRequired then .error (.during .simpleKey key.mark .noColonBehindKey c)
          else .ok (none :: outer)
        else .ok (some key :: outer)

/-- Gives up the innermost candidate. -/
def dropCandidate (s : Scan) : Except SyntaxBreak Scan :=
  match s.candidates with
  | [] => .ok s
  | none :: _ => .ok s
  | some key :: outer =>
    if key.isRequired then .error (.during .simpleKey key.mark .noColonBehindKey s.cursor)
    else .ok { s with candidates := none :: outer }

/-- Makes the next token the innermost candidate, if a key may start here. -/
def addCandidate (s : Scan) : Except SyntaxBreak Scan :=
  if s.allowsKey then
    let key : KeyCandidate :=
      ⟨!s.inFlow && s.indent = s.cursor.mark.column, s.tokens.length, s.cursor.mark⟩
    s.dropCandidate.map fun s => { s with candidates := some key :: s.candidates.drop 1 }
  else .ok s

/-- The number of tokens before the first candidate: what comes behind may still change. -/
def settled (s : Scan) : Nat :=
  s.candidates.foldl (fun n slot => slot.elim n fun key => min n key.place) s.tokens.length

/-! ### Blocks -/

/-- Ends the blocks that stand further to the right than `column`. -/
def endBlocks (column : Int) (s : Scan) : Scan :=
  if s.inFlow then s
  else
    let ended := s.indents.takeWhile fun (indent : Nat) => column < (indent : Int)
    let ends := ended.map fun _ => (⟨.blockEnd, s.cursor.mark, s.cursor.mark⟩ : Token)
    { s with tokens := s.tokens ++ ends, indents := s.indents.drop ended.length }

/-- Begins a block at a column, unless one stands there already. The token goes to `place`. -/
def beginBlock (kind : TokenKind) (column : Nat) (place : Nat) (mark : Mark) (s : Scan) : Scan :=
  if s.inFlow || (column : Int) ≤ s.indent then s
  else { s with
    tokens := s.tokens.insertIdx place ⟨kind, mark, mark⟩
    indents := column :: s.indents }

/-- Begins a block at the cursor. -/
def beginBlockHere (kind : TokenKind) (s : Scan) : Scan :=
  s.beginBlock kind s.cursor.mark.column s.tokens.length s.cursor.mark

/-! ### The tokens -/

/-- Passes over white space and comments. -/
def toNextToken : Nat → Scan → Scan
  | 0, s => s
  | fuel + 1, s =>
    let c := if s.cursor.mark.index = 0 && s.cursor.sees '\ufeff' then s.cursor.skip else s.cursor
    let allowsTabs := s.inFlow || !s.allowsKey
    let c := (c.span fun x => x = ' ' || (allowsTabs && x = '\t')).2.skipComment
    if c.seesBreak then
      toNextToken fuel { s with cursor := c.passBreak.2, allowsKey := s.allowsKey || !s.inFlow }
    else { s with cursor := c }

/-- Adds the token that ends the text. -/
def endText (s : Scan) : Except SyntaxBreak Scan := do
  let m := s.cursor.mark
  let mark := if m.column = 0 then m else ⟨m.index, m.line + 1, 0⟩
  let s := { s with cursor := { s.cursor with mark := mark } }
  let s ← (s.endBlocks (-1)).dropCandidate
  return { s.add .streamEnd mark mark with allowsKey := false }

def addDirective (s : Scan) : Except SyntaxBreak Scan := do
  let s ← (s.endBlocks (-1)).dropCandidate
  let (kind, stop, next) ← scanDirective s.cursor
  return { s.add kind s.cursor.mark stop with cursor := next, allowsKey := false }

/-- Adds the marks that begin or end a document. -/
def addDocumentEdge (kind : TokenKind) (s : Scan) : Except SyntaxBreak Scan := do
  let s ← (s.endBlocks (-1)).dropCandidate
  let next := Cursor.skipMany 3 s.cursor
  return { s.add kind s.cursor.mark next.mark with cursor := next, allowsKey := false }

def beginFlow (kind : TokenKind) (s : Scan) : Except SyntaxBreak Scan := do
  let s ← s.addCandidate
  return { s.addMark kind with candidates := none :: s.candidates, allowsKey := true }

def endFlow (kind : TokenKind) (s : Scan) : Except SyntaxBreak Scan := do
  let s ← s.dropCandidate
  let candidates := if s.inFlow then s.candidates.drop 1 else s.candidates
  return { s.addMark kind with candidates := candidates, allowsKey := false }

def addFlowEntry (s : Scan) : Except SyntaxBreak Scan := do
  let s ← s.dropCandidate
  return { s.addMark .flowEntry with allowsKey := true }

def addSequenceEntry (s : Scan) : Except SyntaxBreak Scan := do
  if !s.inFlow && !s.allowsKey then s.fail .entryNotAllowed
  else
    let s ← (s.beginBlockHere .sequenceStart).dropCandidate
    return { s.addMark .sequenceEntry with allowsKey := true }

def addKey (s : Scan) : Except SyntaxBreak Scan := do
  if !s.inFlow && !s.allowsKey then s.fail .keyNotAllowed
  else
    let s ← (s.beginBlockHere .mappingStart).dropCandidate
    return { s.addMark .key with allowsKey := !s.inFlow }

def addValue (s : Scan) : Except SyntaxBreak Scan :=
  match s.candidates with
  | some key :: outer =>
    let s := { s with tokens := s.tokens.insertIdx key.place ⟨.key, key.mark, key.mark⟩ }
    let s := s.beginBlock .mappingStart key.mark.column key.place key.mark
    .ok { s.addMark .value with candidates := none :: outer, allowsKey := false }
  | _ =>
    if !s.inFlow && !s.allowsKey then s.fail .valueNotAllowed
    else
      let s := s.beginBlockHere .mappingStart
      .ok { s.addMark .value with allowsKey := !s.inFlow }

/-- Adds a token that may belong to a key. -/
def addPart (s : Scan) (scan : Cursor → Except SyntaxBreak (TokenKind × Cursor)) :
    Except SyntaxBreak Scan := do
  let s ← s.addCandidate
  let (kind, next) ← scan s.cursor
  return { s.add kind s.cursor.mark next.mark with cursor := next, allowsKey := false }

def addQuoted (quote : Char) (style : ScalarStyle) (s : Scan) : Except SyntaxBreak Scan :=
  s.addPart fun c => (scanQuoted quote c).map fun found =>
    (.scalar (String.ofList found.text) style, found.stop)

def addPlain (s : Scan) : Except SyntaxBreak Scan := do
  let s ← s.addCandidate
  let found ← scanPlain s.inFlow (s.indent + 1) s.cursor
  let kind := TokenKind.scalar (String.ofList found.text) .plain
  return { s.add kind s.cursor.mark found.stop.mark with
    cursor := found.stop, allowsKey := found.endsLine }

def addBlockScalar (style : ScalarStyle) (s : Scan) : Except SyntaxBreak Scan := do
  let s ← s.dropCandidate
  let found ← scanBlock (style = .literal) s.indent s.cursor
  let kind := TokenKind.scalar (String.ofList found.text) style
  return { s.add kind s.cursor.mark found.stop.mark with cursor := found.stop, allowsKey := true }

/-- Whether a plain scalar may start here, where no other token does. -/
def startsPlain (s : Scan) : Bool :=
  let c := s.cursor
  if c.sees '-' then !c.ahead isBlank 1
  else if c.sees '?' || c.sees ':' then !s.inFlow && !c.seesGap 1
  else !c.seesGap 0 && !c.ahead (fun x => ",[]\x7b\x7d#&*!|>'\"%@\x60".toList.contains x) 0

/-- Adds the token that starts here. -/
def addToken (s : Scan) : Except SyntaxBreak Scan :=
  let c := s.cursor
  match c.rest with
  | [] => s.endText
  | x :: _ =>
    if c.mark.column = 0 && x = '%' then s.addDirective
    else if c.seesDocumentMark '-' then s.addDocumentEdge .documentStart
    else if c.seesDocumentMark '.' then s.addDocumentEdge .documentEnd
    else if x = '[' then s.beginFlow .flowSequenceStart
    else if x = '\x7b' then s.beginFlow .flowMappingStart
    else if x = ']' then s.endFlow .flowSequenceEnd
    else if x = '\x7d' then s.endFlow .flowMappingEnd
    else if x = ',' then s.addFlowEntry
    else if x = '-' && c.seesGap 1 then s.addSequenceEntry
    else if x = '?' && (s.inFlow || c.seesGap 1) then s.addKey
    else if x = ':' && (s.inFlow || c.seesGap 1) then s.addValue
    else if x = '*' then s.addPart fun c =>
      (scanAnchor .alias c).map fun (name, next) => (.alias name, next)
    else if x = '&' then s.addPart fun c =>
      (scanAnchor .anchor c).map fun (name, next) => (.anchor name, next)
    else if x = '!' then s.addPart fun c =>
      (scanTag s.inFlow c).map fun (handle, suffix, next) => (.tag handle suffix, next)
    else if x = '|' && !s.inFlow then s.addBlockScalar .literal
    else if x = '>' && !s.inFlow then s.addBlockScalar .folded
    else if x = '\'' then s.addQuoted '\'' .singleQuoted
    else if x = '"' then s.addQuoted '"' .doubleQuoted
    else if s.startsPlain then s.addPlain
    else .error (.during .nextToken c.mark .badTokenStart c)

/-- Adds the next token. -/
def step (s : Scan) : Except SyntaxBreak Scan := do
  let s := s.toNextToken (s.cursor.rest.length + 1)
  let candidates ← dropStale s.cursor s.candidates
  let s := { s with candidates := candidates }
  (s.endBlocks s.cursor.mark.column).addToken

/-- Whether the text has been cut up to its end. -/
def isDone (s : Scan) : Bool := s.tokens.getLast?.any fun token => token.kind = .streamEnd

end Scan

/-- The tokens of a text, up to a fault if there is one. -/
structure Tokens where
  tokens : List Token
  fault : Option Fault

namespace Tokens

/-- Cuts a text up with at most `fuel` steps. At a fault, tokens that may still have changed are
left out. -/
def ofScan : Nat → Scan → Tokens
  | 0, s => ⟨s.tokens, none⟩
  | fuel + 1, s =>
    if s.isDone then ⟨s.tokens, none⟩
    else
      match s.step with
      | .ok next => ofScan fuel next
      | .error reason => ⟨s.tokens.take s.settled, some (.broken reason)⟩

/-- Whether a character may stand in YAML text. -/
def isAllowed (c : Char) : Bool :=
  c = '\t' || c = '\n' || c = '\r' || (' ' ≤ c && c ≤ '~') || c = '\u0085' ||
    ('\u00a0' ≤ c && c ≤ '\ufffd') || 0x10000 ≤ c.toNat

/-- The number of bytes before the first character that may not stand in YAML text. -/
def badOffset? : List Char → Option Nat
  | [] => none
  | c :: cs => if isAllowed c then (badOffset? cs).map (c.utf8Size + ·) else some 0

/-- The tokens of a text. Each step but the last goes on in the text. -/
def ofText (text : String) : Tokens :=
  let chars := text.toList
  match badOffset? chars with
  | some offset => ⟨[], some (.controlCharacter offset)⟩
  | none => ofScan (chars.length + 2) (.ofText chars)

end Tokens

end NotebookExport.Yaml
