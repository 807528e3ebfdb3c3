import NotebookExport.Shell.Script

/-!
# Tokens of scripts

The words and signs of which commands are made. A word is read with all that is quoted in it, so
that what ends a word elsewhere does not end it there.
-/

namespace NotebookExport.Shell

/-- What is left of a script, with the number of its line. -/
structure Input where
  rest : Octets
  line : Nat

namespace Input

/-- The input behind its first octet. -/
def behind (i : Input) (c : Char) (rest : Octets) : Input :=
  ⟨rest, if c = '\n' then i.line + 1 else i.line⟩

/-- The input behind a text with which it begins. -/
def skip (i : Input) (text : Octets) (rest : Octets) : Input :=
  ⟨rest, i.line + text.count '\n'⟩

end Input

/-- What stands where something else should. -/
inductive TokenName where
  | sign (text : String)
  | newline
  | word
  | redirection
  | scriptEnd

def TokenName.describe : TokenName → String
  | .sign text => "\"" ++ text ++ "\""
  | .newline => "newline"
  | .word => "word"
  | .redirection => "redirection"
  | .scriptEnd => "end of file"

/-- Why a script cannot be read. -/
inductive ReadFault where
  | unterminatedQuote
  | missingBrace
  | openBackquote
  | badLoopVariable
  | badFunctionName
  | badSubstitution
  | unexpected (token : TokenName) (expected : Option TokenName)

def ReadFault.message : ReadFault → String
  | .unterminatedQuote => "Syntax error: Unterminated quoted string"
  | .missingBrace => "Syntax error: Missing '\x7d'"
  | .openBackquote => "Syntax error: EOF in backquote substitution"
  | .badLoopVariable => "Syntax error: Bad for loop variable"
  | .badFunctionName => "Syntax error: Bad function name"
  | .badSubstitution => "Bad substitution"
  | .unexpected token none => "Syntax error: " ++ token.describe ++ " unexpected"
  | .unexpected token (some wanted) =>
    "Syntax error: " ++ token.describe ++ " unexpected (expecting " ++ wanted.describe ++ ")"

/-- A result with the input behind it, or a fault with its line. -/
abbrev Read (α : Type) := Except (ReadFault × Nat) (α × Input)

/-! ### Words -/

def isBlank (c : Char) : Bool := c = ' ' || c = '\t'

def endsWord (c : Char) : Bool := isBlank c || ['\n', ';', '&', '|', '<', '>', '(', ')'].contains c

def isNameStart (c : Char) : Bool := c.isAlpha || c = '_'

def isNameRest (c : Char) : Bool := c.isAlphanum || c = '_'

/-- The parameters that are named by a sign. -/
def isSpecialParameter (c : Char) : Bool := ['@', '*', '#', '?', '-', '$', '!'].contains c

/-- The text up to the parenthesis that closes one already open, and the rest behind it. -/
def enclosed : Nat → Option Char → Octets → Option (Octets × Octets)
  | _, _, [] => none
  | depth, some '\'', c :: cs =>
    (enclosed depth (if c = '\'' then none else some '\'') cs).map fun (a, b) => (c :: a, b)
  | depth, quote, '\\' :: c :: cs =>
    (enclosed depth quote cs).map fun (a, b) => ('\\' :: c :: a, b)
  | depth, some quote, c :: cs =>
    (enclosed depth (if c = quote then none else some quote) cs).map fun (a, b) => (c :: a, b)
  | depth, none, c :: cs =>
    if c = ')' && depth = 0 then some ([], cs)
    else
      let depth := if c = '(' then depth + 1 else if c = ')' then depth - 1 else depth
      let quote := if c = '\'' || c = '"' then some c else none
      (enclosed depth quote cs).map fun (a, b) => (c :: a, b)

/-- The script in backquotes, where a backslash quotes some octets, and the rest behind them. -/
def backquoted (quotable : Octets) : Octets → Option (Octets × Octets)
  | [] => none
  | '\x60' :: cs => some ([], cs)
  | '\\' :: c :: cs =>
    let kept := if quotable.contains c then [c] else ['\\', c]
    (backquoted quotable cs).map fun (a, b) => (kept ++ a, b)
  | c :: cs => (backquoted quotable cs).map fun (a, b) => (c :: a, b)

/-- The text in single quotes, and the rest behind them. -/
def singleQuoted : Octets → Option (Octets × Octets)
  | [] => none
  | '\'' :: cs => some ([], cs)
  | c :: cs => (singleQuoted cs).map fun (a, b) => (c :: a, b)

/-- The name at the start of a text, and the rest behind it. -/
def parameterName : Octets → Option (Octets × Octets)
  | [] => none
  | c :: cs =>
    if isNameStart c then some (c :: cs.takeWhile isNameRest, cs.dropWhile isNameRest)
    else if c.isDigit || isSpecialParameter c then some ([c], cs)
    else none

/-- The same in braces, where a number may have several digits. -/
def bracedName (text : Octets) : Option (Octets × Octets) :=
  match text.takeWhile Char.isDigit with
  | [] => parameterName text
  | digits => some (digits, text.dropWhile Char.isDigit)

mutual

/-- The pieces of a word up to its end, or up to a brace if the word stands in braces. -/
def readPieces : Nat → Bool → Input → Read Word
  | 0, _, i => .error (.unterminatedQuote, i.line)
  | fuel + 1, inBraces, i =>
    match i.rest with
    | [] => if inBraces then .error (.missingBrace, i.line) else .ok ([], i)
    | '\\' :: '\n' :: cs => readPieces fuel inBraces (i.behind '\n' cs)
    | '\\' :: c :: cs => prepend (.text true [c]) (readPieces fuel inBraces (i.behind c cs))
    | '\'' :: cs =>
      match singleQuoted cs with
      | none => .error (.unterminatedQuote, i.line)
      | some (text, rest) =>
        prepend (.text true text) (readPieces fuel inBraces (i.skip text rest))
    | '"' :: '"' :: cs => prepend (.text true []) (readPieces fuel inBraces ⟨cs, i.line⟩)
    | '"' :: cs =>
      (readQuoted fuel '"' ⟨cs, i.line⟩).bind fun (quoted, i) =>
        (readPieces fuel inBraces i).map fun (more, i) => (quoted ++ more, i)
    | '$' :: cs =>
      (readDollar fuel false ⟨cs, i.line⟩).bind fun (piece, i) =>
        prepend piece (readPieces fuel inBraces i)
    | '\x60' :: cs =>
      match backquoted ['$', '\x60', '\\'] cs with
      | none => .error (.openBackquote, i.line)
      | some (script, rest) =>
        prepend (.output false script) (readPieces fuel inBraces (i.skip script rest))
    | c :: cs =>
      if inBraces && c = '}' then .ok ([], ⟨cs, i.line⟩)
      else if !inBraces && endsWord c then .ok ([], i)
      else prepend (.text false [c]) (readPieces fuel inBraces (i.behind c cs))

/-- The pieces up to a closing mark, all of them quoted. -/
def readQuoted : Nat → Char → Input → Read Word
  | 0, _, i => .error (.unterminatedQuote, i.line)
  | fuel + 1, mark, i =>
    match i.rest with
    | [] => .error (if mark = '}' then .missingBrace else .unterminatedQuote, i.line)
    | '\\' :: '\n' :: cs => readQuoted fuel mark (i.behind '\n' cs)
    | '\\' :: c :: cs =>
      let kept := if ['$', '\x60', '"', '\\', mark].contains c then [c] else ['\\', c]
      prepend (.text true kept) (readQuoted fuel mark (i.behind c cs))
    | '$' :: cs =>
      (readDollar fuel true ⟨cs, i.line⟩).bind fun (piece, i) =>
        prepend piece (readQuoted fuel mark i)
    | '\x60' :: cs =>
      match backquoted ['$', '\x60', '\\', '"'] cs with
      | none => .error (.openBackquote, i.line)
      | some (script, rest) =>
        prepend (.output true script) (readQuoted fuel mark (i.skip script rest))
    | c :: cs =>
      if c = mark then .ok ([], ⟨cs, i.line⟩)
      else prepend (.text true [c]) (readQuoted fuel mark (i.behind c cs))

/-- What stands behind a dollar sign. -/
def readDollar : Nat → Bool → Input → Read Piece
  | 0, _, i => .error (.unterminatedQuote, i.line)
  | fuel + 1, isQuoted, i =>
    match i.rest with
    | '{' :: cs => readBraces fuel isQuoted ⟨cs, i.line⟩
    | '(' :: '(' :: cs =>
      match enclosed 1 none cs with
      | some (inner, rest) =>
        let (expression, rest) :=
          if inner.getLast? = some ')' then (some inner.dropLast, rest) else (none, rest)
        match expression with
        | some expression =>
          -- An octet that no text holds closes the quotation.
          (readQuoted fuel '\x00' ⟨expression ++ ['\x00'], i.line⟩).map fun (word, _) =>
            (.arithmetic isQuoted word, i.skip inner rest)
        | none => .ok (.output isQuoted ('(' :: inner), i.skip inner rest)
      | none => .error (.unexpected .scriptEnd (some (.sign ")")), i.line)
    | '(' :: cs =>
      match enclosed 0 none cs with
      | some (script, rest) => .ok (.output isQuoted script, i.skip script rest)
      | none => .error (.unexpected .scriptEnd (some (.sign ")")), i.line)
    | cs =>
      match parameterName cs with
      | some (name, rest) => .ok (.parameter isQuoted name .value, ⟨rest, i.line⟩)
      | none => .ok (.text isQuoted ['$'], i)

/-- A parameter in braces. -/
def readBraces : Nat → Bool → Input → Read Piece
  | 0, _, i => .error (.missingBrace, i.line)
  | fuel + 1, isQuoted, i =>
    let isLength := match i.rest with
      | '#' :: c :: _ => isNameRest c || (isSpecialParameter c && c ≠ '#')
      | _ => false
    match bracedName (if isLength then i.rest.tail else i.rest) with
    | none => .error (.badSubstitution, i.line)
    | some (name, rest) =>
      let word (rest : Octets) : Read Word :=
        if isQuoted then readQuoted fuel '}' ⟨rest, i.line⟩
        else readPieces fuel true ⟨rest, i.line⟩
      let instead (sign : Char) (alsoIfEmpty : Bool) (rest : Octets) : Read Piece :=
        let action := match sign with
          | '-' => some Instead.take
          | '=' => some .assign
          | '?' => some .refuse
          | '+' => some .alternative
          | _ => none
        match action with
        | some action => (word rest).map fun (word, i) =>
            (.parameter isQuoted name (.instead action alsoIfEmpty word), i)
        | none => .error (.badSubstitution, i.line)
      let without (atEnd isLongest : Bool) (rest : Octets) : Read Piece :=
        (readPieces fuel true ⟨rest, i.line⟩).map fun (pattern, i) =>
          (.parameter isQuoted name (.without atEnd isLongest pattern), i)
      match rest with
      | '}' :: rest =>
        .ok (.parameter isQuoted name (if isLength then .length else .value), ⟨rest, i.line⟩)
      | ':' :: sign :: rest => instead sign true rest
      | '#' :: '#' :: rest => without false true rest
      | '#' :: rest => without false false rest
      | '%' :: '%' :: rest => without true true rest
      | '%' :: rest => without true false rest
      | sign :: rest => instead sign false rest
      | [] => .error (.missingBrace, i.line)

/-- A piece before what is read next. -/
def prepend (piece : Piece) (r : Read Word) : Read Word :=
  r.map fun (word, i) => (piece :: word, i)

end

/-! ### Tokens -/

inductive Token where
  | word (w : Word)
  | sign (text : String)
  /-- A sign that redirects a stream. -/
  | redirect (descriptor : Option Nat) (text : String)
  | newline
  | scriptEnd

/-- The signs between commands, longer ones first. -/
def commandSigns : List String := [";;", "&&", "||", ";", "&", "|", "(", ")"]

/-- The signs that redirect streams, longer ones first. -/
def redirectionSigns : List String := ["<<-", "<<", ">>", ">|", ">&", "<&", "<>", "<", ">"]

/-- The first of some signs with which a text begins, and the rest behind it. -/
def signAt (signs : List String) (text : Octets) : Option (String × Octets) :=
  (signs.find? fun sign => sign.toList.isPrefixOf text).map fun sign =>
    (sign, text.drop sign.length)

/-- The rest behind blanks, comments and joined lines. -/
def skipBlanks : Bool → Input → Octets → Input
  | _, i, [] => ⟨[], i.line⟩
  | true, i, c :: cs => if c = '\n' then ⟨c :: cs, i.line⟩ else skipBlanks true i cs
  | false, i, '\\' :: '\n' :: cs => skipBlanks false ⟨cs, i.line + 1⟩ cs
  | false, i, c :: cs =>
    if isBlank c then skipBlanks false i cs
    else if c = '#' then skipBlanks true i cs
    else ⟨c :: cs, i.line⟩

def readToken (fuel : Nat) (i : Input) : Read Token :=
  let i := skipBlanks false i i.rest
  let digits := i.rest.takeWhile Char.isDigit
  match i.rest, signAt redirectionSigns (i.rest.drop digits.length) with
  | [], _ => .ok (.scriptEnd, i)
  | '\n' :: cs, _ => .ok (.newline, i.behind '\n' cs)
  | _, some (sign, rest) =>
    .ok (.redirect (if digits.isEmpty then none else (String.ofList digits).toNat?) sign,
      ⟨rest, i.line⟩)
  | _, none =>
    match signAt commandSigns i.rest with
    | some (sign, rest) => .ok (.sign sign, ⟨rest, i.line⟩)
    | none => (readPieces fuel false i).map fun (word, i) => (.word word, i)

/-- The words that mean something at the start of a command. -/
def keywords : List String :=
  ["!", "\x7b", "\x7d", "case", "do", "done", "elif", "else", "esac", "fi", "for", "if", "in",
    "then", "until", "while"]

/-- The keyword that a token is. -/
def Token.keyword? : Token → Option String
  | .word w =>
    match w.literal? with
    | some text =>
      let text := String.ofList text
      if keywords.contains text then some text else none
    | none => none
  | _ => none

def Token.describe (t : Token) : TokenName :=
  match t, t.keyword? with
  | _, some keyword => .sign keyword
  | .word _, none => .word
  | .sign text, none => .sign text
  | .redirect _ _, none => .redirection
  | .newline, none => .newline
  | .scriptEnd, none => .scriptEnd

def unexpected {α : Type} (t : Token) (i : Input) (expected : Option TokenName) : Read α :=
  .error (.unexpected t.describe expected, i.line)

end NotebookExport.Shell
