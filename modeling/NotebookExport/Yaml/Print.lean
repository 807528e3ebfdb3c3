import NotebookExport.Yaml.Resolved

/-!
# Writing YAML

Texts as YAML scalars, each in the plainest style in which it reads back: as it is; between single
quotes, where quotes inside are doubled; line by line behind a bar; or between double quotes with
escapes. And the lines of block mappings whose values are such texts.
-/

namespace NotebookExport.Yaml

/-! ### Which style a text allows -/

/-- Whether a character shows as it is. -/
def isPrintable (c : Char) : Bool :=
  let n := c.toNat
  n = 0x0A || (0x20 ≤ n && n ≤ 0x7E) || (0xA0 ≤ n && n ≤ 0xFFFD && n != 0xFEFF) || 0x10000 ≤ n

/-- The characters that mean something at the beginning of a scalar. -/
def isIndicator (c : Char) : Bool := "#,[]\x7b\x7d&*!|>'\"%@\x60".toList.contains c

/-- Whether the text ends here, or a blank or line end follows. -/
def isGap (rest : List Char) : Bool := rest.head?.all fun c => isBlank c || isBreak c

/-- Whether a text behind the character `before` holds what ends a plain scalar: a colon in front of
a gap, or a number sign behind one. -/
def hasInnerIndicator : Char → List Char → Bool
  | _, [] => false
  | before, c :: rest =>
    (c = ':' && isGap rest) || (c = '#' && (isBlank before || isBreak before)) ||
      hasInnerIndicator c rest

/-- Whether a text holds what would be read as something else than a part of a plain scalar. -/
def hasIndicator (text : List Char) : Bool :=
  match text with
  | [] => false
  | c :: rest =>
    text.take 3 = ['-', '-', '-'] || text.take 3 = ['.', '.', '.'] || isIndicator c ||
      ((c = '?' || c = ':' || c = '-') && isGap rest) || hasInnerIndicator c rest

/-- Whether a character of one kind stands in front of one of another kind. -/
def hasPair (first second : Char → Bool) : List Char → Bool
  | a :: b :: rest => (first a && second b) || hasPair first second (b :: rest)
  | _ => false

def isSpace (c : Char) : Bool := c = ' '

def startsWith (p : Char → Bool) (text : List Char) : Bool := text.head?.any p

def endsWith (p : Char → Bool) (text : List Char) : Bool := text.getLast?.any p

/-- Whether only double quotes can hold a text: some of it does not show, or there is a space in
front of a line end. -/
def needsEscapes (text : List Char) : Bool :=
  text.any (fun c => !isPrintable c) || hasPair isSpace isBreak text

/-- Whether a text may stand as it is. -/
def allowsPlain (text : List Char) : Bool :=
  !needsEscapes text && !text.any isBreak && !startsWith isSpace text && !endsWith isSpace text &&
    !hasIndicator text

/-- Whether a text may stand between single quotes. -/
def allowsSingleQuotes (text : List Char) : Bool :=
  !needsEscapes text && !hasPair isBreak isSpace text

/-- Whether a text may stand line by line. -/
def allowsLines (text : List Char) : Bool :=
  !needsEscapes text && !endsWith isSpace text && !text.isEmpty

/-- Whether a plain scalar would not be read as a text. -/
def readsAsOther (text : String) : Bool :=
  match Resolved.ofPlain text with
  | .text _ => hasLeadingZero text.toList
  | _ => true

/-- The style in which a text is written. -/
def styleOf (text : String) : ScalarStyle :=
  let chars := text.toList
  if chars.contains '\n' then if allowsLines chars then .literal else .doubleQuoted
  else if !readsAsOther text && allowsPlain chars then .plain
  else if allowsSingleQuotes chars then .singleQuoted
  else .doubleQuoted

/-! ### Writing in a style -/

def indentation (column : Nat) : List Char := List.replicate column ' '

/-- The text between single quotes, where each line begins at a column; `isNew` tells that a line
end came before. -/
def writeSingleQuoted (column : Nat) : (isNew : Bool) → List Char → List Char
  | isNew, [] => if isNew then indentation column else []
  | isNew, c :: rest =>
    if c = ' ' then c :: writeSingleQuoted column isNew rest
    else if isBreak c then c :: writeSingleQuoted column true rest
    else
      (if isNew then indentation column else []) ++ (if c = '\'' then ['\'', '\''] else [c]) ++
        writeSingleQuoted column false rest

def hexDigit (n : Nat) : Char :=
  if n < 10 then .ofNat ('0'.toNat + n) else .ofNat ('A'.toNat + (n - 10))

/-- A number in so many digits to the base sixteen. -/
def hexDigits : Nat → Nat → List Char
  | 0, _ => []
  | width + 1, n => hexDigits width (n / 16) ++ [hexDigit (n % 16)]

/-- What stands behind the backslash for a character. -/
def escapeOf (c : Char) : List Char :=
  match c with
  | '\x00' => ['0']
  | '\x07' => ['a']
  | '\x08' => ['b']
  | '\t' => ['t']
  | '\n' => ['n']
  | '\x0b' => ['v']
  | '\x0c' => ['f']
  | '\r' => ['r']
  | '\x1b' => ['e']
  | '"' => ['"']
  | '\\' => ['\\']
  | '\u0085' => ['N']
  | '\u00a0' => ['_']
  | '\u2028' => ['L']
  | '\u2029' => ['P']
  | c =>
    let n := c.toNat
    if n ≤ 0xFF then 'x' :: hexDigits 2 n
    else if n ≤ 0xFFFF then 'u' :: hexDigits 4 n
    else 'U' :: hexDigits 8 n

def writeDoubleQuotedCharacter (c : Char) : List Char :=
  if !isPrintable c || isBreak c || c = '"' || c = '\\' then '\\' :: escapeOf c else [c]

/-- The header of a text that is written line by line: whether it begins with white space, so that
its indentation has to be told, and what is at its end. -/
def literalHeader (text : List Char) : List Char :=
  let hint := if startsWith (fun c => c = ' ' || isBreak c) text then ['2'] else []
  let chomping := match text.reverse with
    | [] => ['-']
    | last :: before =>
      if !isBreak last then ['-'] else if before.head?.all isBreak then ['+'] else []
  '|' :: hint ++ chomping

/-- The lines of a text, each beginning at a column; `isNew` tells that a line begins here. -/
def writeLines (column : Nat) : (isNew : Bool) → List Char → List Char
  | _, [] => []
  | isNew, c :: rest =>
    if isBreak c then c :: writeLines column true rest
    else (if isNew then indentation column else []) ++ c :: writeLines column false rest

/-- A text as a scalar in a block at the given column, with the end of its last line. -/
def writeScalar (column : Nat) (text : String) : List Char :=
  let chars := text.toList
  match styleOf text with
  | .plain => chars ++ ['\n']
  | .singleQuoted => '\'' :: writeSingleQuoted (column + 2) false chars ++ ['\'', '\n']
  | .doubleQuoted => '"' :: chars.flatMap writeDoubleQuotedCharacter ++ ['"', '\n']
  | .literal | .folded =>
    literalHeader chars ++ '\n' :: writeLines (column + 2) true chars ++
      (if endsWith isBreak chars then [] else ['\n'])

/-! ### Block mappings -/

/-- A key at a column. -/
def writeKey (column : Nat) (key : String) : List Char := indentation column ++ key.toList ++ [':']

/-- A member whose value is written in one word. -/
def writeWord (column : Nat) (key word : String) : List Char :=
  writeKey column key ++ ' ' :: word.toList ++ ['\n']

/-- A member whose value is a text. -/
def writeText (column : Nat) (key text : String) : List Char :=
  writeKey column key ++ ' ' :: writeScalar column text

/-- A member whose value is a row of texts. -/
def writeTexts (column : Nat) (key : String) (texts : List String) : List Char :=
  if texts.isEmpty then writeWord column key "[]"
  else
    writeKey column key ++ '\n' ::
      texts.flatMap fun text => indentation column ++ '-' :: ' ' :: writeScalar column text

/-- A member whose value is a mapping with the given members. -/
def writeSection (column : Nat) (key : String) (members : List Char) : List Char :=
  writeKey column key ++ '\n' :: members

end NotebookExport.Yaml
