/-!
# Tokens

The tokens of Python source text, their spelling, and finite sets of them. A keyword or a mark has
one spelling; a class of tokens (a name, a number, a comment) has many. The layout tokens
`newline`, `indent` and `dedent` have an empty spelling: the scanner derives them from line breaks
and indentation.
-/

namespace NotebookExport.Python

/-- The tokens, in the order in which a token missing from the input is looked for. -/
inductive Token where
  | endOfInput | identifier | semicolon | kwImport | dot | kwFrom | kwFuture | lparen | rparen
  | comma | kwAs | star | kwPrint | shiftRight | kwAssert | walrus | kwReturn | kwDel | kwRaise
  | kwPass | kwBreak | kwContinue | kwIf | colon | kwElif | kwElse | kwMatch | kwCase | kwAsync
  | kwFor | kwIn | kwWhile | kwTry | kwExcept | exceptStar | kwFinally | kwWith | kwDef | arrow
  | starStar | kwGlobal | kwNonlocal | kwExec | kwType | equals | kwClass | lbracket | rbracket
  | atSign | minus | underscore | bar | lbrace | rbrace | plus | kwNot | kwAnd | kwOr | slash
  | percent | slashSlash | ampersand | caret | shiftLeft | tilde | less | lessEq | eqEq | notEq
  | greaterEq | greater | lessGreater | kwIs | kwLambda | plusEq | minusEq | starEq | slashEq
  | atEq | slashSlashEq | percentEq | starStarEq | shiftRightEq | shiftLeftEq | ampersandEq
  | caretEq | barEq | kwYield | ellipsis | escapeSequence | backslash | formatText
  | typeConversion | integer | float | kwAwait | kwTrue | kwFalse | kwNone | comment
  | lineContinuation | newline | indent | dedent | stringStart | stringContent
  | escapeInterpolation | stringEnd
  deriving DecidableEq

namespace Token

/-- Every token, in the order of its declaration. -/
def all : List Token :=
  [.endOfInput, .identifier, .semicolon, .kwImport, .dot, .kwFrom, .kwFuture, .lparen, .rparen,
  .comma, .kwAs, .star, .kwPrint, .shiftRight, .kwAssert, .walrus, .kwReturn, .kwDel, .kwRaise,
  .kwPass, .kwBreak, .kwContinue, .kwIf, .colon, .kwElif, .kwElse, .kwMatch, .kwCase, .kwAsync,
  .kwFor, .kwIn, .kwWhile, .kwTry, .kwExcept, .exceptStar, .kwFinally, .kwWith, .kwDef, .arrow,
  .starStar, .kwGlobal, .kwNonlocal, .kwExec, .kwType, .equals, .kwClass, .lbracket, .rbracket,
  .atSign, .minus, .underscore, .bar, .lbrace, .rbrace, .plus, .kwNot, .kwAnd, .kwOr, .slash,
  .percent, .slashSlash, .ampersand, .caret, .shiftLeft, .tilde, .less, .lessEq, .eqEq, .notEq,
  .greaterEq, .greater, .lessGreater, .kwIs, .kwLambda, .plusEq, .minusEq, .starEq, .slashEq,
  .atEq, .slashSlashEq, .percentEq, .starStarEq, .shiftRightEq, .shiftLeftEq, .ampersandEq,
  .caretEq, .barEq, .kwYield, .ellipsis, .escapeSequence, .backslash, .formatText,
  .typeConversion, .integer, .float, .kwAwait, .kwTrue, .kwFalse, .kwNone, .comment,
  .lineContinuation, .newline, .indent, .dedent, .stringStart, .stringContent,
  .escapeInterpolation, .stringEnd]

/-- The words with a meaning of their own. Each is also a name where that meaning is not possible.
-/
def keywords : List (String × Token) :=
  [("import", .kwImport), ("from", .kwFrom), ("__future__", .kwFuture), ("as", .kwAs),
  ("print", .kwPrint), ("assert", .kwAssert), ("return", .kwReturn), ("del", .kwDel),
  ("raise", .kwRaise), ("pass", .kwPass), ("break", .kwBreak), ("continue", .kwContinue),
  ("if", .kwIf), ("elif", .kwElif), ("else", .kwElse), ("match", .kwMatch), ("case", .kwCase),
  ("async", .kwAsync), ("for", .kwFor), ("in", .kwIn), ("while", .kwWhile), ("try", .kwTry),
  ("except", .kwExcept), ("finally", .kwFinally), ("with", .kwWith), ("def", .kwDef),
  ("global", .kwGlobal), ("nonlocal", .kwNonlocal), ("exec", .kwExec), ("type", .kwType),
  ("class", .kwClass), ("_", .underscore), ("not", .kwNot), ("and", .kwAnd), ("or", .kwOr),
  ("is", .kwIs), ("lambda", .kwLambda), ("yield", .kwYield), ("await", .kwAwait),
  ("True", .kwTrue), ("False", .kwFalse), ("None", .kwNone)]

/-- Punctuation and operators. -/
def marks : List (String × Token) :=
  [(";", .semicolon), (".", .dot), ("(", .lparen), (")", .rparen), (",", .comma), ("*", .star),
  (">>", .shiftRight), (":=", .walrus), (":", .colon), ("except*", .exceptStar),
  ("->", .arrow), ("**", .starStar), ("=", .equals), ("[", .lbracket), ("]", .rbracket),
  ("@", .atSign), ("-", .minus), ("|", .bar), ("\x7b", .lbrace), ("\x7d", .rbrace),
  ("+", .plus), ("/", .slash), ("%", .percent), ("//", .slashSlash), ("&", .ampersand),
  ("^", .caret), ("<<", .shiftLeft), ("~", .tilde), ("<", .less), ("<=", .lessEq),
  ("==", .eqEq), ("!=", .notEq), (">=", .greaterEq), (">", .greater), ("<>", .lessGreater),
  ("+=", .plusEq), ("-=", .minusEq), ("*=", .starEq), ("/=", .slashEq), ("@=", .atEq),
  ("//=", .slashSlashEq), ("%=", .percentEq), ("**=", .starStarEq), (">>=", .shiftRightEq),
  ("<<=", .shiftLeftEq), ("&=", .ampersandEq), ("^=", .caretEq), ("|=", .barEq),
  ("...", .ellipsis)]

/-- The keyword spelled by a word. -/
def ofWord? (word : List Char) : Option Token :=
  (keywords.find? fun entry => entry.1.toList == word).map Prod.snd

/-- What a token is called in a syntax tree: a class by its name, any other token by its spelling.
-/
def display : Token → String
  | .endOfInput => "end"
  | .identifier => "identifier"
  | .escapeSequence => "escape_sequence"
  | .backslash => "_not_escape_sequence"
  | .formatText => "format_specifier_token1"
  | .typeConversion => "type_conversion"
  | .integer => "integer"
  | .float => "float"
  | .comment => "comment"
  | .lineContinuation => "line_continuation"
  | .newline => "_newline"
  | .indent => "_indent"
  | .dedent => "_dedent"
  | .stringStart => "string_start"
  | .stringContent => "_string_content"
  | .escapeInterpolation => "escape_interpolation"
  | .stringEnd => "string_end"
  | .ellipsis => "ellipsis"
  | .kwTrue => "true"
  | .kwFalse => "false"
  | .kwNone => "none"
  | token =>
    match (keywords ++ marks).find? fun entry => entry.2 = token with
    | some entry => entry.1
    | none => ""

/-- Whether a token stands in the tree under a name, and not merely as its own spelling. -/
def isNamed : Token → Bool
  | .identifier | .escapeSequence | .typeConversion | .integer | .float | .comment
  | .lineContinuation | .stringStart | .escapeInterpolation | .stringEnd
  | .ellipsis | .kwTrue | .kwFalse | .kwNone => true
  | _ => false

/-- The tokens that stand in no tree. -/
def isHidden : Token → Bool
  | .endOfInput | .backslash | .formatText | .newline | .indent | .dedent | .stringContent => true
  | _ => false

end Token

/-- A finite set of tokens: bit `i` stands for the `i`-th token. -/
structure TokenSet where
  bits : Nat
  deriving DecidableEq

namespace TokenSet

def empty : TokenSet := ⟨0⟩

def singleton (token : Token) : TokenSet := ⟨1 <<< token.ctorIdx⟩

def union (s t : TokenSet) : TokenSet := ⟨s.bits ||| t.bits⟩

def ofList (tokens : List Token) : TokenSet :=
  tokens.foldr (fun token s => (singleton token).union s) empty

def contains (s : TokenSet) (token : Token) : Bool := s.bits.testBit token.ctorIdx

def isEmpty (s : TokenSet) : Bool := s.bits == 0

end TokenSet

end NotebookExport.Python
