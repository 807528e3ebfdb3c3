import NotebookExport.Yaml.Cursor

/-!
# Faults in YAML text

What can be wrong with a text that should be a YAML document of a certain form. A break in the
syntax has a place, and perhaps what was being read there and where that began. A value that does
not fit its form has a place and a path: the keys and indices that lead to it.
-/

namespace NotebookExport.Yaml

/-- What breaks the syntax. -/
inductive Problem where
  | noColonBehindKey
  | badTokenStart
  | entryNotAllowed | keyNotAllowed | valueNotAllowed
  | unknownDirective | directiveTail | noDirectiveName | badDirectiveName
  | noVersionNumber | longVersionNumber | noVersionPoint
  | noWhiteSpace | noWhiteSpaceOrBreak
  | badAnchor
  | noTagMark | noTagEnd | noTagText | noEscapedOctet | badLeadingOctet | badTrailingOctet
  | zeroIndentation | blockHeaderTail | tabInIndentation
  | documentMarkInQuotes | endInQuotes | unknownEscape | noHexNumber | badEscapeCode
  | colonInFlow | tabInPlain
  | noDocumentStart | repeatedVersion | wrongVersion | repeatedTagDirective
  | undefinedHandle | noContent
  | noEntry | noKey | noSequenceEnd | noMappingEnd
  deriving DecidableEq

def Problem.message : Problem → String
  | .noColonBehindKey => "could not find expected ':'"
  | .badTokenStart => "found character that cannot start any token"
  | .entryNotAllowed => "block sequence entries are not allowed in this context"
  | .keyNotAllowed => "mapping keys are not allowed in this context"
  | .valueNotAllowed => "mapping values are not allowed in this context"
  | .unknownDirective => "found unknown directive name"
  | .directiveTail | .blockHeaderTail => "did not find expected comment or line break"
  | .noDirectiveName => "could not find expected directive name"
  | .badDirectiveName => "found unexpected non-alphabetical character"
  | .noVersionNumber => "did not find expected version number"
  | .longVersionNumber => "found extremely long version number"
  | .noVersionPoint => "did not find expected digit or '.' character"
  | .noWhiteSpace => "did not find expected whitespace"
  | .noWhiteSpaceOrBreak => "did not find expected whitespace or line break"
  | .badAnchor => "did not find expected alphabetic or numeric character"
  | .noTagMark => "did not find expected '!'"
  | .noTagEnd => "did not find the expected '>'"
  | .noTagText => "did not find expected tag URI"
  | .noEscapedOctet => "did not find URI escaped octet"
  | .badLeadingOctet => "found an incorrect leading UTF-8 octet"
  | .badTrailingOctet => "found an incorrect trailing UTF-8 octet"
  | .zeroIndentation => "found an indentation indicator equal to 0"
  | .tabInIndentation => "found a tab character where an indentation space is expected"
  | .documentMarkInQuotes => "found unexpected document indicator"
  | .endInQuotes => "found unexpected end of stream"
  | .unknownEscape => "found unknown escape character"
  | .noHexNumber => "did not find expected hexdecimal number"
  | .badEscapeCode => "found invalid Unicode character escape code"
  | .colonInFlow => "found unexpected ':'"
  | .tabInPlain => "found a tab character that violates indentation"
  | .noDocumentStart => "did not find expected <document start>"
  | .repeatedVersion => "found duplicate %YAML directive"
  | .wrongVersion => "found incompatible YAML document"
  | .repeatedTagDirective => "found duplicate %TAG directive"
  | .undefinedHandle => "found undefined tag handle"
  | .noContent => "did not find expected node content"
  | .noEntry => "did not find expected '-' indicator"
  | .noKey => "did not find expected key"
  | .noSequenceEnd => "did not find expected ',' or ']'"
  | .noMappingEnd => "did not find expected ',' or '\x7d'"

/-- What was being read. -/
inductive Activity where
  | simpleKey | nextToken | directive | versionDirective | tagDirective
  | anchor | alias | tag | blockScalar | quotedScalar | quotedEscape | plainScalar
  | node | blockNode | flowNode | blockSequence | blockMapping | flowSequence | flowMapping
  deriving DecidableEq

def Activity.message : Activity → String
  | .simpleKey => "while scanning a simple key"
  | .nextToken => "while scanning for the next token"
  | .directive => "while scanning a directive"
  | .versionDirective => "while scanning a %YAML directive"
  | .tagDirective => "while scanning a %TAG directive"
  | .anchor => "while scanning an anchor"
  | .alias => "while scanning an alias"
  | .tag => "while scanning a tag"
  | .blockScalar => "while scanning a block scalar"
  | .quotedScalar => "while scanning a quoted scalar"
  | .quotedEscape => "while parsing a quoted scalar"
  | .plainScalar => "while scanning a plain scalar"
  | .node => "while parsing a node"
  | .blockNode => "while parsing a block node"
  | .flowNode => "while parsing a flow node"
  | .blockSequence => "while parsing a block collection"
  | .blockMapping => "while parsing a block mapping"
  | .flowSequence => "while parsing a flow sequence"
  | .flowMapping => "while parsing a flow mapping"

/-- A break in the syntax. -/
structure SyntaxBreak where
  problem : Problem
  mark : Mark
  /-- What was being read, and where it began. -/
  activity : Option (Activity × Mark)
  deriving DecidableEq

namespace SyntaxBreak

def message (b : SyntaxBreak) : String :=
  let place := if b.mark.isOrigin then "" else " at " ++ b.mark.describe
  let activity := match b.activity with
    | none => ""
    | some (activity, start) =>
      let isElsewhere := start.line ≠ b.mark.line ∨ start.column ≠ b.mark.column
      ", " ++ activity.message ++
        (if !start.isOrigin && isElsewhere then " at " ++ start.describe else "")
  b.problem.message ++ place ++ activity

end SyntaxBreak

/-- Why a value does not fit its form. -/
inductive Misfit where
  | wrongType (found expected : String)
  | wrongValue (found expected : String)
  | unknownField (name : String) (known : List String)
  | repeatedField (name : String)
  deriving DecidableEq

namespace Misfit

/-- Field names for a message. -/
def listFields (known : List String) : String :=
  let quoted := known.map fun name => "`" ++ name ++ "`"
  match quoted with
  | [] => "there are no fields"
  | [only] => "expected " ++ only
  | [first, second] => "expected " ++ first ++ " or " ++ second
  | _ => "expected one of " ++ String.intercalate ", " quoted

def message : Misfit → String
  | .wrongType found expected => "invalid type: " ++ found ++ ", expected " ++ expected
  | .wrongValue found expected => "invalid value: " ++ found ++ ", expected " ++ expected
  | .unknownField name known => "unknown field `" ++ name ++ "`, " ++ listFields known
  | .repeatedField name => "duplicate field `" ++ name ++ "`"

end Misfit

/-- The way from the root of a document to a value, in words; empty for the root. -/
abbrev Path := String

namespace Path

def root : Path := ""

def field (path : Path) (key : String) : Path := if path = "" then key else path ++ "." ++ key

def item (path : Path) (index : Nat) : Path := path ++ "[" ++ toString index ++ "]"

end Path

/-- What is wrong with a text. -/
inductive Fault where
  /-- A character that may not stand in YAML text, behind so many bytes. -/
  | controlCharacter (offset : Nat)
  | broken (reason : SyntaxBreak)
  | unknownAnchor (mark : Mark)
  | misfit (reason : Misfit) (mark : Mark) (path : Path)
  | endOfText
  | moreDocuments
  deriving DecidableEq

namespace Fault

/-- A message with a place, unless that is the beginning of the text. -/
def located (text : String) (mark : Mark) : String :=
  if mark.isOrigin then text else text ++ " at " ++ mark.describe

def message : Fault → String
  | .controlCharacter offset =>
    "control characters are not allowed" ++
      (if offset = 0 then "" else " at position " ++ toString offset)
  | .broken reason => reason.message
  | .unknownAnchor mark => located "unknown anchor" mark
  | .misfit reason mark path =>
    located ((if path = "" then "" else path ++ ": ") ++ reason.message) mark
  | .endOfText => "EOF while parsing a value"
  | .moreDocuments =>
    "deserializing from YAML containing more than one document is not supported"

end Fault

end NotebookExport.Yaml
