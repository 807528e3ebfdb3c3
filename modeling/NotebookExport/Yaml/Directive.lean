import NotebookExport.Text.Utf8
import NotebookExport.Yaml.ScalarText

/-!
# Tags, anchors and directives

Reading what stands beside the nodes of a YAML text: names for nodes, tags, which tell of what kind
a node is, and directives, which come before a document.
-/

namespace NotebookExport.Yaml

/-! ### Anchors -/

/-- Reads the name of an anchor or alias, at its mark. -/
def scanAnchor (activity : Activity) (c : Cursor) : Except SyntaxBreak (String × Cursor) :=
  let (name, stop) := c.skip.span isNameCharacter
  let endsWell := stop.seesGap 0 || stop.ahead (fun x => "?:,]\x7d%@\x60".toList.contains x) 0
  if name.isEmpty || !endsWell then .error (.during activity c.mark .badAnchor stop)
  else .ok (String.ofList name, stop)

/-! ### Tags -/

/-- Reads an octet that is written as two digits behind a percent sign. -/
def scanOctet (activity : Activity) (start : Mark) (c : Cursor) :
    Except SyntaxBreak (Nat × Cursor) :=
  match c.rest with
  | '%' :: high :: low :: _ =>
    match hexValue? high, hexValue? low with
    | some high, some low => .ok (16 * high + low, c.skip.skip.skip)
    | _, _ => .error (.during activity start .noEscapedOctet c)
  | _ => .error (.during activity start .noEscapedOctet c)

/-- The number of octets of a character by the first of them. -/
def octetCount (octet : Nat) : Nat :=
  if octet < 0x80 then 1
  else if 0xC0 ≤ octet && octet < 0xE0 then 2
  else if 0xE0 ≤ octet && octet < 0xF0 then 3
  else if 0xF0 ≤ octet && octet < 0xF8 then 4
  else 0

/-- Reads further octets of a character. -/
def scanTrailingOctets (activity : Activity) (start : Mark) :
    Nat → Cursor → Except SyntaxBreak (List Nat × Cursor)
  | 0, c => .ok ([], c)
  | n + 1, c => do
    let (octet, next) ← scanOctet activity start c
    if octet < 0x80 || 0xC0 ≤ octet then
      throw (.during activity start .badTrailingOctet c)
    let (octets, stop) ← scanTrailingOctets activity start n next
    return (octet :: octets, stop)

/-- Reads the octets of one character. -/
def scanEscapedCharacter (activity : Activity) (start : Mark) (c : Cursor) :
    Except SyntaxBreak (List Char × Cursor) := do
  let (first, next) ← scanOctet activity start c
  if octetCount first = 0 then throw (.during activity start .badLeadingOctet c)
  let (others, stop) ← scanTrailingOctets activity start (octetCount first - 1) next
  return ((Text.Utf8.decodeLossy ((first :: others).map UInt8.ofNat)).toList, stop)

/-- Whether a character may stand in a tag; between angle brackets there may be more of them. -/
def isTagCharacter (isVerbatim : Bool) (c : Char) : Bool :=
  isNameCharacter c || ";/?:@&=+$.%!~*'()".toList.contains c ||
    (isVerbatim && ",[]".toList.contains c)

/-- Reads the characters of a tag. -/
def scanTagCharacters (activity : Activity) (start : Mark) (isVerbatim : Bool) :
    Nat → Cursor → Except SyntaxBreak (List Char × Cursor)
  | 0, c => .ok ([], c)
  | fuel + 1, c => do
    if !c.ahead (isTagCharacter isVerbatim) 0 then return ([], c)
    let (part, next) ←
      if c.sees '%' then scanEscapedCharacter activity start c
      else pure (c.rest.take 1, c.skip)
    let (found, stop) ← scanTagCharacters activity start isVerbatim fuel next
    return (part ++ found, stop)

/-- Reads the text of a tag. What has been read of it before, mark included, is `head`. -/
def scanTagText (activity : Activity) (start : Mark) (isVerbatim : Bool) (head : List Char)
    (c : Cursor) : Except SyntaxBreak (String × Cursor) := do
  let (found, stop) ← scanTagCharacters activity start isVerbatim c.rest.length c
  if head.isEmpty && found.isEmpty then throw (.during activity start .noTagText stop)
  return (String.ofList (head.drop 1 ++ found), stop)

/-- Reads a tag handle: a mark, or a name between two marks. In a tag, a name with one mark is the
beginning of its text. -/
def scanTagHandle (activity : Activity) (start : Mark) (c : Cursor) :
    Except SyntaxBreak (List Char × Cursor) :=
  if !c.sees '!' then .error (.during activity start .noTagMark c)
  else
    let (name, stop) := c.skip.span isNameCharacter
    if stop.sees '!' then .ok ('!' :: name ++ ['!'], stop.skip)
    else if activity = .tagDirective && !name.isEmpty then
      .error (.during activity start .noTagMark stop)
    else .ok ('!' :: name, stop)

/-- Reads a tag: its handle and its text. -/
def scanTag (inFlow : Bool) (c : Cursor) : Except SyntaxBreak (String × String × Cursor) := do
  let start := c.mark
  let (handle, suffix, stop) ← do
    if c.ahead (· == '<') 1 then
      let (suffix, stop) ← scanTagText .tag start true [] c.skip.skip
      if !stop.sees '>' then throw (.during .tag start .noTagEnd stop)
      pure ("", suffix, stop.skip)
    else
      let (handle, stop) ← scanTagHandle .tag start c
      if 1 < handle.length && handle.getLast? = some '!' then
        let (suffix, stop) ← scanTagText .tag start false [] stop
        pure (String.ofList handle, suffix, stop)
      else
        let (suffix, stop) ← scanTagText .tag start false handle stop
        pure (if suffix = "" then ("", "!", stop) else ("!", suffix, stop))
  if stop.seesGap 0 || (inFlow && stop.sees ',') then return (handle, suffix, stop)
  else throw (.during .tag start .noWhiteSpaceOrBreak stop)

/-! ### Directives -/

/-- The largest number of digits of a version number. -/
def maxVersionDigits : Nat := 9

def scanVersionNumber (start : Mark) (c : Cursor) : Except SyntaxBreak (Nat × Cursor) :=
  let (digits, stop) := c.span Char.isDigit
  if maxVersionDigits < digits.length then
    .error (.during .versionDirective start .longVersionNumber
      (Cursor.skipMany maxVersionDigits c))
  else if digits.isEmpty then .error (.during .versionDirective start .noVersionNumber c)
  else .ok (digits.foldl (fun n x => 10 * n + (x.toNat - '0'.toNat)) 0, stop)

/-- Reads what a directive says, behind its name. -/
def scanDirectiveContent (start : Mark) (name : String) (c : Cursor) :
    Except SyntaxBreak (TokenKind × Cursor) := do
  if name = "YAML" then
    let (major, c) ← scanVersionNumber start c.skipBlanks
    if !c.sees '.' then throw (.during .versionDirective start .noVersionPoint c)
    let (minor, c) ← scanVersionNumber start c.skip
    return (.versionDirective major minor, c)
  else if name = "TAG" then
    let (handle, c) ← scanTagHandle .tagDirective start c.skipBlanks
    if !c.seesBlank then throw (.during .tagDirective start .noWhiteSpace c)
    let (lead, c) ← scanTagText .tagDirective start true [] c.skipBlanks
    if !c.seesGap 0 then throw (.during .tagDirective start .noWhiteSpaceOrBreak c)
    return (.tagDirective (String.ofList handle) lead, c)
  else throw (.during .directive start .unknownDirective c)

/-- Reads a directive, at its percent sign, and its line end. -/
def scanDirective (c : Cursor) : Except SyntaxBreak (TokenKind × Mark × Cursor) := do
  let start := c.mark
  let (name, c) := c.skip.span isNameCharacter
  if name.isEmpty then throw (.during .directive start .noDirectiveName c)
  if !c.seesGap 0 then throw (.during .directive start .badDirectiveName c)
  let (kind, c) ← scanDirectiveContent start (String.ofList name) c
  let stop := c.mark
  let c := c.skipBlanks.skipComment
  if !c.seesLineEnd then throw (.during .directive start .directiveTail c)
  return (kind, stop, c.passBreak.2)

end NotebookExport.Yaml
