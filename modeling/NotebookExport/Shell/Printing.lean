import NotebookExport.Shell.Script

/-!
# Printing

The text that `echo` and `printf` write for their arguments. A format is used again as long as there
are arguments left; what is missing counts as empty.
-/

namespace NotebookExport.Shell

def isOctal (c : Char) : Bool := '0' ≤ c && c ≤ '7'

/-- The value of digits below a base. -/
def digitsValue (base : Nat) (digits : Octets) : Nat :=
  digits.foldl (fun n c =>
    base * n + (if c.isDigit then c.toNat - '0'.toNat else c.toLower.toNat - 'a'.toNat + 10)) 0

/-- The octet that a letter stands for behind a backslash. -/
def escapedLetter? (c : Char) : Option Char :=
  match c with
  | 'a' => some '\x07'
  | 'b' => some '\x08'
  | 'e' => some '\x1b'
  | 'f' => some '\x0c'
  | 'n' => some '\n'
  | 'r' => some '\r'
  | 't' => some '\t'
  | 'v' => some '\x0b'
  | '\\' => some '\\'
  | _ => none

/-- The octet behind a backslash, and how many octets it takes; a backslash that means nothing
stays. -/
def escaped (text : Octets) : Octets × Nat :=
  match text with
  | [] => (['\\'], 0)
  | c :: _ =>
    let digits := (text.take 3).takeWhile isOctal
    if digits.isEmpty then
      match escapedLetter? c with
      | some octet => ([octet], 1)
      | none => (['\\', c], 1)
    else ([Char.ofNat (digitsValue 8 digits % 256)], digits.length)

/-- A text without its backslashes, where a number may begin with a zero more, and whether it asks
to end all output. -/
def unescape : Nat → Octets → Octets × Bool
  | 0, _ | _, [] => ([], false)
  | _ + 1, '\\' :: 'c' :: _ => ([], true)
  | fuel + 1, '\\' :: cs =>
    let cs := match cs with
      | '0' :: d :: rest => if isOctal d then d :: rest else cs
      | _ => cs
    let (octets, taken) := escaped cs
    let (more, ends) := unescape fuel (cs.drop taken)
    (octets ++ more, ends)
  | fuel + 1, c :: cs =>
    let (more, ends) := unescape fuel cs
    (c :: more, ends)

/-- What `echo` writes. -/
def echoText (arguments : List Octets) : Octets :=
  let (wantsNewline, arguments) := match arguments with
    | ['-', 'n'] :: rest => (false, rest)
    | _ => (true, arguments)
  let text := List.intercalate [' '] arguments
  let (text, ends) := unescape text.length text
  if ends || !wantsNewline then text else text ++ ['\n']

/-! ### Formats -/

/-- How a field is laid out. -/
structure FieldLayout where
  flags : Octets
  width : Nat
  precision : Option Nat

inductive FormatPart where
  | text (octets : Octets)
  | field (layout : FieldLayout) (conversion : Char)

/-- Why a format cannot be used. -/
inductive FormatFault where
  | missingConversion
  | badConversion (field : Octets)

def FormatFault.message : FormatFault → String
  | .missingConversion => "missing format character"
  | .badConversion field => Octets.toText field ++ ": invalid directive"

/-- The parts of a format up to a fault. -/
def formatParts : Nat → Octets → List FormatPart × Option FormatFault
  | 0, _ | _, [] => ([], none)
  | fuel + 1, '%' :: '%' :: cs =>
    let (more, fault) := formatParts fuel cs
    (.text ['%'] :: more, fault)
  | fuel + 1, '%' :: cs =>
    let isFlag (c : Char) : Bool := ['-', '+', ' ', '#', '0'].contains c
    let flags := cs.takeWhile isFlag
    let rest := cs.dropWhile isFlag
    let width := rest.takeWhile Char.isDigit
    let rest := rest.dropWhile Char.isDigit
    let (precision, rest) := match rest with
      | '.' :: rest =>
        (some (digitsValue 10 (rest.takeWhile Char.isDigit)), rest.dropWhile Char.isDigit)
      | _ => (none, rest)
    match rest with
    | [] => ([], some .missingConversion)
    | c :: rest =>
      if ['d', 'i', 'u', 'o', 'x', 'X', 's', 'c', 'b'].contains c then
        let (more, fault) := formatParts fuel rest
        (.field ⟨flags, digitsValue 10 width, precision⟩ c :: more, fault)
      else ([], some (.badConversion (('%' :: cs).take (cs.length - rest.length + 1))))
  | fuel + 1, '\\' :: cs =>
    let (octets, taken) := escaped cs
    let (more, fault) := formatParts fuel (cs.drop taken)
    (.text octets :: more, fault)
  | fuel + 1, c :: cs =>
    let (more, fault) := formatParts fuel cs
    (.text [c] :: more, fault)

/-- How much of a text is a number. -/
inductive Numeral where
  | all
  | start
  | none
  deriving DecidableEq

/-- The number at the start of a text: in decimal, behind `0x` in base 16, behind `0` in base 8;
behind a quote, the number of the next octet. -/
def readNumber (text : Octets) : Int × Numeral :=
  match text with
  | [] => (0, .all)
  | '\'' :: c :: _ | '"' :: c :: _ => (c.toNat, .all)
  | _ =>
    let text := text.dropWhile fun c => c = ' ' || c = '\t' || c = '\n'
    let (isNegative, digits) := match text with
      | '-' :: rest => (true, rest)
      | '+' :: rest => (false, rest)
      | _ => (false, text)
    let isHex (c : Char) : Bool := c.isDigit || ('a' ≤ c.toLower && c.toLower ≤ 'f')
    let (base, isDigit, digits) : Nat × (Char → Bool) × Octets := match digits with
      | '0' :: 'x' :: c :: rest | '0' :: 'X' :: c :: rest =>
        if isHex c then (16, isHex, c :: rest) else (8, isOctal, digits)
      | '0' :: _ => (8, isOctal, digits)
      | _ => (10, Char.isDigit, digits)
    let numeral := digits.takeWhile isDigit
    let value : Int := digitsValue base numeral
    (if isNegative then -value else value,
      if numeral.isEmpty then .none
      else if numeral.length = digits.length then .all else .start)

/-- A text in a field of some width. -/
def padded (layout : FieldLayout) (text : Octets) : Octets :=
  let blanks := List.replicate (layout.width - text.length) ' '
  if layout.flags.contains '-' then text ++ blanks else blanks ++ text

/-- A number in a field. -/
def numberField (layout : FieldLayout) (conversion : Char) (value : Int) : Octets :=
  let isSigned := conversion = 'd' || conversion = 'i'
  let size : Nat := if isSigned then value.natAbs else (value % (Nat.pow 2 64 : Nat)).toNat
  let base := match conversion with
    | 'o' => 8
    | 'x' | 'X' => 16
    | _ => 10
  let digits := Nat.toDigits base size
  let digits := if conversion = 'X' then digits.map Char.toUpper else digits
  let digits := if layout.precision = some 0 && size = 0 then [] else digits
  let digits := List.replicate (layout.precision.getD 0 - digits.length) '0' ++ digits
  let mark :=
    if isSigned && value < 0 then ['-']
    else if isSigned && layout.flags.contains '+' then ['+']
    else if isSigned && layout.flags.contains ' ' then [' ']
    else if layout.flags.contains '#' && size ≠ 0 then
      match conversion with
      | 'o' => ['0']
      | 'x' => ['0', 'x']
      | 'X' => ['0', 'X']
      | _ => []
    else []
  if layout.flags.contains '0' && !layout.flags.contains '-' && layout.precision.isNone then
    mark ++ List.replicate (layout.width - digits.length - mark.length) '0' ++ digits
  else padded layout (mark ++ digits)

/-- What has been printed so far. -/
structure Printed where
  text : Octets := []
  arguments : List Octets
  complaints : List String := []
  /-- Whether an argument asked to end all output. -/
  isEnded : Bool := false

namespace Printed

/-- Prints a part with the next argument. -/
def print (p : Printed) (part : FormatPart) : Printed :=
  if p.isEnded then p
  else
    match part with
    | .text octets => { p with text := p.text ++ octets }
    | .field layout conversion =>
      let argument := p.arguments.head?.getD []
      let p := { p with arguments := p.arguments.tail }
      let cut (text : Octets) : Octets := text.take (layout.precision.getD text.length)
      match conversion with
      | 's' => { p with text := p.text ++ padded layout (cut argument) }
      | 'c' => { p with text := p.text ++ padded layout [argument.head?.getD '\x00'] }
      | 'b' =>
        let (text, ends) := unescape argument.length argument
        { p with text := p.text ++ padded layout (cut text), isEnded := ends }
      | _ =>
        let (value, numeral) := readNumber argument
        let complaints := match numeral with
          | .all => []
          | .start => [Octets.toText argument ++ ": not completely converted"]
          | .none => [Octets.toText argument ++ ": expected numeric value"]
        { p with
          text := p.text ++ numberField layout conversion value
          complaints := p.complaints ++ complaints }

/-- Prints the parts again and again while they take arguments and some are left. -/
def repeatedly (parts : List FormatPart) : Nat → Printed → Printed
  | 0, p => p
  | fuel + 1, p =>
    let next := parts.foldl print p
    if next.isEnded || next.arguments.isEmpty ||
        next.arguments.length = p.arguments.length then next
    else repeatedly parts fuel next

end Printed

/-- What `printf` writes, its complaints, and whether the format is at fault. -/
def printfText (format : Octets) (arguments : List Octets) : Octets × List String × Bool :=
  let (parts, fault) := formatParts format.length format
  let printed := match fault with
    | some _ => parts.foldl Printed.print { arguments := arguments }
    | none => Printed.repeatedly parts (arguments.length + 1) { arguments := arguments }
  (printed.text, printed.complaints ++ fault.toList.map FormatFault.message, fault.isSome)

end NotebookExport.Shell
