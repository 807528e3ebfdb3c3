import NotebookExport.Shell.Printing
import NotebookExport.Storage

/-!
# Conditions

What `test` finds out about texts, numbers and files. A row of arguments is read as a disjunction of
conjunctions of perhaps negated terms, and what looks like an operator is one only where an operator
can stand.
-/

namespace NotebookExport.Shell

/-- Why arguments are no condition. -/
inductive ConditionFault where
  | unexpected (argument : Octets)
  | missingArgument (operator : Octets)
  | missingParenthesis
  | notNumber (argument : Octets)
  | missingBracket

def ConditionFault.message : ConditionFault → String
  | .unexpected argument => Octets.toText argument ++ ": unexpected operator"
  | .missingArgument operator => Octets.toText operator ++ ": argument expected"
  | .missingParenthesis => "closing paren expected"
  | .notNumber argument => "Illegal number: " ++ Octets.toText argument
  | .missingBracket => "missing ]"

namespace Condition

def isUnary (argument : Octets) : Bool :=
  match argument with
  | ['-', c] => "nzredfswxcbpugkhLOGSt".toList.contains c
  | _ => false

def comparisons : List String :=
  ["=", "==", "!=", "<", ">", "-eq", "-ne", "-lt", "-le", "-gt", "-ge"]

def isComparison (argument : Octets) : Bool := comparisons.contains (Octets.toText argument)

/-- Whether an operator with one operand stands at the start of the arguments. -/
def startsUnary (arguments : List Octets) : Bool :=
  match arguments with
  | [operator, _] => isUnary operator
  | operator :: operand :: _ => isUnary operator && !isComparison operand
  | _ => false

/-- The number that an argument is. -/
def number (argument : Octets) : Except ConditionFault Int :=
  let isSpace (c : Char) : Bool := c = ' ' || c = '\t' || c = '\n'
  let text := ((argument.dropWhile isSpace).reverse.dropWhile isSpace).reverse
  let (isNegative, digits) := match text with
    | '-' :: digits => (true, digits)
    | '+' :: digits => (false, digits)
    | _ => (false, text)
  if digits.isEmpty || !digits.all Char.isDigit then .error (.notNumber argument)
  else
    let size : Int := digitsValue 10 digits
    .ok (if isNegative then -size else size)

/-- Whether a file is as an operator asks. -/
def holdsOfFile (files : FileSystem) (operator : Char) (path : Octets) : Bool :=
  match files.find (Octets.toText path) with
  | none => false
  | some .directory => ['e', 'd', 'r', 'w', 'x', 'O', 'G', 's'].contains operator
  | some (.file bytes) =>
    ['e', 'f', 'r', 'w', 'O', 'G'].contains operator || (operator = 's' && !bytes.isEmpty)

def unary (files : FileSystem) (operator operand : Octets) : Bool :=
  match operator with
  | ['-', 'n'] => !operand.isEmpty
  | ['-', 'z'] => operand.isEmpty
  | ['-', c] => holdsOfFile files c operand
  | _ => false

def compare (operator left right : Octets) : Except ConditionFault Bool :=
  let numbers (holds : Int → Int → Bool) : Except ConditionFault Bool :=
    (number left).bind fun a => (number right).map fun b => holds a b
  match Octets.toText operator with
  | "=" | "==" => .ok (left = right)
  | "!=" => .ok (left ≠ right)
  | "<" => .ok (left < right)
  | ">" => .ok (right < left)
  | "-eq" => numbers (· = ·)
  | "-ne" => numbers (· ≠ ·)
  | "-lt" => numbers (· < ·)
  | "-le" => numbers (· ≤ ·)
  | "-gt" => numbers (· > ·)
  | _ => numbers (· ≥ ·)

/-- What was found, the last argument that was used, and the arguments behind it. -/
structure Finding where
  holds : Bool
  last : Octets
  rest : List Octets

mutual

/-- Terms joined by `-o`. -/
def disjunction (files : FileSystem) : Nat → List Octets → Except ConditionFault Finding
  | 0, arguments => .ok ⟨false, [], arguments⟩
  | fuel + 1, arguments =>
    (conjunction files fuel arguments).bind fun left =>
      match left.rest with
      | ['-', 'o'] :: rest =>
        (disjunction files fuel rest).map fun right =>
          { right with holds := left.holds || right.holds }
      | _ => .ok left

/-- Terms joined by `-a`. -/
def conjunction (files : FileSystem) : Nat → List Octets → Except ConditionFault Finding
  | 0, arguments => .ok ⟨false, [], arguments⟩
  | fuel + 1, arguments =>
    (negation files fuel arguments).bind fun left =>
      match left.rest with
      | ['-', 'a'] :: rest =>
        (conjunction files fuel rest).map fun right =>
          { right with holds := left.holds && right.holds }
      | _ => .ok left

def negation (files : FileSystem) : Nat → List Octets → Except ConditionFault Finding
  | 0, arguments => .ok ⟨false, [], arguments⟩
  | fuel + 1, ['!'] :: rest =>
    (negation files fuel rest).map fun f => { f with holds := !f.holds }
  | fuel + 1, arguments => term files fuel arguments

def term (files : FileSystem) : Nat → List Octets → Except ConditionFault Finding
  | 0, arguments => .ok ⟨false, [], arguments⟩
  | _ + 1, [] => .ok ⟨false, [], []⟩
  | fuel + 1, first :: rest =>
    if first = ['('] && !rest.isEmpty then
      match rest with
      | [')'] :: rest => .ok ⟨false, [')'], rest⟩
      | _ =>
        (disjunction files fuel rest).bind fun inner =>
          match inner.rest with
          | [')'] :: rest => .ok ⟨inner.holds, [')'], rest⟩
          | _ => .error .missingParenthesis
    else if startsUnary (first :: rest) then
      match rest with
      | operand :: rest => .ok ⟨unary files first operand, operand, rest⟩
      | [] => .error (.missingArgument first)
    else
      match rest with
      | operator :: operands =>
        if isComparison operator then
          match operands with
          | operand :: rest =>
            (compare operator first operand).map fun holds => ⟨holds, operand, rest⟩
          | [] => .error (.missingArgument operator)
        else .ok ⟨!first.isEmpty, first, rest⟩
      | [] => .ok ⟨!first.isEmpty, first, rest⟩

end

/-- Whether the condition that arguments make holds. -/
def holds (files : FileSystem) : Nat → List Octets → Except ConditionFault Bool
  | 0, _ | _, [] => .ok false
  | fuel + 1, arguments =>
    let general (arguments : List Octets) : Except ConditionFault Bool :=
      (disjunction files (4 * arguments.length + 4) arguments).bind fun f =>
        if f.rest.isEmpty then .ok f.holds else .error (.unexpected f.last)
    let short := arguments.length = 3 || arguments.length = 4
    match arguments with
    | [left, operator, right] =>
      if isComparison operator then compare operator left right
      else if left = ['('] && right = [')'] then general [operator]
      else if left = ['!'] then (holds files fuel [operator, right]).map (!·)
      else general arguments
    | ['!'] :: rest =>
      if short then (holds files fuel rest).map (!·) else general arguments
    | [['('], left, right, [')']] => general [left, right]
    | _ => general arguments

/-- The condition of `test`, or of the bracket, which must be closed. -/
def evaluate (files : FileSystem) (isBracket : Bool) (arguments : List Octets) :
    Except ConditionFault Bool :=
  if isBracket then
    if arguments.getLast? = some [']'] then
      holds files (arguments.length + 1) arguments.dropLast
    else .error .missingBracket
  else holds files (arguments.length + 1) arguments

end Condition

end NotebookExport.Shell
