import NotebookExport.Shell.Printing

/-!
# Arithmetic

The value of an expression over whole numbers. Truth is one and falsehood zero.
-/

namespace NotebookExport.Shell

inductive ArithmeticFault where
  | noOperand
  | divisionByZero
  | trailing

def ArithmeticFault.message (expression : Octets) : ArithmeticFault → String
  | .noOperand => "arithmetic expression: expecting primary: \"" ++ Octets.toText expression ++ "\""
  | .divisionByZero =>
    "arithmetic expression: division by zero: \"" ++ Octets.toText expression ++ "\""
  | .trailing => "arithmetic expression: expecting EOF: \"" ++ Octets.toText expression ++ "\""

namespace Arithmetic

/-- The operators between two operands, by how tightly they bind, the loosest first. -/
def levels : List (List String) :=
  [["||"], ["&&"], ["|"], ["^"], ["&"], ["==", "!="], ["<=", ">=", "<", ">"], ["<<", ">>"],
    ["+", "-"], ["*", "/", "%"]]

def truth (b : Bool) : Int := if b then 1 else 0

/-- The value of an operator; numbers are combined by bit as words of 64 bits. -/
def apply (operator : String) (a b : Int) : Except ArithmeticFault Int :=
  let word (n : Int) : Int := Int.bmod n (Nat.pow 2 64)
  let bits (f : Nat → Nat → Nat) : Int :=
    let size (n : Int) : Nat := (n % (Nat.pow 2 64 : Nat)).toNat
    word (f (size a) (size b))
  let shift : Int := (Nat.pow 2 (b % 64).toNat : Nat)
  match operator with
  | "||" => .ok (truth (a ≠ 0 || b ≠ 0))
  | "&&" => .ok (truth (a ≠ 0 && b ≠ 0))
  | "|" => .ok (bits Nat.lor)
  | "^" => .ok (bits Nat.xor)
  | "&" => .ok (bits Nat.land)
  | "==" => .ok (truth (a = b))
  | "!=" => .ok (truth (a ≠ b))
  | "<=" => .ok (truth (a ≤ b))
  | ">=" => .ok (truth (a ≥ b))
  | "<" => .ok (truth (a < b))
  | ">" => .ok (truth (a > b))
  | "<<" => .ok (word (a * shift))
  | ">>" => .ok (a / shift)
  | "+" => .ok (word (a + b))
  | "-" => .ok (word (a - b))
  | "*" => .ok (word (a * b))
  | "/" => if b = 0 then .error .divisionByZero else .ok (a.tdiv b)
  | _ => if b = 0 then .error .divisionByZero else .ok (a.tmod b)

def skipSpace (text : Octets) : Octets :=
  text.dropWhile fun c => c = ' ' || c = '\t' || c = '\n'

/-- The operator of a level at the start of a text; one that is the start of a longer operator does
not count. -/
def operatorAt (operators : List String) (text : Octets) : Option (String × Octets) :=
  let all := levels.flatten
  let longest := (all.filter fun o => o.toList.isPrefixOf text).foldl
    (fun best o => if best.length < o.length then o else best) ""
  if operators.contains longest then some (longest, text.drop longest.length) else none

mutual

/-- The value of an expression of a level, and the rest behind it. -/
def ofLevel (value : Octets → Int) : Nat → List (List String) → Octets →
    Except ArithmeticFault (Int × Octets)
  | 0, _, _ => .error .noOperand
  | fuel + 1, [], text => operand value fuel (skipSpace text)
  | fuel + 1, operators :: tighter, text =>
    (ofLevel value fuel tighter text).bind fun (a, rest) =>
      more value fuel operators tighter a rest

/-- What follows an operand of a level. -/
def more (value : Octets → Int) : Nat → List String → List (List String) → Int → Octets →
    Except ArithmeticFault (Int × Octets)
  | 0, _, _, _, _ => .error .noOperand
  | fuel + 1, operators, tighter, a, text =>
    match operatorAt operators (skipSpace text) with
    | none => .ok (a, text)
    | some (operator, rest) =>
      (ofLevel value fuel tighter rest).bind fun (b, rest) =>
        (apply operator a b).bind fun c => more value fuel operators tighter c rest

def operand (value : Octets → Int) : Nat → Octets → Except ArithmeticFault (Int × Octets)
  | 0, _ | _ + 1, [] => .error .noOperand
  | fuel + 1, '(' :: cs =>
    (ofLevel value fuel levels cs).bind fun (a, rest) =>
      match skipSpace rest with
      | ')' :: rest => .ok (a, rest)
      | _ => .error .noOperand
  | fuel + 1, '-' :: cs =>
    (operand value fuel (skipSpace cs)).map fun (a, rest) => (-a, rest)
  | fuel + 1, '+' :: cs => operand value fuel (skipSpace cs)
  | fuel + 1, '!' :: cs =>
    (operand value fuel (skipSpace cs)).map fun (a, rest) => (truth (a = 0), rest)
  | fuel + 1, '~' :: cs =>
    (operand value fuel (skipSpace cs)).map fun (a, rest) => (-a - 1, rest)
  | _ + 1, text =>
    let word := text.takeWhile fun c => c.isAlphanum || c = '_'
    let rest := text.dropWhile fun c => c.isAlphanum || c = '_'
    match word with
    | [] => .error .noOperand
    | c :: _ => .ok (if c.isDigit then (readNumber word).1 else value word, rest)

end

/-- The value of a whole expression; nothing counts as zero. -/
def evaluate (value : Octets → Int) (expression : Octets) : Except ArithmeticFault Int :=
  if (skipSpace expression).isEmpty then .ok 0
  else
    (ofLevel value (16 * expression.length + 32) levels expression).bind fun (a, rest) =>
      if (skipSpace rest).isEmpty then .ok a else .error .trailing

end Arithmetic

end NotebookExport.Shell
