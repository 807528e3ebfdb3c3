import NotebookExport.Shell.Printing

/-!
# Filters

What becomes of octets that are translated, counted, cut or sorted.
-/

namespace NotebookExport.Shell

/-- The lines of a text, each with its end. -/
def fullLines (text : Octets) : List Octets :=
  let step (c : Char) (lines : List Octets) : List Octets :=
    match lines with
    | [] => [[c]]
    | line :: rest => if c = '\n' then [c] :: line :: rest else (c :: line) :: rest
  text.foldr step []

/-- The lines of a text without their ends. -/
def bareLines (text : Octets) : List Octets :=
  (fullLines text).map fun line => if line.getLast? = some '\n' then line.dropLast else line

/-- The text of some lines. -/
def ofLines (lines : List Octets) : Octets := lines.flatMap (· ++ ['\n'])

/-! ### Sets of octets -/

/-- All octets. -/
def allOctets : Octets := (List.range 256).map Char.ofNat

def isPunctuation (c : Char) : Bool := 0x21 ≤ c.toNat && c.toNat ≤ 0x7E && !c.isAlphanum

def isControl (c : Char) : Bool := c.toNat < 0x20 || c.toNat = 0x7F

def isSpace (c : Char) : Bool := c = ' ' || (0x09 ≤ c.toNat && c.toNat ≤ 0x0D)

/-- The octets of a class. -/
def octetClass? (name : String) : Option (Char → Bool) :=
  match name with
  | "alpha" => some Char.isAlpha
  | "digit" => some Char.isDigit
  | "alnum" => some Char.isAlphanum
  | "upper" => some Char.isUpper
  | "lower" => some Char.isLower
  | "space" => some isSpace
  | "blank" => some fun c => c = ' ' || c = '\t'
  | "punct" => some isPunctuation
  | "cntrl" => some isControl
  | "print" => some fun c => 0x20 ≤ c.toNat && c.toNat ≤ 0x7E
  | "graph" => some fun c => 0x21 ≤ c.toNat && c.toNat ≤ 0x7E
  | "xdigit" => some fun c => c.isDigit || ('a' ≤ c.toLower && c.toLower ≤ 'f')
  | _ => none

/-- The next octet that a set names, and the rest of the set's text. -/
def setOctet (text : Octets) : Option (Char × Octets) :=
  match text with
  | [] => none
  | '\\' :: cs =>
    match escaped cs with
    | ([octet], taken) => some (octet, cs.drop taken)
    | (_, _) => some (cs.head?.getD '\\', cs.tail)
  | c :: cs => some (c, cs)

/-- The octets that a text names one by one, in ranges and in classes. -/
def octetSet : Nat → Octets → Octets
  | 0, _ => []
  | fuel + 1, text =>
    let name := (text.drop 2).takeWhile Char.isAlpha
    match text, text.drop (name.length + 2), octetClass? (String.ofList name) with
    | '[' :: ':' :: _, ':' :: ']' :: rest, some holds =>
      allOctets.filter holds ++ octetSet fuel rest
    | _, _, _ =>
      match setOctet text with
      | none => []
      | some (a, '-' :: rest) =>
        match setOctet rest with
        | some (b, rest) =>
          (allOctets.filter fun c => a ≤ c && c ≤ b) ++ octetSet fuel rest
        | none => a :: octetSet fuel ('-' :: rest)
      | some (a, rest) => a :: octetSet fuel rest

/-- Leaves one of each run of an octet of a set. -/
def squeeze (set : Octets) : Option Char → Octets → Octets
  | _, [] => []
  | before, c :: cs =>
    if before = some c && set.contains c then squeeze set before cs
    else c :: squeeze set (some c) cs

/-- The octet that stands for another: that at the same place of the second set, where the last
octet of the set goes on. -/
def exchangeOctet (pairs : List (Char × Char)) (c : Char) : Char :=
  (pairs.lookup c).getD c

structure OctetExchange where
  deletes : Bool := false
  squeezes : Bool := false
  complements : Bool := false

/-- What `tr` makes of a text. -/
def OctetExchange.run (t : OctetExchange) (first : Octets) (second : Option Octets)
    (text : Octets) : Octets :=
  let named := octetSet first.length first
  let first := if t.complements then allOctets.filter fun c => !named.contains c else named
  let second := second.map fun s => octetSet s.length s
  if t.deletes then
    let text := text.filter fun c => !first.contains c
    if t.squeezes then squeeze (second.getD []) none text else text
  else
    match second with
    | none => if t.squeezes then squeeze first none text else text
    | some second =>
      let last := second.getLast?.toList
      let images := second ++ (List.replicate (first.length - second.length) last).flatten
      let pairs := (first.zip images).reverse
      let text := text.map (exchangeOctet pairs)
      if t.squeezes then squeeze second none text else text

/-! ### Counts, cuts and order -/

/-- The number of words in a text. -/
def wordCount : Bool → Octets → Nat
  | _, [] => 0
  | inWord, c :: cs =>
    if isSpace c then wordCount false cs
    else (if inWord then 0 else 1) + wordCount true cs

/-- The start of a text: some lines or octets, or all but some at the end. -/
def headOf (octets allBut : Bool) (count : Nat) (text : Octets) : Octets :=
  let cut {α : Type} (items : List α) : List α :=
    if allBut then items.take (items.length - count) else items.take count
  if octets then cut text else (cut (fullLines text)).flatten

/-- The end of a text: some lines or octets, or all from some line or octet on. -/
def tailOf (octets fromStart : Bool) (count : Nat) (text : Octets) : Octets :=
  let cut {α : Type} (items : List α) : List α :=
    if fromStart then items.drop (count - 1) else items.drop (items.length - count)
  if octets then cut text else (cut (fullLines text)).flatten

structure SortOrder where
  isReversed : Bool := false
  isUnique : Bool := false
  isNumeric : Bool := false

/-- Whether a line may stand before another. -/
def SortOrder.allows (order : SortOrder) (a b : Octets) : Bool :=
  let texts := if order.isReversed then !(decide (a < b)) else !(decide (b < a))
  if order.isNumeric then
    let x := (readNumber (a.dropWhile (· = '0'))).1
    let y := (readNumber (b.dropWhile (· = '0'))).1
    if x = y then order.isUnique || texts
    else if order.isReversed then y < x else x < y
  else texts

/-- Leaves one of each run of equal lines. -/
def distinctLines (same : Octets → Octets → Bool) : List Octets → List Octets
  | [] => []
  | line :: rest =>
    match distinctLines same rest with
    | [] => [line]
    | next :: others => if same line next then line :: others else line :: next :: others

/-- The lines of a text in order. -/
def SortOrder.sort (order : SortOrder) (text : Octets) : Octets :=
  let lines := (bareLines text).mergeSort order.allows
  let same (a b : Octets) : Bool := order.allows a b && order.allows b a
  ofLines (if order.isUnique then distinctLines same lines else lines)

end NotebookExport.Shell
