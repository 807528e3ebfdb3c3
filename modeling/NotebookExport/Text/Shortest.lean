/-!
# Shortest decimals

The decimal with the fewest digits that reads back as a given binary floating-point number. Among
the decimals with that many digits the nearest is taken, of two equally near the even one. All
arithmetic is on natural numbers: with `m · 2 ^ e` the numbers that round to it form an interval,
and for each number of digits only the two neighbours on the decimal grid can lie in it.
-/

namespace NotebookExport.Text.Shortest

/-- The value `numerator / denominator` between the bounds within which decimals read back as it.
All three have the same denominator. -/
structure Interval where
  low : Nat
  value : Nat
  high : Nat
  denominator : Nat
  /-- Whether the bounds themselves read back. -/
  closed : Bool

/-- The interval of a positive number with the given bits. -/
def Interval.ofBits (bits : Nat) : Interval :=
  let exponent := bits / Nat.pow 2 52 % 2048
  let fraction := bits % Nat.pow 2 52
  let m := if exponent = 0 then fraction else Nat.pow 2 52 + fraction
  let power := (if exponent = 0 then 1 else exponent)
  -- the value is `m · 2 ^ (power - 1075)`; a quarter of the last place is the unit
  let up := Nat.pow 2 (power - 1077)
  let below := if fraction = 0 && 1 < exponent then 1 else 2
  ⟨(4 * m - below) * up, 4 * m * up, (4 * m + 2) * up, Nat.pow 2 (1077 - power), m % 2 = 0⟩

/-- Whether `digits · 10 ^ exponent` reads back as the value. -/
def Interval.holds (i : Interval) (digits : Nat) (exponent : Int) : Bool :=
  let scaled := digits * Nat.pow 10 exponent.toNat * i.denominator
  let unit := Nat.pow 10 (-exponent).toNat
  if i.closed then i.low * unit ≤ scaled && scaled ≤ i.high * unit
  else i.low * unit < scaled && scaled < i.high * unit

/-- The number of zeros between the point and the first other digit of a number below one. -/
def Interval.leadingZeros (i : Interval) : Nat → Nat → Nat
  | 0, n => n
  | fuel + 1, n =>
    if i.denominator ≤ i.value * Nat.pow 10 (n + 1) then n else i.leadingZeros fuel (n + 1)

/-- The number of places in front of the point; less than one for numbers below a tenth. -/
def Interval.places (i : Interval) : Int :=
  let whole := i.value / i.denominator
  if 0 < whole then (Nat.toDigits 10 whole).length else -(i.leadingZeros 400 0 : Int)

/-- The better of two neighbours on the grid of the given exponent, if one reads back. -/
def Interval.onGrid (i : Interval) (exponent : Int) : Option Nat :=
  let top := i.value * Nat.pow 10 (-exponent).toNat
  let bottom := i.denominator * Nat.pow 10 exponent.toNat
  let below := top / bottom
  let rest := top % bottom
  let first := i.holds below exponent
  let second := i.holds (below + 1) exponent
  if first && second then
    if 2 * rest < bottom || (2 * rest = bottom && below % 2 = 0) then some below
    else some (below + 1)
  else if first then some below
  else if second then some (below + 1)
  else none

/-- A decimal number: digits and the power of ten by which they are multiplied. -/
structure Decimal where
  digits : Nat
  exponent : Int

/-- The shortest decimal of a positive number with the given bits. -/
def ofBits (bits : Nat) : Decimal :=
  let i := Interval.ofBits bits
  let places := i.places
  let found := (List.range 17).findSome? fun n =>
    let exponent := places - (n + 1 : Nat)
    (i.onGrid exponent).map fun digits => (⟨digits, exponent⟩ : Decimal)
  found.getD ⟨0, 0⟩

/-- A decimal without zeros at its end. -/
def Decimal.normal : Nat → Decimal → Decimal
  | 0, d => d
  | fuel + 1, d =>
    if d.digits != 0 && d.digits % 10 = 0 then
      Decimal.normal fuel ⟨d.digits / 10, d.exponent + 1⟩
    else d

/-- Numbers from `10 ^ -5` up to `10 ^ 16` are written with a point, all others with an exponent. -/
def Decimal.text (d : Decimal) : String :=
  let digits := Nat.toDigits 10 d.digits
  let point := (digits.length : Int) + d.exponent
  let zeros (n : Nat) : List Char := List.replicate n '0'
  String.ofList <|
    if 0 ≤ d.exponent && point ≤ 16 then digits ++ zeros d.exponent.toNat ++ ['.', '0']
    else if 0 < point && point ≤ 16 then
      digits.take point.toNat ++ '.' :: digits.drop point.toNat
    else if -5 < point && point ≤ 0 then '0' :: '.' :: zeros (-point).toNat ++ digits
    else
      let mantissa := match digits with
        | [] => []
        | [only] => [only]
        | first :: rest => first :: '.' :: rest
      mantissa ++ 'e' :: (toString (point - 1)).toList

/-- A number with a point and without an exponent, however long that is. -/
def Decimal.positionalText (d : Decimal) : String :=
  let digits := Nat.toDigits 10 d.digits
  let point := (digits.length : Int) + d.exponent
  let zeros (n : Nat) : List Char := List.replicate n '0'
  String.ofList <|
    if 0 ≤ d.exponent then digits ++ zeros d.exponent.toNat ++ ['.', '0']
    else if 0 < point then digits.take point.toNat ++ '.' :: digits.drop point.toNat
    else '0' :: '.' :: zeros (-point).toNat ++ digits

/-- A finite number, its shortest decimal being written by `write`. -/
def textBy (write : Decimal → String) (x : Float) : String :=
  let bits := x.toBits.toNat
  let sign := if bits / Nat.pow 2 63 = 1 then "-" else ""
  let size := bits % Nat.pow 2 63
  if size = 0 then sign ++ "0.0" else sign ++ write ((ofBits size).normal 20)

/-- The shortest text of a finite number. -/
def text : Float → String := textBy Decimal.text

/-- The shortest text of a finite number without an exponent. -/
def positionalText : Float → String := textBy Decimal.positionalText

end NotebookExport.Text.Shortest
