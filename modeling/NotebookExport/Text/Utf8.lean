/-!
# UTF-8

Text as bytes and bytes as text. Decoding goes one step at a time: a step reads a character, or
passes over the longest beginning of one that cannot be completed. `decode?` wants characters only,
`decodeLossy` puts a replacement character for each piece that is none.
-/

namespace NotebookExport.Text.Utf8

/-- The bytes of a text. -/
def encode (text : String) : List UInt8 := text.toList.flatMap String.utf8EncodeChar

/-- What bytes begin with. -/
inductive Step where
  | char (c : Char) (rest : List UInt8)
  /-- No character; the rest is where reading may go on. -/
  | broken (rest : List UInt8)

/-- Whether a byte continues a character. -/
def isTail (b : UInt8) : Bool := 0x80 ≤ b && b ≤ 0xBF

/-- The value of the bits that a continuing byte carries. -/
def tailBits (b : UInt8) : Nat := b.toNat % 64

/-- The range of the second byte of a character, by its first. -/
def secondRange (first : UInt8) : UInt8 × UInt8 :=
  if first = 0xE0 then (0xA0, 0xBF)
  else if first = 0xED then (0x80, 0x9F)
  else if first = 0xF0 then (0x90, 0xBF)
  else if first = 0xF4 then (0x80, 0x8F)
  else (0x80, 0xBF)

/-- What a non-empty row of bytes begins with. -/
def step (a : UInt8) (rest : List UInt8) : Step :=
  let (low, high) := secondRange a
  if a < 0x80 then .char (.ofNat a.toNat) rest
  else if 0xC2 ≤ a && a ≤ 0xDF then
    match rest with
    | b :: rest' =>
      if isTail b then .char (.ofNat (a.toNat % 32 * 64 + tailBits b)) rest' else .broken rest
    | [] => .broken []
  else if 0xE0 ≤ a && a ≤ 0xEF then
    match rest with
    | b :: rest' =>
      if low ≤ b && b ≤ high then
        match rest' with
        | c :: rest'' =>
          if isTail c then
            .char (.ofNat ((a.toNat % 16 * 64 + tailBits b) * 64 + tailBits c)) rest''
          else .broken rest'
        | [] => .broken []
      else .broken rest
    | [] => .broken []
  else if 0xF0 ≤ a && a ≤ 0xF4 then
    match rest with
    | b :: rest' =>
      if low ≤ b && b ≤ high then
        match rest' with
        | c :: rest'' =>
          if isTail c then
            match rest'' with
            | d :: rest''' =>
              if isTail d then
                .char (.ofNat (((a.toNat % 8 * 64 + tailBits b) * 64 + tailBits c) * 64 +
                  tailBits d)) rest'''
              else .broken rest''
            | [] => .broken []
          else .broken rest'
        | [] => .broken []
      else .broken rest
    | [] => .broken []
  else .broken rest

/-- The characters of bytes, with `none` for each piece that is no character. -/
def pieces : Nat → List UInt8 → List (Option Char)
  | 0, _ => []
  | _, [] => []
  | fuel + 1, b :: bytes =>
    match step b bytes with
    | .char c rest => some c :: pieces fuel rest
    | .broken rest => none :: pieces fuel rest

/-- The text whose bytes these are. -/
def decode? (bytes : List UInt8) : Option String :=
  ((pieces bytes.length bytes).mapM id).map String.ofList

/-- The text of bytes, with a replacement character for each piece that is none. -/
def decodeLossy (bytes : List UInt8) : String :=
  String.ofList ((pieces bytes.length bytes).map fun piece => piece.getD '\ufffd')

end NotebookExport.Text.Utf8
