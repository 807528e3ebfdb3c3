import NotebookExport.Python.Automaton
import NotebookExport.Python.Lexeme

/-!
# Derivations

What the parser builds: every phrase and group with the parts it was closed over, hidden ones
included, and text that fits nowhere. Each derivation carries its place and what it costs: a price
for every place where the text had to be changed or passed over to fit the grammar. Of two
readings of one stretch of text the cheaper is better, then the one with the larger weight.
-/

namespace NotebookExport.Python

open Text

/-- What a derivation derives. -/
inductive Label where
  | symbol (symbol : Symbol)
  /-- Text that fits no rule, with the pieces it consists of. -/
  | error
  /-- Pieces passed over while the parser looks for a place to go on. -/
  | passedOver
  deriving DecidableEq

namespace Label

/-- Whether a node of this label stands in the tree. -/
def isShown : Label → Bool
  | .symbol (.token t) => !t.isHidden
  | .symbol (.phrase p) => !p.isHidden
  | .error => true
  | _ => false

end Label

/-- What is known of a derivation besides its parts. -/
structure DerivationInfo where
  label : Label
  production : Option Production
  /-- Where the text before it ends; from there to `start` there are only blanks. -/
  outer : Position
  start : Position
  stop : Cursor
  /-- Comments, continued lines and errors may stand between any two parts. -/
  isExtra : Bool := false
  isMissing : Bool := false
  cost : Nat := 0
  weight : Int := 0
  /-- The number of shown nodes below this one, and of those that would be its children. -/
  shownBelow : Nat := 0
  shownChildren : Nat := 0
  /-- The layout behind the last layout token in it. -/
  layout : Option Layout := none

/-- A node of the parse with its parts. -/
inductive Derivation where
  | node (info : DerivationInfo) (parts : List Derivation)

/-! ### Prices -/

def costOfError : Nat := 500

def costOfMissing : Nat := 110

def costOfSkippedNode : Nat := 100

def costOfSkippedByte : Nat := 1

def costOfSkippedRow : Nat := 30

namespace Derivation

def info : Derivation → DerivationInfo
  | .node info _ => info

def parts : Derivation → List Derivation
  | .node _ parts => parts

def label (d : Derivation) : Label := d.info.label

def cost (d : Derivation) : Nat := d.info.cost

def weight (d : Derivation) : Int := d.info.weight

def isExtra (d : Derivation) : Bool := d.info.isExtra

def isShown (d : Derivation) : Bool := d.label.isShown

/-- Passing over a stretch of text from one position to another. -/
def costOfStretch (start stop : Position) : Nat :=
  costOfSkippedByte * (stop.byte - start.byte) + costOfSkippedRow * (stop.row - start.row)

/-- The derivation of a token of the input, or of text in which no token begins. -/
def ofLexeme (x : Lexeme) (isExtra : Bool) : Derivation :=
  let label := match x.token with
    | some token => Label.symbol (.token token)
    | none => .error
  .node { label, production := none, outer := x.outer, start := x.start, stop := x.stop,
          isExtra := isExtra || x.token = some .endOfInput, layout := x.layout } []

/-- A token that the text lacks at a place. -/
def missing (token : Token) (c : Cursor) : Derivation :=
  .node { label := .symbol (.token token), production := none, outer := c.position,
          start := c.position, stop := c, isMissing := true,
          cost := costOfMissing + costOfError } []

/-- The kinds under which the parts of a production are shown, part by part; extra parts take none.
-/
def labelledParts (steps : List Step) : List Derivation → List (Derivation × Option Step)
  | [] => []
  | d :: ds =>
    if d.isExtra then (d, none) :: labelledParts steps ds
    else (d, steps.head?) :: labelledParts steps.tail ds

/-- The price of a part as a piece of text that does not fit. -/
def costAsSkipped (d : Derivation) : Nat :=
  if d.isExtra || (d.label = .error && d.parts.isEmpty) then 0
  else if d.isShown then costOfSkippedNode
  else if d.parts.isEmpty then 0
  else costOfSkippedNode * d.info.shownChildren

/-- The sum of some numbers. -/
def total (numbers : List Nat) : Nat := numbers.foldr (· + ·) 0

/-- Closes a derivation over its parts; `c` is where it stands if it has none. -/
def close (label : Label) (production : Option Production) (weight : Int) (isExtra : Bool)
    (parts : List Derivation) (c : Cursor) : Derivation :=
  let outer := (parts.head?.map (·.info.outer)).getD c.position
  let start := (parts.head?.map (·.info.start)).getD c.position
  let stop := (parts.getLast?.map (·.info.stop)).getD c
  let isError := label = .error || label = .passedOver
  let labelled := labelledParts ((production.map Production.steps).getD []) parts
  let isChild := fun (entry : Derivation × Option Step) =>
    (entry.2.bind Step.shownAs).isSome || entry.1.isShown
  let inherited := total (parts.map fun d => if d.label = .passedOver then 0 else d.cost)
  let own :=
    if isError then
      total (parts.map costAsSkipped) + costOfError + costOfStretch start stop.position
    else 0
  .node {
    label, production, outer, start, stop, isExtra
    cost := inherited + own
    weight := (parts.map Derivation.weight).foldr (· + ·) weight
    shownBelow := total (parts.map fun d => d.info.shownBelow) + labelled.countP isChild
    shownChildren := total (labelled.map fun entry =>
      if isChild entry then 1
      else if entry.1.parts.isEmpty then 0 else entry.1.info.shownChildren)
    layout := parts.foldl (fun found d => d.info.layout.or found) none } parts

/-- The place of a label in the order of all labels. -/
def rank (d : Derivation) : Nat :=
  match d.label with
  | .symbol s => s.index
  | .error => Symbol.bound
  | .passedOver => Symbol.bound + 1

/-- Orders derivations by their labels and numbers of parts, from the root down. -/
def compare : Nat → Derivation → Derivation → Ordering
  | 0, _, _ => .eq
  | fuel + 1, a, b =>
    (Ord.compare a.rank b.rank).then <| (Ord.compare a.parts.length b.parts.length).then <|
      (a.parts.zip b.parts).foldl (fun found (x, y) => found.then (compare fuel x y)) .eq

/-- Whether the second of two readings of the same text is to be preferred. -/
def prefersSecond (a b : Derivation) : Bool :=
  if b.cost < a.cost then true
  else if a.cost < b.cost then false
  else if a.weight < b.weight then true
  else if b.weight < a.weight then false
  else if 0 < a.cost then true
  else compare (a.info.shownBelow + b.info.shownBelow + 64) a b = .gt

/-- The number of nodes by which the parser measures its progress. -/
def progress (d : Derivation) : Nat :=
  d.info.shownBelow + (if d.isShown then 1 else 0) + (if d.label = .passedOver then 1 else 0)

/-- The extra parts at the end, apart from the others. -/
def splitExtras (parts : List Derivation) : List Derivation × List Derivation :=
  let extras := (parts.reverse.takeWhile isExtra).reverse
  (parts.take (parts.length - extras.length), extras)

/-- Whether two derivations cannot be told apart from outside. -/
def similar (a b : Derivation) : Bool :=
  a.label = b.label &&
    ((0 < a.cost && 0 < b.cost) ||
      (a.info.outer = b.info.outer && a.info.start = b.info.start &&
        a.info.stop.position = b.info.stop.position && a.parts.length = b.parts.length &&
        a.isExtra = b.isExtra && a.info.layout = b.info.layout))

end Derivation

end NotebookExport.Python
