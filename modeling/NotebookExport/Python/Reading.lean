import NotebookExport.Python.Derivation

/-!
# Readings

A reading is one way of understanding the text up to some place: a stack of states with the
derivations between them. Where the grammar leaves a choice the parser follows several readings
side by side; two that have come to the same state at the same place are joined, so that a stack
may have several ways down. `Search` is all readings with the best derivation of the whole text
found so far.
-/

namespace NotebookExport.Python

open Text

/-- A stack: a state, and below it, over a derivation each, the ways to earlier states. A way
without a derivation leads into the state in which the parser is lost. -/
inductive Stack where
  | node (id : Nat) (state : State) (cursor : Cursor) (cost : Nat) (weight : Int) (progress : Nat)
      (depth : Nat) (ways : List (Option Derivation × Stack))

namespace Stack

def id : Stack → Nat
  | .node id .. => id

def state : Stack → State
  | .node _ state .. => state

def cursor : Stack → Cursor
  | .node _ _ cursor .. => cursor

def cost : Stack → Nat
  | .node _ _ _ cost .. => cost

def weight : Stack → Int
  | .node _ _ _ _ weight .. => weight

/-- The number of nodes read. -/
def progress : Stack → Nat
  | .node _ _ _ _ _ progress .. => progress

/-- The length of the longest way down. -/
def depth : Stack → Nat
  | .node _ _ _ _ _ _ depth _ => depth

def ways : Stack → List (Option Derivation × Stack)
  | .node _ _ _ _ _ _ _ ways => ways

def index (s : Stack) : Nat := s.cursor.position.index

/-- The stack before the text. -/
def bottom (id : Nat) (state : State) (c : Cursor) : Stack := .node id state c 0 0 0 0 []

def push (below : Stack) (id : Nat) (d : Option Derivation) (state : State) : Stack :=
  match d with
  | none =>
    .node id state below.cursor below.cost below.weight below.progress (below.depth + 1)
      [(none, below)]
  | some x =>
    .node id state x.info.stop (below.cost + x.cost) (below.weight + x.weight)
      (below.progress + x.progress) (below.depth + 1) [(some x, below)]

/-- Continues every walk one step down: the first way in its place, the others behind. -/
def stepDown (walks : List (List Derivation × Nat × Stack)) :
    List (List Derivation × Nat × Stack) :=
  let along (walk : List Derivation × Nat × Stack) (way : Option Derivation × Stack) :=
    match way with
    | (some d, below) =>
      (d :: walk.1, if d.isExtra then walk.2.1 else walk.2.1 + 1, below)
    | (none, below) => (walk.1, walk.2.1 + 1, below)
  walks.flatMap (fun walk => (walk.2.2.ways.take 1).map (along walk)) ++
    walks.flatMap (fun walk => (walk.2.2.ways.drop 1).map (along walk))

/-- All ways down over `count` parts, extra ones not counted: the parts and what is below. -/
def pops (count : Nat) : Nat → List (List Derivation × Nat × Stack) →
    List (List Derivation × Stack)
  | 0, _ => []
  | fuel + 1, walks =>
    let arrived := walks.filter fun walk => walk.2.1 = count
    let others := walks.filter fun walk => walk.2.1 ≠ count
    arrived.map (fun walk => (walk.1, walk.2.2)) ++
      (if others.isEmpty then [] else pops count fuel ((stepDown others).take 64))

/-- `pops`, with the ways that end at the same stack put together. -/
def popGroups (s : Stack) (count : Nat) : List (List (List Derivation) × Stack) :=
  (pops count (s.depth + 1) [([], 0, s)]).foldl
    (fun groups (parts, below) =>
      if groups.any fun group => group.2.id = below.id then
        groups.map fun group =>
          if group.2.id = below.id then (group.1 ++ [parts], group.2) else group
      else groups ++ [([parts], below)])
    []

/-- All ways down to the bottom. -/
def wholeWays : Nat → List (List Derivation × Nat × Stack) → List (List Derivation)
  | 0, _ => []
  | fuel + 1, walks =>
    let arrived := walks.filter fun walk => walk.2.2.ways.isEmpty
    arrived.map Prod.fst ++
      (if walks.isEmpty then [] else wholeWays fuel ((stepDown walks).take 64))

/-- Where the ways of two derivations can be told apart only further down. -/
def similarWays (a b : Option Derivation) : Bool :=
  match a, b with
  | none, none => true
  | some x, some y => x.similar y
  | _, _ => false

/-- Adds a way down, unless there is one like it; then the two are joined further down. -/
def addWay : Nat → Stack → Option Derivation × Stack → Stack
  | 0, s, _ => s
  | fuel + 1, s, (d, below) =>
    let weightOf (d : Option Derivation) : Int := (d.map Derivation.weight).getD 0
    let withWays (ways : List (Option Derivation × Stack)) (weight : Int) (progress depth : Nat) :=
      Stack.node s.id s.state s.cursor s.cost weight progress depth ways
    if below.id = s.id then s
    else
      let joins (way : Option Derivation × Stack) : Bool :=
        similarWays way.1 d &&
          (way.2.id = below.id ||
            (way.2.state.same below.state && way.2.index = below.index &&
              way.2.cost = below.cost))
      match s.ways.findIdx? joins with
      | some i =>
        match s.ways[i]? with
        | none => s
        | some (old, oldBelow) =>
          if oldBelow.id = below.id then
            if weightOf old < weightOf d then
              withWays (s.ways.set i (d, below)) (below.weight + weightOf d) s.progress s.depth
            else s
          else
            let joined := below.ways.foldl (addWay fuel) oldBelow
            withWays (s.ways.set i (old, joined)) (max s.weight (below.weight + weightOf d))
              s.progress s.depth
      | none =>
        if s.ways.length = 8 then s
        else
          let progress := below.progress + ((d.map Derivation.progress).getD 0)
          withWays (s.ways ++ [(d, below)]) (max s.weight (below.weight + weightOf d))
            (max s.progress progress) (max s.depth (below.depth + 1))

end Stack

/-- Whether a reading goes on, waits because its next token does not fit, or is given up. -/
inductive Status where
  | active
  | waiting (lookahead : Lexeme)
  | givenUp

namespace Status

def isActive : Status → Bool
  | .active => true
  | _ => false

def isWaiting : Status → Bool
  | .waiting _ => true
  | _ => false

def isGivenUp : Status → Bool
  | .givenUp => true
  | _ => false

end Status

/-- A state on the way down at the moment of an error. -/
structure Landmark where
  position : Position
  depth : Nat
  state : State

structure Reading where
  stack : Stack
  status : Status := .active
  layout : Layout := {}
  /-- The progress made at the last error. -/
  progressAtError : Nat := 0
  landmarks : List Landmark := []

namespace Reading

def index (r : Reading) : Nat := r.stack.index

def isLost (r : Reading) : Bool := r.stack.state.isLost

/-- What the reading has cost so far, with the price of an error that has just been met. -/
def cost (r : Reading) : Nat :=
  let entered := match r.stack.ways with
    | (none, _) :: _ => true
    | (some _, _) :: _ => false
    | [] => true
  r.stack.cost + (if r.status.isWaiting || (r.isLost && entered) then costOfError else 0)

/-- The progress since the last error. -/
def progress (r : Reading) : Nat := r.stack.progress - min r.progressAtError r.stack.progress

def canJoin (a b : Reading) : Bool :=
  a.status.isActive && b.status.isActive && a.index = b.index && a.stack.cost = b.stack.cost &&
    a.layout = b.layout && a.stack.state.same b.stack.state

/-- Joins two readings that have come to the same state at the same place. -/
def join? (a b : Reading) : Option Reading :=
  if a.canJoin b then
    let stack := b.stack.ways.foldl (Stack.addWay 64) a.stack
    some { a with
      stack, progressAtError := if stack.state.isLost then stack.progress else a.progressAtError }
  else none

/-- Whether the reading has read any text since the last error. -/
def hasMoved (r : Reading) : Bool :=
  let rec moved : Nat → Stack → Bool
    | 0, _ => false
    | fuel + 1, s =>
      match s.ways with
      | (some d, below) :: _ =>
        if d.info.outer.byte < d.info.stop.position.byte then true
        else if r.progressAtError < s.progress && d.cost = 0 then moved fuel below
        else false
      | _ => false
  r.stack.cost = 0 || moved (r.stack.depth + 1) r.stack

/-- What counts when readings are compared. -/
structure Standing where
  cost : Nat
  progress : Nat
  weight : Int
  isLost : Bool

def standing (r : Reading) : Standing :=
  { cost := r.cost + (if r.status.isWaiting then costOfSkippedNode else 0)
    progress := r.progress
    weight := r.stack.weight
    isLost := r.status.isWaiting || r.isLost }

end Reading

/-- How two readings compare: one is to be dropped, one comes first, or neither. -/
inductive Verdict where
  | onlyFirst | firstBetter | equal | secondBetter | onlySecond
  deriving DecidableEq

/-- The difference in cost, per node read since the error, at which a reading is dropped. -/
def decisiveDifference : Nat := 16 * costOfSkippedNode

def Reading.Standing.compare (a b : Standing) : Verdict :=
  if !a.isLost && b.isLost then
    if a.cost < b.cost then .onlyFirst else .firstBetter
  else if a.isLost && !b.isLost then
    if b.cost < a.cost then .onlySecond else .secondBetter
  else if a.cost < b.cost then
    if decisiveDifference < (b.cost - a.cost) * (1 + a.progress) then .onlyFirst
    else .firstBetter
  else if b.cost < a.cost then
    if decisiveDifference < (a.cost - b.cost) * (1 + b.progress) then .onlySecond
    else .secondBetter
  else if b.weight < a.weight then .firstBetter
  else if a.weight < b.weight then .secondBetter
  else .equal

/-- The number of readings that are followed at a time. -/
def maxReadings : Nat := 6

/-- All readings, the most promising first, and the best derivation of the whole text so far. -/
structure Search where
  readings : List Reading
  finished : Option Derivation := none
  accepted : Nat := 0
  /-- A number that no stack bears yet. -/
  fresh : Nat := 1

namespace Search

/-- Changes the reading at a place. -/
def modify (s : Search) (v : Nat) (f : Reading → Reading) : Search :=
  { s with readings := s.readings.modify v f }

def remove (s : Search) (v : Nat) : Search := { s with readings := s.readings.eraseIdx v }

def giveUp (s : Search) (v : Nat) : Search := s.modify v fun r => { r with status := .givenUp }

/-- Moves a later reading to the place of an earlier one, which is dropped. -/
def replace (s : Search) (later v : Nat) : Search :=
  if later = v then s
  else
    match s.readings[later]?, s.readings[v]? with
    | some new, some old =>
      let new := if new.landmarks.isEmpty then { new with landmarks := old.landmarks } else new
      { s with readings := (s.readings.set v new).eraseIdx later }
    | _, _ => s

/-- Joins the reading at `j` into the one at `i`, if they have come to the same place. -/
def join? (s : Search) (i j : Nat) : Option Search :=
  match s.readings[i]?, s.readings[j]? with
  | some a, some b =>
    (a.join? b).map fun r => { s with readings := (s.readings.set i r).eraseIdx j }
  | _, _ => none

/-- Puts a derivation on the stack of a reading. -/
def push (s : Search) (v : Nat) (d : Option Derivation) (state : State) : Search :=
  let s := s.modify v fun r =>
    let stack := r.stack.push s.fresh d state
    { r with
      stack, progressAtError := if d.isNone then stack.progress else r.progressAtError }
  { s with fresh := s.fresh + 1 }

/-- Puts a token on the stack and takes over the layout behind it. -/
def shift (s : Search) (v : Nat) (x : Lexeme) (isExtra : Bool) (state : State) : Search :=
  (s.push v (some (.ofLexeme x isExtra)) state).modify v fun r =>
    { r with layout := x.layout.getD r.layout }

/-- Appends a reading, or joins it into the first one of the others with which it agrees. -/
def insert (s : Search) (except : Nat) (r : Reading) : Search :=
  let rec place : Nat → List Reading → List Reading
    | _, [] => [r]
    | i, x :: xs =>
      if i = except then x :: place (i + 1) xs
      else
        match x.join? r with
        | some joined => joined :: xs
        | none => x :: place (i + 1) xs
  { s with readings := place 0 s.readings }

/-- Closes a phrase over the parts on the stack of the reading at `v`. Every way down gives a
reading of its own, placed behind the others. -/
def reduce (s : Search) (v : Nat) (q : Production) : Search :=
  match s.readings[v]? with
  | none => s
  | some r =>
    (r.stack.popGroups q.steps.length).foldl
      (fun s (choices, below) =>
        if maxReadings + 4 < s.readings.length then s
        else
          let close (parts : List Derivation) : Derivation × List Derivation :=
            let (parts, extras) := Derivation.splitExtras parts
            (.close (.symbol q.head) (some q) 0 false parts below.cursor, extras)
          match choices.map close with
          | [] => s
          | first :: others =>
            let (closed, extras) := others.foldl
              (fun best other => if best.1.prefersSecond other.1 then other else best) first
            let closed : Derivation := match closed with
              | .node info parts => .node { info with weight := info.weight + q.weight } parts
            let state := below.state.successor q.head
            let (stack, fresh) := (closed :: extras).foldl
              (fun (stack, id) d => (Stack.push stack id (some d) state, id + 1))
              (below, s.fresh)
            { s with fresh }.insert v
              { stack, layout := r.layout, progressAtError := r.progressAtError })
      s

/-- `reduce`, with the place of the first new reading. -/
def reduceFrom (s : Search) (v : Nat) (q : Production) : Search × Option Nat :=
  let next := s.reduce v q
  (next, if s.readings.length < next.readings.length then some s.readings.length else none)

/-- Ends a reading at the end of the text: everything on its stack becomes one derivation. -/
def accept (s : Search) (v : Nat) (x : Lexeme) : Search :=
  match s.readings[v]? with
  | none => s
  | some r =>
    let stack := r.stack.push s.fresh (some (.ofLexeme x true)) State.initial
    let roots := (Stack.wholeWays (stack.depth + 1) [([], 0, stack)]).filterMap fun parts =>
      let before := parts.reverse.dropWhile Derivation.isExtra
      let after := (parts.reverse.takeWhile Derivation.isExtra).reverse
      match before with
      | [] => none
      | d :: earlier =>
        some (Derivation.close d.label d.info.production 0 false
          (earlier.reverse ++ d.parts ++ after) r.stack.cursor)
    let finished := roots.foldl
      (fun best root =>
        match best with
        | none => some root
        | some old => if old.prefersSecond root then some root else best)
      s.finished
    { s with finished, accepted := s.accepted + roots.length, fresh := s.fresh + 1 }.giveUp v

end Search

end NotebookExport.Python
