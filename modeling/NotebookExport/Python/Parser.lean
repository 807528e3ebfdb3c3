import NotebookExport.Python.Recovery

/-!
# The parser

The loop over the text. In each round every reading is taken at least one token further; then the
readings are put in order, equal ones are joined, and clearly worse ones dropped. Parsing never
fails: text that does not fit the grammar appears in the derivation as errors.
-/

namespace NotebookExport.Python

open Text

namespace Search

/-- Lets the reading at `v` act on a token until it has read it or cannot. -/
def act (v : Nat) : Nat → Lexeme → Search → Search
  | 0, _, s => s.giveUp v
  | fuel + 1, x, s =>
    match s.readings[v]? with
    | none => s
    | some r =>
      let state := r.stack.state
      let decision := match x.token with
        | some token => state.decide token
        | none => .none
      let extra := x.token.any State.isExtra
      if state.isLost then
        if extra then s.shift v x true state else s.recover v x
      else
        let (s, last) := decision.reduces.foldl
          (fun (s, last) q =>
            let (s, new) := s.reduceFrom v q
            (s, new.or last))
          (s, (none : Option Nat))
        if decision.accepts then s.accept v x
        else
          match decision.shift, last with
          | some target, last =>
            if !decision.shiftJoins then s.shift v x false target
            else
              match last with
              | some new => act v fuel x (s.replace new v)
              | none => s
          | none, some new => act v fuel x (s.replace new v)
          | none, none =>
            if extra then s.shift v x true state
            else if x.isWord && x.token ≠ some .identifier && state.allows .identifier then
              act v fuel { x with token := some .identifier } s
            else
              s.modify v fun r =>
                { r with status := .waiting x, progressAtError := r.stack.progress }

/-- Reads the next token for the reading at `v`. -/
def advance (s : Search) (v fuel : Nat) : Search :=
  match s.readings[v]? with
  | none => s
  | some r =>
    let state := r.stack.state
    let x := Lexeme.next state.expected state.isLost r.hasMoved r.layout r.stack.cursor
    s.act v fuel x

/-- Takes the reading at `v` forward until it gets beyond `last`, the furthest place so far. -/
def advanceFrom (bound v : Nat) : Nat → Nat → Search → Search × Nat
  | 0, last, s => (s.giveUp v, last)
  | fuel + 1, last, s =>
    match s.readings[v]? with
    | none => (s, last)
    | some r =>
      if r.status.isActive then
        let s := s.advance v bound
        match s.readings[v]? with
        | none => (s, last)
        | some r =>
          if last < r.index || (0 < v && r.index = last) then (s, r.index)
          else advanceFrom bound v fuel last s
      else (s, last)

/-- Takes every reading forward, those that arise on the way included. -/
def advanceAll (bound : Nat) : Nat → Nat → Nat → Search → Search × Nat
  | 0, _, last, s => (s, last)
  | fuel + 1, v, last, s =>
    if v < s.readings.length then
      let (s, last) := advanceFrom bound v bound last s
      advanceAll bound fuel (v + 1) last s
    else (s, last)

/-- Compares the reading at `i`, whose standing is given, with those before it from `j` on. The
answer is where the next reading to look at stands. -/
def sortOne (standing : Reading.Standing) : Nat → Nat → Nat → Search → Search × Nat
  | 0, i, _, s => (s, i + 1)
  | fuel + 1, i, j, s =>
    if i ≤ j then (s, i + 1)
    else
      match s.readings[j]?, s.readings[i]? with
      | some earlier, some later =>
        match Reading.Standing.compare earlier.standing standing with
        | .onlyFirst => (s.remove i, i)
        | .firstBetter | .equal =>
          match s.join? j i with
          | some s => (s, i)
          | none => sortOne standing fuel i (j + 1) s
        | .secondBetter =>
          match s.join? j i with
          | some s => (s, i)
          | none =>
            let swapped := (s.readings.set i earlier).set j later
            sortOne standing fuel i (j + 1) { s with readings := swapped }
        | .onlySecond => sortOne standing fuel (i - 1) j (s.remove j)
      | _, _ => (s, i + 1)

/-- Puts the readings in order; the answer is the least cost of one that is not lost. -/
def sort : Nat → Nat → Option Nat → Search → Search × Option Nat
  | 0, _, least, s => (s, least)
  | fuel + 1, i, least, s =>
    match s.readings[i]? with
    | none => (s, least)
    | some r =>
      if r.status.isGivenUp then sort fuel i least (s.remove i)
      else
        let standing := r.standing
        let least :=
          if standing.isLost then least
          else some (match least with
            | some c => min c standing.cost
            | none => standing.cost)
        let (s, next) := sortOne standing (2 * i + 2) i 0 s
        sort fuel next least s

/-- If no reading goes on, the best of the waiting ones begins recovery; the others are dropped. -/
def wake : Nat → Nat → Nat → Bool → Option Nat → Search → Search × Option Nat
  | 0, _, _, _, least, s => (s, least)
  | fuel + 1, i, bound, awake, least, s =>
    if bound ≤ i then (s, least)
    else
      match s.readings[i]? with
      | none => (s, least)
      | some r =>
        match r.status with
        | .waiting x =>
          if !awake && s.accepted < maxReadings then
            let s := (s.modify i fun r => { r with status := .active }).handleError i x
            wake fuel (i + 1) bound true (some r.cost) s
          else wake fuel i (bound - 1) awake least (s.remove i)
        | _ => wake fuel (i + 1) bound true least s

/-- Orders and thins out the readings after a round. -/
def condense (s : Search) : Search × Option Nat :=
  let n := s.readings.length
  let (s, least) := sort (n * n + n + 1) 0 none s
  let s := { s with readings := s.readings.take maxReadings }
  wake (maxReadings + 1) 0 s.readings.length false least s

/-- Rounds until no reading is left, or none can become better than what has been found. -/
def run (bound : Nat) : Nat → Nat → Search → Search
  | 0, _, s => s
  | fuel + 1, last, s =>
    let (s, last) := advanceAll bound 64 0 last s
    let (s, least) := s.condense
    let done := match s.finished, least with
      | some d, some c => d.cost < c
      | some _, none => true
      | none, _ => false
    if done || s.readings.isEmpty then s else run bound fuel last s

/-- The search before the text. -/
def ofText (text : List Char) : Search :=
  { readings := [{ stack := Stack.bottom 0 State.initial (.ofText text) }] }

end Search

/-- The best derivation of a text. -/
def derive (text : List Char) : Derivation :=
  let bound := 64 * (text.length + 16)
  let search := Search.run bound bound 0 (.ofText text)
  search.finished.getD (.close .error none 0 false [] (.ofText text))

end NotebookExport.Python
