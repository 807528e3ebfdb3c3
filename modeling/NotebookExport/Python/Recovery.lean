import NotebookExport.Python.Reading

/-!
# Recovery

What the parser does when no reading can go on with the next token. It closes every phrase that
could end at this point, tries whether one missing token would help, and is then lost: with each
further token it either goes back to an earlier state of the stack in which that token is possible,
giving up what was read since, or passes over the token. All of these are followed side by side,
and the cheapest wins.
-/

namespace NotebookExport.Python

open Text

namespace State

/-- The tokens that leave the parser where it is: they may stand anywhere. -/
def isExtra (token : Token) : Bool := token = .comment || token = .lineContinuation

/-- The state after a token, or the same one if the token may stand anywhere. -/
def afterToken (s : State) (token : Token) : State :=
  match (s.decide token).shift with
  | some target => target
  | none => if isExtra token then s else .lost

/-- Whether a phrase can be closed in front of the token. -/
def closesBefore (s : State) (token : Token) : Bool := !(s.decide token).reduces.isEmpty

/-- Whether anything can be done on the token. -/
def allows (s : State) (token : Token) : Bool := isExtra token || !(s.decide token).isNone

end State

/-- How far back the parser looks for a state to go on from. -/
def maxLandmarkDepth : Nat := 16

namespace Search

/-- The productions that can be closed on any of the tokens, one for each head and length. -/
def closable (state : State) (tokens : List Token) : List Production :=
  (tokens.flatMap fun token => (state.decide token).reduces).foldl
    (fun found q =>
      if q.steps.isEmpty || found.any (fun other =>
        other.head = q.head && other.steps.length = q.steps.length) then found
      else found ++ [q])
    []

/-- Whether one of the tokens can be read. -/
def canRead (state : State) (tokens : List Token) : Bool :=
  tokens.any fun token =>
    let decision := state.decide token
    decision.shift.isSome && !decision.shiftJoins

/-- Closes what can be closed in front of the given token, or of any token if none is given.
Readings from `start` on that cannot read the given token afterwards are dropped. The answer is
whether one of them can. -/
def closeAll (lookahead : Option Token) (first start : Nat) :
    Nat → Nat → Nat → Bool → Search → Search × Bool
  | 0, _, _, able, s => (s, able)
  | fuel + 1, round, v, able, s =>
    let count := s.readings.length
    match s.readings[v]? with
    | none => (s, able)
    | some r =>
      match (List.range (v - first)).findSome? fun k => s.join? (first + k) v with
      | some joined => closeAll lookahead first start fuel (round + 1) v able joined
      | none =>
        let state := r.stack.state
        let tokens := match lookahead with
          | some token => [token]
          | none => Token.all.filter fun token =>
              token ≠ .endOfInput && state.expected.contains token
        let (s, last) := (closable state tokens).foldl
          (fun (s, last) q =>
            let (s, new) := s.reduceFrom v q
            (s, new.or last))
          (s, none)
        let reads := canRead state tokens
        let next := if v = start then count else v + 1
        if reads then closeAll lookahead first start fuel (round + 1) next true s
        else
          match (last.filter fun _ => round < maxReadings : Option Nat) with
          | some new => closeAll lookahead first start fuel (round + 1) v able (s.replace new v)
          | none =>
            if lookahead.isSome then
              closeAll lookahead first start fuel (round + 1) next able (s.remove v)
            else closeAll lookahead first start fuel (round + 1) next able s

/-- `closeAll` for the reading at `v`. -/
def closeReadings (s : Search) (lookahead : Option Token) (v : Nat) : Search × Bool :=
  closeAll lookahead s.readings.length v 200 0 v false s

/-- The states on the ways down, with their places and depths. -/
def landmarksOf : Nat → List (List Derivation × Nat × Stack) → List Landmark → List Landmark
  | 0, _, found => found
  | fuel + 1, walks, found =>
    let walks := walks.filter fun walk => walk.2.1 ≤ maxLandmarkDepth
    if walks.isEmpty then found
    else
      let found := walks.foldl
        (fun found walk =>
          if found.any fun l => l.depth = walk.2.1 && l.state.same walk.2.2.state then found
          else found ++ [⟨walk.2.2.cursor.position, walk.2.1, walk.2.2.state⟩])
        found
      landmarksOf fuel ((Stack.stepDown walks).take 64) found

/-- Whether a reading other than the one at `v` is clearly better than one of the given cost. -/
def betterExists (s : Search) (v : Nat) (cost : Nat) : Bool :=
  match s.readings[v]? with
  | none => false
  | some r =>
    (s.finished.any fun d => d.cost ≤ cost) ||
      s.readings.zipIdx.any fun (other, i) =>
        i ≠ v && other.status.isActive && r.index ≤ other.index &&
          match Reading.Standing.compare ⟨cost, r.progress, r.stack.weight, false⟩
              other.standing with
          | .onlySecond => true
          | .secondBetter => other.canJoin r
          | _ => false

/-- Takes the topmost error off a stack, if there is one on it. -/
def popError (stack : Stack) : List Derivation × Stack :=
  let onError := stack.ways.findSome? fun (d, below) =>
    match d with
    | some d => if d.label = .error then some (d.parts, below) else none
    | none => none
  onError.getD ([], stack)

/-- Goes back by `depth` derivations to a state; what lay between becomes an error. The readings
made are appended; the answer is whether there are any. -/
def goBack (s : Search) (v depth : Nat) (goal : State) : Search × Bool :=
  match s.readings[v]? with
  | none => (s, false)
  | some r =>
    (r.stack.popGroups depth).foldl
      (fun (s, done) (choices, below) =>
        match choices with
        | [] => (s, done)
        | parts :: _ =>
          if below.state.same goal then
            let (before, below) := popError below
            let (parts, extras) := Derivation.splitExtras (before ++ parts)
            let error := if parts.isEmpty then []
              else [Derivation.close .error none 0 true parts below.cursor]
            let (stack, fresh) := (error ++ extras).foldl
              (fun (stack, id) d => (Stack.push stack id (some d) goal, id + 1))
              (below, s.fresh)
            let reading : Reading :=
              { stack, layout := r.layout, progressAtError := r.progressAtError }
            ({ s with readings := s.readings ++ [reading], fresh }, true)
          else (s, done))
      (s, false)

/-- The first state on the way down in which the token is possible, unless going back that far is
worse than another reading. -/
def goBackTo (s : Search) (v : Nat) (r : Reading) (token : Token) : List Landmark → Search × Bool
  | [] => (s, false)
  | l :: ls =>
    let here := r.stack.cursor.position
    if l.state.isLost || l.position = here then goBackTo s v r token ls
    else if s.readings.any fun other =>
        other.stack.state.same l.state && other.index = here.index then
      goBackTo s v r token ls
    else if s.betterExists v
        (r.cost + costOfSkippedNode + Derivation.costOfStretch l.position here) then (s, false)
    else if l.state.allows token then
      match s.goBack v (if 0 < r.progress then l.depth + 1 else l.depth) l.state with
      | (s, true) => (s, true)
      | (_, false) => goBackTo s v r token ls
    else goBackTo s v r token ls

/-- Passes over a token: it joins the pieces passed over before it. -/
def passOver (s : Search) (v : Nat) (r : Reading) (x : Lexeme) : Search :=
  let isExtra := x.token.any State.isExtra
  let piece := Derivation.close .passedOver none 0 false [.ofLexeme x isExtra] r.stack.cursor
  let (s, piece) :=
    if 0 < r.progress then
      match r.stack.popGroups 1 with
      | (parts :: _, below) :: _ =>
        (s.modify v fun r => { r with stack := below },
          Derivation.close .passedOver none 0 false (parts ++ [piece]) r.stack.cursor)
      | _ => (s, piece)
    else (s, piece)
  (s.push v (some piece) .lost).modify v fun r => { r with layout := x.layout.getD r.layout }

/-- What a lost reading does with the next token. -/
def recover (s : Search) (v : Nat) (x : Lexeme) : Search :=
  match s.readings[v]? with
  | none => s
  | some r =>
    let (s, wentBack) := match x.token with
      | some token => s.goBackTo v r token r.landmarks
      | none => (s, false)
    if wentBack && (maxReadings < s.readings.length || x.changesLayout) then s.giveUp v
    else if x.token = some .endOfInput then
      let empty := Derivation.close .error none 0 false [] r.stack.cursor
      (s.push v (some empty) State.initial).accept v x
    else if s.betterExists v (r.cost + costOfSkippedNode +
        Derivation.costOfStretch x.outer x.stop.position) then s.giveUp v
    else s.passOver v r x

/-- The first token whose absence would let the reading at `v` go on with the lookahead. -/
def insertMissing (s : Search) (v : Nat) (lookahead : Token) : List Token → Search × Bool
  | [] => (s, false)
  | token :: tokens =>
    match s.readings[v]? with
    | none => (s, false)
    | some r =>
      let state := r.stack.state
      let target := if state.expected.contains token then state.afterToken token else .lost
      if target.isLost || target.same state || !target.closesBefore lookahead then
        insertMissing s v lookahead tokens
      else
        let stack := r.stack.push s.fresh (some (.missing token r.stack.cursor)) target
        let copy : Reading := { r with stack, status := .active, landmarks := [] }
        let w := s.readings.length
        let s := { s with readings := s.readings ++ [copy], fresh := s.fresh + 1 }
        match s.closeReadings (some lookahead) w with
        | (s, true) => (s, true)
        | (s, false) => insertMissing s v lookahead tokens

/-- Tries a missing token for the readings from `v` on, then makes each of them lost. -/
def loseAll (lookahead : Option Token) (start first bound : Nat) :
    Nat → Nat → Bool → Search → Search
  | 0, _, _, s => s
  | fuel + 1, v, inserted, s =>
    if bound ≤ v then s
    else
      let (s, inserted) := match lookahead with
        | some token => if inserted then (s, true) else s.insertMissing v token Token.all.tail
        | none => (s, inserted)
      let s := s.push v none .lost
      loseAll lookahead start first bound fuel (if v = start then first else v + 1) inserted s

/-- Begins recovery for the reading at `v`, which cannot go on with the lookahead. -/
def handleError (s : Search) (v : Nat) (x : Lexeme) : Search :=
  let first := s.readings.length
  let (s, _) := s.closeReadings none v
  let bound := s.readings.length
  let s := loseAll x.token v first bound (bound + 1) v false s
  let s := (List.range (bound - first)).foldl (fun s _ => (s.join? v first).getD s) s
  match s.readings[v]? with
  | none => s
  | some r =>
    let landmarks := landmarksOf (r.stack.depth + 1) [([], 0, r.stack)] []
    (s.modify v fun r => { r with landmarks }).recover v x

end Search

end NotebookExport.Python
