import NotebookExport.Python.Grammar

/-!
# The automaton of the grammar

A state of the parser is a set of items: productions of which a beginning has been read, each with
the tokens that may follow it. Everything the parser asks is computed from the items: the state
after a symbol (`State.successor`), the tokens that can come next (`State.expected`), and what to
do on a token (`State.decide`). Where reading on and closing a phrase compete, the one that binds
tighter wins, then the side to which the phrase is grouped decides; what is still undecided is
tried both ways.
-/

namespace NotebookExport.Python

/-- One way of writing out a rule. -/
structure Production where
  id : Nat
  head : Symbol
  steps : List Step
  weight : Int

/-- A repeated group is one member, or two runs of it next to each other. -/
def Symbol.expansions : Symbol → List Expansion
  | .token _ => []
  | .phrase p => if p.isOnlyLabel then [] else (p.rule.expand {} true).eraseDups
  | .group g =>
    let run : Step := ⟨.group g, none, .none, none, none⟩
    ⟨[run, run], 0⟩ :: (g.rule.expand {} true).eraseDups
  | .start => [⟨[⟨.phrase .program, none, .none, none, none⟩], 0⟩]

/-- All productions, numbered in the order of their heads. -/
def productions : List Production :=
  let all := Symbol.heads.flatMap fun head => head.expansions.map fun e => (head, e)
  all.zipIdx.map fun ((head, e), id) => ⟨id, head, e.steps, e.weight⟩

/-- The productions without any step. -/
def emptyProductions : List Production := productions.filter fun q => q.steps.isEmpty

/-- The productions by their first symbol. -/
def productionsFrom : Array (List Production) :=
  productions.reverse.foldl
    (fun table q =>
      match q.steps with
      | [] => table
      | step :: _ => table.modify step.symbol.index (q :: ·))
    (Array.replicate Symbol.bound [])

/-- Repeats a step until it changes nothing. -/
def settle {α : Type} [DecidableEq α] (step : α → α) : Nat → α → α
  | 0, x => x
  | n + 1, x => let y := step x; if y = x then x else settle step n y

/-- The symbols by which a phrase or group can begin, straight from its productions: the first
symbol of each with the symbol after it. -/
def beginnings : List (Symbol × Symbol × Option Symbol) :=
  (productions.filterMap fun q =>
    match q.steps with
    | [] => none
    | [only] => some (q.head, only.symbol, none)
    | first :: second :: _ => some (q.head, first.symbol, some second.symbol)).eraseDups

/-- The tokens with which each symbol can begin. -/
def firstTokens : Array TokenSet :=
  let start : Array TokenSet := Token.all.foldl
    (fun table token => table.set! (Symbol.token token).index (.singleton token))
    (Array.replicate Symbol.bound .empty)
  let round (table : Array TokenSet) : Array TokenSet :=
    beginnings.foldl
      (fun table (head, first, _) =>
        table.modify head.index (·.union (table.getD first.index .empty)))
      table
  settle round Symbol.bound start

def Symbol.first (s : Symbol) : TokenSet := firstTokens.getD s.index .empty

/-- Stands in a set of tokens for "and whatever follows the phrase as a whole". -/
def TokenSet.inherited : TokenSet := ⟨1 <<< 127⟩

/-- What can follow each symbol when it stands at the beginning of `head`. -/
def followersWithin (edges : List (Symbol × Symbol × Option Symbol)) (head : Symbol) :
    Array TokenSet :=
  let start : Array TokenSet :=
    (Array.replicate Symbol.bound TokenSet.empty).set! head.index .inherited
  let round (table : Array TokenSet) : Array TokenSet :=
    edges.foldl
      (fun table (outer, first, second) =>
        let within := table.getD outer.index .empty
        if within.isEmpty then table
        else table.modify first.index (·.union ((second.map Symbol.first).getD within)))
      table
  settle round Symbol.bound start

/-- `followersWithin` for every symbol that has rules. -/
def followers : Array (Array TokenSet) :=
  let edges := beginnings.filter fun (_, first, _) =>
    match first with
    | .token _ => false
    | _ => true
  Symbol.heads.foldl (fun table head => table.set! head.index (followersWithin edges head))
    (Array.replicate Symbol.bound #[])

/-- Whether two productions are alike from step `dot` on: they go on in the same way, and of the
steps before, only the symbols differ. -/
def Production.continuesLike (q r : Production) (dot : Nat) : Bool :=
  let shown (step : Step) : Option Kind × Option Field := (step.shownAs, step.field)
  let binding (steps : List Step) : Option (Option Int × Associativity) :=
    (steps.take dot).getLast?.map fun step => (step.level, step.side)
  q.head = r.head && q.weight = r.weight && q.steps.length = r.steps.length &&
    q.steps.drop dot = r.steps.drop dot &&
    (q.steps.take dot).map shown = (r.steps.take dot).map shown &&
    binding q.steps = binding r.steps

/-- For each production and each number of steps read, the first production that continues like it.
-/
def firstAlike : Array (Array Nat) :=
  (Symbol.heads.flatMap fun head =>
    let family := productions.filter (·.head = head)
    family.map fun q =>
      ((List.range (q.steps.length + 1)).map fun dot =>
        ((family.find? (q.continuesLike · dot)).map Production.id).getD q.id).toArray).toArray

/-- A production of which the steps before the dot have been read. -/
structure Item where
  production : Production
  dot : Nat
  rest : List Step
  last : Option Step
  /-- The first production that from the dot on continues like this one. -/
  alike : Nat

namespace Item

def next? (item : Item) : Option Symbol := item.rest.head?.map Step.symbol

/-- The item after its next symbol. -/
def advance (item : Item) : Item :=
  let dot := item.dot + 1
  let id := item.production.id
  ⟨item.production, dot, item.rest.tail, item.rest.head?, (firstAlike.getD id #[]).getD dot id⟩

/-- How tightly what has been read binds. -/
def level (item : Item) : Int := (item.last.bind Step.level).getD 0

def side (item : Item) : Associativity := (item.last.map Step.side).getD .none

/-- Whether two items cannot be told apart by what can still be read. -/
def same (a b : Item) : Bool := a.alike == b.alike && a.dot == b.dot

end Item

def Production.start (q : Production) : Item := ⟨q, 0, q.steps, none, q.id⟩

/-- A state: items with the tokens that may follow them. The state without items is the one in
which the parser looks for a place to go on after an error. -/
structure State where
  items : List (Item × TokenSet)

namespace State

/-- The state before the text. -/
def initial : State :=
  let whole : Production :=
    ⟨productions.length, .start, [⟨.phrase .program, none, .none, none, none⟩], 0⟩
  ⟨[(whole.start, .singleton .endOfInput)]⟩

def lost : State := ⟨[]⟩

def isLost (s : State) : Bool := s.items.isEmpty

def same (s t : State) : Bool :=
  s.items.length == t.items.length &&
    (s.items.zip t.items).all fun ((a, la), (b, lb)) => a.same b && la.bits == lb.bits

/-- The tokens that may follow a phrase or group that begins at this point; empty if none can
begin here. -/
def followersOf (s : State) (head : Symbol) : TokenSet :=
  s.items.foldl
    (fun found (item, after) =>
      match item.rest with
      | [] => found
      | step :: rest =>
        let row := (followers.getD step.symbol.index #[]).getD head.index .empty
        if row.isEmpty then found
        else if row.bits.testBit 127 then
          let follow := match rest with
            | [] => after
            | next :: _ => next.symbol.first
          found.union (TokenSet.union ⟨row.bits ^^^ TokenSet.inherited.bits⟩ follow)
        else found.union row)
    .empty

/-- Adds an item, or only the tokens that may follow it if there is one like it. -/
def insertItem : List (Item × TokenSet) → Item × TokenSet → List (Item × TokenSet)
  | [], new => [new]
  | (item, after) :: items, new =>
    if item.same new.1 then (item, after.union new.2) :: items
    else (item, after) :: insertItem items new

/-- The state after a symbol; without items if the symbol cannot stand here. -/
def successor (s : State) (x : Symbol) : State :=
  let read := s.items.filterMap fun (item, after) =>
    if item.next? = some x then some (item.advance, after) else none
  let begun := (productionsFrom.getD x.index []).foldl
    (fun (found, known) q =>
      let after := match known with
        | some (head, after) => if head = q.head then after else s.followersOf q.head
        | none => s.followersOf q.head
      (if after.isEmpty then found else (q.start.advance, after) :: found, some (q.head, after)))
    (([] : List (Item × TokenSet)), (none : Option (Symbol × TokenSet)))
  ⟨(read ++ begun.1.reverse).foldl insertItem []⟩

/-- The phrases that end here, each with the tokens that may follow. -/
def complete (s : State) : List (Item × TokenSet) :=
  s.items.filter (fun (item, _) => item.rest.isEmpty) ++
    emptyProductions.filterMap fun q =>
      let after := s.followersOf q.head
      if after.isEmpty then none else some (q.start, after)

/-- The tokens that can come next. -/
def expected (s : State) : TokenSet :=
  let read := s.items.foldl
    (fun found (item, _) =>
      match item.next? with
      | some x => found.union x.first
      | none => found)
    .empty
  s.complete.foldl (fun found (_, after) => found.union after) read

end State

/-- What can be done on a token: close phrases, read the token, or accept the text. -/
structure Decision where
  reduces : List Production
  shift : Option State
  accepts : Bool
  /-- Reading on would only join two runs of a group in another order. -/
  shiftJoins : Bool := false

namespace Decision

def none : Decision := { reduces := [], shift := .none, accepts := false }

def isNone (d : Decision) : Bool := d.reduces.isEmpty && d.shift.isNone && !d.accepts

end Decision

namespace State

/-- Whether all items belong to one repeated group, whose runs may be joined in any order. -/
def isRunOfGroup (items : List Item) : Bool :=
  match items with
  | [] => false
  | item :: rest =>
    match item.production.head with
    | .group g => rest.all fun other => other.production.head = .group g
    | _ => false

/-- What to do on a token. -/
def decide (s : State) (token : Token) : Decision :=
  let ended := (s.complete.filter fun (_, after) => after.contains token).map Prod.fst
  let accepts := ended.any fun item => item.production.head = .start
  let closing := ended.filter fun item => item.production.head ≠ .start
  let level := closing.foldl (fun m item => max m item.level)
    ((closing.head?.map Item.level).getD 0)
  let tightest := closing.filter fun item => item.level = level
  let reduces := tightest.map Item.production
  let readers := s.items.filterMap fun (item, _) =>
    if (item.next?.map fun x => x.first.contains token).getD false then some item else none
  if readers.isEmpty then { reduces, shift := none, accepts }
  else
    let shift := some (s.successor (.token token))
    if reduces.isEmpty then { reduces, shift, accepts }
    else
      let begun := readers.filter fun item => item.dot != 0
      let tighter := begun.any fun item => level < item.level
      let looser := begun.any fun item => item.level < level
      if isRunOfGroup (begun ++ closing) then { reduces, shift, accepts, shiftJoins := true }
      else if tighter && !looser then { reduces := [], shift, accepts }
      else if looser && !tighter then { reduces, shift := none, accepts }
      else if !tighter && !looser && tightest.all (·.side = .left) then
        { reduces, shift := none, accepts }
      else if !tighter && !looser && tightest.all (·.side = .right) then
        { reduces := [], shift, accepts }
      else { reduces, shift, accepts }

end State

end NotebookExport.Python
