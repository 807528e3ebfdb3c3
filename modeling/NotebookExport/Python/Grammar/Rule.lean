import NotebookExport.Python.Phrase

/-!
# Grammar rules

A rule says what a phrase is made of. It carries, beside the order of its parts, their roles, the
names under which they are shown in the tree, and how tightly the phrase binds where two readings
compete. `Rule.expand` writes a rule out as a list of productions, one for each choice of its
alternatives and options.
-/

namespace NotebookExport.Python

/-- The side to which a chain of equally binding phrases is grouped. -/
inductive Associativity where
  | none | left | right
  deriving DecidableEq

/-- What a phrase is made of. -/
inductive Rule where
  | blank
  | symbol (symbol : Symbol)
  | seq (first second : Rule)
  | alt (first second : Rule)
  /-- The part plays a role. -/
  | field (role : Field) (part : Rule)
  /-- The part is shown in the tree as another kind. -/
  | shownAs (kind : Kind) (part : Rule)
  /-- How tightly the part binds, and to which side. -/
  | binding (level : Int) (side : Associativity) (part : Rule)
  /-- Of two readings that both succeed the one with the larger sum of preferences is taken. -/
  | preferred (weight : Int) (part : Rule)

namespace Rule

def t (token : Token) : Rule := .symbol (.token token)

def p (phrase : Phrase) : Rule := .symbol (.phrase phrase)

/-- One or more of a group. -/
def g (group : Group) : Rule := .symbol (.group group)

/-- The parts one after the other. -/
def seqs : List Rule → Rule
  | [] => .blank
  | [r] => r
  | r :: rs => .seq r (seqs rs)

/-- One of the alternatives. -/
def oneOf : List Rule → Rule
  | [] => .blank
  | [r] => r
  | r :: rs => .alt r (oneOf rs)

def optional (r : Rule) : Rule := .alt r .blank

/-- A first part and any number of further ones. -/
def listed (first : Rule) (further : Group) : Rule := .seq first (optional (g further))

end Rule

/-- One symbol of a production, with all that the rule says about it at that place. -/
structure Step where
  symbol : Symbol
  level : Option Int
  side : Associativity
  shownAs : Option Kind
  field : Option Field
  deriving DecidableEq

/-- A rule with all choices made. -/
structure Expansion where
  steps : List Step
  weight : Int
  deriving DecidableEq

/-- What the enclosing rules say about a part. -/
structure RuleContext where
  level : Option Int := .none
  side : Associativity := .none
  shownAs : Option Kind := .none
  field : Option Field := .none

namespace Expansion

/-- The weight that counts is the one further from zero, the first of two equally far ones. -/
def strongerWeight (w v : Int) : Int := if v.natAbs > w.natAbs then v else w

def append (a b : Expansion) : Expansion :=
  ⟨a.steps ++ b.steps, strongerWeight a.weight b.weight⟩

/-- The last step of a part that is followed by others binds as the surrounding rule says. -/
def closeWith (context : RuleContext) (setSide : Bool) (e : Expansion) : Expansion :=
  match e.steps.getLast? with
  | .none => e
  | some last =>
    let side := if setSide then context.side else last.side
    { e with steps := e.steps.dropLast ++ [{ last with level := context.level, side := side }] }

end Expansion

/-- All expansions of a rule. `final` says that nothing of the phrase follows the rule. -/
def Rule.expand (context : RuleContext) (final : Bool) : Rule → List Expansion
  | .blank => [⟨[], 0⟩]
  | .symbol s => [⟨[⟨s, context.level, context.side, context.shownAs, context.field⟩], 0⟩]
  | .seq a b =>
    (a.expand context false).flatMap fun x => (b.expand context final).map x.append
  | .alt a b => a.expand context final ++ b.expand context final
  | .field role r => r.expand { context with field := some role } final
  | .shownAs kind r => r.expand { context with shownAs := some kind } final
  | .binding level side r =>
    let inner := { context with
      level := some level, side := if side = .none then context.side else side }
    let expansions := r.expand inner final
    if final then expansions else expansions.map (·.closeWith context (side != .none))
  | .preferred weight r =>
    (r.expand context final).map fun e =>
      { e with weight := Expansion.strongerWeight weight e.weight }

end NotebookExport.Python
