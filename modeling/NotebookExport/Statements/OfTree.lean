import NotebookExport.Names.Binding
import NotebookExport.Statements.Statement

/-!
# From trees to statements

The statements of a syntax tree are its named children in source order. A comment that begins on the
row where the statement before it ends belongs to that statement; any other comment is a statement
of its own. An assignment is a simple one if it has a value and no type; on the right of its sign
may stand another simple assignment, which adds its targets.
-/

namespace NotebookExport

open Python

namespace Target

/-- The target that a node is. -/
def ofNode (source : String) (n : Node) : Target :=
  let text := n.text source
  match n.kind with
  | .token .identifier => ⟨text, .name text⟩
  | _ =>
    let bound := boundBy source n
    ⟨text, if bound.onlyNames then .pattern bound.names else .place⟩

end Target

/-- Whether a node is an assignment without a type. -/
def isUntypedAssignment (n : Node) : Bool :=
  n.kind = .phrase .assignment && (n.child? .declaredType).isNone

namespace Assignment

mutual

/-- The targets of an assignment, those of the assignments on its right included, and the value. -/
def chain (source : String) : Node → Option (List Target × String)
  | .node info children =>
    match (Node.node info children).child? .left with
    | none => none
    | some left =>
      (rightOfChain source children).map fun (targets, value) =>
        (Target.ofNode source left :: targets, value)

/-- What the first of the children on the right contributes. -/
def rightOfChain (source : String) : List Node → Option (List Target × String)
  | [] => none
  | n :: ns =>
    if n.hasRole .right then
      if isUntypedAssignment n then chain source n else some ([], n.text source)
    else rightOfChain source ns

end

/-- The assignment that a statement consists of, if it is a simple one. -/
def ofStatement? (source : String) (n : Node) : Option Assignment :=
  match n.namedChildren with
  | [only] =>
    if isUntypedAssignment only && (only.child? .right).isSome then
      (chain source only).map fun (targets, value) => ⟨targets, value, none⟩
    else none
  | _ => none

end Assignment

namespace Definition

/-- The definition in the node `inner` with the text of the node `outer`. -/
def ofNode (source : String) (outer inner : Node) : Definition :=
  ⟨((inner.child? .name).map (Node.text source)).getD "", outer.text source⟩

end Definition

namespace Statement

/-- The definition that a node is, with the text of the node `outer` around it. -/
def ofDefinition? (source : String) (outer inner : Node) : Option Statement :=
  match inner.kind with
  | .phrase .functionDefinition => some (.functionDefinition (.ofNode source outer inner))
  | .phrase .classDefinition => some (.classDefinition (.ofNode source outer inner))
  | _ => none

/-- The statement that a node is. -/
def ofNode (source : String) (n : Node) : Statement :=
  let found : Option Statement := match n.kind with
    | .phrase .expressionStatement => (Assignment.ofStatement? source n).map .assignment
    | .phrase .decoratedDefinition => (n.child? .definition).bind (ofDefinition? source n)
    | _ => ofDefinition? source n n
  found.getD (.other (n.text source))

/-- The statements of nodes in a row. `before` is the statement before them with the row on which
it ends. -/
def ofNodes (source : String) (before : Option (Statement × Nat)) : List Node → List Statement
  | [] => (before.map Prod.fst).toList
  | n :: ns =>
    match before with
    | some (s, row) =>
      if n.kind = .token .comment && n.start.row = row then
        ofNodes source (some (s.attach (n.text source), row)) ns
      else s :: ofNodes source (some (ofNode source n, n.stop.row)) ns
    | none => ofNodes source (some (ofNode source n, n.stop.row)) ns

/-- The statements of a whole tree. -/
def ofTree (source : String) (tree : Node) : List Statement :=
  ofNodes source none tree.namedChildren

end Statement

end NotebookExport
