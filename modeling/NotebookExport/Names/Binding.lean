import NotebookExport.Python.Node

/-!
# Binding names

The names that a syntax tree binds: the targets of simple assignments and of loops, the names of
functions and classes, and the names of parameters, in nested scopes, too. An assignment with a type
or an operator is not a simple one.
-/

namespace NotebookExport

open Python

/-- The phrases that, as a target, bind what their parts bind. -/
def isTargetPattern : Phrase → Bool
  | .patternList | .tuplePattern | .listPattern | .listSplatPattern
  | .parenthesizedExpression => true
  | _ => false

/-- What a target binds. -/
structure Bound where
  /-- The names, in source order and as often as they stand there. -/
  names : List String
  /-- Whether assigning to the target does nothing else. -/
  onlyNames : Bool

namespace Bound

def nothing : Bound := ⟨[], true⟩

def append (a b : Bound) : Bound := ⟨a.names ++ b.names, a.onlyNames && b.onlyNames⟩

end Bound

mutual

/-- What a target binds. A member or an item of an object binds no name. -/
def boundBy (source : String) : Node → Bound
  | .node info children =>
    match info.kind with
    | .token .identifier => ⟨[(Node.node info children).text source], true⟩
    | .phrase p => if isTargetPattern p then boundByParts source children else ⟨[], false⟩
    | _ => ⟨[], false⟩

/-- What the parts of a pattern bind together. Comments and punctuation do not count. -/
def boundByParts (source : String) : List Node → Bound
  | [] => .nothing
  | n :: ns =>
    if n.isNamed && n.kind ≠ .token .comment then
      (boundBy source n).append (boundByParts source ns)
    else boundByParts source ns

end

/-- The names among the named children of a node. -/
def nameChildren (source : String) (n : Node) : List String :=
  (n.namedChildren.filter fun c => c.kind = .token .identifier).map (Node.text source)

def isSplatPattern (n : Node) : Bool :=
  n.kind = .phrase .listSplatPattern || n.kind = .phrase .dictionarySplatPattern

/-- The names that a parameter binds. -/
def parameterNames (source : String) (n : Node) : List String :=
  match n.kind with
  | .token .identifier => [n.text source]
  | .phrase .defaultParameter | .phrase .typedDefaultParameter =>
    ((n.child? .name).map fun name => (boundBy source name).names).getD []
  | .phrase .typedParameter | .phrase .listSplatPattern | .phrase .dictionarySplatPattern =>
    n.namedChildren.flatMap fun c =>
      if c.kind = .token .identifier then [c.text source]
      else if isSplatPattern c then nameChildren source c
      else []
  | _ => []

/-- The names that a node binds by itself. -/
def ownNames (source : String) (n : Node) : List String :=
  let targets := ((n.child? .left).map fun left => (boundBy source left).names).getD []
  let name := ((n.child? .name).map (Node.text source)).toList
  match n.kind with
  | .phrase .assignment => if (n.child? .declaredType).isNone then targets else []
  | .phrase .forStatement => targets
  | .phrase .functionDefinition =>
    name ++ (((n.child? .parameters).map fun parameters =>
      parameters.namedChildren.flatMap (parameterNames source)).getD [])
  | .phrase .classDefinition => name
  | _ => []

/-- The names that a tree binds. -/
def Python.Node.boundNames (source : String) (tree : Node) : List String :=
  tree.preorder.flatMap (ownNames source)

end NotebookExport
