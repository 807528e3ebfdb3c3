import NotebookExport.Python.Derivation

/-!
# Syntax trees

A node of a syntax tree has a kind, a role in its parent, a place in the source, and children in
source order. The tree of a derivation leaves out what is hidden: the children of a hidden part
stand where the part would, and take over its role if they have none.
-/

namespace NotebookExport.Python

open Text

/-- What is known of a node besides its children. -/
structure NodeInfo where
  kind : Kind
  /-- The role in the parent. -/
  field : Option Field
  /-- A node that may stand between any two others: a comment, a continued line, or an error. -/
  isExtra : Bool
  /-- A token that the source lacks. -/
  isMissing : Bool
  start : Position
  stop : Position
  deriving DecidableEq

inductive Node where
  | node (info : NodeInfo) (children : List Node)

namespace Node

def info : Node → NodeInfo
  | .node info _ => info

def children : Node → List Node
  | .node _ children => children

def kind (n : Node) : Kind := n.info.kind

def start (n : Node) : Position := n.info.start

def stop (n : Node) : Position := n.info.stop

def isMissing (n : Node) : Bool := n.info.isMissing

def isError (n : Node) : Bool := n.kind = .error

def isNamed (n : Node) : Bool := n.kind.isNamed

/-- The children that stand under a name. -/
def namedChildren (n : Node) : List Node := n.children.filter isNamed

/-- The role of a node in its parent. What may stand anywhere plays none. -/
def role? (n : Node) : Option Field := if n.info.isExtra then none else n.info.field

/-- Whether a node plays a role in its parent. -/
def hasRole (n : Node) (role : Field) : Bool := n.role? = some role

/-- The first child in a role. -/
def child? (n : Node) (role : Field) : Option Node := n.children.find? (·.hasRole role)

/-- The text of a node in its source. -/
def text (source : String) (n : Node) : String :=
  String.ofList ((source.toList.drop n.start.index).take (n.stop.index - n.start.index))

mutual

/-- The nodes of a tree from the root down, each before its children. -/
def preorder : Node → List Node
  | .node info children => .node info children :: preorderAll children

def preorderAll : List Node → List Node
  | [] => []
  | n :: ns => n.preorder ++ preorderAll ns

end

theorem preorder_eq (n : Node) : n.preorder = n :: preorderAll n.children := by
  cases n
  rw [preorder, children]

theorem preorderAll_eq_flatMap (ns : List Node) : preorderAll ns = ns.flatMap preorder := by
  induction ns with
  | nil => rfl
  | cons n ns ih => rw [preorderAll, ih, List.flatMap_cons]

theorem preorderAll_singleton (n : Node) : preorderAll [n] = n.preorder := by
  simp [preorderAll_eq_flatMap]

theorem preorderAll_append (ns ms : List Node) :
    preorderAll (ns ++ ms) = preorderAll ns ++ preorderAll ms := by
  simp [preorderAll_eq_flatMap]

end Node

mutual

/-- The nodes that a derivation contributes to the tree of its parent. -/
def Derivation.nodes (shownAs : Option Kind) (field : Option Field) : Derivation → List Node
  | .node info parts =>
    let own : Option Kind := match info.label with
      | .symbol (.token t) => if t.isHidden then none else some (.token t)
      | .symbol (.phrase p) => if p.isHidden then none else some (.phrase p)
      | .error => some .error
      | _ => none
    let steps := (info.production.map Production.steps).getD []
    match shownAs.or own with
    | some kind =>
      [.node ⟨kind, field, info.isExtra, info.isMissing, info.start, info.stop.position⟩
        (partNodes steps none parts)]
    | none => partNodes steps field parts

/-- The nodes of the parts of a derivation; extra parts have no role and take up no step. -/
def partNodes (steps : List Step) (inherited : Option Field) : List Derivation → List Node
  | [] => []
  | d :: ds =>
    if d.isExtra then d.nodes none none ++ partNodes steps inherited ds
    else
      let step := steps.head?
      d.nodes (step.bind Step.shownAs) ((step.bind Step.field).or inherited) ++
        partNodes steps.tail inherited ds

end

/-- The tree of a whole text. -/
def Derivation.tree (d : Derivation) : Node :=
  (d.nodes none none).headD (.node ⟨.error, none, false, false, d.info.start, d.info.start⟩ [])

end NotebookExport.Python
