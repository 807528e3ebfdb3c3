import Mathlib.Data.Finset.Lattice.Lemmas
import NotebookExport.Proofs.Targets

/-!
# Outlines of cells

The outline of a cell is its statements, each with the names that its parts contribute: every target
of an assignment by itself, the rest of the assignment, or a whole statement that is no assignment.
What a node contributes is left open (`Look`); the names it reads and the names it binds are two
ways to look at it. If what an assignment contributes comes from its parts (`Look.IsByParts`), then
an outline has the names of its tree, with nothing lost and nothing added.
-/

namespace NotebookExport

open Python

/-- All elements of some sets. -/
def unionOf (sets : List (Finset String)) : Finset String := sets.foldr (· ∪ ·) ∅

@[simp] lemma mem_unionOf {sets : List (Finset String)} {name : String} :
    name ∈ unionOf sets ↔ ∃ s ∈ sets, name ∈ s := by
  induction sets with
  | nil => simp [unionOf]
  | cons s sets ih =>
    have : unionOf (s :: sets) = s ∪ unionOf sets := rfl
    simp [this, ih]

/-- What a node contributes under each aspect. -/
abbrev Look := Aspect → Node → Finset String

/-! ### Parts of assignments -/

/-- Whether a child is the first one on the left, after children with the given roles. -/
def isFirstLeft (seen : List Field) (n : Node) : Bool := n.hasRole .left && .left ∉ seen

lemma isFirstLeft_iff {seen : List Field} {n : Node} :
    isFirstLeft seen n ↔ n.role? = some .left ∧ .left ∉ seen := by
  simp [isFirstLeft, Node.hasRole_iff]

/-- Whether a child goes on a chain of assignments, after children with the given roles. -/
def continuesChain (seen : List Field) (n : Node) : Bool :=
  n.hasRole .right && .right ∉ seen && isUntypedAssignment n

lemma continuesChain_iff {seen : List Field} {n : Node} :
    continuesChain seen n ↔ n.role? = some .right ∧ .right ∉ seen ∧ isUntypedAssignment n := by
  simp [continuesChain, Node.hasRole_iff, and_assoc]

mutual

/-- What a chain of assignments contributes besides its targets. -/
def restOfChain (look : Look) : Node → Finset String
  | .node _ children => restOfChildren look [] children

def restOfChildren (look : Look) (seen : List Field) : List Node → Finset String
  | [] => ∅
  | n :: ns =>
    (if isFirstLeft seen n then ∅
      else if continuesChain seen n then restOfChain look n
      else look .value n) ∪
    restOfChildren look (n.role?.toList ++ seen) ns

end

/-- What the children of an assignment contribute: the first one on the left as a target, the others
as values. -/
def namesOfSides (look : Look) (seen : List Field) : List Node → Finset String
  | [] => ∅
  | n :: ns =>
    look (if isFirstLeft seen n then .target else .value) n ∪
      namesOfSides look (n.role?.toList ++ seen) ns

namespace Look

/-- Assignments, statements and whole texts contribute what their parts do. -/
structure IsByParts (look : Look) : Prop where
  assignment {n : Node} : isUntypedAssignment n → look .value n = namesOfSides look [] n.children
  statement {n : Node} : n.kind = .phrase .expressionStatement →
    look .value n = unionOf (n.children.map (look .value))

end Look

mutual

/-- A chain contributes what its targets and the rest do. -/
lemma mem_look_chain {look : Look} (hlook : look.IsByParts) (name : String) {n : Node}
    (hn : isUntypedAssignment n) :
    name ∈ look .value n ↔
      (∃ left ∈ chainTargets n, name ∈ look .target left) ∨ name ∈ restOfChain look n := by
  match n with
  | .node info children =>
    rw [hlook.assignment hn]
    have := mem_namesOfSides hlook name [] children
    simp only [Node.children, restOfChain, chainTargets, Node.child?, List.mem_append,
      Option.mem_toList, List.not_mem_nil, not_false_eq_true, true_and] at this ⊢
    rw [this]
    grind

lemma mem_namesOfSides {look : Look} (hlook : look.IsByParts) (name : String) (seen : List Field)
    (ns : List Node) :
    name ∈ namesOfSides look seen ns ↔
      (.left ∉ seen ∧ ∃ left, ns.find? (·.hasRole .left) = some left ∧ name ∈ look .target left) ∨
      (.right ∉ seen ∧ ∃ left ∈ targetsOnRight ns, name ∈ look .target left) ∨
      name ∈ restOfChildren look seen ns := by
  match ns with
  | [] => simp [namesOfSides, restOfChildren, targetsOnRight]
  | n :: ns =>
    have ih := mem_namesOfSides hlook name (n.role?.toList ++ seen) ns
    simp only [namesOfSides, restOfChildren, Finset.mem_union, ih, List.mem_append,
      Option.mem_toList, targetsOnRight, List.find?_cons]
    have hlast := mem_look_chain hlook name (n := n)
    -- the first one on the left is a target, a chain on the right has targets, all else is a value
    by_cases hfirst : isFirstLeft seen n
    · have hrole := isFirstLeft_iff.mp hfirst
      grind [Node.hasRole_iff]
    · by_cases hchain : continuesChain seen n
      · have hrole := continuesChain_iff.mp hchain
        grind [Node.hasRole_iff]
      · have hleft := mt isFirstLeft_iff.mpr hfirst
        have hright := mt continuesChain_iff.mpr hchain
        grind [Node.hasRole_iff]

end

/-! ### Parts -/

/-- A target with the names that it contributes. -/
structure TargetPart where
  target : Target
  names : Finset String
  deriving DecidableEq

/-- Whether a statement is no simple assignment. -/
def Statement.isFixed : Statement → Bool
  | .assignment _ => false
  | _ => true

lemma Statement.isFixed_attach (comment : String) (s : Statement) :
    (s.attach comment).isFixed = s.isFixed := by
  cases s <;> rfl

/-- A statement with the names that its parts contribute. -/
inductive CellPart where
  /-- `rest` is what the assignment contributes besides its targets. -/
  | assignment (targets : List TargetPart) (value : String) (comment : Option String)
    (rest : Finset String)
  | fixed (statement : Statement) (isFixed : statement.isFixed) (names : Finset String)
  deriving DecidableEq

namespace CellPart

def statement : CellPart → Statement
  | .assignment targets value comment _ =>
    .assignment ⟨targets.map TargetPart.target, value, comment⟩
  | .fixed s _ _ => s

/-- All names that a part contributes. -/
def names : CellPart → Finset String
  | .assignment targets _ _ rest => unionOf (targets.map TargetPart.names) ∪ rest
  | .fixed _ _ names => names

def targets : CellPart → List TargetPart
  | .assignment targets .. => targets
  | .fixed .. => []

/-- A part with a comment behind it, which contributes the given names. -/
def attach (comment : String) (names : Finset String) : CellPart → CellPart
  | .assignment targets value _ rest => .assignment targets value (some comment) (rest ∪ names)
  | .fixed s hs names' =>
    .fixed (s.attach comment) (s.isFixed_attach comment ▸ hs) (names' ∪ names)

lemma statement_attach (comment : String) (names : Finset String) (part : CellPart) :
    (part.attach comment names).statement = part.statement.attach comment := by
  cases part <;> rfl

lemma names_attach (comment : String) (names : Finset String) (part : CellPart) :
    (part.attach comment names).names = part.names ∪ names := by
  cases part <;> simp [attach, CellPart.names, Finset.union_assoc]

/-- What the children of a statement contribute besides the targets of an assignment among them. -/
def restOfStatement (look : Look) (n : Node) : Finset String :=
  unionOf (n.children.map fun c => if c.isNamed then restOfChain look c else look .value c)

/-- The part that a node is. -/
def ofNode (look : Look) (source : String) (n : Node) : CellPart :=
  match Statement.ofNode source n with
  | .assignment a =>
    .assignment
      ((Statement.targetNodes n).map fun left => ⟨Target.ofNode source left, look .target left⟩)
      a.value a.comment (restOfStatement look n)
  | .functionDefinition d => .fixed (.functionDefinition d) rfl (look .value n)
  | .classDefinition d => .fixed (.classDefinition d) rfl (look .value n)
  | .other text => .fixed (.other text) rfl (look .value n)

lemma statement_ofNode (look : Look) (source : String) (n : Node) :
    (ofNode look source n).statement = Statement.ofNode source n := by
  unfold ofNode
  split
  case h_1 a ha => simp [statement, ha, Function.comp_def, ← Statement.targets_of_ofNode ha]
  all_goals simp_all [statement]

/-- The part that a node is has the names of the node. -/
lemma names_ofNode {look : Look} (hlook : look.IsByParts) (source : String) (n : Node) :
    (ofNode look source n).names = look .value n := by
  unfold ofNode
  split
  case h_1 a ha =>
    obtain ⟨hkind, hof⟩ := Statement.ofStatement?_of_ofNode ha
    obtain ⟨only, honly, huntyped, _, _⟩ := Assignment.ofStatement?_eq_some hof
    have hnamed : ∀ c ∈ n.children, c.isNamed ↔ c = only := by
      intro c hc
      have : c ∈ n.namedChildren ↔ c ∈ n.children ∧ c.isNamed := List.mem_filter
      rw [honly, List.mem_singleton] at this
      grind
    have hmem : only ∈ n.children :=
      Node.mem_children_of_mem_namedChildren (honly ▸ List.mem_singleton_self only)
    ext name
    have hchain := mem_look_chain hlook name huntyped
    simp only [hlook.statement hkind, names, restOfStatement, Statement.targetNodes, honly,
      List.flatMap_singleton, List.map_map, Finset.mem_union, mem_unionOf, List.mem_map]
    grind
  all_goals rfl

end CellPart

/-- A text seen as its parts. -/
structure Outline where
  parts : List CellPart
  /-- What stands between the statements contributes. -/
  loose : Finset String
  deriving DecidableEq

namespace Outline

def statements (c : Outline) : List Statement := c.parts.map CellPart.statement

/-- All names that an outline contributes. -/
def names (c : Outline) : Finset String := unionOf (c.parts.map CellPart.names) ∪ c.loose

/-- The parts that nodes in a row are, behind a part with the row on which it ends. -/
def partsOf (look : Look) (source : String) (before : Option (CellPart × Nat)) :
    List Node → List CellPart
  | [] => (before.map Prod.fst).toList
  | n :: ns =>
    match before with
    | some (part, row) =>
      if n.kind = .token .comment && n.start.row = row then
        partsOf look source (some (part.attach (n.text source) (look .value n), row)) ns
      else part :: partsOf look source (some (.ofNode look source n, n.stop.row)) ns
    | none => partsOf look source (some (.ofNode look source n, n.stop.row)) ns

/-- The outline of a text with the given tree. -/
def ofTree (look : Look) (source : String) (tree : Node) : Outline where
  parts := partsOf look source none tree.namedChildren
  loose := unionOf ((tree.children.filter fun n => !n.isNamed).map (look .value))

lemma statement_partsOf (look : Look) (source : String) (before : Option (CellPart × Nat))
    (ns : List Node) :
    (partsOf look source before ns).map CellPart.statement =
      Statement.ofNodes source (before.map fun b => (b.1.statement, b.2)) ns := by
  induction ns generalizing before with
  | nil => cases before <;> rfl
  | cons n ns ih =>
    rcases before with _ | ⟨part, row⟩
    · simp [partsOf, Statement.ofNodes, ih, CellPart.statement_ofNode]
    · simp only [partsOf, Statement.ofNodes, Option.map_some]
      split_ifs
      · rw [ih, Option.map_some, CellPart.statement_attach]
      · rw [List.map_cons, ih, Option.map_some, CellPart.statement_ofNode]

/-- An outline has the statements of its text. -/
theorem statements_ofTree (look : Look) (source : String) (tree : Node) :
    (ofTree look source tree).statements = Statement.ofTree source tree := by
  simp [statements, ofTree, Statement.ofTree, statement_partsOf]

lemma mem_names_partsOf {look : Look} (hlook : look.IsByParts) {source : String}
    {before : Option (CellPart × Nat)} {ns : List Node} {name : String} :
    name ∈ unionOf ((partsOf look source before ns).map CellPart.names) ↔
      (∃ part row, before = some (part, row) ∧ name ∈ part.names) ∨
        ∃ n ∈ ns, name ∈ look .value n := by
  induction ns generalizing before with
  | nil => rcases before with _ | ⟨part, row⟩ <;> simp [partsOf]
  | cons n ns ih =>
    have hnext : name ∈ unionOf ((partsOf look source
        (some (.ofNode look source n, n.stop.row)) ns).map CellPart.names) ↔
        ∃ m ∈ n :: ns, name ∈ look .value m := by
      rw [ih]
      simp [CellPart.names_ofNode hlook]
    rcases before with _ | ⟨part, row⟩
    · simpa [partsOf] using hnext
    · simp only [partsOf]
      split_ifs
      · rw [ih]
        simp [CellPart.names_attach, or_assoc]
      · rw [mem_unionOf] at hnext ⊢
        simp only [List.map_cons, List.mem_cons, exists_eq_or_imp] at hnext ⊢
        rw [hnext]
        simp

/-- An outline has the names that the children of its tree contribute. -/
theorem mem_names_ofTree {look : Look} (hlook : look.IsByParts) {source : String} {tree : Node}
    {name : String} :
    name ∈ (ofTree look source tree).names ↔ ∃ n ∈ tree.children, name ∈ look .value n := by
  simp only [names, ofTree, Finset.mem_union, mem_names_partsOf hlook, reduceCtorEq, false_and,
    exists_false, false_or, mem_unionOf, List.mem_map, Node.namedChildren, List.mem_filter]
  grind

end Outline

end NotebookExport
