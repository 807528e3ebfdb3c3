import NotebookExport.Proofs.Relocation
import NotebookExport.Pruning

/-!
# Pieces of a cell in their new places

What a pass keeps of a cell, as nodes in the text that the pass renders: every statement begins a
line, a chain of assignments is made anew from its live targets and its value, and comments stand
two blanks behind what they belong to. The statements of these nodes in the rendered text are the
statements that were rendered.
-/

namespace NotebookExport

open Python Text

variable {source text : String} {unread : List String}

/-! ### The value of a chain -/

mutual

/-- The value at the end of a chain of assignments. -/
def chainValue? : Node → Option Node
  | .node _ children => valueOnRight? children

def valueOnRight? : List Node → Option Node
  | [] => none
  | n :: ns =>
    if n.hasRole .right then (if isUntypedAssignment n then chainValue? n else some n)
    else valueOnRight? ns

end

mutual

lemma exists_chainValue {n : Node} {targets : List Target} {value : String}
    (h : Assignment.chain source n = some (targets, value)) :
    ∃ v ∈ n.preorder, chainValue? n = some v ∧ v.text source = value ∧
      isUntypedAssignment v = false ∧ v.hasRole .right := by
  match n with
  | .node info children =>
    simp only [Assignment.chain] at h
    split at h
    case h_1 => cases h
    case h_2 =>
      obtain ⟨⟨further, value'⟩, hright, heq⟩ := Option.map_eq_some_iff.mp h
      obtain ⟨-, rfl⟩ := Prod.mk.inj heq
      obtain ⟨v, hv, hvalue⟩ := exists_valueOnRight hright
      exact ⟨v, List.mem_cons_of_mem _ hv, by simpa [chainValue?] using hvalue⟩

lemma exists_valueOnRight {ns : List Node} {targets : List Target} {value : String}
    (h : Assignment.rightOfChain source ns = some (targets, value)) :
    ∃ v ∈ Node.preorderAll ns, valueOnRight? ns = some v ∧ v.text source = value ∧
      isUntypedAssignment v = false ∧ v.hasRole .right := by
  match ns with
  | [] => simp [Assignment.rightOfChain] at h
  | n :: ns =>
    simp only [Assignment.rightOfChain] at h
    simp only [Node.preorderAll, List.mem_append, valueOnRight?]
    split_ifs at h ⊢ with hrole huntyped
    · obtain ⟨v, hv, hvalue⟩ := exists_chainValue h
      exact ⟨v, .inl hv, hvalue⟩
    · obtain ⟨-, rfl⟩ := Prod.mk.inj (Option.some.inj h)
      exact ⟨n, .inl n.mem_preorder_self, rfl, rfl, by simpa using huntyped, hrole⟩
    · obtain ⟨v, hv, hvalue⟩ := exists_valueOnRight h
      exact ⟨v, .inr hv, hvalue⟩

end

mutual

lemma mem_preorder_of_mem_chainTargets {n left : Node} (h : left ∈ chainTargets n) :
    left ∈ n.preorder ∧ left.hasRole .left := by
  match n with
  | .node info children =>
    rw [chainTargets, List.mem_append, Option.mem_toList] at h
    rcases h with hown | hright
    · have hmem : left ∈ (Node.node info children).children := List.mem_of_find?_eq_some hown
      exact ⟨Node.mem_preorder_of_mem_children hmem, by simpa using List.find?_some hown⟩
    · obtain ⟨hmem, hrole⟩ := mem_preorder_of_mem_targetsOnRight hright
      exact ⟨List.mem_cons_of_mem _ hmem, hrole⟩

lemma mem_preorder_of_mem_targetsOnRight {ns : List Node} {left : Node}
    (h : left ∈ targetsOnRight ns) : left ∈ Node.preorderAll ns ∧ left.hasRole .left := by
  match ns with
  | [] => simp [targetsOnRight] at h
  | n :: ns =>
    simp only [targetsOnRight] at h
    rw [Node.preorderAll, List.mem_append]
    split_ifs at h with hrole huntyped
    · obtain ⟨hmem, hleft⟩ := mem_preorder_of_mem_chainTargets h
      exact ⟨.inl hmem, hleft⟩
    · cases h
    · obtain ⟨hmem, hleft⟩ := mem_preorder_of_mem_targetsOnRight h
      exact ⟨.inr hmem, hleft⟩

end

/-! ### Nodes in the rendered text -/

namespace Text.Position

/-- The position some single-byte characters further on the same line. -/
def right (p : Position) (k : Nat) : Position := ⟨p.index + k, p.byte + k, p.row, p.column + k⟩

/-- The position behind a line break. -/
def nextLine (p : Position) : Position := ⟨p.index + 1, p.byte + 1, p.row + 1, 0⟩

/-- The position of a place in a text that begins where a line does. -/
def below (line p : Position) : Position :=
  ⟨line.index + p.index, line.byte + p.byte, line.row + p.row, p.column⟩

@[simp] lemma moved_self (old new : Position) : old.moved new old = new := by
  simp [moved]

end Text.Position

/-- A chain of assignments made of some targets and a value. -/
def chainNode (value : Node) (field : Option Field) (place : Position) : List Node → Node
  | [] => value.moveTo place
  | t :: ts =>
    let left := t.moveTo place
    let sign : Node :=
      .node ⟨.token .equals, none, false, false, left.stop.right 1, left.stop.right 2⟩ []
    let right := chainNode value (some .right) (left.stop.right 3) ts
    .node ⟨.phrase .assignment, field, false, false, place, right.stop⟩ [left, sign, right]

/-- A statement made anew of a chain with some targets. -/
def chainStatement (n value : Node) (place : Position) (ts : List Node) : Node :=
  let chain := chainNode value none place ts
  .node { n.info with start := place, stop := chain.stop } [chain]

/-- What is kept of a statement, at its new place. -/
def placeHead (source : String) (unread : List String) (place : Position) (n : Node) :
    Option Node :=
  match Statement.ofNode source n with
  | .assignment _ =>
    match (Statement.targetNodes n).filter fun t => (Target.ofNode source t).isLive unread,
      n.namedChildren.head?.bind chainValue? with
    | t :: ts, some value => some (chainStatement n value place (t :: ts))
    | _, _ => none
  | _ => some (n.moveTo place)

/-- The place of a comment behind a statement that ends on a row. -/
def commentPlace (row : Nat) (p : Position) : Position := { p.right 2 with row := row }

/-- Comments behind a statement that ends on a row. -/
def placeComments (row : Nat) (p : Position) : List Node → List Node
  | [] => []
  | c :: cs =>
    let placed := c.moveTo (commentPlace row p)
    placed :: placeComments row placed.stop cs

/-- The end of the last of some comments. -/
def stopOfComments (row : Nat) (p : Position) : List Node → Position
  | [] => p
  | c :: cs => stopOfComments row (c.moveTo (commentPlace row p)).stop cs

/-- Nodes with the comments that begin on the row where they end. `before` is such a node before the
others. -/
def groupsOf (before : Option (Node × List Node)) : List Node → List (Node × List Node)
  | [] => before.toList
  | n :: ns =>
    match before with
    | some (head, comments) =>
      if n.kind = .token .comment && n.start.row = head.stop.row then
        groupsOf (some (head, comments ++ [n])) ns
      else (head, comments) :: groupsOf (some (n, [])) ns
    | none => groupsOf (some (n, [])) ns

/-- The comments that are rendered with a statement: an assignment has only one. -/
def keptComments (source : String) (g : Node × List Node) : List Node :=
  match Statement.ofNode source g.1 with
  | .assignment _ => g.2.getLast?.toList
  | _ => g.2

/-- What is kept of some statements, each on a line of its own. -/
def placeGroups (source : String) (unread : List String) (place : Position) :
    List (Node × List Node) → List (Node × List Node)
  | [] => []
  | g :: gs =>
    match placeHead source unread place g.1 with
    | none => placeGroups source unread place gs
    | some head =>
      let comments := keptComments source g
      (head, placeComments head.stop.row head.stop comments) ::
        placeGroups source unread (stopOfComments head.stop.row head.stop comments).nextLine gs

/-- The nodes of groups, one behind the other. -/
def nodesOf (gs : List (Node × List Node)) : List Node := gs.flatMap fun g => g.1 :: g.2

/-- The nodes of what a pass keeps of a tree, in the text that it renders. -/
def placedNodes (source : String) (unread : List String) (tree : Node) : List Node :=
  nodesOf (placeGroups source unread .origin (groupsOf none tree.namedChildren))

/-! ### Places in a text that begins on a later line -/

section Below

variable {line : Position}

lemma Text.Position.moved_below (old new p : Position) :
    old.moved (line.below new) p = line.below (old.moved new p) := by
  simp [moved, below, Nat.add_assoc]

lemma Text.Position.below_right (p : Position) (k : Nat) :
    (line.below p).right k = line.below (p.right k) := by
  simp [right, below, Nat.add_assoc]

/-- A node moved to a place in the later text. -/
lemma Python.Node.moveTo_below (n : Node) (place : Position) :
    n.moveTo (line.below place) = (n.moveTo place).map line.below := by
  rw [moveTo, moveTo, map_map]
  congr 1
  exact funext fun p => Position.moved_below n.start place p

lemma chainNode_below (value : Node) (field : Option Field) (place : Position) (ts : List Node) :
    chainNode value field (line.below place) ts =
      (chainNode value field place ts).map line.below := by
  induction ts generalizing field place with
  | nil => exact value.moveTo_below place
  | cons t ts ih =>
    simp only [chainNode, Node.moveTo_below, Node.stop_map, Position.below_right, ih, Node.map,
      Node.mapAll]

lemma placeHead_below (place : Position) (n : Node) :
    placeHead source unread (line.below place) n =
      (placeHead source unread place n).map (Node.map line.below) := by
  unfold placeHead
  split
  case h_1 =>
    split
    case h_1 => simp [chainStatement, chainNode_below, Node.map, Node.mapAll]
    case h_2 => rfl
  case h_2 => rw [Node.moveTo_below, Option.map_some]

lemma commentPlace_below (row : Nat) (p : Position) :
    commentPlace (line.row + row) (line.below p) = line.below (commentPlace row p) := by
  simp [commentPlace, Position.right, Position.below, Nat.add_assoc]

lemma stopOfComments_below (row : Nat) (p : Position) (cs : List Node) :
    stopOfComments (line.row + row) (line.below p) cs = line.below (stopOfComments row p cs) := by
  induction cs generalizing p with
  | nil => rfl
  | cons c cs ih =>
    simp only [stopOfComments, commentPlace_below, Node.moveTo_below, Node.stop_map, ih]

lemma placeComments_below (row : Nat) (p : Position) (cs : List Node) :
    placeComments (line.row + row) (line.below p) cs =
      (placeComments row p cs).map (Node.map line.below) := by
  induction cs generalizing p with
  | nil => rfl
  | cons c cs ih =>
    simp only [placeComments, commentPlace_below, Node.moveTo_below, Node.stop_map, ih,
      List.map_cons]

/-- Pieces are placed in the later text as in a text of their own. -/
lemma placeGroups_below (place : Position) (gs : List (Node × List Node)) :
    placeGroups source unread (line.below place) gs =
      (placeGroups source unread place gs).map
        (Prod.map (Node.map line.below) (List.map (Node.map line.below))) := by
  induction gs generalizing place with
  | nil => rfl
  | cons g gs ih =>
    simp only [placeGroups, placeHead_below]
    cases placeHead source unread place g.1 with
    | none => exact ih place
    | some head =>
      have hrow : (line.below head.stop).row = line.row + head.stop.row := rfl
      have hnext (p : Position) : (line.below p).nextLine = line.below p.nextLine := rfl
      simp only [Option.map_some, Node.stop_map, hrow, placeComments_below, stopOfComments_below,
        hnext, ih, List.map_cons, Prod.map_apply]

lemma nodesOf_placeGroups_below (place : Position) (gs : List (Node × List Node)) :
    nodesOf (placeGroups source unread (line.below place) gs) =
      (nodesOf (placeGroups source unread place gs)).map (Node.map line.below) := by
  simp [nodesOf, placeGroups_below, List.flatMap_map, List.map_flatMap]

end Below

end NotebookExport
