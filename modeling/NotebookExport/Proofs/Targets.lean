import Mathlib.Tactic.Common
import NotebookExport.Names.Usage
import NotebookExport.Statements.OfTree

/-!
# Targets

The targets of a chain of assignments, as parts of a statement and as nodes of its tree. A target
has to stay if it binds no name or a name that is still read, and every name that a target of a
statement binds is among those that the whole tree binds.
-/

namespace NotebookExport

open Python

/-! ### What a node binds, by its kind -/

section

variable {source : String} {n : Node}

lemma boundBy_of_identifier (hkind : n.kind = .token .identifier) :
    boundBy source n = ⟨[n.text source], true⟩ := by
  obtain ⟨info, children⟩ := n
  have hinfo : info.kind = .token .identifier := hkind
  simp [boundBy, hinfo]

lemma boundBy_of_pattern {p : Phrase} (hkind : n.kind = .phrase p) (hp : isTargetPattern p) :
    boundBy source n = boundByParts source n.children := by
  obtain ⟨info, children⟩ := n
  have hinfo : info.kind = .phrase p := hkind
  simp [boundBy, hinfo, hp, Node.children]

/-- What is neither a name nor a pattern is a place to assign to. -/
lemma boundBy_of_neither (hname : n.kind ≠ .token .identifier)
    (hpattern : ∀ p, n.kind = .phrase p → ¬isTargetPattern p) : boundBy source n = ⟨[], false⟩ := by
  obtain ⟨info, children⟩ := n
  unfold boundBy
  split
  case h_1 hkind => exact absurd hkind hname
  case h_2 p hkind => rw [if_neg (hpattern p hkind)]
  case h_3 => rfl

end

/-! ### The targets of a statement -/

namespace Target

/-- The names that a target binds; none if assigning to it does something else. -/
def names (t : Target) : List String :=
  match t.shape with
  | .name name => [name]
  | .pattern names => names
  | .place => []

/-- A target binds no name if it is a place to assign to or an empty pattern. -/
lemma names_eq_nil_iff {t : Target} :
    t.names = [] ↔ t.shape = .place ∨ t.shape = .pattern [] := by
  unfold names
  cases t.shape <;> simp

lemma isLive_iff {unread : List String} {t : Target} :
    t.isLive unread ↔ t.names = [] ∨ ∃ name ∈ t.names, name ∉ unread := by
  unfold isLive names
  cases t.shape <;> simp

/-- A target has the names that its node binds, unless assigning to the node does more. -/
lemma names_ofNode (source : String) (n : Node) :
    (ofNode source n).names =
      if (boundBy source n).onlyNames then (boundBy source n).names else [] := by
  obtain ⟨info, children⟩ := n
  by_cases hkind : info.kind = .token .identifier
  · simp [ofNode, names, boundBy, Node.kind, Node.info, hkind]
  · have hof : ofNode source (.node info children) =
        ⟨Node.text source (.node info children),
          if (boundBy source (.node info children)).onlyNames
          then .pattern (boundBy source (.node info children)).names else .place⟩ := by
      unfold ofNode
      split
      · contradiction
      · rfl
    rw [hof]
    by_cases honly : (boundBy source (.node info children)).onlyNames <;> simp [names, honly]

lemma mem_boundBy_of_mem_names {source : String} {n : Node} {name : String}
    (h : name ∈ (ofNode source n).names) : name ∈ (boundBy source n).names := by
  rw [names_ofNode] at h
  split_ifs at h
  · exact h
  · simp at h

end Target

/-! ### The nodes of the targets -/

mutual

/-- The left sides of a chain of assignments. -/
def chainTargets : Node → List Node
  | .node info children =>
    ((Node.node info children).child? .left).toList ++ targetsOnRight children

/-- The left sides in the first of the children on the right. -/
def targetsOnRight : List Node → List Node
  | [] => []
  | n :: ns =>
    if n.hasRole .right then (if isUntypedAssignment n then chainTargets n else [])
    else targetsOnRight ns

end

mutual

lemma targets_of_chain {source : String} {n : Node} {targets : List Target} {value : String}
    (h : Assignment.chain source n = some (targets, value)) :
    targets = (chainTargets n).map (Target.ofNode source) := by
  match n with
  | .node info children =>
    simp only [Assignment.chain] at h
    split at h
    case h_1 => cases h
    case h_2 left hleft =>
      obtain ⟨⟨further, value'⟩, hright, heq⟩ := Option.map_eq_some_iff.mp h
      obtain ⟨rfl, rfl⟩ := Prod.mk.inj heq
      simp [chainTargets, hleft, targets_of_rightOfChain hright]

lemma targets_of_rightOfChain {source : String} {ns : List Node} {targets : List Target}
    {value : String} (h : Assignment.rightOfChain source ns = some (targets, value)) :
    targets = (targetsOnRight ns).map (Target.ofNode source) := by
  match ns with
  | [] => simp [Assignment.rightOfChain] at h
  | n :: ns =>
    simp only [Assignment.rightOfChain] at h
    split_ifs at h with hrole huntyped
    · simp [targetsOnRight, hrole, huntyped, targets_of_chain h]
    · obtain ⟨rfl, rfl⟩ := Prod.mk.inj (Option.some.inj h)
      simp [targetsOnRight, hrole, huntyped]
    · simp [targetsOnRight, hrole, targets_of_rightOfChain h]

end

/-! ### What the targets bind is bound in the tree -/

namespace Python.Node

lemma hasRole_iff {n : Node} {role : Field} : n.hasRole role ↔ n.role? = some role := by
  simp [hasRole]

lemma mem_preorder_self (n : Node) : n ∈ n.preorder := by
  obtain ⟨info, children⟩ := n
  simp [preorder]

lemma preorder_subset_of_mem_children {n c : Node} (h : c ∈ n.children) :
    c.preorder ⊆ n.preorder := by
  obtain ⟨info, children⟩ := n
  intro m hm
  rw [preorder, preorderAll_eq_flatMap]
  exact List.mem_cons_of_mem _ (List.mem_flatMap.mpr ⟨c, h, hm⟩)

lemma mem_boundNames_of_ownNames {source : String} {n : Node} {name : String}
    (h : name ∈ ownNames source n) : name ∈ n.boundNames source :=
  List.mem_flatMap.mpr ⟨n, n.mem_preorder_self, h⟩

lemma mem_boundNames_of_mem_children {source : String} {n c : Node} {name : String}
    (hc : c ∈ n.children) (h : name ∈ c.boundNames source) : name ∈ n.boundNames source := by
  obtain ⟨m, hm, hname⟩ := List.mem_flatMap.mp h
  exact List.mem_flatMap.mpr ⟨m, preorder_subset_of_mem_children hc hm, hname⟩

lemma mem_children_of_mem_namedChildren {n c : Node} (h : c ∈ n.namedChildren) :
    c ∈ n.children :=
  (List.mem_filter.mp h).1

end Python.Node

mutual

/-- The left sides of a chain bind names that its first assignment as a whole binds. -/
lemma mem_boundNames_of_chainTargets {source : String} {n left : Node} {name : String}
    (hn : isUntypedAssignment n) (hleft : left ∈ chainTargets n)
    (h : name ∈ (boundBy source left).names) : name ∈ n.boundNames source := by
  match n with
  | .node info children =>
    rw [chainTargets, List.mem_append] at hleft
    rcases hleft with hown | hright
    · rw [Option.mem_toList] at hown
      apply Node.mem_boundNames_of_ownNames
      simp only [isUntypedAssignment, Bool.and_eq_true, decide_eq_true_eq] at hn
      simp [ownNames, hn.1, hn.2, hown, h]
    · obtain ⟨c, hc, hname⟩ := mem_boundNames_of_targetsOnRight hright h
      exact Node.mem_boundNames_of_mem_children hc hname

lemma mem_boundNames_of_targetsOnRight {source : String} {ns : List Node} {left : Node}
    {name : String} (hleft : left ∈ targetsOnRight ns)
    (h : name ∈ (boundBy source left).names) : ∃ c ∈ ns, name ∈ c.boundNames source := by
  match ns with
  | [] => simp [targetsOnRight] at hleft
  | n :: ns =>
    simp only [targetsOnRight] at hleft
    split_ifs at hleft with hrole huntyped
    · exact ⟨n, List.mem_cons_self, mem_boundNames_of_chainTargets huntyped hleft h⟩
    · simp at hleft
    · obtain ⟨c, hc, hname⟩ := mem_boundNames_of_targetsOnRight hleft h
      exact ⟨c, List.mem_cons_of_mem _ hc, hname⟩

end

/-! ### The assignments of a tree -/

lemma Assignment.targets_ne_nil_of_chain {source : String} {n : Node} {targets : List Target}
    {value : String} (h : chain source n = some (targets, value)) : targets ≠ [] := by
  obtain ⟨info, children⟩ := n
  rw [chain] at h
  split at h
  case h_1 => cases h
  case h_2 left hleft =>
    obtain ⟨⟨further, _⟩, _, heq⟩ := Option.map_eq_some_iff.mp h
    obtain ⟨rfl, _⟩ := Prod.mk.inj heq
    exact List.cons_ne_nil _ _

lemma Assignment.ofStatement?_eq_some {source : String} {n : Node} {a : Assignment}
    (h : ofStatement? source n = some a) :
    ∃ only, n.namedChildren = [only] ∧ isUntypedAssignment only ∧
      chain source only = some (a.targets, a.value) ∧ a.comment = none := by
  unfold ofStatement? at h
  split at h
  case h_1 only hchildren =>
    split_ifs at h with hsimple
    simp only [Bool.and_eq_true] at hsimple
    obtain ⟨⟨targets, value⟩, hchain, rfl⟩ := Option.map_eq_some_iff.mp h
    exact ⟨only, hchildren, hsimple.1, hchain, rfl⟩
  case h_2 => cases h

lemma Statement.ofDefinition?_ne_assignment (source : String) (outer inner : Node)
    (a : Assignment) : ofDefinition? source outer inner ≠ some (.assignment a) := by
  unfold ofDefinition?
  split <;> simp

/-- Only an expression statement can be a simple assignment. -/
lemma Statement.ofStatement?_of_ofNode {source : String} {n : Node} {a : Assignment}
    (h : ofNode source n = .assignment a) :
    n.kind = .phrase .expressionStatement ∧ Assignment.ofStatement? source n = some a := by
  unfold ofNode at h
  split at h
  case h_1 hkind =>
    refine ⟨hkind, ?_⟩
    cases hs : Assignment.ofStatement? source n with
    | none => simp [hs] at h
    | some b => simpa [hs] using h
  case h_2 =>
    cases hd : n.child? .definition with
    | none => simp [hd] at h
    | some inner =>
      cases hs : ofDefinition? source n inner with
      | none => simp [hd, hs] at h
      | some s =>
        have := ofDefinition?_ne_assignment source n inner a
        simp_all
  case h_3 =>
    cases hs : ofDefinition? source n n with
    | none => simp [hs] at h
    | some s =>
      have := ofDefinition?_ne_assignment source n n a
      simp_all

/-- A comment behind an assignment leaves its targets as they are. -/
lemma Statement.attach_eq_assignment {comment : String} {s : Statement} {a : Assignment}
    (h : s.attach comment = .assignment a) : ∃ b, s = .assignment b ∧ b.targets = a.targets := by
  cases s with
  | assignment b =>
    refine ⟨b, rfl, ?_⟩
    rw [attach, Statement.assignment.injEq] at h
    rw [← h]
  | functionDefinition d => cases h
  | classDefinition d => cases h
  | other text => cases h

/-- Every assignment among the statements of some nodes has the targets of one of the nodes, or of
the statement before them. -/
lemma Statement.exists_ofNode_of_mem_ofNodes {source : String} {before : Option (Statement × Nat)}
    {ns : List Node} {a : Assignment} (h : .assignment a ∈ ofNodes source before ns) :
    (∃ b row, before = some (.assignment b, row) ∧ b.targets = a.targets) ∨
      ∃ n ∈ ns, ∃ b, ofNode source n = .assignment b ∧ b.targets = a.targets := by
  induction ns generalizing before with
  | nil =>
    simp only [ofNodes, Option.mem_toList, Option.map_eq_some_iff] at h
    obtain ⟨⟨s, row⟩, rfl, rfl⟩ := h
    exact .inl ⟨a, row, rfl, rfl⟩
  | cons n ns ih =>
    -- a statement made from `n` itself
    have hown : ∀ {row}, .assignment a ∈ ofNodes source (some (ofNode source n, row)) ns →
        ∃ m ∈ n :: ns, ∃ b, ofNode source m = .assignment b ∧ b.targets = a.targets := by
      intro row hmem
      rcases ih hmem with ⟨b, _, hb, htargets⟩ | ⟨m, hm, hb⟩
      · exact ⟨n, List.mem_cons_self, b, (Prod.mk.inj (Option.some.inj hb)).1, htargets⟩
      · exact ⟨m, List.mem_cons_of_mem _ hm, hb⟩
    rcases before with _ | ⟨s, row⟩
    · exact .inr (hown h)
    · simp only [ofNodes] at h
      split_ifs at h with hcomment
      · rcases ih h with ⟨b, _, hb, htargets⟩ | ⟨m, hm, hb⟩
        · obtain ⟨c, rfl, hc⟩ := attach_eq_assignment (Prod.mk.inj (Option.some.inj hb)).1
          exact .inl ⟨c, row, rfl, hc.trans htargets⟩
        · exact .inr ⟨m, List.mem_cons_of_mem _ hm, hb⟩
      · rcases List.mem_cons.mp h with rfl | hmem
        · exact .inl ⟨a, row, rfl, rfl⟩
        · exact .inr (hown hmem)

/-- The targets of an assignment before some nodes, or among them, are those of a statement. -/
lemma Statement.exists_mem_ofNodes {source : String} {before : Option (Statement × Nat)}
    {ns : List Node} {a : Assignment}
    (h : (∃ row, before = some (.assignment a, row)) ∨ ∃ n ∈ ns, ofNode source n = .assignment a) :
    ∃ b, .assignment b ∈ ofNodes source before ns ∧ b.targets = a.targets := by
  induction ns generalizing before a with
  | nil =>
    rcases h with ⟨row, rfl⟩ | ⟨n, hn, _⟩
    · exact ⟨a, by simp [ofNodes], rfl⟩
    · simp at hn
  | cons n ns ih =>
    -- what `n` makes of a statement before it, or of itself
    have hnext : ∀ row, (ofNode source n = .assignment a ∨
        ∃ m ∈ ns, ofNode source m = .assignment a) →
        ∃ b, .assignment b ∈ ofNodes source (some (ofNode source n, row)) ns ∧
          b.targets = a.targets := by
      rintro row (hn | hm)
      · exact ih (.inl ⟨row, by rw [hn]⟩)
      · exact ih (.inr hm)
    rcases before with _ | ⟨s, row⟩
    · simp only [reduceCtorEq, exists_false, false_or, List.mem_cons, exists_eq_or_imp] at h
      exact hnext n.stop.row h
    · simp only [ofNodes]
      split_ifs with hcomment
      · rcases h with ⟨_, h⟩ | ⟨m, hm, ha⟩
        · obtain ⟨rfl, rfl⟩ := Prod.mk.inj (Option.some.inj h)
          exact ih (a := { a with comment := some (n.text source) }) (.inl ⟨row, rfl⟩)
        · rcases List.mem_cons.mp hm with rfl | hm
          · have hkind := (ofStatement?_of_ofNode ha).1
            simp [hkind] at hcomment
          · exact ih (.inr ⟨m, hm, ha⟩)
      · rcases h with ⟨_, h⟩ | ⟨m, hm, ha⟩
        · obtain ⟨rfl, rfl⟩ := Prod.mk.inj (Option.some.inj h)
          exact ⟨a, List.mem_cons_self, rfl⟩
        · have hm' : ofNode source n = .assignment a ∨
              ∃ m ∈ ns, ofNode source m = .assignment a := by
            rcases List.mem_cons.mp hm with rfl | hm
            · exact .inl ha
            · exact .inr ⟨m, hm, ha⟩
          obtain ⟨b, hb, htargets⟩ := hnext n.stop.row hm'
          exact ⟨b, List.mem_cons_of_mem _ hb, htargets⟩

/-- The node of an assignment among the statements of a tree. -/
lemma Statement.exists_node_of_mem_ofTree {source : String} {tree : Node} {a : Assignment}
    (h : .assignment a ∈ ofTree source tree) :
    ∃ n ∈ tree.namedChildren, ∃ b, ofNode source n = .assignment b ∧ b.targets = a.targets := by
  rcases exists_ofNode_of_mem_ofNodes h with ⟨b, _, hb, _⟩ | hnode
  · cases hb
  · exact hnode

/-- The nodes of the targets of a simple assignment. -/
def Statement.targetNodes (n : Node) : List Node := n.namedChildren.flatMap chainTargets

lemma Statement.targets_of_ofNode {source : String} {n : Node} {a : Assignment}
    (h : ofNode source n = .assignment a) :
    a.targets = (targetNodes n).map (Target.ofNode source) := by
  obtain ⟨only, honly, _, hchain, _⟩ :=
    Assignment.ofStatement?_eq_some (ofStatement?_of_ofNode h).2
  simp [targetNodes, honly, targets_of_chain hchain]

lemma Statement.mem_boundNames_of_targetNodes {source : String} {n left : Node} {a : Assignment}
    {name : String} (h : ofNode source n = .assignment a) (hleft : left ∈ targetNodes n)
    (hname : name ∈ (boundBy source left).names) : name ∈ n.boundNames source := by
  obtain ⟨only, honly, huntyped, _, _⟩ :=
    Assignment.ofStatement?_eq_some (ofStatement?_of_ofNode h).2
  have hmem : only ∈ n.namedChildren := honly ▸ List.mem_singleton_self only
  have hchain : left ∈ chainTargets only := by simpa [targetNodes, honly] using hleft
  exact Node.mem_boundNames_of_mem_children (Node.mem_children_of_mem_namedChildren hmem)
    (mem_boundNames_of_chainTargets huntyped hchain hname)

/-- What the targets of the assignments of a tree bind is bound in the tree. -/
theorem Statement.mem_boundNames_of_mem_ofTree {source : String} {tree : Node} {a : Assignment}
    {t : Target} {name : String} (ha : .assignment a ∈ ofTree source tree) (ht : t ∈ a.targets)
    (h : name ∈ t.names) : name ∈ tree.boundNames source := by
  obtain ⟨n, hn, b, hb, htargets⟩ := exists_node_of_mem_ofTree ha
  rw [← htargets, targets_of_ofNode hb, List.mem_map] at ht
  obtain ⟨left, hleft, rfl⟩ := ht
  exact Node.mem_boundNames_of_mem_children (Node.mem_children_of_mem_namedChildren hn)
    (mem_boundNames_of_targetNodes hb hleft (Target.mem_boundBy_of_mem_names h))

/-- Every simple assignment has a target. -/
lemma Statement.targets_ne_nil_of_mem_ofTree {source : String} {tree : Node} {a : Assignment}
    (ha : .assignment a ∈ ofTree source tree) : a.targets ≠ [] := by
  obtain ⟨n, _, b, hb, htargets⟩ := exists_node_of_mem_ofTree ha
  obtain ⟨only, _, _, hchain, _⟩ := Assignment.ofStatement?_eq_some (ofStatement?_of_ofNode hb).2
  rw [← htargets]
  exact Assignment.targets_ne_nil_of_chain hchain

end NotebookExport
