import NotebookExport.Proofs.Outline
import NotebookExport.Proofs.Rendering

/-!
# What a pass removes

A target goes if it is a name that is not read, or a pattern of names none of which is read, and for
no other reason. That a name be bound does not have to be asked: what the targets of a statement
record is bound in the tree. Only simple assignments have targets. All other statements stay as they
are written, with everything in them.
-/

namespace NotebookExport

open Python

variable {source : String} {tree n : Node}

/-! ### Targets -/

/-- Whether a target goes if only the given names are read: a name that is not among them, or a
pattern of names none of which is. -/
def Target.goes (read : List String) (t : Target) : Bool :=
  match t.shape with
  | .name name => name ∉ read
  | .pattern names => !names.isEmpty && names.all (· ∉ read)
  | .place => false

lemma Target.goes_iff {read : List String} {t : Target} :
    t.goes read ↔ t.names ≠ [] ∧ ∀ name ∈ t.names, name ∉ read := by
  unfold goes names
  cases t.shape <;> simp

/-- A name that is bound is unread if it is not read. -/
lemma NameUsage.mem_unread_of_mem_bound {usage : NameUsage} {name : String}
    (h : name ∈ usage.bound) : name ∈ usage.unread ↔ name ∉ usage.read := by
  rw [mem_unread]
  exact and_iff_right h

/-- For a target that records only bound names, to ask which names are bound and unread is to ask
which are read. -/
lemma Target.isLive_eq_not_goes {usage : NameUsage} {t : Target}
    (h : ∀ name ∈ t.names, name ∈ usage.bound) : t.isLive usage.unread = !t.goes usage.read := by
  rw [Bool.eq_iff_iff, isLive_iff, Bool.not_eq_true', ← Bool.not_eq_true, goes_iff]
  have hunread : ∀ name ∈ t.names, name ∉ usage.unread ↔ name ∈ usage.read := by
    intro name hname
    rw [NameUsage.mem_unread_of_mem_bound (h name hname), not_not]
  grind

/-! ### Simple assignments -/

/-- A chain of assignments without types: on the left of each sign stands a target, and on the right
a value or a further such assignment. -/
inductive IsChain : Node → Prop
  | value {n left right : Node} (hleft : n.child? .left = some left)
      (hright : n.child? .right = some right) (hvalue : isUntypedAssignment right = false) :
      IsChain n
  | next {n left right : Node} (hleft : n.child? .left = some left)
      (hright : n.child? .right = some right) (hnext : isUntypedAssignment right)
      (hchain : IsChain right) : IsChain n

lemma isChain_iff :
    IsChain n ↔ ∃ left right, n.child? .left = some left ∧ n.child? .right = some right ∧
      (isUntypedAssignment right → IsChain right) := by
  constructor
  · rintro (⟨hleft, hright, hvalue⟩ | ⟨hleft, hright, hnext, hchain⟩)
    · exact ⟨_, _, hleft, hright, by simp [hvalue]⟩
    · exact ⟨_, _, hleft, hright, fun _ => hchain⟩
  · rintro ⟨left, right, hleft, hright, hchain⟩
    cases hnext : isUntypedAssignment right with
    | false => exact .value hleft hright hnext
    | true => exact .next hleft hright hnext (hchain hnext)

mutual

/-- A node can be taken apart as a chain exactly if it is one. -/
lemma Assignment.isSome_chain_iff (n : Node) : (chain source n).isSome ↔ IsChain n := by
  match n with
  | .node info children =>
    have hright := isSome_rightOfChain_iff children
    rw [chain, isChain_iff]
    cases hleft : (Node.node info children).child? .left with
    | none => simp
    | some left => simpa [Node.child?, Node.children] using hright

lemma Assignment.isSome_rightOfChain_iff (ns : List Node) :
    (rightOfChain source ns).isSome ↔
      ∃ right, ns.find? (·.hasRole .right) = some right ∧
        (isUntypedAssignment right → IsChain right) := by
  match ns with
  | [] => simp [rightOfChain]
  | n :: ns =>
    have hchain := isSome_chain_iff n
    have hrest := isSome_rightOfChain_iff ns
    rw [rightOfChain, List.find?_cons]
    by_cases hrole : n.hasRole .right
    · by_cases hnext : isUntypedAssignment n <;> simp [hrole, hnext, hchain]
    · simpa [hrole] using hrest

end

/-- A statement that consists of a chain of assignments without types. -/
def IsSimpleAssignment (n : Node) : Prop :=
  n.kind = .phrase .expressionStatement ∧
    ∃ only, n.namedChildren = [only] ∧ only.kind = .phrase .assignment ∧
      only.child? .declaredType = none ∧ IsChain only

/-- The simple assignments are the statements that have targets. -/
lemma Statement.exists_assignment_iff :
    (∃ a, ofNode source n = .assignment a) ↔ IsSimpleAssignment n := by
  constructor
  · rintro ⟨a, ha⟩
    obtain ⟨hkind, hof⟩ := ofStatement?_of_ofNode ha
    obtain ⟨only, honly, huntyped, hchain, -⟩ := Assignment.ofStatement?_eq_some hof
    have hparts : only.kind = .phrase .assignment ∧ only.child? .declaredType = none := by
      simpa [isUntypedAssignment] using huntyped
    have hsome : (Assignment.chain source only).isSome := by simp [hchain]
    exact ⟨hkind, only, honly, hparts.1, hparts.2, (Assignment.isSome_chain_iff only).mp hsome⟩
  · rintro ⟨hkind, only, honly, honlyKind, htype, hchain⟩
    have huntyped : isUntypedAssignment only := by simp [isUntypedAssignment, honlyKind, htype]
    have hsome : (Assignment.chain source only).isSome :=
      (Assignment.isSome_chain_iff only).mpr hchain
    obtain ⟨⟨targets, value⟩, htargets⟩ := Option.isSome_iff_exists.mp hsome
    have hof : Assignment.ofStatement? source n = some ⟨targets, value, none⟩ := by
      simp [Assignment.ofStatement?, honly, huntyped, isSome_right_of_chain htargets, htargets]
    exact ⟨⟨targets, value, none⟩, by simp [ofNode, hkind, hof]⟩

/-! ### Statements -/

/-- The targets of a statement. -/
def Statement.targets : Statement → List Target
  | .assignment a => a.targets
  | _ => []

/-- The targets that go from a statement with bound names are those that are not read. -/
lemma Statement.deadTargets_eq_filter {usage : NameUsage} {s : Statement}
    (h : ∀ t ∈ s.targets, ∀ name ∈ t.names, name ∈ usage.bound) :
    s.deadTargets usage.unread = s.targets.filter (Target.goes usage.read) := by
  cases s with
  | assignment a =>
    refine List.filter_congr fun t ht => ?_
    rw [Target.isLive_eq_not_goes (h t ht), Bool.not_not]
  | _ => rfl

lemma Statement.retain_eq_filter {usage : NameUsage} {a : Assignment}
    (h : ∀ t ∈ a.targets, ∀ name ∈ t.names, name ∈ usage.bound) :
    (Statement.assignment a).retain usage.unread =
      let kept := a.targets.filter fun t => !t.goes usage.read
      if kept.isEmpty then none else some (.assignment { a with targets := kept }) := by
  have hkept : a.targets.filter (Target.isLive usage.unread) =
      a.targets.filter fun t => !t.goes usage.read :=
    List.filter_congr fun t ht => Target.isLive_eq_not_goes (h t ht)
  simp only [retain, hkept]

/-- Statements that are no assignments stay, in their order. -/
lemma Statement.filter_isFixed_retain (unread : List String) (statements : List Statement) :
    (statements.filterMap (retain unread)).filter isFixed = statements.filter isFixed := by
  induction statements with
  | nil => rfl
  | cons s statements ih =>
    cases s with
    | assignment a =>
      simp only [List.filterMap_cons, retain]
      split_ifs <;> simpa [isFixed] using ih
    | _ => exact congrArg (List.cons _) ih

/-- A statement that is no simple assignment stays as it is written, with the comments behind it. -/
lemma statementOf_mem_retained {unread : List String} {g : Node × List Node}
    (hg : g ∈ groupsOf none tree.namedChildren) (hother : ¬IsSimpleAssignment g.1) :
    statementOf source g ∈ (Statement.ofTree source tree).filterMap (Statement.retain unread) ∧
      (statementOf source g).render = g.1.text source ++ renderedComments source g.2 := by
  have hnot : ¬∃ a, Statement.ofNode source g.1 = .assignment a :=
    mt Statement.exists_assignment_iff.mp hother
  have hne : ∀ a, Statement.ofNode source g.1 ≠ .assignment a := fun a ha => hnot ⟨a, ha⟩
  obtain ⟨hattached, hrender⟩ := @Statement.attachAll_ne_assignment source _ hne g.2
  have hmem : statementOf source g ∈ Statement.ofTree source tree := by
    have hgroups : Statement.ofTree source tree = _ := ofNodes_eq_map_groupsOf none _
    rw [hgroups]
    exact List.mem_map_of_mem hg
  refine ⟨List.mem_filterMap.mpr ⟨_, hmem, Statement.retain_of_not_assignment hattached⟩, ?_⟩
  rw [statementOf, hrender,
    (Statement.exists_assignment_or_render_ofNode source g.1).resolve_left hnot]

/-! ### The rule -/

/-- A pass removes the targets that are names not read or patterns of names none of which is read,
and nothing else. What the targets record is bound in the tree, so that a name that is not read is
one that is bound and not read. -/
theorem pass_removes_what_goes (source : String) (tree : Node) :
    let usage := NameUsage.ofTree source tree
    let statements := Statement.ofTree source tree
    let pass := Pass.ofTree source tree
    let kept := statements.filterMap (Statement.retain usage.unread)
    (∀ a, .assignment a ∈ statements →
      (∀ t ∈ a.targets,
        (∀ name ∈ t.names, name ∈ usage.bound ∧ (name ∈ usage.unread ↔ name ∉ usage.read)) ∧
        (t ∈ a.deadTargets usage.unread ↔
          (∃ name, t.shape = .name name ∧ name ∉ usage.read) ∨
          ∃ names, t.shape = .pattern names ∧ names ≠ [] ∧ ∀ name ∈ names, name ∉ usage.read)) ∧
      (Statement.assignment a).retain usage.unread =
        let targets := a.targets.filter fun t => !t.goes usage.read
        if targets.isEmpty then none else some (.assignment { a with targets := targets })) ∧
    pass.removed =
      ((statements.flatMap Statement.targets).filter (Target.goes usage.read)).map Target.text ∧
    pass.code = (if pass.removed.isEmpty then source else renderStatements kept) ∧
    (∀ n, (∃ a, Statement.ofNode source n = .assignment a) ↔ IsSimpleAssignment n) ∧
    kept.filter Statement.isFixed = statements.filter Statement.isFixed ∧
    ∀ g ∈ groupsOf none tree.namedChildren, ¬IsSimpleAssignment g.1 →
      statementOf source g ∈ kept ∧
        (statementOf source g).render = g.1.text source ++ renderedComments source g.2 := by
  intro usage statements pass kept
  have hbound : ∀ s ∈ statements, ∀ t ∈ s.targets, ∀ name ∈ t.names, name ∈ usage.bound := by
    intro s hs t ht name hname
    cases s with
    | assignment a => exact Statement.mem_boundNames_of_mem_ofTree hs ht hname
    | _ => simp [Statement.targets] at ht
  refine ⟨?_, ?_, ?_, fun n => Statement.exists_assignment_iff,
    Statement.filter_isFixed_retain usage.unread statements,
    fun g hg hother => statementOf_mem_retained hg hother⟩
  · intro a ha
    refine ⟨?_, Statement.retain_eq_filter (hbound _ ha)⟩
    intro t ht
    refine ⟨fun name hname => ?_, ?_⟩
    · have hname' := hbound _ ha t ht name hname
      exact ⟨hname', NameUsage.mem_unread_of_mem_bound hname'⟩
    · have hdead : t ∈ a.deadTargets usage.unread ↔ t ∈ a.targets.filter (Target.goes usage.read) :=
        iff_of_eq (congrArg (t ∈ ·) (Statement.deadTargets_eq_filter (hbound _ ha)))
      rw [hdead, List.mem_filter, and_iff_right ht, Target.goes]
      cases t.shape <;> simp
  · have hremoved : pass.removed =
        (statements.flatMap (Statement.deadTargets usage.unread)).map Target.text := rfl
    rw [hremoved, List.filter_flatMap]
    refine congrArg _ (List.flatMap_congr fun s hs => ?_)
    exact Statement.deadTargets_eq_filter (hbound s hs)
  · by_cases hremoved : pass.removed = []
    · simpa [hremoved] using Pass.code_ofTree_of_removed_eq_nil hremoved
    · simpa [hremoved] using Pass.code_ofTree_of_removed_ne_nil hremoved

/-! ### A pattern, a place and a declared name -/

/-- The tree of three lines: a pattern of names, a member of an object, and a name with a type. -/
def mixedTargets : Node :=
  let line (offset row : Nat) (length : Nat) (children : List Node) : Node :=
    Node.onLine offset row (.phrase .expressionStatement) none 0 length
      [Node.onLine offset row (.phrase .assignment) none 0 length children]
  let name (offset row : Nat) (field : Option Field) (column : Nat) : Node :=
    Node.onLine offset row (.token .identifier) field column (column + 1) []
  let mark (offset row : Nat) (token : Token) (column : Nat) : Node :=
    Node.onLine offset row (.token token) none column (column + 1) []
  .programOf 22 3 [
    line 0 0 8 [
      Node.onLine 0 0 (.phrase .patternList) (some .left) 0 4
        [name 0 0 none 0, mark 0 0 .comma 1, name 0 0 none 3],
      mark 0 0 .equals 5, name 0 0 (some .right) 7],
    line 9 1 7 [
      Node.onLine 9 1 (.phrase .memberAccess) (some .left) 0 3
        [name 9 1 (some .object) 0, mark 9 1 .dot 1, name 9 1 (some .member) 2],
      mark 9 1 .equals 4, name 9 1 (some .right) 6],
    line 17 2 4 [
      name 17 2 (some .left) 0, mark 17 2 .colon 1,
      Node.onLine 17 2 (.phrase .typeExpression) (some .declaredType) 3 4 [name 17 2 none 3]]]

/-- The pattern goes. The place and the declared name stay, though neither of the names is read. -/
theorem pass_removes_pattern :
    let source := "a, b = d\nd.a = d\na: d\n"
    let pass := Pass.ofTree source mixedTargets
    pass.removed = ["a, b"] ∧ pass.code = "d.a = d\na: d\n" ∧
      Target.mk "d.a" .place ∉
        Assignment.deadTargets (NameUsage.ofTree source mixedTargets).unread
          ⟨[⟨"d.a", .place⟩], "d", none⟩ := by
  intro source pass
  obtain ⟨htargets, hremoved, hcode, -⟩ := pass_removes_what_goes source mixedTargets
  have hnames : pass.removed = ["a, b"] := hremoved.trans (by decide +kernel)
  have hplace : Statement.assignment ⟨[⟨"d.a", .place⟩], "d", none⟩ ∈
      Statement.ofTree source mixedTargets := by decide
  refine ⟨hnames, ?_, ?_⟩
  · rw [hcode, hnames]
    decide +kernel
  · rw [((htargets _ hplace).1 _ List.mem_cons_self).2]
    simp

end NotebookExport
