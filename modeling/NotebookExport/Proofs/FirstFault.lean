import NotebookExport.Proofs.Cascade
import NotebookExport.Python.Source

/-!
# The first fault of a tree

A search keeps the trees that it has still to go through on a stack. All nodes of these trees, each
before its children, are still to come: looking at a node takes away the first of them, and putting
its children on the stack keeps the order of the others (`Node.preorderAll_cons_eq_pushAll`). So a
search comes to the first node that is looked for. The search for faulty nodes leaves out the trees
of unmarked nodes, and comes to the same node if all nodes are marked that are faulty or have a
faulty node in them (`Node.firstFaulty_eq_find?`).

From this follows which trees are accepted (`Node.check_eq_ok_iff`) and which node is reported of
the others (`Node.check_eq_error_iff`).
-/

namespace NotebookExport.Python

variable {marked : Node → Bool} {source : String} {n tree : Node} {stack : List Node}

namespace Node

lemma isFaulty_iff : n.isFaulty ↔ n.isError ∨ n.isMissing := by simp [isFaulty]

lemma hasKind_outdatedStatements_iff :
    hasKind outdatedStatements n ↔
      n.kind = .phrase .printStatement ∨ n.kind = .phrase .execStatement := by
  simp [hasKind, outdatedStatements]

lemma hasError_iff : n.hasError ↔ ∃ m ∈ n.preorder, m.isFaulty := List.any_eq_true

/-! ### The nodes still to come -/

/-- Whether all nodes of the trees on a stack are marked that are faulty or have a faulty node in
them. -/
def MarksFaults (marked : Node → Bool) (stack : List Node) : Prop :=
  ∀ n ∈ preorderAll stack, n.hasError → marked n

namespace MarksFaults

/-- Leaving out the tree on top keeps the marks. -/
lemma leaveOut (h : MarksFaults marked (n :: stack)) : MarksFaults marked stack := by
  intro m hm
  refine h m ?_
  rw [preorderAll]
  exact List.mem_append_right _ hm

/-- Going into the tree on top keeps the marks. -/
lemma goInto (h : MarksFaults marked (n :: stack)) :
    MarksFaults marked (pushAll stack n.children) := by
  intro m hm
  refine h m ?_
  rw [preorderAll_cons_eq_pushAll]
  exact List.mem_cons_of_mem _ hm

/-- There is nothing to be found in a tree that is left out. -/
lemma find?_eq_none (h : MarksFaults marked (n :: stack)) (hn : marked n = false) :
    n.preorder.find? isFaulty = none := by
  rw [List.find?_eq_none]
  intro m hm hfaulty
  have hmem : n ∈ preorderAll (n :: stack) := by
    rw [preorderAll_cons_eq_pushAll]
    exact List.mem_cons_self
  have hmarked := h n hmem (hasError_iff.mpr ⟨m, hm, hfaulty⟩)
  simp [hn] at hmarked

end MarksFaults

lemma marksFaults_hasError (stack : List Node) : MarksFaults hasError stack := fun _ _ h => h

/-! ### What the searches find -/

/-- The search for kinds finds the first node still to come that is of one of them. -/
theorem firstOfKind_eq_find? (kinds : List Kind) (stack : List Node) :
    firstOfKind kinds stack = (preorderAll stack).find? (hasKind kinds) := by
  fun_induction firstOfKind kinds stack with
  | case1 => rfl
  | case2 n stack hn =>
    rw [preorderAll_cons_eq_pushAll, List.find?_cons_of_pos hn]
  | case3 n stack hn ih =>
    rw [preorderAll_cons_eq_pushAll, List.find?_cons_of_neg hn, ih]

/-- The search for faulty nodes finds the first one still to come, whatever it leaves out. -/
theorem firstFaulty_eq_find? (h : MarksFaults marked stack) :
    firstFaulty marked stack = (preorderAll stack).find? isFaulty := by
  fun_induction firstFaulty marked stack with
  | case1 => rfl
  | case2 n stack hn =>
    rw [preorderAll_cons_eq_pushAll, List.find?_cons_of_pos hn]
  | case3 n stack hn hmarked ih =>
    have hnone := h.find?_eq_none (by simpa using hmarked)
    rw [ih h.leaveOut, preorderAll, List.find?_append, hnone, Option.none_or]
  | case4 n stack hn hmarked ih =>
    rw [preorderAll_cons_eq_pushAll, List.find?_cons_of_neg hn, ih h.goInto]

/-! ### What is accepted and what is reported -/

/-- Whether a node is the first one of a tree with a property, from the root down and in source
order. -/
def IsFirst (p : Node → Prop) (tree n : Node) : Prop :=
  ∃ before behind, tree.preorder = before ++ n :: behind ∧ p n ∧ ∀ m ∈ before, ¬ p m

lemma isFirst_iff_find? {p : Node → Bool} :
    IsFirst (p ·) tree n ↔ tree.preorder.find? p = some n := by
  rw [List.find?_eq_some_iff_append, IsFirst]
  constructor
  · rintro ⟨before, behind, hsplit, hn, hbefore⟩
    exact ⟨hn, before, behind, hsplit, by simpa using hbefore⟩
  · rintro ⟨hn, before, behind, hsplit, hbefore⟩
    exact ⟨before, behind, hsplit, hn, by simpa using hbefore⟩

/-- What is done with a tree depends on its first faulty node, and without one on the first outdated
statement. -/
lemma check_cases (source : String) (h : MarksFaults marked [tree]) :
    (∃ n, tree.preorder.find? isFaulty = some n ∧
      tree.check marked source = .error (n.fault (n.complaint source))) ∨
    (∃ n, tree.preorder.find? isFaulty = none ∧
      tree.preorder.find? (hasKind outdatedStatements) = some n ∧
      tree.check marked source = .error (n.fault n.outdatedComplaint)) ∨
    (tree.preorder.find? isFaulty = none ∧
      tree.preorder.find? (hasKind outdatedStatements) = none ∧
      tree.check marked source = .ok tree) := by
  simp only [check, firstFaulty_eq_find? h, firstOfKind_eq_find?, preorderAll_singleton]
  cases tree.preorder.find? isFaulty with
  | some n => exact .inl ⟨n, rfl, rfl⟩
  | none =>
    cases tree.preorder.find? (hasKind outdatedStatements) with
    | some n => exact .inr (.inl ⟨n, rfl, rfl, rfl⟩)
    | none => exact .inr (.inr ⟨rfl, rfl, rfl⟩)

theorem check_eq_ok_iff (h : MarksFaults marked [tree]) {accepted : Node} :
    tree.check marked source = .ok accepted ↔ accepted = tree ∧
      ∀ n ∈ tree.preorder, ¬ n.isFaulty ∧ ¬ hasKind outdatedStatements n := by
  rw [forall₂_and, ← List.find?_eq_none, ← List.find?_eq_none]
  obtain ⟨n, hfaulty, hcheck⟩ | ⟨n, hfaulty, houtdated, hcheck⟩ | ⟨hfaulty, houtdated, hcheck⟩ :=
    check_cases source h
  · simp [hcheck, hfaulty]
  · simp [hcheck, houtdated]
  · simp [hcheck, hfaulty, houtdated, eq_comm]

theorem check_eq_error_iff (h : MarksFaults marked [tree]) {fault : SyntaxFault} :
    tree.check marked source = .error fault ↔
      (∃ n, IsFirst (isFaulty ·) tree n ∧ fault = n.fault (n.complaint source)) ∨
      (∀ n ∈ tree.preorder, ¬ n.isFaulty) ∧
        ∃ n, IsFirst (hasKind outdatedStatements ·) tree n ∧
          fault = n.fault n.outdatedComplaint := by
  simp only [isFirst_iff_find?, ← List.find?_eq_none]
  obtain ⟨n, hfaulty, hcheck⟩ | ⟨n, hfaulty, houtdated, hcheck⟩ | ⟨hfaulty, houtdated, hcheck⟩ :=
    check_cases source h
  · simp [hcheck, hfaulty, eq_comm]
  · simp [hcheck, hfaulty, houtdated, eq_comm]
  · simp [hcheck, hfaulty, houtdated]

/-- A tree is accepted exactly if no node of it, at any depth, is an error, missing, or a statement
that only Python 2 has. Otherwise the place of the first error or missing node is reported, even if
an outdated statement stands before it, and if there is none that of the first outdated statement.
The searches with a stack find what a search of all nodes from the root down finds. For this every
node has to be marked that is an error or missing or has such a node in it; marks at other nodes do
no harm. -/
theorem check_of_marked (source : String)
    (hmarked : ∀ n ∈ tree.preorder, (∃ m ∈ n.preorder, m.isError ∨ m.isMissing) → marked n) :
    firstFaulty marked [tree] = tree.preorder.find? (fun n => n.isError || n.isMissing) ∧
    (∀ kinds, firstOfKind kinds [tree] = tree.preorder.find? fun n => kinds.contains n.kind) ∧
    (∀ accepted, tree.check marked source = .ok accepted ↔ accepted = tree ∧
      ∀ n ∈ tree.preorder, ¬ n.isError ∧ ¬ n.isMissing ∧
        n.kind ≠ .phrase .printStatement ∧ n.kind ≠ .phrase .execStatement) ∧
    ∀ fault, tree.check marked source = .error fault ↔
      (∃ n, IsFirst (fun m => m.isError ∨ m.isMissing) tree n ∧
        fault = ⟨n.start.row + 1, n.start.column + 1, n.complaint source⟩) ∨
      (∀ n ∈ tree.preorder, ¬ (n.isError ∨ n.isMissing)) ∧
        ∃ n, IsFirst (fun m => m.kind = .phrase .printStatement ∨
            m.kind = .phrase .execStatement) tree n ∧
          fault = ⟨n.start.row + 1, n.start.column + 1, n.outdatedComplaint⟩ := by
  have h : MarksFaults marked [tree] := by
    intro n hn herror
    rw [hasError_iff] at herror
    simp only [isFaulty_iff] at herror
    exact hmarked n (by rwa [preorderAll_singleton] at hn) herror
  refine ⟨?_, fun kinds => ?_, fun accepted => ?_, fun fault => ?_⟩
  · rw [firstFaulty_eq_find? h, preorderAll_singleton]
    rfl
  · rw [firstOfKind_eq_find?, preorderAll_singleton]
    rfl
  · simpa only [isFaulty_iff, hasKind_outdatedStatements_iff, not_or, and_assoc] using
      check_eq_ok_iff h
  · simpa only [isFaulty_iff, hasKind_outdatedStatements_iff, Node.fault] using
      check_eq_error_iff h

/-- A name that fits nowhere, in the second line of a text. -/
def strayName : Node :=
  .node ⟨.error, none, true, false, ⟨12, 12, 1, 4⟩, ⟨13, 13, 1, 5⟩⟩
    [onLine 8 1 (.token .identifier) none 4 5 []]

/-- The tree of `print x` and of `f(a b)` below it. -/
def strayCall : Node :=
  let line := onLine 0 0
  let call := onLine 8 1
  .programOf 15 2 [
    line (.phrase .printStatement) none 0 7 [
      line (.token .kwPrint) none 0 5 [],
      line (.token .identifier) (some .argument) 6 7 []],
    call (.phrase .expressionStatement) none 0 6 [call (.phrase .call) none 0 6 [
      call (.token .identifier) (some .function) 0 1 [],
      call (.phrase .argumentList) (some .arguments) 1 6 [
        call (.token .lparen) none 1 2 [],
        call (.token .identifier) none 2 3 [],
        strayName,
        call (.token .rparen) none 5 6 []]]]]

/-- The name is reported, although the statement above it is outdated and is not gone into. -/
theorem check_of_strayCall :
    (∀ n ∈ strayCall.preorder, (∃ m ∈ n.preorder, m.isError ∨ m.isMissing) → n.hasError) ∧
      strayCall.check hasError "print x\nf(a b)\n" = .error ⟨2, 5, .unexpected "b"⟩ := by
  have hmarked : ∀ n ∈ strayCall.preorder,
      (∃ m ∈ n.preorder, m.isError ∨ m.isMissing) → n.hasError := by decide
  have hfirst : IsFirst (fun m => m.isError ∨ m.isMissing) strayCall strayName :=
    ⟨strayCall.preorder.take 10, strayCall.preorder.drop 11, rfl, by decide, by decide⟩
  obtain ⟨-, -, -, hreported⟩ := check_of_marked "print x\nf(a b)\n" hmarked
  exact ⟨hmarked, (hreported _).mpr (.inl ⟨strayName, hfirst, by decide⟩)⟩

end Node

/-! ### Texts -/

/-- A text is Python exactly if its tree is faultless. -/
theorem parse_eq_ok_iff :
    parse source = .ok tree ↔ tree = (derive source.toList).tree ∧
      ∀ n ∈ (derive source.toList).tree.preorder,
        ¬ n.isFaulty ∧ ¬ n.hasKind Node.outdatedStatements :=
  Node.check_eq_ok_iff (Node.marksFaults_hasError _)

/-- Of a text that is not Python the first faulty node is reported, or else the first outdated one.
-/
theorem parse_eq_error_iff {fault : SyntaxFault} :
    parse source = .error fault ↔
      (∃ n, Node.IsFirst (Node.isFaulty ·) (derive source.toList).tree n ∧
        fault = n.fault (n.complaint source)) ∨
      (∀ n ∈ (derive source.toList).tree.preorder, ¬ n.isFaulty) ∧
        ∃ n, Node.IsFirst (Node.hasKind Node.outdatedStatements ·) (derive source.toList).tree n ∧
          fault = n.fault n.outdatedComplaint :=
  Node.check_eq_error_iff (Node.marksFaults_hasError _)

end NotebookExport.Python
