import Mathlib.Data.List.Basic
import Mathlib.Data.List.Chain
import NotebookExport.Proofs.Rendering

/-!
# Statements with the comment behind them

In a tree whose pieces lie where a text has them, a comment runs to the end of its row. So on the
row on which a statement ends there is only one comment behind it, whatever the statement is and
over however many rows it goes, and attaching a comment never overwrites another one. The statements
of a tree are therefore its named nodes in source order, each with at most one comment that is
attached to it; every one is rendered as its own text, or as the texts of its targets and its value
from left to right.
-/

namespace NotebookExport

open Python Text

variable {source : String}

/-! ### Rows -/

/-- The number of rows that end before a place of a text. -/
def rowAt (source : String) (i : Nat) : Nat := (source.toList.take i).count '\n'

lemma rowAt_mono (source : String) {i j : Nat} (h : i ≤ j) : rowAt source i ≤ rowAt source j :=
  (List.take_sublist_take_left h).count_le '\n'

lemma rowAt_lt {i j : Nat} (hi : source.toList[i]? = some '\n') (h : i < j) :
    rowAt source i < rowAt source j := by
  have hbehind : rowAt source (i + 1) = rowAt source i + 1 := by
    simp [rowAt, List.take_add_one, hi]
  have hmono := rowAt_mono source (show i + 1 ≤ j from h)
  omega

namespace Python.Node

/-- Whether a node is not empty and goes up to the end of the row on which it begins. -/
structure FillsRow (source : String) (n : Node) : Prop where
  start_lt : n.start.index < n.stop.index
  oneRow : '\n' ∉ (n.text source).toList
  ends : source.toList[n.stop.index]?.getD '\n' = '\n'

instance (source : String) (n : Node) : Decidable (n.FillsRow source) :=
  decidable_of_iff (n.start.index < n.stop.index ∧ '\n' ∉ (n.text source).toList ∧
      source.toList[n.stop.index]?.getD '\n' = '\n')
    ⟨fun ⟨hstart, hrow, hend⟩ => ⟨hstart, hrow, hend⟩, fun ⟨hstart, hrow, hend⟩ =>
      ⟨hstart, hrow, hend⟩⟩

/-- Behind a node that fills its row the next one that does so begins on a later row. -/
lemma FillsRow.rowAt_lt {n m : Node} (hn : n.FillsRow source) (hm : m.FillsRow source)
    (hlies : m.stop.index ≤ source.length) (h : n.stop.index ≤ m.start.index) :
    rowAt source n.stop.index < rowAt source m.start.index := by
  have hm' := hm.start_lt
  have hlt : m.start.index < source.toList.length := by
    rw [String.length_toList]
    omega
  have hbreak : source.toList[n.stop.index]? = some '\n' := by
    have hends := hn.ends
    rw [List.getElem?_eq_getElem (by omega)] at hends ⊢
    exact congrArg some hends
  -- a line break cannot be the first character of what has none
  have hne : n.stop.index ≠ m.start.index := by
    intro heq
    refine hm.oneRow ?_
    rw [heq] at hbreak
    rw [text, String.toList_ofList]
    refine List.mem_of_getElem? (i := 0) ?_
    rw [List.getElem?_take_of_lt (by omega), List.getElem?_drop]
    exact hbreak
  exact NotebookExport.rowAt_lt hbreak (by omega)

/-- Whether the left side of an assignment stands before its right side. -/
def HasSides (n : Node) : Prop :=
  isUntypedAssignment n → ∀ left ∈ n.child? .left, ∀ right ∈ n.child? .right,
    left.stop.index ≤ right.start.index

instance (n : Node) : Decidable n.HasSides :=
  inferInstanceAs (Decidable (isUntypedAssignment n → ∀ left ∈ n.child? .left,
    ∀ right ∈ n.child? .right, left.stop.index ≤ right.start.index))

/-- Whether the nodes of a tree lie where the text has them: each has its row and lies inside of the
node it belongs to, those that become statements stand one behind the other, and comments run to the
end of their row. -/
structure IsLaidOut (source : String) (tree : Node) : Prop where
  lies : tree.LiesIn source
  rows : ∀ n ∈ tree.namedChildren,
    n.start.row = rowAt source n.start.index ∧ n.stop.row = rowAt source n.stop.index
  ordered : tree.namedChildren.Pairwise fun m n => m.stop.index ≤ n.start.index
  comments : ∀ n ∈ tree.namedChildren, n.kind = .token .comment → n.FillsRow source
  sides : ∀ n ∈ tree.preorder, n.HasSides

end Python.Node

/-! ### Pieces of an assignment -/

/-- Whether nodes stand one behind the other between two places. -/
def StandBetween (start stop : Nat) : List Node → Prop
  | [] => start ≤ stop
  | n :: ns => start ≤ n.start.index ∧ n.start.index ≤ n.stop.index ∧
      StandBetween n.stop.index stop ns

namespace StandBetween

variable {start stop start' stop' : Nat} {ns : List Node}

lemma mono (h : StandBetween start stop ns) (hstart : start' ≤ start) (hstop : stop ≤ stop') :
    StandBetween start' stop' ns := by
  induction ns generalizing start start' with
  | nil => exact Nat.le_trans hstart (Nat.le_trans h hstop)
  | cons n ns ih =>
    obtain ⟨hn, hle, hrest⟩ := h
    exact ⟨Nat.le_trans hstart hn, hle, ih hrest (Nat.le_refl _)⟩

lemma bounds (h : StandBetween start stop ns) :
    start ≤ stop ∧ ∀ n ∈ ns, start ≤ n.start.index ∧ n.stop.index ≤ stop := by
  induction ns generalizing start with
  | nil => exact ⟨h, by simp⟩
  | cons n ns ih =>
    obtain ⟨hn, hle, hrest⟩ := h
    obtain ⟨hstop, hns⟩ := ih hrest
    refine ⟨by omega, List.forall_mem_cons.mpr ⟨⟨hn, hstop⟩, fun m hm => ?_⟩⟩
    have hm := hns m hm
    omega

lemma pairwise (h : StandBetween start stop ns) :
    ns.Pairwise fun m n => m.stop.index ≤ n.start.index := by
  induction ns generalizing start with
  | nil => exact .nil
  | cons n ns ih =>
    obtain ⟨-, -, hrest⟩ := h
    exact List.pairwise_cons.mpr ⟨fun m hm => (hrest.bounds.2 m hm).1, ih hrest⟩

end StandBetween

mutual

/-- The targets of a chain and its value stand in the chain from left to right. -/
lemma standBetween_of_chainValue {n value : Node} (hlies : n.LiesIn source)
    (hsides : ∀ m ∈ n.preorder, m.HasSides) (hn : isUntypedAssignment n)
    (hvalue : chainValue? n = some value) :
    StandBetween n.start.index n.stop.index (chainTargets n ++ [value]) := by
  match n with
  | .node info children =>
    have hpart : ∀ m ∈ children, m.LiesIn source ∧ info.start.index ≤ m.start.index ∧
        m.stop.index ≤ info.stop.index := by
      intro m hm
      exact ⟨hlies.of_mem_children hm, hlies.between (Node.mem_preorder_self _)
        (Node.mem_preorder_of_mem_children hm)⟩
    obtain ⟨right, hright, hbetween⟩ := standBetween_of_valueOnRight
      (fun m hm => (hpart m hm).1) (fun m hm => hsides m (List.mem_cons_of_mem _ hm)) hvalue
    obtain ⟨-, hfrom, hto⟩ := hpart right (List.mem_of_find?_eq_some hright)
    rw [chainTargets]
    cases hleft : (Node.node info children).child? .left with
    | none => exact hbetween.mono hfrom hto
    | some left =>
      obtain ⟨hleftLies, hleftFrom, -⟩ := hpart left (List.mem_of_find?_eq_some hleft)
      have hsign := hsides _ (Node.mem_preorder_self _) hn left hleft right hright
      exact ⟨hleftFrom, hleftLies.start_le (Node.mem_preorder_self _), hbetween.mono hsign hto⟩

lemma standBetween_of_valueOnRight {ns : List Node} {value : Node}
    (hlies : ∀ m ∈ ns, m.LiesIn source) (hsides : ∀ m ∈ Node.preorderAll ns, m.HasSides)
    (hvalue : valueOnRight? ns = some value) :
    ∃ right ∈ ns.find? (·.hasRole .right),
      StandBetween right.start.index right.stop.index (targetsOnRight ns ++ [value]) := by
  match ns with
  | [] => cases hvalue
  | n :: ns =>
    obtain ⟨hn, hns⟩ := List.forall_mem_cons.mp hlies
    simp only [Node.preorderAll, List.forall_mem_append] at hsides
    rw [valueOnRight?] at hvalue
    rw [targetsOnRight]
    split_ifs at hvalue ⊢ with hrole huntyped
    · refine ⟨n, by simp [hrole], ?_⟩
      exact standBetween_of_chainValue hn hsides.1 huntyped hvalue
    · obtain rfl := Option.some.inj hvalue
      have hle := hn.start_le n.mem_preorder_self
      exact ⟨n, by simp [hrole], Nat.le_refl _, hle, Nat.le_refl _⟩
    · have hfind : (n :: ns).find? (·.hasRole .right) = ns.find? (·.hasRole .right) := by
        simp [hrole]
      rw [hfind]
      exact standBetween_of_valueOnRight hns hsides.2 hvalue

end

/-! ### Groups -/

/-- The groups hold every node once and in order. -/
lemma flatMap_groupsOf (before : Option (Node × List Node)) (ns : List Node) :
    (groupsOf before ns).flatMap (fun g => g.1 :: g.2) =
      before.toList.flatMap (fun g => g.1 :: g.2) ++ ns := by
  induction ns generalizing before with
  | nil => cases before <;> simp [groupsOf]
  | cons n ns ih =>
    rcases before with _ | ⟨head, comments⟩
    · simp [groupsOf, ih]
    · rw [groupsOf]
      split_ifs <;> simp [ih]

/-- What is in a group beside its first node are comments on the row where that one ends. -/
lemma attached_of_mem_groupsOf {before : Option (Node × List Node)} {ns : List Node}
    (hbefore : ∀ g ∈ before, ∀ c ∈ g.2, c.kind = .token .comment ∧ c.start.row = g.1.stop.row)
    {g : Node × List Node} (hg : g ∈ groupsOf before ns) :
    ∀ c ∈ g.2, c.kind = .token .comment ∧ c.start.row = g.1.stop.row := by
  induction ns generalizing before with
  | nil => exact hbefore g (by simpa [groupsOf] using hg)
  | cons n ns ih =>
    have hnext : ∀ g ∈ some (n, ([] : List Node)), ∀ c ∈ g.2,
        c.kind = .token .comment ∧ c.start.row = g.1.stop.row := by
      rintro g hg
      obtain rfl := Option.some.inj hg
      simp
    rcases before with _ | ⟨head, comments⟩
    · exact ih hnext hg
    · rw [groupsOf] at hg
      split_ifs at hg with hattached
      · refine ih ?_ hg
        rintro g hg
        obtain rfl := Option.some.inj hg
        simp only [List.forall_mem_append, List.forall_mem_singleton]
        exact ⟨hbefore _ rfl, by simpa using hattached⟩
      · rcases List.mem_cons.mp hg with rfl | hg
        · exact hbefore _ rfl
        · exact ih hnext hg

/-- Whether a comment that begins a group has no place in the group before it. -/
def Detached (head next : Node) : Prop :=
  next.kind = .token .comment → next.start.row ≠ head.stop.row

lemma isChain_groupsOf (before : Option (Node × List Node)) (ns : List Node) :
    ((groupsOf before ns).map Prod.fst).IsChain Detached ∧
      ∀ g ∈ before, ((groupsOf before ns).map Prod.fst).head? = some g.1 := by
  induction ns generalizing before with
  | nil => cases before <;> simp [groupsOf]
  | cons n ns ih =>
    have hnext := ih (some (n, []))
    rcases before with _ | ⟨head, comments⟩
    · exact ⟨hnext.1, by simp⟩
    · rw [groupsOf]
      split_ifs with hattached
      · simpa using ih (some (head, comments ++ [n]))
      · refine ⟨?_, by simp⟩
        refine hnext.1.cons fun next hhead => ?_
        rw [hnext.2 _ rfl] at hhead
        obtain rfl := Option.some.inj hhead
        simpa [Detached] using hattached

/-! ### Statements with their comments -/

/-- A node that becomes a statement, with the comment that is attached to it. -/
structure CommentedNode where
  head : Node
  comment : Option Node

namespace CommentedNode

def nodes (r : CommentedNode) : List Node := r.head :: r.comment.toList

/-- The statement with its comment. -/
def statement (source : String) (r : CommentedNode) : Statement :=
  (Statement.ofNode source r.head).attachAll source r.comment.toList

/-- The comment as it stands behind the statement. -/
def behind (source : String) (r : CommentedNode) : String :=
  (r.comment.map fun c => Assignment.spaced (c.text source)).getD ""

lemma renderedComments_toList (source : String) (r : CommentedNode) :
    renderedComments source r.comment.toList = r.behind source := by
  obtain ⟨head, comment⟩ := r
  cases comment <;> simp [renderedComments, behind, String.join_nil, String.join_cons]

/-- A statement that is no assignment is rendered as its text. -/
lemma render_of_not_assignment {r : CommentedNode}
    (h : ∀ a, Statement.ofNode source r.head ≠ .assignment a) :
    (r.statement source).render = r.head.text source ++ r.behind source := by
  have hrender : (Statement.ofNode source r.head).render = r.head.text source := by
    refine (Statement.exists_assignment_or_render_ofNode source r.head).resolve_left ?_
    rintro ⟨a, ha⟩
    exact h a ha
  rw [statement, (Statement.attachAll_ne_assignment h _).2, hrender, renderedComments_toList]

/-- An assignment is rendered as its targets, its value and its comment, from left to right. -/
lemma exists_render_of_assignment {r : CommentedNode} {a : Assignment}
    (hlies : r.head.LiesIn source) (hsides : ∀ m ∈ r.head.preorder, m.HasSides)
    (ha : Statement.ofNode source r.head = .assignment a) :
    ∃ value ∈ r.head.preorder,
      (r.statement source).render = renderedSides source (Statement.targetNodes r.head) ++
        value.text source ++ r.behind source ∧
      StandBetween r.head.start.index r.head.stop.index
        (Statement.targetNodes r.head ++ [value]) := by
  have htargets := Statement.targets_of_ofNode ha
  obtain ⟨only, honly, huntyped, hchain, hcomment⟩ :=
    Assignment.ofStatement?_eq_some (Statement.ofStatement?_of_ofNode ha).2
  obtain ⟨value, hmem, hvalue, htext, -, -⟩ := exists_chainValue hchain
  have hnodes : Statement.targetNodes r.head = chainTargets only := by
    simp [Statement.targetNodes, honly]
  have honlyMem : only ∈ r.head.preorder := Node.mem_preorder_of_mem_children
    (Node.mem_children_of_mem_namedChildren (honly ▸ List.mem_singleton_self only))
  have hsub := Node.preorder_subset_of_mem_preorder r.head honlyMem
  refine ⟨value, hsub hmem, ?_, ?_⟩
  · rw [statement, ha, Statement.attachAll_assignment, htext]
    obtain ⟨head, comment⟩ := r
    cases comment <;>
      simp [Statement.render, Assignment.render, htargets, hcomment, behind, renderedSides,
        Function.comp_def]
  · rw [hnodes]
    obtain ⟨hstart, hstop⟩ := hlies.between (Node.mem_preorder_self _) honlyMem
    exact (standBetween_of_chainValue (hlies.of_mem_preorder honlyMem)
      (fun m hm => hsides m (hsub hm)) huntyped hvalue).mono hstart hstop

end CommentedNode

namespace Python.Node.IsLaidOut

variable {tree : Node}

/-- No comment begins on the row on which a comment before it ends. -/
lemma row_lt_of_comments (h : tree.IsLaidOut source) {c d : Node} (hc : c ∈ tree.namedChildren)
    (hd : d ∈ tree.namedChildren) (hcComment : c.kind = .token .comment)
    (hdComment : d.kind = .token .comment) (hle : c.stop.index ≤ d.start.index) :
    c.stop.row < d.start.row := by
  rw [(h.rows c hc).2, (h.rows d hd).1]
  exact (h.comments c hc hcComment).rowAt_lt (h.comments d hd hdComment)
    (h.lies.of_mem_children (mem_children_of_mem_namedChildren hd)).stop_le hle

/-- A group has one comment at most, and then it does not begin with a comment. -/
lemma length_le_one (h : tree.IsLaidOut source) {g : Node × List Node}
    (hg : g ∈ groupsOf none tree.namedChildren) :
    g.2.length ≤ 1 ∧ ∀ c ∈ g.2, g.1.kind ≠ .token .comment := by
  have hattached := attached_of_mem_groupsOf (by simp) hg
  have hall := flatMap_groupsOf none tree.namedChildren
  have hsub : (g.1 :: g.2).Sublist tree.namedChildren := by
    rw [← List.nil_append tree.namedChildren]
    exact hall ▸ List.sublist_flatten_of_mem (List.mem_map_of_mem hg)
  have hmem : ∀ n ∈ g.1 :: g.2, n ∈ tree.namedChildren := fun n hn => hsub.subset hn
  obtain ⟨hhead, hrest⟩ := List.pairwise_cons.mp (h.ordered.sublist hsub)
  constructor
  · rcases hcs : g.2 with _ | ⟨c, _ | ⟨d, ds⟩⟩
    · exact Nat.zero_le 1
    · exact Nat.le_refl 1
    · rw [hcs] at hattached hmem hrest
      obtain ⟨hc, hcRow⟩ := hattached c (by simp)
      obtain ⟨hd, hdRow⟩ := hattached d (by simp)
      have hle := (List.pairwise_cons.mp hrest).1 d (by simp)
      have hlt := h.row_lt_of_comments (hmem c (by simp)) (hmem d (by simp)) hc hd hle
      have hrow := h.rows c (hmem c (by simp))
      have hmono := rowAt_mono source
        (Nat.le_of_lt (h.comments c (hmem c (by simp)) hc).start_lt)
      omega
  · intro c hc hheadComment
    obtain ⟨hcComment, hcRow⟩ := hattached c hc
    have hlt := h.row_lt_of_comments (hmem g.1 List.mem_cons_self)
      (hmem c (List.mem_cons_of_mem _ hc)) hheadComment hcComment (hhead c hc)
    omega

end Python.Node.IsLaidOut

/-- The statements of a tree that is laid out in its text are its named nodes in source order, each
once. A comment is attached exactly if it begins on the row where the statement before it ends, and
to this statement; none gets two. A statement is rendered as its own text, an assignment as its
targets and its value from left to right, and the comment stands behind it. -/
theorem ofTree_of_isLaidOut {tree : Node} (h : tree.IsLaidOut source) :
    ∃ rs : List CommentedNode, rs.flatMap CommentedNode.nodes = tree.namedChildren ∧
      Statement.ofTree source tree = rs.map (CommentedNode.statement source) ∧
      (∀ r ∈ rs, ∀ c ∈ r.comment, c.kind = .token .comment ∧ c.start.row = r.head.stop.row ∧
        r.head.kind ≠ .token .comment) ∧
      (rs.map CommentedNode.head).IsChain Detached ∧
      ∀ r ∈ rs,
        ((∀ a, Statement.ofNode source r.head ≠ .assignment a) →
          (r.statement source).render = r.head.text source ++ r.behind source) ∧
        ((∃ a, Statement.ofNode source r.head = .assignment a) →
          ∃ value ∈ r.head.preorder,
            (r.statement source).render = renderedSides source (Statement.targetNodes r.head) ++
              value.text source ++ r.behind source ∧
            StandBetween r.head.start.index r.head.stop.index
              (Statement.targetNodes r.head ++ [value])) := by
  let commented (g : Node × List Node) : CommentedNode := ⟨g.1, g.2.head?⟩
  have hgroups : ∀ g ∈ groupsOf none tree.namedChildren, g.2.head?.toList = g.2 := by
    intro g hg
    have hlength := (h.length_le_one hg).1
    rcases hcs : g.2 with _ | ⟨c, _ | ⟨d, ds⟩⟩
    · rfl
    · rfl
    · simp [hcs] at hlength
  have hnodes := flatMap_groupsOf none tree.namedChildren
  refine ⟨(groupsOf none tree.namedChildren).map commented, ?_, ?_, ?_, ?_, ?_⟩
  · rw [List.flatMap_map]
    refine Eq.trans (List.flatMap_congr fun g hg => ?_) hnodes
    rw [CommentedNode.nodes, hgroups g hg]
  · refine (ofNodes_eq_map_groupsOf none tree.namedChildren).trans ?_
    rw [List.map_map]
    refine List.map_congr_left fun g hg => ?_
    rw [Function.comp_apply, CommentedNode.statement, hgroups g hg]
    rfl
  · simp only [List.forall_mem_map]
    intro g hg c hc
    have hmem := List.mem_of_head? hc
    obtain ⟨hcomment, hrow⟩ := attached_of_mem_groupsOf (by simp) hg c hmem
    exact ⟨hcomment, hrow, (h.length_le_one hg).2 c hmem⟩
  · rw [List.map_map]
    exact (isChain_groupsOf none tree.namedChildren).1
  · simp only [List.forall_mem_map]
    intro g hg
    refine ⟨CommentedNode.render_of_not_assignment, ?_⟩
    rintro ⟨a, ha⟩
    have hmem : g.1 ∈ tree.namedChildren :=
      (mem_of_mem_groupsOf (by simp) (List.Subset.refl _) hg).1
    have hchild := Node.mem_children_of_mem_namedChildren hmem
    exact CommentedNode.exists_render_of_assignment (h.lies.of_mem_children hchild)
      (fun m hm => h.sides m (Node.preorder_subset_of_mem_children hchild hm)) ha

/-- The tree of `x = 1; f  # note` and of a comment below it. -/
def sharedRow : Node :=
  let part := Node.onLine 0 0
  .programOf 26 2 [
    part (.phrase .expressionStatement) none 0 5 [part (.phrase .assignment) none 0 5 [
      part (.token .identifier) (some .left) 0 1 [],
      part (.token .equals) none 2 3 [],
      part (.token .integer) (some .right) 4 5 []]],
    part (.token .semicolon) none 5 6 [],
    part (.phrase .expressionStatement) none 7 8 [part (.token .identifier) none 7 8 []],
    .node ⟨.token .comment, none, true, false, ⟨10, 10, 0, 10⟩, ⟨16, 16, 0, 16⟩⟩ [],
    .node ⟨.token .comment, none, true, false, ⟨17, 17, 1, 0⟩, ⟨25, 25, 1, 8⟩⟩ []]

/-- Of two statements on a row the second one has the comment; the comment below stands alone. -/
theorem ofTree_of_sharedRow :
    let source := "x = 1; f  # note\n# a note\n"
    sharedRow.IsLaidOut source ∧
      ∃ rs : List CommentedNode, rs.flatMap CommentedNode.nodes = sharedRow.namedChildren ∧
        rs.map (CommentedNode.statement source) =
          [.assignment ⟨[⟨"x", .name "x"⟩], "1", none⟩, .other "f  # note", .other "# a note"] := by
  intro source
  have hstart : ∀ m ∈ sharedRow.preorder, m.start.index ≤ m.stop.index := by decide
  have hbetween : ∀ m ∈ sharedRow.preorder, ∀ d ∈ m.preorder,
      m.start.index ≤ d.start.index ∧ d.stop.index ≤ m.stop.index := by decide
  have hlies : sharedRow.LiesIn source :=
    ⟨hstart _, fun hm hd => hbetween _ hm _ hd, by decide⟩
  have hlaid : sharedRow.IsLaidOut source :=
    ⟨hlies, by decide, by decide, by decide, by decide⟩
  obtain ⟨rs, hnodes, hstatements, -⟩ := ofTree_of_isLaidOut hlaid
  exact ⟨hlaid, rs, hnodes, hstatements.symm.trans (by decide)⟩

end NotebookExport
