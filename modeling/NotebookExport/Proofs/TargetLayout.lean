import NotebookExport.Proofs.RemovalRule

/-!
# Layouts of targets

A target is made of names and of places to assign to, grouped to any depth. In source code comments
and continued lines may stand anywhere between its tokens, and the tree keeps them among the parts
of the groups. They take nothing away from the names that the target binds, and comments change
nothing at all. A line continued inside of a group, however, is taken for a part that is no name:
the target counts as a place and stays, whatever names are read.
-/

namespace NotebookExport

open Python

variable {source : String} {n : Node}

/-! ### Targets and their layouts -/

/-- A target by what it is made of. -/
inductive TargetForm where
  | name (text : String)
  /-- A member or an item of an object. -/
  | place
  /-- A tuple, a list or a row of targets, a starred target, or a target in parentheses. -/
  | group (parts : List TargetForm)

namespace TargetForm

mutual

/-- The names in a target, in source order. -/
def names : TargetForm → List String
  | .name text => [text]
  | .place => []
  | .group parts => namesOfAll parts

def namesOfAll : List TargetForm → List String
  | [] => []
  | t :: ts => t.names ++ namesOfAll ts

end

mutual

/-- Whether a place stands anywhere in a target. -/
def hasPlace : TargetForm → Bool
  | .name _ => false
  | .place => true
  | .group parts => anyHasPlace parts

def anyHasPlace : List TargetForm → Bool
  | [] => false
  | t :: ts => t.hasPlace || anyHasPlace ts

end

/-- What a target of a form is: a name, a place if one stands anywhere in it, or else a pattern. -/
def shape : TargetForm → Target.Shape
  | .name text => .name text
  | .place => .place
  | .group parts => if anyHasPlace parts then .place else .pattern (namesOfAll parts)

end TargetForm

/-- Whether a phrase groups targets. -/
def Python.Phrase.IsTargetGroup (p : Phrase) : Prop :=
  p = .tuplePattern ∨ p = .listPattern ∨ p = .patternList ∨ p = .listSplatPattern ∨
    p = .parenthesizedExpression

/-- A token that may stand between the parts of a target: a mark, a comment, or the end of a line
that is continued. -/
structure IsBetweenParts (n : Node) : Prop where
  isToken : n.children = []
  kind : n.isNamed = false ∨ n.kind = .token .comment ∨ n.kind = .token .lineContinuation

mutual

/-- A node is a target in some layout. -/
inductive LaysOut (source : String) : TargetForm → Node → Prop
  | name {n : Node} (hkind : n.kind = .token .identifier) (htoken : n.children = []) :
      LaysOut source (.name (n.text source)) n
  | place {n : Node} (hkind : n.kind = .phrase .memberAccess ∨ n.kind = .phrase .subscript) :
      LaysOut source .place n
  | group {n : Node} {p : Phrase} {parts : List TargetForm} (hkind : n.kind = .phrase p)
      (hgroup : p.IsTargetGroup) (hparts : LayOut source parts n.children) :
      LaysOut source (.group parts) n

/-- Some nodes are targets in a row, with tokens between them. -/
inductive LayOut (source : String) : List TargetForm → List Node → Prop
  | nil : LayOut source [] []
  | between {parts : List TargetForm} {n : Node} {ns : List Node} (hn : IsBetweenParts n)
      (hrest : LayOut source parts ns) : LayOut source parts (n :: ns)
  | part {t : TargetForm} {parts : List TargetForm} {n : Node} {ns : List Node}
      (hpart : LaysOut source t n) (hrest : LayOut source parts ns) :
      LayOut source (t :: parts) (n :: ns)

end

lemma IsBetweenParts.mark (htoken : n.children = []) (hnamed : n.isNamed = false) :
    IsBetweenParts n := ⟨htoken, .inl hnamed⟩

lemma LaysOut.named (text : String) (hkind : n.kind = .token .identifier)
    (htoken : n.children = []) (htext : n.text source = text) : LaysOut source (.name text) n :=
  htext ▸ .name hkind htoken

/-- Whether a line is continued inside of a node. -/
def Python.Node.continuesLine (n : Node) : Bool :=
  n.preorder.any fun m => m.kind = .token .lineContinuation

/-! ### What a layout binds -/

lemma isTargetPattern_iff {p : Phrase} : isTargetPattern p ↔ p.IsTargetGroup := by
  cases p <;> simp [isTargetPattern, Phrase.IsTargetGroup]

lemma boundBy_of_isTargetGroup {p : Phrase} (hkind : n.kind = .phrase p) (hp : p.IsTargetGroup) :
    boundBy source n = boundByParts source n.children :=
  boundBy_of_pattern hkind (isTargetPattern_iff.mpr hp)

lemma boundBy_of_place (hkind : n.kind = .phrase .memberAccess ∨ n.kind = .phrase .subscript) :
    boundBy source n = ⟨[], false⟩ := by
  rcases hkind with hkind | hkind
  · exact boundBy_of_neither (by simp [hkind]) (by simp [hkind, isTargetPattern])
  · exact boundBy_of_neither (by simp [hkind]) (by simp [hkind, isTargetPattern])

/-- What stands between parts binds nothing, and only a continued line counts as something else. -/
lemma boundByParts_cons_of_between (hn : IsBetweenParts n) (ns : List Node) :
    boundByParts source (n :: ns) =
      ⟨(boundByParts source ns).names,
        !n.continuesLine && (boundByParts source ns).onlyNames⟩ := by
  obtain ⟨info, children⟩ := n
  obtain ⟨htoken, hkind⟩ := hn
  obtain rfl : children = [] := htoken
  rw [boundByParts]
  rcases hkind with hmark | hcomment | hcontinued
  · have hother : info.kind ≠ .token .lineContinuation := by
      intro hinfo
      simp [Node.isNamed, Node.kind, Node.info, hinfo, Kind.isNamed, Token.isNamed] at hmark
    simp [hmark, Node.continuesLine, Node.preorder, Node.preorderAll, Node.kind, Node.info, hother]
  · have hinfo : info.kind = .token .comment := hcomment
    simp [Node.continuesLine, Node.preorder, Node.preorderAll, Node.kind, Node.info, hinfo]
  · have hinfo : info.kind = .token .lineContinuation := hcontinued
    simp [Node.continuesLine, Node.preorder, Node.preorderAll, Node.kind, Node.info, hinfo,
      Node.isNamed, Kind.isNamed, Token.isNamed, boundBy, Bound.append]

lemma LaysOut.isPart {t : TargetForm} (h : LaysOut source t n) :
    (n.isNamed && n.kind ≠ .token .comment) = true := by
  cases h with
  | name hkind => simp [Node.isNamed, hkind, Kind.isNamed, Token.isNamed]
  | place hkind =>
    rcases hkind with hkind | hkind <;> simp [Node.isNamed, hkind, Kind.isNamed, Phrase.isNamed]
  | group hkind hgroup =>
    rcases hgroup with rfl | rfl | rfl | rfl | rfl <;>
      simp [Node.isNamed, hkind, Kind.isNamed, Phrase.isNamed]

lemma LayOut.continuesLine_cons (n : Node) (ns : List Node) :
    ((Node.preorderAll (n :: ns)).any fun m => m.kind = .token .lineContinuation) =
      (n.continuesLine ||
        (Node.preorderAll ns).any fun m => m.kind = .token .lineContinuation) := by
  rw [Node.preorderAll, List.any_append]
  rfl

mutual

/-- However a target is laid out, it binds its names. It does nothing else if no place is in it and
no line is continued. -/
lemma boundBy_of_laysOut {t : TargetForm} {n : Node} (h : LaysOut source t n) :
    boundBy source n = ⟨t.names, !t.hasPlace && !n.continuesLine⟩ := by
  match h with
  | .name hkind htoken =>
    obtain ⟨info, children⟩ := n
    obtain rfl : children = [] := htoken
    have hinfo : info.kind = .token .identifier := hkind
    rw [boundBy_of_identifier hkind]
    simp [TargetForm.names, TargetForm.hasPlace, Node.continuesLine, Node.preorder,
      Node.preorderAll, Node.kind, Node.info, hinfo]
  | .place hkind =>
    rw [boundBy_of_place hkind]
    simp [TargetForm.names, TargetForm.hasPlace]
  | .group (p := p) hkind hgroup hparts =>
    have hall := boundByParts_of_layOut hparts
    obtain ⟨info, children⟩ := n
    have hinfo : info.kind = .phrase p := hkind
    rw [boundBy_of_isTargetGroup hkind hgroup, hall]
    simp [TargetForm.names, TargetForm.hasPlace, Node.continuesLine, Node.preorder, Node.kind,
      Node.info, Node.children, hinfo]

lemma boundByParts_of_layOut {ts : List TargetForm} {ns : List Node} (h : LayOut source ts ns) :
    boundByParts source ns = ⟨TargetForm.namesOfAll ts, !TargetForm.anyHasPlace ts &&
      !(Node.preorderAll ns).any fun m => m.kind = .token .lineContinuation⟩ := by
  match h with
  | .nil => rfl
  | .between (n := n) hn hrest =>
    have hall := boundByParts_of_layOut hrest
    rw [boundByParts_cons_of_between hn, hall, LayOut.continuesLine_cons]
    simp only [Bound.mk.injEq, true_and]
    grind
  | .part (n := n) hpart hrest =>
    have hhead := boundBy_of_laysOut hpart
    have hall := boundByParts_of_layOut hrest
    rw [boundByParts, if_pos hpart.isPart, hhead, hall, LayOut.continuesLine_cons]
    simp only [Bound.append, TargetForm.namesOfAll, TargetForm.anyHasPlace, Bound.mk.injEq,
      true_and]
    grind

end

lemma LaysOut.continuesLine_name {text : String} (h : LaysOut source (.name text) n) :
    n.kind = .token .identifier ∧ text = n.text source ∧ n.continuesLine = false := by
  cases h with
  | name hkind htoken =>
    obtain ⟨info, children⟩ := n
    obtain rfl : children = [] := htoken
    have hinfo : info.kind = .token .identifier := hkind
    simp [Node.continuesLine, Node.preorder, Node.preorderAll, Node.kind, Node.info, hinfo]

lemma Target.ofNode_of_not_identifier (h : n.kind ≠ .token .identifier) :
    ofNode source n =
      ⟨n.text source, if (boundBy source n).onlyNames then .pattern (boundBy source n).names
        else .place⟩ := by
  unfold ofNode
  split
  case h_1 hkind => exact absurd hkind h
  case h_2 => rfl

/-- A target is what its form says, unless a line is continued inside of it. -/
lemma shape_of_laysOut {t : TargetForm} (h : LaysOut source t n) :
    (Target.ofNode source n).shape = if n.continuesLine then .place else t.shape := by
  cases t with
  | name text =>
    obtain ⟨hkind, rfl, hline⟩ := h.continuesLine_name
    simp [Target.ofNode, hkind, hline, TargetForm.shape]
  | place =>
    have hbound := boundBy_of_laysOut h
    cases h with
    | place hkind =>
      have hother : n.kind ≠ .token .identifier := by
        rcases hkind with hkind | hkind <;> simp [hkind]
      rw [Target.ofNode_of_not_identifier hother, hbound]
      simp [TargetForm.hasPlace, TargetForm.shape]
  | group parts =>
    have hbound := boundBy_of_laysOut h
    cases h with
    | group hkind =>
      have hother : n.kind ≠ .token .identifier := by simp [hkind]
      rw [Target.ofNode_of_not_identifier hother, hbound]
      simp only [TargetForm.hasPlace, TargetForm.names, TargetForm.shape]
      grind

/-! ### What becomes of a target -/

/-- Comments between the parts of a target change nothing: it is a name or a pattern of its names if
no place is in it, and goes exactly if none of its names is read. A place anywhere in it makes it
stay, and so does a line that is continued inside of a group, though the target binds the same
names. -/
theorem target_of_layout {tree statement left : Node} {a : Assignment} {t : TargetForm}
    (hstatement : statement ∈ tree.namedChildren)
    (ha : Statement.ofNode source statement = .assignment a)
    (hleft : left ∈ Statement.targetNodes statement) (hlayout : LaysOut source t left) :
    let usage := NameUsage.ofTree source tree
    let target := Target.ofNode source left
    target ∈ a.targets ∧ (boundBy source left).names = t.names ∧
    (∀ name ∈ t.names, name ∈ usage.bound) ∧
    (t.hasPlace = false → left.continuesLine = false →
      (target.shape = .pattern t.names ∨ ∃ text, t = .name text ∧ target.shape = .name text) ∧
      (t.names ≠ [] →
        (target.isLive usage.unread = false ↔ ∀ name ∈ t.names, name ∉ usage.read)) ∧
      ∀ source' other, LaysOut source' t other → other.continuesLine = false →
        (Target.ofNode source' other).shape = target.shape) ∧
    (left.continuesLine → target.shape = .place ∧ target.isLive usage.unread) ∧
    (t.hasPlace → target.shape = .place ∧ target.isLive usage.unread) := by
  intro usage target
  have hbound := boundBy_of_laysOut hlayout
  have hshape := shape_of_laysOut hlayout
  have hnames : ∀ name ∈ t.names, name ∈ usage.bound := by
    intro name hname
    have hname' : name ∈ (boundBy source left).names := by rwa [hbound]
    exact Node.mem_boundNames_of_mem_children
      (Node.mem_children_of_mem_namedChildren hstatement)
      (Statement.mem_boundNames_of_targetNodes ha hleft hname')
  have hplace : target.shape = .place → target.isLive usage.unread := by
    intro h
    simp [Target.isLive, h]
  refine ⟨?_, by rw [hbound], hnames, ?_, ?_, ?_⟩
  · rw [Statement.targets_of_ofNode ha]
    exact List.mem_map_of_mem hleft
  · intro hnone hline
    have hform : target.shape = t.shape := by rw [hshape, hline]; rfl
    have hrecorded : target.names = t.names := by
      rw [Target.names_ofNode, hbound, hnone, hline]
      rfl
    refine ⟨?_, ?_, ?_⟩
    · cases t with
      | name text => exact .inr ⟨text, rfl, hform⟩
      | place => simp [TargetForm.hasPlace] at hnone
      | group parts =>
        have hparts : TargetForm.anyHasPlace parts = false := hnone
        exact .inl (by rw [hform, TargetForm.shape, hparts]; rfl)
    · intro hne
      rw [Target.isLive_eq_not_goes (hrecorded ▸ hnames), Bool.not_eq_false', Target.goes_iff,
        hrecorded, and_iff_right hne]
    · intro source' other hother hline'
      rw [shape_of_laysOut hother, hline', hform]
      rfl
  · intro hline
    have hform : target.shape = .place := by rw [hshape, hline]; rfl
    exact ⟨hform, hplace hform⟩
  · intro hsome
    have hform : target.shape = .place := by
      rw [hshape]
      cases t with
      | name text => simp [TargetForm.hasPlace] at hsome
      | place => simp [TargetForm.shape]
      | group parts =>
        have hparts : TargetForm.anyHasPlace parts = true := hsome
        simp [TargetForm.shape, hparts]
    exact ⟨hform, hplace hform⟩

/-! ### A pattern on two lines -/

/-- A place in a text of single-byte characters. -/
def placeAt (index row column : Nat) : Text.Position := ⟨index, index, row, column⟩

/-- An assignment from the beginning of a text to the place behind its value. -/
def assignmentFrom (target sign value : Node) : Node :=
  let upTo (kind : Phrase) (children : List Node) : Node :=
    .node ⟨.phrase kind, none, false, false, .origin, value.stop⟩ children
  upTo .expressionStatement [upTo .assignment [target, sign, value]]

/-- The target of `(a, #c` and `b) = 1` on the line below. -/
def commentedPattern : Node :=
  .node ⟨.phrase .tuplePattern, some .left, false, false, .origin, placeAt 9 1 2⟩ [
    .onLine 0 0 (.token .lparen) none 0 1 [],
    .onLine 0 0 (.token .identifier) none 1 2 [],
    .onLine 0 0 (.token .comma) none 2 3 [],
    .node ⟨.token .comment, none, true, false, placeAt 4 0 4, placeAt 6 0 6⟩ [],
    .onLine 7 1 (.token .identifier) none 0 1 [],
    .onLine 7 1 (.token .rparen) none 1 2 []]

/-- The statement on these two lines. -/
def commentedAssignment : Node :=
  assignmentFrom commentedPattern (.onLine 7 1 (.token .equals) none 3 4 [])
    (.onLine 7 1 (.token .integer) (some .right) 5 6 [])

/-- A comment inside of a pattern does not keep it from going. -/
theorem commented_pattern_goes :
    let source := "(a, #c\nb) = 1\n"
    let tree := Node.programOf 14 2 [commentedAssignment]
    let usage := NameUsage.ofTree source tree
    LaysOut source (.group [.name "a", .name "b"]) commentedPattern ∧
      (Target.ofNode source commentedPattern).shape = .pattern ["a", "b"] ∧
      (Target.ofNode source commentedPattern).isLive usage.unread = false := by
  intro source tree usage
  have hlayout : LaysOut source (.group [.name "a", .name "b"]) commentedPattern :=
    .group rfl (.inl rfl) <| .between (.mark rfl rfl) <|
      .part (.named "a" rfl rfl (by decide +kernel)) <| .between (.mark rfl rfl) <|
      .between ⟨rfl, .inr (.inl rfl)⟩ <| .part (.named "b" rfl rfl (by decide +kernel)) <|
      .between (.mark rfl rfl) .nil
  have ha : Statement.ofNode source commentedAssignment =
      .assignment ⟨[⟨"(a, #c\nb)", .pattern ["a", "b"]⟩], "1", none⟩ := by decide +kernel
  have hmem : commentedAssignment ∈ tree.namedChildren := List.mem_cons_self
  obtain ⟨-, -, -, hcomments, -⟩ := target_of_layout hmem ha List.mem_cons_self hlayout
  obtain ⟨hshape, hfate, -⟩ := hcomments rfl rfl
  refine ⟨hlayout, ?_, (hfate (by decide)).mpr (by decide)⟩
  obtain h | ⟨text, h, -⟩ := hshape
  · exact h
  · cases h

/-- The statement of `a, \` and `b = 1` on the line below. -/
def continuedAssignment : Node :=
  assignmentFrom
    (.node ⟨.phrase .patternList, some .left, false, false, .origin, placeAt 6 1 1⟩ [
      .onLine 0 0 (.token .identifier) none 0 1 [],
      .onLine 0 0 (.token .comma) none 1 2 [],
      .node ⟨.token .lineContinuation, none, true, false, placeAt 3 0 3, placeAt 5 1 0⟩ [],
      .onLine 5 1 (.token .identifier) none 0 1 []])
    (.onLine 5 1 (.token .equals) none 2 3 []) (.onLine 5 1 (.token .integer) (some .right) 4 5 [])

/-- A pattern of two names that are not read stays if a line is continued between them. -/
theorem continued_pattern_stays :
    let source := "a, \\\nb = 1\n"
    let tree := Node.programOf 11 2 [continuedAssignment]
    ∃ target, Statement.targetNodes continuedAssignment = [target] ∧
      LaysOut source (.group [.name "a", .name "b"]) target ∧
      (∀ name ∈ ["a", "b"], name ∉ tree.readNames source) ∧
      Target.ofNode source target = ⟨"a, \\\nb", .place⟩ ∧
      prune (fun _ => .ok tree) source = .ok ⟨source, [], ["a", "b"], none⟩ := by
  intro source tree
  refine ⟨_, rfl, ?_, by decide +kernel, by decide +kernel, by decide +kernel⟩
  exact .group rfl (.inr (.inr (.inl rfl))) <| .part (.named "a" rfl rfl (by decide +kernel)) <|
    .between (.mark rfl rfl) <| .between ⟨rfl, .inr (.inr rfl)⟩ <|
    .part (.named "b" rfl rfl (by decide +kernel)) .nil

end NotebookExport
