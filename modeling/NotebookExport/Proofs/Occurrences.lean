import NotebookExport.Proofs.Targets

/-!
# Occurrences of names

A name occurs in a syntax tree at a leaf, and the way from the root down to the leaf says what the
name is there for. A way is a list of steps, each from a node to one of its children; a step knows
the children before, and with them in which roles the child is the first.

`Node.occurrences` lists the names of a tree in source order, and `Node.mem_occurrences` says that
these are the names to which a way leads. Of the grammar the theory of names needs only what
`Node.isInShape` says of each node; the tree of every text that is Python has this shape
(`isSyntaxTree_of_parse`).
-/

namespace NotebookExport

open Python

/-- A step down a syntax tree, from a node to one of its children. -/
structure Branch where
  parent : Node
  /-- The children before the one that the step leads to. -/
  before : List Node
  child : Node

namespace Branch

/-- Whether the child is the first one in a role. -/
def isFirst (b : Branch) (role : Field) : Bool :=
  b.child.hasRole role && !b.before.any (·.hasRole role)

/-- The phrase that the step goes down from. -/
def phrase? (b : Branch) : Option Phrase :=
  match b.parent.kind with
  | .phrase p => some p
  | _ => none

lemma phrase?_eq_some {b : Branch} {p : Phrase} :
    b.phrase? = some p ↔ b.parent.kind = .phrase p := by
  unfold phrase?
  split
  case h_1 hkind => simp [hkind]
  case h_2 hkind => exact iff_of_false nofun (hkind p)

lemma hasRole_of_isFirst {b : Branch} {role : Field} (h : b.isFirst role) :
    b.child.hasRole role := by
  rw [isFirst, Bool.and_eq_true] at h
  exact h.1

/-- Whether a step goes down from a node. -/
def StartsAt (b : Branch) (n : Node) : Prop :=
  b.parent = n ∧ ∃ after, n.children = b.before ++ b.child :: after

lemma StartsAt.mem_children {b : Branch} {n : Node} (h : b.StartsAt n) : b.child ∈ n.children := by
  obtain ⟨-, after, hsplit⟩ := h
  rw [hsplit]
  exact List.mem_append_right _ List.mem_cons_self

/-- A node plays at most one role. -/
lemma eq_of_isFirst {b : Branch} {role other : Field} (h : b.isFirst role)
    (hother : b.isFirst other) : role = other := by
  have hrole := Node.hasRole_iff.mp (hasRole_of_isFirst h)
  have hrole' := Node.hasRole_iff.mp (hasRole_of_isFirst hother)
  exact Option.some.inj (hrole.symm.trans hrole')

end Branch

/-- A name in a syntax tree with the way down to it. -/
structure Occurrence where
  path : List Branch
  name : Node

namespace Occurrence

def text (source : String) (o : Occurrence) : String := o.name.text source

/-- The same name, seen from one step further up. -/
def below (b : Branch) (o : Occurrence) : Occurrence := ⟨b :: o.path, o.name⟩

end Occurrence

namespace Python.Node

/-- Whether a node is a name. A name that holds other named nodes stands for these. -/
def isName (n : Node) : Bool := n.kind = .token .identifier && !n.children.any isNamed

mutual

/-- The names in a tree, in source order. -/
def occurrences : Node → List Occurrence
  | .node info children =>
    (if (Node.node info children).isName then [⟨[], .node info children⟩] else []) ++
      occurrencesBelow (.node info children) [] children

/-- The names below a node, in the children after the given ones. -/
def occurrencesBelow (parent : Node) (before : List Node) : List Node → List Occurrence
  | [] => []
  | n :: ns =>
    n.occurrences.map (·.below ⟨parent, before, n⟩) ++ occurrencesBelow parent (before ++ [n]) ns

end

/-! ### Ways down a tree -/

/-- Whether a list of steps leads from one node down to another. -/
def Descends : Node → List Branch → Node → Prop
  | n, [], m => m = n
  | n, b :: path, m => b.StartsAt n ∧ Descends b.child path m

lemma descends_append {n m : Node} {path rest : List Branch} :
    Descends n (path ++ rest) m ↔ ∃ k, Descends n path k ∧ Descends k rest m := by
  induction path generalizing n with
  | nil => simp [Descends]
  | cons b path ih => simp [Descends, ih, and_assoc]

lemma sizeOf_lt_of_mem_children {n c : Node} (h : c ∈ n.children) : sizeOf c < sizeOf n := by
  obtain ⟨info, children⟩ := n
  have hlt : sizeOf c < sizeOf children := List.sizeOf_lt_of_mem h
  simp only [node.sizeOf_spec]
  omega

/-- To each child of a node there is a step. -/
lemma exists_startsAt (n : Node) {c : Node} (h : c ∈ n.children) :
    ∃ b : Branch, b.StartsAt n ∧ b.child = c := by
  obtain ⟨before, after, hsplit⟩ := List.append_of_mem h
  exact ⟨⟨n, before, c⟩, ⟨rfl, after, hsplit⟩, rfl⟩

lemma exists_mem_children_iff {n : Node} {P : Node → Prop} :
    (∃ c ∈ n.children, P c) ↔ ∃ b : Branch, b.StartsAt n ∧ P b.child := by
  constructor
  · rintro ⟨c, hc, h⟩
    obtain ⟨b, hb, rfl⟩ := n.exists_startsAt hc
    exact ⟨b, hb, h⟩
  · rintro ⟨b, hb, h⟩
    exact ⟨b.child, hb.mem_children, h⟩

/-- A way down is a way to a node of the tree. -/
lemma Descends.mem_preorder {n m : Node} {path : List Branch} (h : Descends n path m) :
    m ∈ n.preorder := by
  induction path generalizing n with
  | nil => exact h ▸ m.mem_preorder_self
  | cons b path ih => exact preorder_subset_of_mem_children h.1.mem_children (ih h.2)

/-- To each node of a tree there is a way. -/
lemma exists_descends {n m : Node} (h : m ∈ n.preorder) : ∃ path, Descends n path m := by
  have hsplit : m = n ∨ ∃ c ∈ n.children, m ∈ c.preorder := by
    obtain ⟨info, children⟩ := n
    rwa [preorder, preorderAll_eq_flatMap, List.mem_cons, List.mem_flatMap] at h
  rcases hsplit with rfl | ⟨c, hc, hm⟩
  · exact ⟨[], rfl⟩
  · have hsize := sizeOf_lt_of_mem_children hc
    obtain ⟨path, hpath⟩ := exists_descends hm
    obtain ⟨b, hb, rfl⟩ := n.exists_startsAt hc
    exact ⟨b :: path, hb, hpath⟩
termination_by sizeOf n

/-- The first child in a role is the one to which the step in that role leads. -/
lemma child?_eq_some_iff {n c : Node} {role : Field} :
    n.child? role = some c ↔ ∃ b : Branch, b.StartsAt n ∧ b.isFirst role ∧ b.child = c := by
  rw [child?, List.find?_eq_some_iff_append]
  constructor
  · rintro ⟨hrole, before, after, hsplit, hbefore⟩
    refine ⟨⟨n, before, c⟩, ⟨rfl, after, hsplit⟩, ?_, rfl⟩
    simpa [Branch.isFirst, hrole] using hbefore
  · rintro ⟨b, ⟨-, after, hsplit⟩, hfirst, rfl⟩
    simp only [Branch.isFirst, Bool.and_eq_true, Bool.not_eq_true', List.any_eq_false] at hfirst
    exact ⟨hfirst.1, b.before, after, hsplit, by simpa using hfirst.2⟩

/-! ### The listed names are those of the leaves -/

lemma mem_occurrencesBelow {parent : Node} {before ns : List Node} {o : Occurrence} :
    o ∈ occurrencesBelow parent before ns ↔
      ∃ (left : List Node) (c : Node) (right : List Node), ns = left ++ c :: right ∧
        ∃ o' ∈ c.occurrences, o'.below ⟨parent, before ++ left, c⟩ = o := by
  induction ns generalizing before with
  | nil => simp [occurrencesBelow]
  | cons n ns ih =>
    rw [occurrencesBelow, List.mem_append, List.mem_map, ih]
    constructor
    · rintro (⟨o', ho', rfl⟩ | ⟨left, c, right, rfl, o', ho', rfl⟩)
      · exact ⟨[], n, ns, rfl, o', ho', by rw [List.append_nil]⟩
      · exact ⟨n :: left, c, right, rfl, o', ho', by simp⟩
    · rintro ⟨left, c, right, hsplit, o', ho', rfl⟩
      cases left with
      | nil =>
        obtain ⟨rfl, rfl⟩ := List.cons_eq_cons.mp hsplit
        exact .inl ⟨o', ho', by rw [List.append_nil]⟩
      | cons m left =>
        obtain ⟨rfl, rfl⟩ := List.cons_eq_cons.mp hsplit
        exact .inr ⟨left, c, right, rfl, o', ho', by simp⟩

/-- The names of a tree are the leaves that are names, each with the way to it. -/
theorem mem_occurrences {n : Node} {o : Occurrence} :
    o ∈ n.occurrences ↔ Descends n o.path o.name ∧ o.name.isName := by
  obtain ⟨path, name⟩ := o
  induction path generalizing n with
  | nil =>
    obtain ⟨info, children⟩ := n
    rw [occurrences, List.mem_append, mem_occurrencesBelow]
    simp only [Occurrence.below, Occurrence.mk.injEq, reduceCtorEq, false_and, and_false,
      exists_false, or_false, Descends]
    split_ifs with hname
    · simp only [List.mem_singleton, Occurrence.mk.injEq, true_and]
      exact ⟨fun h => ⟨h, h ▸ hname⟩, And.left⟩
    · simp only [List.not_mem_nil, false_iff, not_and]
      rintro rfl
      exact hname
  | cons b path ih =>
    obtain ⟨info, children⟩ := n
    have hroot : (⟨b :: path, name⟩ : Occurrence) ∉
        if (Node.node info children).isName then [⟨[], .node info children⟩] else [] := by
      split_ifs <;> simp
    rw [occurrences, List.mem_append, mem_occurrencesBelow, or_iff_right hroot]
    constructor
    · rintro ⟨left, c, right, hsplit, ⟨path', name'⟩, ho', heq⟩
      obtain ⟨hb, rfl⟩ := Occurrence.mk.inj heq
      obtain ⟨rfl, rfl⟩ := List.cons_eq_cons.mp hb
      obtain ⟨hdescends, hname⟩ := ih.mp ho'
      exact ⟨⟨⟨rfl, right, hsplit⟩, hdescends⟩, hname⟩
    · rintro ⟨⟨⟨hparent, after, hsplit⟩, hdescends⟩, hname⟩
      refine ⟨b.before, b.child, after, hsplit, ⟨path, name⟩, ih.mpr ⟨hdescends, hname⟩, ?_⟩
      rw [List.nil_append, ← hparent]
      rfl

lemma occurrences_eq_below {n : Node} (h : n.kind ≠ .token .identifier) :
    n.occurrences = occurrencesBelow n [] n.children := by
  have hname : n.isName = false := by simp [isName, h]
  obtain ⟨info, children⟩ := n
  rw [occurrences, hname]
  rfl

end Python.Node

/-! ### What the grammar says -/

/-- What the grammar says of a part in a role, as far as names are concerned: definitions have a
name, functions have parameters, annotations stand apart from names, and the marks between
parameters are no names. -/
def Python.Phrase.allowsPart (p : Phrase) (role : Option Field) (kind : Kind) : Bool :=
  match p with
  | .functionDefinition =>
    (role ≠ some .name || kind = .token .identifier) &&
      (role ≠ some .parameters || kind = .phrase .parameters)
  | .classDefinition => role ≠ some .name || kind = .token .identifier
  | .typedParameter =>
    (role ≠ some .declaredType && role ≠ some .value) || kind = .phrase .typeExpression
  | .keywordSeparator | .positionalSeparator =>
    match kind with
    | .token t => t ≠ .identifier
    | _ => false
  | _ => true

namespace Python.Node

/-- The marks between parameters. -/
def isSeparator (n : Node) : Bool :=
  match n.kind with
  | .phrase .keywordSeparator | .phrase .positionalSeparator => true
  | _ => false

/-- Whether the parts of a node are those that the grammar allows. Tokens have no parts. -/
def isInShape (n : Node) : Bool :=
  match n.kind with
  | .token _ => n.children.isEmpty
  | .phrase p => n.children.all fun c => p.allowsPart c.role? c.kind
  | .error => true

/-- Whether a tree can be that of a text, faulty ones included. -/
def IsSyntaxTree (tree : Node) : Prop := ∀ n ∈ tree.preorder, n.isInShape

instance (tree : Node) : Decidable tree.IsSyntaxTree :=
  inferInstanceAs (Decidable (∀ n ∈ tree.preorder, n.isInShape = true))

namespace IsSyntaxTree

variable {n m c : Node}

lemma inShape (h : n.IsSyntaxTree) : n.isInShape := h n n.mem_preorder_self

lemma of_mem_children (h : n.IsSyntaxTree) (hc : c ∈ n.children) : c.IsSyntaxTree :=
  fun m hm => h m (preorder_subset_of_mem_children hc hm)

lemma of_descends {path : List Branch} (h : n.IsSyntaxTree) (hpath : Descends n path m) :
    m.IsSyntaxTree := by
  induction path generalizing n with
  | nil => exact hpath ▸ h
  | cons b path ih => exact ih (h.of_mem_children hpath.1.mem_children) hpath.2

lemma children_of_token (h : n.IsSyntaxTree) {t : Token} (hkind : n.kind = .token t) :
    n.children = [] := by
  have hshape := h.inShape
  simp only [isInShape, hkind, List.isEmpty_iff] at hshape
  exact hshape

lemma isName_iff (h : n.IsSyntaxTree) : n.isName ↔ n.kind = .token .identifier := by
  unfold isName
  constructor
  · intro hname
    simp only [Bool.and_eq_true, decide_eq_true_eq] at hname
    exact hname.1
  · intro hkind
    simp [hkind, h.children_of_token hkind]

lemma occurrences_of_token (h : n.IsSyntaxTree) {t : Token} (hkind : n.kind = .token t) :
    n.occurrences = if t = .identifier then [⟨[], n⟩] else [] := by
  have hchildren := h.children_of_token hkind
  have hname : n.isName ↔ t = .identifier := by rw [h.isName_iff, hkind, Kind.token.injEq]
  obtain ⟨info, children⟩ := n
  obtain rfl : children = [] := hchildren
  simp only [occurrences, occurrencesBelow, hname, List.append_nil]

lemma allowsPart (h : n.IsSyntaxTree) {p : Phrase} (hkind : n.kind = .phrase p)
    (hc : c ∈ n.children) : p.allowsPart c.role? c.kind := by
  have hshape := h.inShape
  simp only [isInShape, hkind, List.all_eq_true] at hshape
  exact hshape c hc

/-- The name of a definition is a name. -/
lemma kind_of_name (h : n.IsSyntaxTree)
    (hkind : n.kind = .phrase .functionDefinition ∨ n.kind = .phrase .classDefinition)
    (hc : c ∈ n.children) (hrole : c.hasRole .name) : c.kind = .token .identifier := by
  have hname := hasRole_iff.mp hrole
  rcases hkind with hkind | hkind
  · simpa [Phrase.allowsPart, hname] using h.allowsPart hkind hc
  · simpa [Phrase.allowsPart, hname] using h.allowsPart hkind hc

lemma kind_of_parameters (h : n.IsSyntaxTree) (hkind : n.kind = .phrase .functionDefinition)
    (hc : c ∈ n.children) (hrole : c.hasRole .parameters) : c.kind = .phrase .parameters := by
  have hparameters := hasRole_iff.mp hrole
  simpa [Phrase.allowsPart, hparameters] using h.allowsPart hkind hc

/-- The type of a parameter is marked as a type. -/
lemma kind_of_annotation (h : n.IsSyntaxTree) (hkind : n.kind = .phrase .typedParameter)
    (hc : c ∈ n.children) (hrole : c.hasRole .declaredType ∨ c.hasRole .value) :
    c.kind = .phrase .typeExpression := by
  rcases hrole with hrole | hrole
  · have htype := hasRole_iff.mp hrole
    simpa [Phrase.allowsPart, htype] using h.allowsPart hkind hc
  · have hvalue := hasRole_iff.mp hrole
    simpa [Phrase.allowsPart, hvalue] using h.allowsPart hkind hc

/-- The parts of a mark between parameters are tokens and no names. -/
lemma kind_of_mark (h : n.IsSyntaxTree) (hmark : n.isSeparator) (hc : c ∈ n.children) :
    ∃ t, t ≠ .identifier ∧ c.kind = .token t := by
  have hallows : Phrase.keywordSeparator.allowsPart c.role? c.kind := by
    unfold isSeparator at hmark
    split at hmark
    case h_1 hkind | h_2 hkind =>
      have hpart := h.allowsPart hkind hc
      exact hpart
    case h_3 => cases hmark
  simp only [Phrase.allowsPart] at hallows
  split at hallows
  case h_1 t hkind => exact ⟨t, by simpa using hallows, hkind⟩
  case h_2 => cases hallows

/-- A mark that separates parameters holds no name. -/
lemma occurrences_of_separator (h : n.IsSyntaxTree) (hmark : n.isSeparator) :
    n.occurrences = [] := by
  have hbelow : n.occurrences = occurrencesBelow n [] n.children := by
    apply occurrences_eq_below
    intro hkind
    simp [isSeparator, hkind] at hmark
  rw [List.eq_nil_iff_forall_not_mem, hbelow]
  intro o ho
  obtain ⟨left, c, right, hsplit, o', ho', -⟩ := mem_occurrencesBelow.mp ho
  have hc : c ∈ n.children := by
    rw [hsplit]
    exact List.mem_append_right _ List.mem_cons_self
  obtain ⟨t, ht, hckind⟩ := h.kind_of_mark hmark hc
  rw [(h.of_mem_children hc).occurrences_of_token hckind, if_neg ht] at ho'
  cases ho'

end IsSyntaxTree

end Python.Node

end NotebookExport
