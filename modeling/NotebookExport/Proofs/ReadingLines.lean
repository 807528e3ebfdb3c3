import NotebookExport.Proofs.ReadingBack

/-!
# Text read line by line

What a pass renders are lines that were read before, alone or as a part of longer ones. A parser of
Python need not read them again: a line may now begin like another statement, and it may go on in
the line that has come to stand below it. `ReadsLines` is what such a parser does with lines where
neither happens, `RendersApart` says of what is kept of a text that neither happens there. Then the
rendered text is read, and as what was rendered. If it is refused, then pruning ends with it.
-/

namespace NotebookExport

open Python Text

variable {parser : Parser} {source text : String} {unread : List String} {tree : Node}

/-! ### Beginnings and ends of lines -/

namespace Python.Node

/-- The tokens of a tree, without those that may stand between any two others. -/
def tokens (n : Node) : List Node :=
  n.preorder.filter fun m => m.children.isEmpty && !m.info.isExtra

/-- The nodes that end where the last token does. -/
def endings (n : Node) : List Node :=
  n.preorder.filter fun m => n.tokens.getLast?.any fun last => m.stop.index = last.stop.index

/-- Whether a node lists its parts without brackets around them. -/
def isOpenList (n : Node) : Bool :=
  n.children.any (fun c => c.kind = .token .comma) &&
    !n.children.getLast?.any fun c =>
      c.kind = .token .rparen || c.kind = .token .rbracket || c.kind = .token .rbrace

/-- Whether a line in a block stands left of the block, as the backslash before it allows. -/
def hasLooseLine (n : Node) : Bool :=
  n.preorder.any fun block => block.kind = .phrase .block &&
    block.preorder.any fun c => c.kind = .token .lineContinuation &&
      block.tokens.any fun t => t.start.row = c.stop.row && t.start.column < block.start.column

/-- The level of brackets behind a token. -/
def levelBehind (level : Nat) (t : Node) : Nat :=
  if t.kind = .token .lparen || t.kind = .token .lbracket || t.kind = .token .lbrace then level + 1
  else if t.kind = .token .rparen || t.kind = .token .rbracket || t.kind = .token .rbrace then
    level - 1
  else level

/-- Whether tokens are broken over lines outside of all brackets. -/
def breaksAt (level : Nat) : List Node → Bool
  | t :: u :: ts =>
    let next := levelBehind level t
    (next = 0 && t.stop.row < u.start.row) || breaksAt next (u :: ts)
  | _ => false

/-- Whether a list of targets without brackets is broken over lines, though nothing shows that it
goes on. It depends on what stands above whether such a line is read as a statement of its own. -/
def hasBrokenTargets (n : Node) : Bool :=
  n.preorder.any fun m => m.kind = .phrase .patternList &&
    breaksAt 0 (m.preorder.filter fun t => t.children.isEmpty)

/-- Whether a node is read as it is only where the end of a line is missing: a list on the right has
become a list of targets, or a backslash ends the node. -/
def lacksLineEnd (n : Node) : Bool :=
  n.preorder.any (fun m => m.kind = .phrase .patternList && m.hasRole .right) ||
    (n.kind ≠ .token .lineContinuation &&
      n.preorder.getLast?.any fun m => m.kind = .token .lineContinuation)

/-- Whether a node is more than a comment or a backslash with the line break behind it. -/
def isCode (n : Node) : Bool :=
  n.kind ≠ .token .comment && n.kind ≠ .token .lineContinuation

end Python.Node

/-- The keywords that begin statements. -/
def statementKeywords : List String :=
  ["assert", "break", "class", "continue", "def", "del", "for", "from", "global", "if", "import",
    "nonlocal", "pass", "raise", "return", "try", "while", "with"]

/-- Whether a node begins with a name that is a keyword where a statement can begin. -/
def beginsAsKeyword (source : String) (n : Node) : Bool :=
  n.tokens.head?.any fun t =>
    t.kind = .token .identifier && statementKeywords.contains (t.text source)

/-- Whether a text begins with a word that is taken for a keyword there, since what follows could be
what the keyword is about. -/
def opensWith (word text : String) : Bool :=
  let behind := (text.toList.drop word.length).dropWhile fun c =>
    c = ' ' || c = '\t' || c = '\x0c' || c = '\r' || c = '\n' || c = '\\'
  word.toList.isPrefixOf text.toList &&
    ["[", "(", "-", "+", "*", "not"].any fun mark => mark.toList.isPrefixOf behind

/-- Whether a statement can stand on lines of its own. -/
def standsAlone (source : String) (n : Node) : Bool :=
  (n.kind = .phrase .matchStatement || !opensWith "match" (n.text source)) &&
    !beginsAsKeyword source n && !n.hasLooseLine && !n.lacksLineEnd && n.text source ≠ "\\"

/-- Whether an assignment of a value can begin with a target. -/
def beginsLine (source : String) (value t : Node) : Bool :=
  !opensWith "match" (t.text source) && !opensWith "type" (t.text source) &&
    !beginsAsKeyword source t && !t.hasBrokenTargets && !value.lacksLineEnd

/-- Whether what stands below a statement can belong to it: behind a comma anything can, a bracket
or the word of an operator behind a list without brackets or behind what may be the name of a type,
and the words of a further clause. -/
def goesOnIn (line rest : String) (n below : Node) : Bool :=
  below.tokens.head?.any fun first =>
    n.endings.any (fun m => m.kind = .token .comma) ||
      ((first.kind = .token .lbracket || first.kind = .token .lparen ||
          ["and", "as", "in", "is", "or"].contains (first.text rest)) &&
        n.endings.any fun m => m.isOpenList ||
          (m.kind = .phrase .expressionStatement && opensWith "type" (m.text line))) ||
      ["else", "elif", "except", "finally"].contains (first.text rest)

/-- Whether a statement may go on in the nodes below it, or change how these are read. A comment
between them does not end it; a continued line below belongs to a block, and one above to a string.
-/
def runsOn (line rest : String) (n : Node) (below : List Node) : Bool :=
  n.hasLooseLine || below.any Node.hasBrokenTargets ||
    (below.find? Node.isCode).any (goesOnIn line rest n) ||
    (n.preorder.any (fun m => m.kind = .phrase .block) &&
      (below.find? fun m => m.kind ≠ .token .comment).any fun m =>
        m.kind = .token .lineContinuation) ||
    (n.kind = .token .lineContinuation &&
      below.head?.any fun m => m.tokens.head?.any fun first => first.kind = .token .stringStart)

/-! ### Parsers that read lines -/

/-- A text is read as nodes below one another. -/
def Reads (parser : Parser) (text : String) (nodes : List Node) : Prop :=
  ∃ tree, parser text = .ok tree ∧ tree.kind = .phrase .program ∧ tree.children = nodes

/-- A chain that is made of some targets of a statement and its value is read as such. -/
def ReadsChain (parser : Parser) (source : String) (g : Node × List Node) (value : Node)
    (ts : List Node) : Prop :=
  let head := chainStatement g.1 value .origin ts
  Reads parser (renderedSides source ts ++ value.text source ++
      renderedComments source (keptComments source g) ++ "\n")
    (head :: placeComments head.stop.row head.stop (keptComments source g))

/-- What a parser of Python does with lines. Each statement of a text can stand alone; of a chain so
can the value behind any target, and behind that the targets that follow it; and a text can stand
below a line. The exceptions are the lines that are taken for something else, and those that go on
in the text below. -/
structure ReadsLines (parser : Parser) : Prop where
  regular {source : String} {tree : Node} : parser source = .ok tree → IsRegular source tree
  nothing : Reads parser "" []
  alone {source : String} {tree : Node} {g : Node × List Node} :
    parser source = .ok tree → g ∈ groupsOf none tree.namedChildren →
      (∀ a, Statement.ofNode source g.1 ≠ .assignment a) → standsAlone source g.1 →
      Reads parser (g.1.text source ++ renderedComments source g.2 ++ "\n")
        (g.1.moveTo .origin ::
          placeComments (g.1.moveTo .origin).stop.row (g.1.moveTo .origin).stop g.2)
  target {source : String} {tree value t : Node} {g : Node × List Node} {a : Assignment} :
    parser source = .ok tree → g ∈ groupsOf none tree.namedChildren →
      Statement.ofNode source g.1 = .assignment a →
      g.1.namedChildren.head?.bind chainValue? = some value → t ∈ Statement.targetNodes g.1 →
      beginsLine source value t → ReadsChain parser source g value [t]
  further {source : String} {tree value t u : Node} {ts : List Node} {g : Node × List Node}
    {a : Assignment} :
    parser source = .ok tree → g ∈ groupsOf none tree.namedChildren →
      Statement.ofNode source g.1 = .assignment a →
      g.1.namedChildren.head?.bind chainValue? = some value →
      (t :: u :: ts).Sublist (Statement.targetNodes g.1) →
      ReadsChain parser source g value (t :: ts) → ReadsChain parser source g value (t :: u :: ts)
  below {line rest : String} {head last : Node} {comments nodes : List Node} :
    Reads parser (line ++ "\n") (head :: comments) → (∀ c ∈ comments, c.kind = .token .comment) →
      (head :: comments).getLast? = some last → last.stop.index = line.length →
      Reads parser rest nodes → (∀ n ∈ nodes.head?, n.start = .origin) →
      runsOn line rest head nodes = false →
      Reads parser (line ++ "\n" ++ rest)
        (head :: comments ++ nodes.map (Node.map last.stop.nextLine.below))

/-! ### Lines of what is kept -/

/-- What is kept of some statements, as it is rendered. -/
def keptText (source : String) (unread : List String) (gs : List (Node × List Node)) : String :=
  renderStatements (gs.filterMap fun g => (statementOf source g).retain unread)

/-- Whether nothing that is kept of some statements goes on in what is kept below it. -/
def endsEachLine (source : String) (unread : List String) : List (Node × List Node) → Bool
  | [] => true
  | g :: gs =>
    endsEachLine source unread gs &&
      match (statementOf source g).retain unread, placeHead source unread .origin g.1 with
      | some s, some head =>
        !runsOn s.render (keptText source unread gs) head
          (nodesOf (placeGroups source unread .origin gs))
      | _, _ => true

/-- What is kept of a text can be rendered line by line: no statement begins like another one when
it stands alone or has lost its first target, and none goes on in the next one that is kept. -/
structure RendersApart (source : String) (unread : List String) (tree : Node) : Prop where
  alone {g : Node × List Node} : g ∈ groupsOf none tree.namedChildren →
    (∀ a, Statement.ofNode source g.1 ≠ .assignment a) → standsAlone source g.1
  target {g : Node × List Node} : g ∈ groupsOf none tree.namedChildren →
    ∀ t ∈ (liveNodes source unread g.1).head?,
      ∀ value ∈ g.1.namedChildren.head?.bind chainValue?, beginsLine source value t
  ends : endsEachLine source unread (groupsOf none tree.namedChildren)

lemma exists_last_placeComments (head : Node) (row : Nat) (cs : List Node) :
    ∃ last, (head :: placeComments row head.stop cs).getLast? = some last ∧
      last.stop = stopOfComments row head.stop cs := by
  induction cs generalizing head with
  | nil => exact ⟨head, rfl, rfl⟩
  | cons c cs ih =>
    obtain ⟨last, hlast, hstop⟩ := ih (c.moveTo (commentPlace row head.stop))
    exact ⟨last, by rwa [placeComments, List.getLast?_cons_cons], hstop⟩

lemma start_of_head?_placeGroups {place : Position} {gs : List (Node × List Node)} :
    ∀ n ∈ (nodesOf (placeGroups source unread place gs)).head?, n.start = place := by
  induction gs generalizing place with
  | nil => exact nofun
  | cons g gs ih =>
    simp only [placeGroups]
    cases hhead : placeHead source unread place g.1 with
    | none => exact ih
    | some head =>
      rintro n ⟨⟩
      exact start_of_placeHead hhead

namespace ReadsLines

variable {g : Node × List Node}

/-- A chain that is left of an assignment is read as such: its value behind the first target, and
then one further target after the other. -/
lemma chain (h : ReadsLines parser) (htree : parser source = .ok tree)
    (hg : g ∈ groupsOf none tree.namedChildren) {a : Assignment} {value t : Node} {ts : List Node}
    (ha : Statement.ofNode source g.1 = .assignment a)
    (hvalue : g.1.namedChildren.head?.bind chainValue? = some value)
    (hts : (t :: ts).Sublist (Statement.targetNodes g.1)) (ht : beginsLine source value t) :
    ReadsChain parser source g value (t :: ts) := by
  induction ts with
  | nil => exact h.target htree hg ha hvalue (hts.subset List.mem_cons_self) ht
  | cons u ts ih =>
    exact h.further htree hg ha hvalue hts
      (ih ((List.Sublist.cons_cons t (List.sublist_cons_self u ts)).trans hts))

/-- What is kept of a statement is read as such on a line of its own. -/
lemma line (h : ReadsLines parser) (htree : parser source = .ok tree)
    (hg : g ∈ groupsOf none tree.namedChildren) {s : Statement}
    (hs : (Statement.ofNode source g.1).retain unread = some s)
    (hapart : RendersApart source unread tree) :
    ∃ head, placeHead source unread .origin g.1 = some head ∧
      Reads parser (s.render ++ renderedComments source (keptComments source g) ++ "\n")
        (head :: placeComments head.stop.row head.stop (keptComments source g)) := by
  by_cases hassignment : ∃ a, Statement.ofNode source g.1 = .assignment a
  · obtain ⟨a, ha⟩ := hassignment
    obtain ⟨value, t, ts, hvalue, hlive, rfl, hhead⟩ := exists_chainStatement ha hs
    have hsub : (t :: ts).Sublist (Statement.targetNodes g.1) :=
      hlive ▸ List.filter_sublist
    refine ⟨_, hhead .origin, ?_⟩
    rw [Statement.render_chain]
    exact h.chain htree hg ha hvalue hsub (hapart.target hg t (by simp [hlive]) value hvalue)
  · have hnot : ∀ a, Statement.ofNode source g.1 ≠ .assignment a := by
      intro a ha
      exact hassignment ⟨a, ha⟩
    have hrender := (Statement.exists_assignment_or_render_ofNode source g.1).resolve_left
      hassignment
    rw [Statement.retain_of_not_assignment hnot] at hs
    obtain rfl := Option.some.inj hs
    refine ⟨_, placeHead_of_not_assignment hnot, ?_⟩
    rw [hrender, keptComments_of_not_assignment hnot]
    exact h.alone htree hg hnot (hapart.alone hg hnot)

/-- What is kept of statements is read as the kept pieces in their new places. -/
lemma reads_keptText (h : ReadsLines parser) (htree : parser source = .ok tree)
    (hapart : RendersApart source unread tree)
    {gs : List (Node × List Node)} (hgs : ∀ g ∈ gs, g ∈ groupsOf none tree.namedChildren)
    (hends : endsEachLine source unread gs) :
    Reads parser (keptText source unread gs) (nodesOf (placeGroups source unread .origin gs)) := by
  induction gs with
  | nil => exact h.nothing
  | cons g gs ih =>
    have hg := hgs g List.mem_cons_self
    have hretain : (statementOf source g).retain unread = _ := retain_attachAll g
    simp only [endsEachLine, Bool.and_eq_true] at hends
    have hrest := ih (fun g' hg' => hgs g' (List.mem_cons_of_mem _ hg')) hends.1
    cases hs : (Statement.ofNode source g.1).retain unread with
    | none =>
      rw [hs, Option.map_none] at hretain
      simp only [keptText, placeGroups, placeHead_eq_none hs, List.filterMap_cons,
        hretain]
      exact hrest
    | some s =>
      obtain ⟨head, hhead, hline⟩ := h.line htree hg hs hapart
      rw [hs, Option.map_some] at hretain
      have hlast := hends.2
      simp only [hretain, hhead, Bool.not_eq_true'] at hlast
      have hcomments : ∀ d ∈ placeComments head.stop.row head.stop (keptComments source g),
          d.kind = .token .comment := by
        intro d hd
        obtain ⟨c, hc, hkind⟩ := exists_kind_of_mem_placeComments d hd
        exact hkind.trans ((mem_of_mem_groupsOf (by simp) (List.Subset.refl _) hg).2 c
          (mem_of_mem_keptComments hc)).1
      obtain ⟨last, hlast?, hstop⟩ :=
        exists_last_placeComments head head.stop.row (keptComments source g)
      have hindex : (stopOfComments head.stop.row head.stop (keptComments source g)).index =
          (s.render ++ renderedComments source (keptComments source g)).length :=
        (index_stopOfComments (liesIn_of_mem_groupsOf (h.regular htree).lies hg) hs hhead
          (HasAt.self _)).trans (Nat.zero_add _)
      rw [render_attachAll hs] at hlast
      have hbelow := h.below hline hcomments hlast?
        (hstop ▸ hindex) hrest start_of_head?_placeGroups hlast
      rw [hstop, ← nodesOf_placeGroups_below] at hbelow
      simp only [keptText, List.filterMap_cons, hretain, renderStatements_cons, placeGroups, hhead,
        render_attachAll hs, ← String.append_assoc]
      exact hbelow

/-- What is kept of a text is read as the kept pieces in their new places. -/
lemma reads_placedNodes (h : ReadsLines parser) (htree : parser source = .ok tree)
    (hapart : RendersApart source unread tree) :
    Reads parser (renderStatements ((Statement.ofTree source tree).filterMap
      (Statement.retain unread))) (placedNodes source unread tree) := by
  have hkept : renderStatements ((Statement.ofTree source tree).filterMap
      (Statement.retain unread)) =
        keptText source unread (groupsOf none tree.namedChildren) := by
    rw [ofTree_eq_map_groupsOf, List.filterMap_map]
    rfl
  rw [hkept]
  exact h.reads_keptText htree hapart (fun g hg => hg) hapart.ends

/-- If what each pass keeps can be rendered line by line, then it is read back. -/
theorem readsBack (h : ReadsLines parser)
    (hapart : ∀ {passes : List (List String)} {text : String} {tree : Node},
      Cascade parser source passes text → parser text = .ok tree →
        RendersApart text (NameUsage.ofTree text tree).unread tree) :
    ReadsBack parser source where
  regular _ htree := h.regular htree
  back hcascade htree hremoved := by
    rw [Pass.code_ofTree_of_removed_ne_nil hremoved]
    exact h.reads_placedNodes htree (hapart hcascade htree)

end ReadsLines

end NotebookExport
