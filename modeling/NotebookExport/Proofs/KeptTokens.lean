import NotebookExport.Proofs.EditScript
import NotebookExport.Proofs.TargetLayout

/-!
# Tokens of spaced out programs

Blank lines mean nothing in Python, so a program keeps its tokens when its definitions are spaced
out, as long as every empty line stands between tokens. Spacing out goes by lines and knows neither
strings nor backslashes. Where an empty line comes into a string the string changes, and where it
comes behind a backslash the statement ends there.

Nothing is asked of the parser but that it ignores a single blank line.
-/

namespace NotebookExport

open Python Text

/-! ### Tokens of a tree -/

namespace Python

/-- A token of a tree, by its kind and by where it begins and ends in the source. -/
structure Leaf where
  kind : Kind
  start : Nat
  stop : Nat
  deriving DecidableEq

namespace Leaf

/-- A token goes on across a place. -/
def Spans (leaf : Leaf) (place : Nat) : Prop := leaf.start ≤ place ∧ place < leaf.stop

instance (leaf : Leaf) (place : Nat) : Decidable (leaf.Spans place) :=
  inferInstanceAs (Decidable (_ ∧ _))

def text (source : String) (leaf : Leaf) : String :=
  String.ofList ((source.toList.drop leaf.start).take (leaf.stop - leaf.start))

/-- Whether a token belongs to the program. Comments and continued lines do not. -/
def isProgram (leaf : Leaf) : Bool :=
  leaf.kind ≠ .token .comment && leaf.kind ≠ .token .lineContinuation

/-- A token with one more character before it if it stands behind a place. -/
def pushed (place : Nat) (leaf : Leaf) : Leaf :=
  ⟨leaf.kind, if place < leaf.start then leaf.start + 1 else leaf.start,
    if place < leaf.stop then leaf.stop + 1 else leaf.stop⟩

/-- A token that does not go on across the place has the same text. -/
lemma text_pushed {leaf : Leaf} {before : List Char} (h : ¬ leaf.Spans before.length) (c : Char)
    (behind : List Char) :
    (leaf.pushed before.length).text (String.ofList (before ++ c :: behind)) =
      leaf.text (String.ofList (before ++ behind)) := by
  obtain ⟨kind, start, stop⟩ := leaf
  simp only [Spans, not_and, not_lt] at h
  simp only [text, pushed, String.toList_ofList]
  congr 1
  by_cases hstop : stop ≤ before.length
  · rw [if_neg (Nat.not_lt.mpr hstop)]
    by_cases hstart : start ≤ before.length
    · rw [if_neg (Nat.not_lt.mpr hstart), List.drop_append_of_le_length hstart,
        List.drop_append_of_le_length hstart, List.take_append_of_le_length (by simp; omega),
        List.take_append_of_le_length (by simp; omega)]
    · -- a token that ends before it begins has no text
      rw [if_pos (by omega), show stop - start = 0 by omega, show stop - (start + 1) = 0 by omega]
      simp
  · have hstart : before.length < start := by omega
    have hnext : start + 1 - before.length = start - before.length + 1 := by omega
    have hnone : before.drop start = [] := List.drop_eq_nil_of_le (by omega)
    have hnone' : before.drop (start + 1) = [] := List.drop_eq_nil_of_le (by omega)
    rw [if_pos hstart, if_pos (by omega), List.drop_append, List.drop_append, hnone, hnone', hnext,
      List.drop_succ_cons, Nat.add_sub_add_right]

end Leaf

namespace Node

/-- Whether a node is a token: it has no children, or it is what stands in a string. -/
def isLeaf (n : Node) : Bool := n.children.isEmpty || n.kind = .phrase .stringContent

def leaf (n : Node) : Leaf := ⟨n.kind, n.start.index, n.stop.index⟩

/-- The tokens of some trees, in source order. -/
def leavesOf (ns : List Node) : List Leaf := ((preorderAll ns).filter isLeaf).map leaf

/-- The tokens of a text. The root is none, even if nothing stands in it. -/
def leaves (tree : Node) : List Leaf := leavesOf tree.children

/-- What a program says: the kinds and the texts of its tokens. -/
def wording (source : String) (tree : Node) : List (Kind × String) :=
  (tree.leaves.filter Leaf.isProgram).map fun leaf => (leaf.kind, leaf.text source)

end Node

end Python

/-! ### Empty lines between tokens -/

/-- A text breaks off with a backslash, which joins the next line to its last one. A carriage return
may stand behind it. -/
def IsContinued (before : List Char) : Prop := ['\\'] <:+ before ∨ ['\\', '\r'] <:+ before

instance (before : List Char) : Decidable (IsContinued before) :=
  inferInstanceAs (Decidable (_ ∨ _))

/-- An empty line behind the first part of a text stands between its tokens: none of them goes on
there, and the part does not break off with a backslash unless that ends a comment. -/
structure Python.Node.BreaksAfter (tree : Node) (before : List Char) : Prop where
  between : ∀ leaf ∈ tree.leaves, ¬ leaf.Spans before.length
  ended : IsContinued before →
    ∃ leaf ∈ tree.leaves, leaf.kind = .token .comment ∧ leaf.stop = before.length

instance (tree : Node) (before : List Char) : Decidable (tree.BreaksAfter before) :=
  decidable_of_iff (_ ∧ _) ⟨fun h => ⟨h.1, h.2⟩, fun h => ⟨h.between, h.ended⟩⟩

/-- What follows on a line that ends. -/
def IsLineEnd (behind : List Char) : Prop := behind = [] ∨ ∃ rest, behind = '\n' :: rest

/-- Blank lines mean nothing to a parser. An empty line that stands between tokens is accepted, and
does nothing but push on the tokens behind it. -/
def IgnoresBlankLines (parser : Parser) : Prop :=
  ∀ (before behind : List Char) (tree : Node), IsLineEnd behind → tree.BreaksAfter before →
    parser (String.ofList (before ++ behind)) = .ok tree →
    ∃ tree', parser (String.ofList (before ++ '\n' :: behind)) = .ok tree' ∧
      tree'.leaves = tree.leaves.map (Leaf.pushed before.length)

variable {parser : Parser} {source source' source'' before behind : List Char}
  {tree tree' tree'' : Node} {place : Nat}

/-- A text has turned into another one that says the same, and up to a place nothing stands in the
way of an empty line where nothing did before. -/
structure KeepsTokens (parser : Parser) (place : Nat) (source source' : List Char)
    (tree tree' : Node) : Prop where
  accepted : parser (String.ofList source') = .ok tree'
  wording : tree'.wording (String.ofList source') = tree.wording (String.ofList source)
  breaks : ∀ before, before.length ≤ place → tree.BreaksAfter before → tree'.BreaksAfter before

namespace KeepsTokens

lemma refl (h : parser (String.ofList source) = .ok tree) :
    KeepsTokens parser place source source tree tree :=
  ⟨h, rfl, fun _ _ hbreak => hbreak⟩

lemma trans {place' : Nat} (first : KeepsTokens parser place source source' tree tree')
    (second : KeepsTokens parser place' source' source'' tree' tree'') (hle : place' ≤ place) :
    KeepsTokens parser place' source source'' tree tree'' :=
  ⟨second.accepted, second.wording.trans first.wording, fun before hbefore hbreak =>
    second.breaks before hbefore (first.breaks before (hbefore.trans hle) hbreak)⟩

end KeepsTokens

/-! ### One empty line -/

lemma wording_of_pushed (hbetween : ∀ leaf ∈ tree.leaves, ¬ leaf.Spans before.length)
    (hleaves : tree'.leaves = tree.leaves.map (Leaf.pushed before.length)) (c : Char) :
    tree'.wording (String.ofList (before ++ c :: behind)) =
      tree.wording (String.ofList (before ++ behind)) := by
  rw [Node.wording, Node.wording, hleaves, List.filter_map, List.map_map]
  refine List.map_congr_left fun leaf hleaf => ?_
  have hspans := hbetween leaf (List.mem_of_mem_filter hleaf)
  exact congrArg (Prod.mk leaf.kind) (Leaf.text_pushed hspans c behind)

/-- Pushing on what stands behind a place changes nothing before it. -/
lemma breaksAfter_of_pushed (hleaves : tree'.leaves = tree.leaves.map (Leaf.pushed place))
    (hle : before.length ≤ place) (h : tree.BreaksAfter before) : tree'.BreaksAfter before := by
  constructor
  · intro leaf' hleaf' hspans
    rw [hleaves, List.mem_map] at hleaf'
    obtain ⟨leaf, hleaf, rfl⟩ := hleaf'
    apply h.between leaf hleaf
    simp only [Leaf.Spans, Leaf.pushed] at hspans ⊢
    split_ifs at hspans <;> omega
  · intro hcontinued
    obtain ⟨leaf, hleaf, hkind, hstop⟩ := h.ended hcontinued
    refine ⟨leaf.pushed place, ?_, hkind, ?_⟩
    · rw [hleaves]
      exact List.mem_map_of_mem hleaf
    · have hkept : ¬ place < leaf.stop := by omega
      rw [Leaf.pushed]
      exact (if_neg hkept).trans hstop

lemma IgnoresBlankLines.exists_keepsTokens (hparser : IgnoresBlankLines parser)
    (hend : IsLineEnd behind) (hbreak : tree.BreaksAfter before)
    (h : parser (String.ofList (before ++ behind)) = .ok tree) :
    ∃ tree', KeepsTokens parser before.length (before ++ behind) (before ++ '\n' :: behind)
      tree tree' := by
  obtain ⟨tree', haccepted, hleaves⟩ := hparser before behind tree hend hbreak h
  exact ⟨tree', haccepted, wording_of_pushed hbreak.between hleaves '\n',
    fun _ hle => breaksAfter_of_pushed hleaves hle⟩

/-! ### Lines -/

lemma joinLines_concat_nil {lines : List (List Char)} (hne : lines ≠ []) :
    joinLines (lines ++ [[]]) = joinLines lines ++ ['\n'] := by
  induction lines with
  | nil => exact absurd rfl hne
  | cons line rest ih =>
    rcases eq_or_ne rest [] with rfl | hrest
    · simp [joinLines]
    · rw [List.cons_append, joinLines_cons line (by simp), ih hrest, joinLines_cons line hrest,
        List.append_assoc, List.cons_append]

/-- Behind some lines of a text a line ends. An empty line there is one more line feed. -/
lemma exists_joinLines_append {first : List (List Char)} (hne : first ≠ [])
    (second : List (List Char)) :
    ∃ behind, IsLineEnd behind ∧ joinLines (first ++ second) = joinLines first ++ behind ∧
      joinLines (first ++ [] :: second) = joinLines first ++ '\n' :: behind := by
  have hfirst := joinLines_concat_nil hne
  rcases eq_or_ne second [] with rfl | hsecond
  · exact ⟨[], .inl rfl, by simp, hfirst⟩
  · refine ⟨'\n' :: joinLines second, .inr ⟨_, rfl⟩, ?_, ?_⟩
    · rw [joinLines_append first hsecond, hfirst, List.append_assoc, List.singleton_append]
    · rw [joinLines_append first (by simp), hfirst, joinLines_cons [] hsecond, List.append_assoc,
        List.singleton_append, List.nil_append]

/-- Behind some text a line ends. An empty line there is one more line. -/
lemma exists_splitLines_append (hend : IsLineEnd behind) (before : List Char) :
    ∃ below, splitLines (before ++ behind) = splitLines before ++ below ∧
      splitLines (before ++ '\n' :: behind) = splitLines before ++ [] :: below := by
  rcases hend with rfl | ⟨rest, rfl⟩
  · exact ⟨[], by simp, by rw [splitLines_append_feed, splitLines_nil]⟩
  · exact ⟨splitLines rest, splitLines_append_feed before rest, by
      rw [splitLines_append_feed, splitLines_feed]⟩

lemma length_joinLines_le (first second : List (List Char)) :
    (joinLines first).length ≤ (joinLines (first ++ second)).length := by
  rcases eq_or_ne first [] with rfl | hne
  · simp [joinLines]
  · obtain ⟨behind, -, htext, -⟩ := exists_joinLines_append hne second
    simp [htext]

/-- A text may get an empty line behind some of its lines, or stay as it is. -/
lemma IgnoresBlankLines.exists_keepsTokens_lines (hparser : IgnoresBlankLines parser)
    {first second : List (List Char)} (isSpaced : Bool)
    (hbreak : isSpaced → first ≠ [] ∧ tree.BreaksAfter (joinLines first))
    (h : parser (String.ofList (joinLines (first ++ second))) = .ok tree) :
    ∃ tree', KeepsTokens parser (joinLines first).length (joinLines (first ++ second))
      (joinLines (first ++ ((if isSpaced then [[]] else []) ++ second))) tree tree' := by
  cases isSpaced with
  | false => exact ⟨tree, .refl h⟩
  | true =>
    obtain ⟨hne, hbreak⟩ := hbreak rfl
    obtain ⟨behind, hend, htext, hspaced⟩ := exists_joinLines_append hne second
    rw [htext] at h
    obtain ⟨tree', hkeeps⟩ := hparser.exists_keepsTokens hend hbreak h
    refine ⟨tree', ?_⟩
    rwa [if_pos rfl, List.singleton_append, htext, hspaced]

/-- The lines of a text up to the one behind which a change puts an empty line. -/
def FormatChange.linesBefore? (lines : List (List Char)) :
    FormatChange → Option (List (List Char))
  | .blankLineBefore number => some (lines.take (number - 1))
  | .blankLineAfter number => some (lines.take number)
  | _ => none

/-! ### Spacing out -/

/-- Lines are spaced out from the last one up, so that what stands above has its place still. -/
lemma IgnoresBlankLines.exists_keepsTokens_spaced (hparser : IgnoresBlankLines parser)
    {above : List (List Char)} {spaced : List SpacedLine}
    (hfirst : above = [] → ∀ s ∈ spaced.head?, s.isSpacedBefore = false)
    (hbreaks : ∀ change ∈ lineChanges (above.length + 1) spaced,
      ∀ part ∈ change.linesBefore? (above ++ spaced.map SpacedLine.line),
        tree.BreaksAfter (joinLines part))
    (h : parser (String.ofList (joinLines (above ++ spaced.map SpacedLine.line))) = .ok tree) :
    ∃ tree', KeepsTokens parser (joinLines above).length
      (joinLines (above ++ spaced.map SpacedLine.line))
      (joinLines (above ++ spaced.flatMap SpacedLine.parts)) tree tree' := by
  induction spaced generalizing above with
  | nil => exact ⟨tree, .refl h⟩
  | cons s rest ih =>
    have hlines : above ++ (s :: rest).map SpacedLine.line =
        (above ++ [s.line]) ++ rest.map SpacedLine.line := by simp
    have hnumber : (above ++ [s.line]).length + 1 = above.length + 1 + 1 := by simp
    rw [hlines] at hbreaks h ⊢
    have hown := fun change hchange => hbreaks change (List.mem_append_left _ hchange)
    have hbehind : s.isSpacedAfter → tree.BreaksAfter (joinLines (above ++ [s.line])) :=
      fun hspaced => hown _ (SpacedLine.blankLineAfter_mem_changes.mpr ⟨rfl, hspaced⟩) _
        (congrArg some (List.take_left' (by simp)))
    have hbefore : s.isSpacedBefore → tree.BreaksAfter (joinLines above) :=
      fun hspaced => hown _ (SpacedLine.blankLineBefore_mem_changes.mpr ⟨rfl, hspaced⟩) _
        (by simp [FormatChange.linesBefore?])
    have hne : s.isSpacedBefore → above ≠ [] := by
      rintro hspaced rfl
      simp [hfirst rfl s rfl] at hspaced
    -- first the lines below, then the empty line behind this one, and last the one before it
    obtain ⟨tree₁, hbelow⟩ := ih (by simp)
      (fun change hchange => hbreaks change (List.mem_append_right _ (hnumber ▸ hchange))) h
    obtain ⟨tree₂, hafter⟩ := hparser.exists_keepsTokens_lines s.isSpacedAfter
      (fun hspaced => ⟨by simp, hbelow.breaks _ le_rfl (hbehind hspaced)⟩) hbelow.accepted
    have hle := length_joinLines_le above [s.line]
    have hkept := hbelow.trans hafter le_rfl
    rw [List.append_assoc above [s.line] (_ ++ _)] at hkept
    obtain ⟨tree₃, hfree⟩ := hparser.exists_keepsTokens_lines s.isSpacedBefore
      (fun hspaced => ⟨hne hspaced, hkept.breaks _ hle (hbefore hspaced)⟩) hkept.accepted
    refine ⟨tree₃, ?_⟩
    have hresult := hkept.trans hfree hle
    simpa [SpacedLine.parts] using hresult

/-- A program whose definitions are spaced out is still one, and says the same, if every empty line
it gets stands between its tokens. -/
theorem addBlankLines_keeps_wording (hparser : IgnoresBlankLines parser) (markers : List String)
    {text : String} (h : parser text = .ok tree)
    (hbreaks : ∀ change ∈ (addBlankLines markers text).changes,
      ∀ part ∈ change.linesBefore? (splitLines text.toList), tree.BreaksAfter (joinLines part)) :
    ∃ tree', parser (addBlankLines markers text).code = .ok tree' ∧
      tree'.wording (addBlankLines markers text).code = tree.wording text := by
  have hlines : (spaceLines markers true (splitLines text.toList)).map SpacedLine.line =
      splitLines text.toList := map_line_spaceLines true _
  have htext : String.ofList (joinLines (splitLines text.toList)) = text := by
    rw [joinLines_splitLines, String.ofList_toList]
  -- nothing stands before the first line
  have hfirst : ∀ s ∈ (spaceLines markers true (splitLines text.toList)).head?,
      s.isSpacedBefore = false := by
    intro s hs
    rw [List.head?_eq_getElem?, getElem?_spaceLines_zero, Option.mem_map] at hs
    obtain ⟨line, -, rfl⟩ := hs
    simp
  rw [← hlines] at hbreaks
  rw [← htext, ← hlines] at h
  obtain ⟨tree', hkeeps⟩ := hparser.exists_keepsTokens_spaced
    (fun _ : ([] : List (List Char)) = [] => hfirst) hbreaks h
  refine ⟨tree', hkeeps.accepted, ?_⟩
  have hwording := hkeeps.wording
  simp only [List.nil_append, hlines, htext] at hwording
  exact hwording

/-! ### Definitions on lines of their own -/

/-- The nodes of `def f():` at the beginning of a line. -/
def Python.Node.signature (offset row : Nat) : List Node :=
  let part := onLine offset row
  [part (.token .kwDef) none 0 3 [],
    part (.token .identifier) (some .name) 4 5 [],
    part (.phrase .parameters) (some .parameters) 5 7 [
      part (.token .lparen) none 5 6 [],
      part (.token .rparen) none 6 7 []],
    part (.token .colon) none 7 8 []]

/-- The tree of `def f(): pass`. -/
def Python.Node.passDefinition (offset row : Nat) : Node :=
  let part := onLine offset row
  part (.phrase .functionDefinition) none 0 13 (signature offset row ++ [
    part (.phrase .block) (some .body) 9 13 [
      part (.phrase .passStatement) none 9 13 [part (.token .kwPass) none 9 13 []]]])

/-- The tokens of such a definition. -/
def passLeaves (offset : Nat) : List Leaf :=
  [⟨.token .kwDef, offset, offset + 3⟩, ⟨.token .identifier, offset + 4, offset + 5⟩,
    ⟨.token .lparen, offset + 5, offset + 6⟩, ⟨.token .rparen, offset + 6, offset + 7⟩,
    ⟨.token .colon, offset + 7, offset + 8⟩, ⟨.token .kwPass, offset + 9, offset + 13⟩]

/-- The trees of lines that are empty or such a definition. -/
def passDefinitions : (offset row : Nat) → List (List Char) → Option (List Node)
  | _, _, [] => some []
  | offset, row, line :: rest =>
    if line = [] then passDefinitions (offset + 1) (row + 1) rest
    else if line = "def f(): pass".toList then
      (passDefinitions (offset + 14) (row + 1) rest).map (.passDefinition offset row :: ·)
    else none

lemma eq_of_passDefinitions_cons {offset row : Nat} {line : List Char} {rest : List (List Char)}
    {nodes : List Node} (h : passDefinitions offset row (line :: rest) = some nodes) :
    (line = [] ∧ passDefinitions (offset + 1) (row + 1) rest = some nodes) ∨
      (line = "def f(): pass".toList ∧ ∃ later,
        passDefinitions (offset + 14) (row + 1) rest = some later ∧
          nodes = .passDefinition offset row :: later) := by
  rw [passDefinitions] at h
  split_ifs at h with hempty hdefinition
  · exact .inl ⟨hempty, h⟩
  · obtain ⟨later, hlater, rfl⟩ := Option.map_eq_some_iff.mp h
    exact .inr ⟨hdefinition, later, hlater, rfl⟩

/-- Reads texts of such lines. -/
def passParser : Parser := fun source =>
  match passDefinitions 0 0 (splitLines source.toList) with
  | some nodes => .ok (.programOf source.toList.length (source.toList.count '\n') nodes)
  | none => .error ⟨1, 1, .unexpected ""⟩

lemma leavesOf_passDefinition (offset row : Nat) (nodes : List Node) :
    Node.leavesOf (.passDefinition offset row :: nodes) =
      passLeaves offset ++ Node.leavesOf nodes := by
  rw [Node.leavesOf, Node.preorderAll, List.filter_append, List.map_append]
  rfl

lemma map_pushed_passLeaves_of_lt {offset : Nat} (h : place < offset) :
    (passLeaves offset).map (Leaf.pushed place) = passLeaves (offset + 1) := by
  simp (disch := omega) only [passLeaves, List.map_cons, List.map_nil, Leaf.pushed, if_pos]

lemma map_pushed_passLeaves_of_le {offset : Nat} (h : offset + 13 ≤ place) :
    (passLeaves offset).map (Leaf.pushed place) = passLeaves offset := by
  simp (disch := omega) only [passLeaves, List.map_cons, List.map_nil, Leaf.pushed, if_neg]

/-- Lines behind a place stand one character further on. -/
lemma exists_passDefinitions_further {offset row : Nat} {lines : List (List Char)}
    {nodes : List Node} (hlt : place < offset) (h : passDefinitions offset row lines = some nodes) :
    ∃ nodes', passDefinitions (offset + 1) (row + 1) lines = some nodes' ∧
      Node.leavesOf nodes' = (Node.leavesOf nodes).map (Leaf.pushed place) := by
  induction lines generalizing offset row nodes with
  | nil =>
    obtain rfl : [] = nodes := Option.some.inj h
    exact ⟨[], rfl, rfl⟩
  | cons line rest ih =>
    obtain ⟨rfl, hrest⟩ | ⟨rfl, later, hrest, rfl⟩ := eq_of_passDefinitions_cons h
    · obtain ⟨nodes', hread, hleaves⟩ := ih (Nat.lt_succ_of_lt hlt) hrest
      exact ⟨nodes', by simpa [passDefinitions] using hread, hleaves⟩
    · obtain ⟨later', hread, hleaves⟩ := ih (by omega) hrest
      rw [Nat.add_right_comm] at hread
      refine ⟨.passDefinition (offset + 1) (row + 1) :: later', ?_, ?_⟩
      · simp [passDefinitions, hread]
      · rw [leavesOf_passDefinition, leavesOf_passDefinition, List.map_append,
          map_pushed_passLeaves_of_lt hlt, hleaves]

/-- An empty line below some others pushes on what is below it. -/
lemma exists_passDefinitions_append {offset row : Nat} {first second : List (List Char)}
    {nodes : List Node} (hplace : place + 1 = offset + (joinLines (first ++ [[]])).length)
    (h : passDefinitions offset row (first ++ second) = some nodes) :
    ∃ nodes', passDefinitions offset row (first ++ [] :: second) = some nodes' ∧
      Node.leavesOf nodes' = (Node.leavesOf nodes).map (Leaf.pushed place) := by
  induction first generalizing offset row nodes with
  | nil =>
    have hlt : place < offset := by simp [joinLines] at hplace; omega
    exact exists_passDefinitions_further hlt h
  | cons line rest ih =>
    rw [List.cons_append, joinLines_cons line (by simp), List.length_append,
      List.length_cons] at hplace
    obtain ⟨rfl, hrest⟩ | ⟨rfl, later, hrest, rfl⟩ := eq_of_passDefinitions_cons h
    · obtain ⟨nodes', hread, hleaves⟩ := ih (by simp at hplace; omega) hrest
      exact ⟨nodes', by simpa [passDefinitions] using hread, hleaves⟩
    · have hline : "def f(): pass".toList.length = 13 := by decide
      rw [hline] at hplace
      obtain ⟨later', hread, hleaves⟩ := ih (by omega) hrest
      refine ⟨.passDefinition offset row :: later', ?_, ?_⟩
      · simp [passDefinitions, hread]
      · rw [leavesOf_passDefinition, leavesOf_passDefinition, List.map_append,
          map_pushed_passLeaves_of_le (by omega), hleaves]

lemma passParser_eq_ok_iff {text : String} :
    passParser text = .ok tree ↔
      ∃ nodes, passDefinitions 0 0 (splitLines text.toList) = some nodes ∧
        tree = .programOf text.toList.length (text.toList.count '\n') nodes := by
  rw [passParser]
  cases passDefinitions 0 0 (splitLines text.toList) <;> simp [eq_comm]

lemma ignoresBlankLines_passParser : IgnoresBlankLines passParser := by
  intro before behind tree hend _ h
  obtain ⟨below, hlines, hspaced⟩ := exists_splitLines_append hend before
  obtain ⟨nodes, hnodes, rfl⟩ := passParser_eq_ok_iff.mp h
  rw [String.toList_ofList, hlines] at hnodes
  have hplace : before.length + 1 = 0 + (joinLines (splitLines before ++ [[]])).length := by
    rw [joinLines_concat_nil (splitLines_ne_nil before), joinLines_splitLines]
    simp
  obtain ⟨nodes', hread, hleaves⟩ := exists_passDefinitions_append hplace hnodes
  refine ⟨_, passParser_eq_ok_iff.mpr ⟨nodes', ?_, rfl⟩, hleaves⟩
  rwa [String.toList_ofList, hspaced]

/-- Two definitions, one below the other, each get an empty line behind them. -/
theorem wording_of_two_definitions :
    let text := "def f(): pass\ndef f(): pass\n"
    let spaced := "def f(): pass\n\ndef f(): pass\n\n"
    IgnoresBlankLines passParser ∧ (addBlankLines ["def ", "class "] text).code = spaced ∧
      ∃ tree tree', passParser text = .ok tree ∧ passParser spaced = .ok tree' ∧
        tree'.wording spaced = tree.wording text := by
  intro text spaced
  have hlines : splitLines text.toList =
      ["def f(): pass".toList, "def f(): pass".toList, []] := by decide +kernel
  have hread : passParser text =
      .ok (.programOf 28 2 [.passDefinition 0 0, .passDefinition 14 1]) := by
    have hlength : text.toList.length = 28 ∧ text.toList.count '\n' = 2 := by decide +kernel
    refine passParser_eq_ok_iff.mpr ⟨_, ?_, by rw [hlength.1, hlength.2]⟩
    rw [hlines]
    simp [passDefinitions]
  have hcode : (addBlankLines ["def ", "class "] text).code = spaced := by decide +kernel
  obtain ⟨tree', haccepted, hwording⟩ := addBlankLines_keeps_wording
    ignoresBlankLines_passParser ["def ", "class "] hread (by decide +kernel)
  rw [hcode] at haccepted hwording
  exact ⟨ignoresBlankLines_passParser, hcode, _, tree', hread, haccepted, hwording⟩

/-! ### Strings and continued lines -/

/-- The tree of a name that gets a string of several lines, the last of which is `"""` alone. -/
def quotedText (stop row : Nat) : Node :=
  let upToEnd (kind : Phrase) (field : Option Field) (first : Nat) (children : List Node) : Node :=
    .node ⟨.phrase kind, field, false, false, placeAt first 0 first, placeAt (stop + 3) row 3⟩
      children
  .programOf (stop + 4) (row + 1) [upToEnd .expressionStatement none 0 [
    upToEnd .assignment none 0 [
      .onLine 0 0 (.token .identifier) (some .left) 0 1 [],
      .onLine 0 0 (.token .equals) none 2 3 [],
      upToEnd .string (some .right) 4 [
        .onLine 0 0 (.token .stringStart) none 4 7 [],
        .node ⟨.phrase .stringContent, none, false, false, placeAt 7 0 7, placeAt stop row 0⟩ [],
        .onLine stop row (.token .stringEnd) none 0 3 []]]]]

/-- The tree of `def f(): x \` and of `= 1` on the next line. -/
def continuedDefinition : Node :=
  let upToEnd (kind : Phrase) (field : Option Field) (first : Nat) (children : List Node) : Node :=
    .node ⟨.phrase kind, field, false, false, placeAt first 0 first, placeAt 16 1 3⟩ children
  .programOf 17 2 [upToEnd .functionDefinition none 0 (Node.signature 0 0 ++ [
    upToEnd .block (some .body) 9 [upToEnd .expressionStatement none 9 [upToEnd .assignment none 9 [
      .onLine 0 0 (.token .identifier) (some .left) 9 10 [],
      .node ⟨.token .lineContinuation, none, true, false, placeAt 11 0 11, placeAt 13 1 0⟩ [],
      .onLine 13 1 (.token .equals) none 0 1 [],
      .onLine 13 1 (.token .integer) (some .right) 2 3 []]]]])]

/-- Reads two texts, and what they become with empty lines around what looks like a definition, as
`Python.parse` does. -/
def lineBoundParser : Parser
  | "x = \"\"\"\ndef f\n\"\"\"\n" => .ok (quotedText 14 2)
  | "x = \"\"\"\n\ndef f\n\n\"\"\"\n" => .ok (quotedText 16 4)
  | "def f(): x \\\n= 1\n" => .ok continuedDefinition
  | "def f(): x \\\n\n= 1\n" => .error ⟨3, 1, .unexpected "="⟩
  | _ => .error ⟨1, 1, .unexpected ""⟩

/-- Spacing out goes by lines: it changes a string that has a definition on one of its lines, and
cuts a statement in two that goes on behind a backslash. -/
theorem wording_ne_of_lines :
    let quoted := "x = \"\"\"\ndef f\n\"\"\"\n"
    let continued := "def f(): x \\\n= 1\n"
    let spaceOut := fun text => (addBlankLines ["def ", "class "] text).code
    (∃ tree tree', lineBoundParser quoted = .ok tree ∧
      lineBoundParser (spaceOut quoted) = .ok tree' ∧
      tree'.wording (spaceOut quoted) ≠ tree.wording quoted) ∧
    (∃ tree fault, lineBoundParser continued = .ok tree ∧
      lineBoundParser (spaceOut continued) = .error fault) := by
  intro quoted continued spaceOut
  have hquoted : spaceOut quoted = "x = \"\"\"\n\ndef f\n\n\"\"\"\n" := by decide +kernel
  have hcontinued : spaceOut continued = "def f(): x \\\n\n= 1\n" := by decide +kernel
  rw [hquoted, hcontinued]
  exact ⟨⟨quotedText 14 2, quotedText 16 4, rfl, rfl, by decide +kernel⟩,
    ⟨continuedDefinition, _, rfl, rfl⟩⟩

end NotebookExport
