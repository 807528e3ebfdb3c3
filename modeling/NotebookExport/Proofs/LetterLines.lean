import NotebookExport.Proofs.ReadingLines

/-!
# Lines of letters

A parser that reads lines, for the smallest part of Python with chains of assignments: each line
names a letter, or assigns it to others.
-/

namespace NotebookExport

open Python Text

/-- A small letter. -/
abbrev Letter := { c : Char // c.isLower }

/-- A line that assigns a letter to others, or only names it. -/
structure LetterLine where
  targets : List Letter
  value : Letter
  deriving DecidableEq

namespace LetterLine

def chars (l : LetterLine) : List Char :=
  l.targets.flatMap (fun c => [c.val, ' ', '=', ' ']) ++ [l.value.val]

lemma length_chars (l : LetterLine) : l.chars.length = 4 * l.targets.length + 1 := by
  obtain ⟨targets, value⟩ := l
  induction targets with
  | nil => rfl
  | cons c targets ih =>
    simp only [chars, List.length_append, List.flatMap_cons, List.length_cons] at ih ⊢
    simp only [List.length_nil] at ih ⊢
    omega

/-- The characters of some lines. -/
def charsOf (ls : List LetterLine) : List Char := ls.flatMap fun l => l.chars ++ ['\n']

lemma ofList_charsOf_cons (l : LetterLine) (ls : List LetterLine) :
    String.ofList (charsOf (l :: ls)) =
      .ofList l.chars ++ "\n" ++ .ofList (charsOf ls) := by
  apply String.toList_injective
  simp [charsOf]

lemma ofList_charsOf_singleton (l : LetterLine) :
    String.ofList (charsOf [l]) = .ofList l.chars ++ "\n" := by
  rw [ofList_charsOf_cons, charsOf, List.flatMap_nil, String.ofList_nil,
    String.append_empty]

/-- One more target in the first of some lines. -/
def addTarget (c : Letter) : List LetterLine → Option (List LetterLine)
  | [] => none
  | l :: ls => some (⟨c :: l.targets, l.value⟩ :: ls)

/-- The lines that a text consists of. -/
def read? : List Char → Option (List LetterLine)
  | [] => some []
  | c :: '\n' :: cs => if h : c.isLower then (read? cs).map (⟨[], ⟨c, h⟩⟩ :: ·) else none
  | c :: ' ' :: '=' :: ' ' :: cs =>
    if h : c.isLower then (read? cs).bind (addTarget ⟨c, h⟩) else none
  | _ => none

lemma read?_charsOf (ls : List LetterLine) : read? (charsOf ls) = some ls := by
  induction ls with
  | nil => rfl
  | cons l ls ih =>
    obtain ⟨targets, value⟩ := l
    induction targets with
    | nil =>
      have hcons : charsOf (⟨[], value⟩ :: ls) = value.val :: '\n' :: charsOf ls := rfl
      rw [hcons, read?, dif_pos value.2, ih]
      rfl
    | cons c targets ih' =>
      have hcons : charsOf (⟨c :: targets, value⟩ :: ls) =
          c.val :: ' ' :: '=' :: ' ' :: charsOf (⟨targets, value⟩ :: ls) := rfl
      rw [hcons, read?, dif_pos c.2, ih']
      rfl

lemma eq_charsOf_of_read? {cs : List Char} {ls : List LetterLine} (h : read? cs = some ls) :
    cs = charsOf ls := by
  fun_induction read? cs generalizing ls with
  | case1 =>
    obtain rfl := Option.some.inj h
    rfl
  | case2 c cs hc ih =>
    obtain ⟨ls', hread, rfl⟩ := Option.map_eq_some_iff.mp h
    rw [ih hread]
    rfl
  | case4 c cs hc ih =>
    obtain ⟨ls', hread, hadd⟩ := Option.bind_eq_some_iff.mp h
    cases ls' with
    | nil => cases hadd
    | cons l ls' =>
      obtain rfl := Option.some.inj hadd
      rw [ih hread]
      rfl
  | _ => cases h

end LetterLine

/-! ### Trees -/

/-- A letter at a place. -/
def letterAt (field : Option Field) (place : Position) : Node :=
  .node ⟨.token .identifier, field, false, false, place, place.right 1⟩ []

/-- The assignment of a letter to so many others at a place, or only the letter. -/
def lettersAt (field : Option Field) (place : Position) : Nat → Node
  | 0 => letterAt field place
  | count + 1 =>
    let right := lettersAt (some .right) (place.right 4) count
    .node ⟨.phrase .assignment, field, false, false, place, right.stop⟩
      [letterAt (some .left) place,
        .node ⟨.token .equals, none, false, false, place.right 2, place.right 3⟩ [], right]

/-- A line with a letter and so many targets at a place. -/
def letterLineAt (place : Position) (count : Nat) : Node :=
  let letters := lettersAt none place count
  .node ⟨.phrase .expressionStatement, none, false, false, place, letters.stop⟩ [letters]

/-- The nodes of lines from a place on. -/
def letterLinesAt (place : Position) : List LetterLine → List Node
  | [] => []
  | l :: ls =>
    let line := letterLineAt place l.targets.length
    line :: letterLinesAt line.stop.nextLine ls

/-- Reads lines of letters, and no other texts. -/
def letterParser : Parser := fun source =>
  match LetterLine.read? source.toList with
  | some ls => .ok (.programOf source.length ls.length (letterLinesAt .origin ls))
  | none => .error ⟨1, 1, .unexpected ""⟩

lemma letterParser_eq_ok_iff {source : String} {tree : Node} :
    letterParser source = .ok tree ↔ ∃ ls, source = .ofList (LetterLine.charsOf ls) ∧
      tree = .programOf source.length ls.length (letterLinesAt .origin ls) := by
  unfold letterParser
  constructor
  · intro h
    split at h
    case h_1 ls hread =>
      refine ⟨ls, ?_, (Except.ok.inj h).symm⟩
      rw [← LetterLine.eq_charsOf_of_read? hread, String.ofList_toList]
    case h_2 => cases h
  · rintro ⟨ls, rfl, rfl⟩
    rw [String.toList_ofList, LetterLine.read?_charsOf]

lemma reads_letterLines (ls : List LetterLine) :
    Reads letterParser (.ofList (LetterLine.charsOf ls)) (letterLinesAt .origin ls) :=
  ⟨_, letterParser_eq_ok_iff.mpr ⟨ls, rfl, rfl⟩, rfl, rfl⟩

lemma exists_letterLines_of_reads {text : String} {nodes : List Node}
    (h : Reads letterParser text nodes) :
    ∃ ls, text = .ofList (LetterLine.charsOf ls) ∧ nodes = letterLinesAt .origin ls := by
  obtain ⟨tree, htree, -, rfl⟩ := h
  obtain ⟨ls, htext, rfl⟩ := letterParser_eq_ok_iff.mp htree
  exact ⟨ls, htext, rfl⟩

/-! ### Places -/

section Places

variable {source : String} {f : Position → Position} {place : Position} {value : Node}

lemma Text.Position.right_right (p : Position) (j k : Nat) :
    (p.right j).right k = p.right (j + k) := by
  simp [right, Nat.add_assoc]

lemma stop_lettersAt (field : Option Field) (place : Position) (count : Nat) :
    (lettersAt field place count).stop = place.right (4 * count + 1) := by
  induction count generalizing field place with
  | zero => rfl
  | succ count ih =>
    have hstop : (lettersAt field place (count + 1)).stop =
        (lettersAt (some .right) (place.right 4) count).stop := rfl
    rw [hstop, ih, Position.right_right]
    congr 1
    omega

lemma letterLineAt_stop (place : Position) (count : Nat) :
    (letterLineAt place count).stop = place.right (4 * count + 1) :=
  stop_lettersAt none place count

lemma lettersAt_map (hf : ∀ k, f (place.right k) = (f place).right k) (field : Option Field)
    (count : Nat) : (lettersAt field place count).map f = lettersAt field (f place) count := by
  induction count generalizing field place with
  | zero => simp [lettersAt, letterAt, Node.map, Node.mapAll, hf]
  | succ count ih =>
    have hf' : ∀ k, f ((place.right 4).right k) = (f (place.right 4)).right k := by
      intro k
      rw [Position.right_right, hf, hf, Position.right_right]
    have hright := ih hf' (some .right)
    have hstop := congrArg Node.stop hright
    rw [Node.stop_map, hf] at hstop
    rw [hf] at hright
    simp [lettersAt, letterAt, Node.map, Node.mapAll, hf, hright, hstop]

lemma letterLineAt_map (hf : ∀ k, f (place.right k) = (f place).right k) (count : Nat) :
    (letterLineAt place count).map f = letterLineAt (f place) count := by
  have hletters := lettersAt_map hf none count
  have hstop := congrArg Node.stop hletters
  rw [Node.stop_map] at hstop
  simp [letterLineAt, Node.map, Node.mapAll, hletters, hstop]

lemma Text.Position.moved_right (p new : Position) (k : Nat) :
    p.moved new (p.right k) = (p.moved new p).right k := by
  simp [moved, right]

lemma letterLineAt_moveTo (place new : Position) (count : Nat) :
    (letterLineAt place count).moveTo new = letterLineAt new count := by
  have hmoved := letterLineAt_map (place.moved_right new) count
  rwa [Position.moved_self] at hmoved

lemma letterAt_moveTo (field : Option Field) (place new : Position) :
    (letterAt field place).moveTo new = letterAt field new := by
  have hmoved := lettersAt_map (place.moved_right new) field 0
  rwa [Position.moved_self] at hmoved

lemma letterLinesAt_below (line place : Position) (ls : List LetterLine) :
    letterLinesAt (line.below place) ls = (letterLinesAt place ls).map (Node.map line.below) := by
  induction ls generalizing place with
  | nil => rfl
  | cons l ls ih =>
    have hline := @letterLineAt_map line.below place
      (fun k => (Position.below_right place k).symm) l.targets.length
    have hnext : (letterLineAt (line.below place) l.targets.length).stop.nextLine =
        line.below (letterLineAt place l.targets.length).stop.nextLine := by
      rw [← hline, Node.stop_map]
      rfl
    rw [letterLinesAt, letterLinesAt, List.map_cons, hline, hnext, ih]

/-! ### Letters of a text -/

/-- A node in a role is a letter of a text. -/
def IsLetterOf (source : String) (role : Field) (n : Node) : Prop :=
  ∃ p, n = letterAt (some role) p ∧ ∃ c : Letter, n.text source = .singleton c.val

lemma Python.Node.text_of_hasAt {n : Node} {s : String} (h : HasAt source n.start.index s)
    (hstop : n.stop.index = n.start.index + s.length) : n.text source = s := by
  obtain ⟨before, behind, htext, hlen⟩ := h
  rw [text, htext, hstop, ← hlen, List.append_assoc, List.drop_left, Nat.add_sub_cancel_left,
    ← String.length_toList, List.take_left, String.ofList_toList]

lemma IsLetterOf.of_hasAt {role : Field} {c : Letter} {s : String}
    (h : HasAt source place.index (.singleton c.val ++ s)) :
    IsLetterOf source role (letterAt (some role) place) :=
  ⟨place, rfl, c, Node.text_of_hasAt h.left (by rw [String.length_singleton]; rfl)⟩

lemma hasRole_lettersAt (role : Field) (place : Position) (count : Nat) :
    (lettersAt (some role) place count).hasRole role := by
  cases count <;> exact Node.hasRole_iff.mpr rfl

lemma isUntypedAssignment_lettersAt (field : Option Field) (place : Position) (count : Nat) :
    isUntypedAssignment (lettersAt field place count) = decide (count ≠ 0) := by
  cases count with
  | zero => rfl
  | succ count => exact isUntypedAssignment_three rfl rfl rfl (hasRole_lettersAt _ _ count)

lemma chainValue?_three {info : NodeInfo} {left sign right : Node} (hleft : left.hasRole .left)
    (hsign : sign.role? = none) (hright : right.hasRole .right) :
    chainValue? (.node info [left, sign, right]) =
      if isUntypedAssignment right then chainValue? right else some right := by
  have hnot : left.hasRole .right = false ∧ sign.hasRole .right = false := by
    simp [Node.hasRole, Node.hasRole_iff.mp hleft, hsign]
  simp [chainValue?, valueOnRight?, hright, hnot]

/-- Behind the first letter of a line stands the line of the others. -/
lemma hasAt_right_of_letters {c : Letter} {targets : List Letter} {letter : Letter}
    (h : HasAt source place.index (.ofList (LetterLine.chars ⟨c :: targets, letter⟩))) :
    (∃ s, HasAt source place.index (.singleton c.val ++ s)) ∧
      HasAt source (place.right 4).index (.ofList (LetterLine.chars ⟨targets, letter⟩)) := by
  have hsplit : String.ofList (LetterLine.chars ⟨c :: targets, letter⟩) =
      .singleton c.val ++ (" = " ++ .ofList (LetterLine.chars ⟨targets, letter⟩)) := by
    apply String.toList_injective
    simp [LetterLine.chars]
  have hsign : " = ".length = 3 := by rfl
  rw [hsplit] at h
  exact ⟨⟨_, h⟩, by simpa [Position.right, hsign, Nat.add_assoc] using h.right.right⟩

/-- The targets and the value of a chain of letters are letters of the text. -/
lemma isLetterOf_of_chain {targets : List Letter} {letter : Letter} (field : Option Field)
    (h : HasAt source place.index (.ofList (LetterLine.chars ⟨targets, letter⟩))) :
    (∀ t ∈ chainTargets (lettersAt field place targets.length), IsLetterOf source .left t) ∧
      ∀ value, chainValue? (lettersAt field place targets.length) = some value →
        IsLetterOf source .right value := by
  induction targets generalizing field place with
  | nil =>
    have hnone : chainTargets (letterAt field place) = [] := by rfl
    refine ⟨fun t ht => ?_, nofun⟩
    rw [List.length_nil, lettersAt, hnone] at ht
    cases ht
  | cons c targets ih =>
    obtain ⟨⟨s, hfirst⟩, hright⟩ := hasAt_right_of_letters h
    obtain ⟨htargets, hvalue⟩ := ih (some .right) hright
    have hrole := hasRole_lettersAt .right (place.right 4) targets.length
    refine ⟨?_, ?_⟩
    · intro t ht
      rw [List.length_cons, lettersAt, chainTargets_three rfl rfl hrole] at ht
      rcases List.mem_cons.mp ht with rfl | ht
      · exact .of_hasAt hfirst
      · split_ifs at ht
        · exact htargets t ht
        · cases ht
    · intro value hvalue'
      rw [List.length_cons, lettersAt, chainValue?_three rfl rfl hrole,
        isUntypedAssignment_lettersAt] at hvalue'
      cases targets with
      | nil =>
        obtain rfl := Option.some.inj hvalue'
        exact .of_hasAt (c := letter) (s := "") (by simpa [LetterLine.chars] using hright)
      | cons c' targets => exact hvalue value hvalue'

/-! ### Statements made anew -/

/-- A chain made anew of letters is an assignment of letters. -/
lemma chainNode_letters {ts : List Node} (hvalue : IsLetterOf source .right value)
    (hts : ∀ t ∈ ts, IsLetterOf source .left t) (place : Position) :
    chainNode value (some .right) place ts = lettersAt (some .right) place ts.length := by
  induction ts generalizing place with
  | nil =>
    obtain ⟨p, rfl, -⟩ := hvalue
    exact letterAt_moveTo _ p place
  | cons t ts ih =>
    obtain ⟨p, rfl, -⟩ := hts t List.mem_cons_self
    have hrest := ih (fun t' ht' => hts t' (List.mem_cons_of_mem _ ht')) (place.right 4)
    simp only [chainNode, letterAt_moveTo, List.length_cons, lettersAt]
    rw [← hrest]
    rfl

/-- A statement made anew of letters is a line of letters. -/
lemma chainStatement_letters {t : Node} {ts : List Node} (hvalue : IsLetterOf source .right value)
    (hts : ∀ t' ∈ t :: ts, IsLetterOf source .left t') (place new : Position) (count : Nat) :
    chainStatement (letterLineAt place count) value new (t :: ts) =
      letterLineAt new (t :: ts).length := by
  obtain ⟨p, rfl, -⟩ := hts t List.mem_cons_self
  have hrest := chainNode_letters hvalue (fun t' ht' => hts t' (List.mem_cons_of_mem _ ht'))
    (new.right 4)
  have hchain : chainNode value none new (letterAt (some .left) p :: ts) =
      lettersAt none new (ts.length + 1) := by
    simp only [chainNode, letterAt_moveTo, lettersAt]
    rw [← hrest]
    rfl
  rw [chainStatement, hchain]
  rfl

/-- Letters of a text are rendered as a line of letters. -/
lemma exists_line_eq_rendered {ts : List Node} (hvalue : IsLetterOf source .right value)
    (hts : ∀ t ∈ ts, IsLetterOf source .left t) :
    ∃ l : LetterLine, l.targets.length = ts.length ∧
      renderedSides source ts ++ value.text source = .ofList l.chars := by
  induction ts with
  | nil =>
    obtain ⟨-, -, c, hc⟩ := hvalue
    exact ⟨⟨[], c⟩, rfl, by simp [renderedSides, String.join_nil, hc, LetterLine.chars]⟩
  | cons t ts ih =>
    obtain ⟨⟨targets, letter⟩, hlength, hl⟩ := ih fun t' ht' => hts t' (List.mem_cons_of_mem _ ht')
    obtain ⟨-, -, c, hc⟩ := hts t List.mem_cons_self
    refine ⟨⟨c :: targets, letter⟩, by simpa using hlength, ?_⟩
    rw [renderedSides_cons, hc, String.append_assoc, String.append_assoc, hl]
    apply String.toList_injective
    simp [LetterLine.chars]

/-! ### Groups -/

lemma groupsOf_of_no_comment {before : Option (Node × List Node)} {ns : List Node}
    (h : ∀ n ∈ ns, n.kind ≠ .token .comment) :
    groupsOf before ns = before.toList ++ ns.map fun n => (n, []) := by
  induction ns generalizing before with
  | nil => simp [groupsOf]
  | cons n ns ih =>
    have hrest := @ih (some (n, [])) fun m hm => h m (List.mem_cons_of_mem _ hm)
    have hn := h n List.mem_cons_self
    cases before with
    | none => simpa [groupsOf] using hrest
    | some g => simpa [groupsOf, hn] using hrest

lemma exists_line_of_mem_letterLinesAt {ls : List LetterLine} {n : Node}
    (h : HasAt source place.index (.ofList (LetterLine.charsOf ls)))
    (hn : n ∈ letterLinesAt place ls) :
    ∃ (l : LetterLine) (p : Position), n = letterLineAt p l.targets.length ∧
      HasAt source p.index (.ofList l.chars) := by
  induction ls generalizing place with
  | nil => cases hn
  | cons l ls ih =>
    rw [LetterLine.ofList_charsOf_cons, String.append_assoc] at h
    rcases List.mem_cons.mp hn with rfl | hn
    · exact ⟨l, place, rfl, h.left⟩
    · refine ih ?_ hn
      have hstop : (letterLineAt place l.targets.length).stop.nextLine.index =
          place.index + (String.ofList l.chars).length + "\n".length := by
        rw [letterLineAt_stop, String.length_ofList, LetterLine.length_chars]
        rfl
      exact hstop ▸ h.right.right

/-- A line that is read consists of letters. -/
lemma exists_line_of_mem_groupsOf {tree : Node} {g : Node × List Node}
    (htree : letterParser source = .ok tree) (hg : g ∈ groupsOf none tree.namedChildren) :
    ∃ (l : LetterLine) (p : Position), g = (letterLineAt p l.targets.length, []) ∧
      HasAt source p.index (.ofList l.chars) := by
  obtain ⟨ls, rfl, rfl⟩ := letterParser_eq_ok_iff.mp htree
  have hlines : ∀ n ∈ letterLinesAt .origin ls, ∃ p count, n = letterLineAt p count := by
    intro n hn
    obtain ⟨l, p, rfl, -⟩ := exists_line_of_mem_letterLinesAt (HasAt.self _) hn
    exact ⟨p, _, rfl⟩
  have hnamed : (letterLinesAt .origin ls).filter Node.isNamed = letterLinesAt .origin ls := by
    refine List.filter_eq_self.mpr fun n hn => ?_
    obtain ⟨p, count, rfl⟩ := hlines n hn
    rfl
  have hkinds : ∀ n ∈ letterLinesAt .origin ls, n.kind ≠ .token .comment := by
    intro n hn
    obtain ⟨p, count, rfl⟩ := hlines n hn
    exact nofun
  rw [Node.namedChildren, Node.programOf, Node.children, hnamed, groupsOf_of_no_comment hkinds,
    Option.toList_none, List.nil_append] at hg
  obtain ⟨n, hn, rfl⟩ := List.mem_map.mp hg
  obtain ⟨l, p, rfl, hat⟩ := exists_line_of_mem_letterLinesAt (HasAt.self _) hn
  exact ⟨l, p, rfl, hat⟩

lemma namedChildren_letterLineAt (place : Position) (count : Nat) :
    (letterLineAt place count).namedChildren = [lettersAt none place count] := by
  cases count <;> rfl

/-- A line of letters is read as such. -/
lemma reads_line (l : LetterLine) :
    Reads letterParser (.ofList l.chars ++ "\n") [letterLineAt .origin l.targets.length] :=
  LetterLine.ofList_charsOf_singleton l ▸ reads_letterLines [l]

lemma renderedComments_nil (source : String) : renderedComments source [] = "" := by
  rw [renderedComments, List.map_nil, String.join_nil]

/-- Letters of a line, made anew to a chain, are read as such. -/
lemma readsChain_letters {tree t : Node} {ts : List Node} {g : Node × List Node}
    (htree : letterParser source = .ok tree) (hg : g ∈ groupsOf none tree.namedChildren)
    (hvalue : g.1.namedChildren.head?.bind chainValue? = some value)
    (hts : ∀ t' ∈ t :: ts, t' ∈ Statement.targetNodes g.1) :
    ReadsChain letterParser source g value (t :: ts) := by
  obtain ⟨l, p, rfl, hat⟩ := exists_line_of_mem_groupsOf htree hg
  obtain ⟨htargets, hend⟩ := isLetterOf_of_chain none hat
  rw [namedChildren_letterLineAt] at hvalue
  have hts' : ∀ t' ∈ t :: ts, IsLetterOf source .left t' := by
    intro t' ht'
    have hmem := hts t' ht'
    rw [Statement.targetNodes, namedChildren_letterLineAt, List.flatMap_singleton] at hmem
    exact htargets t' hmem
  obtain ⟨l', hlength, hrendered⟩ := exists_line_eq_rendered (hend value hvalue) hts'
  have hcomments : keptComments source (letterLineAt p l.targets.length, []) = [] := by
    unfold keptComments
    split <;> rfl
  have hline := reads_line l'
  rw [hlength, ← chainStatement_letters (hend value hvalue) hts' p .origin l.targets.length]
    at hline
  rw [ReadsChain, hcomments, hrendered, renderedComments_nil, String.append_empty]
  exact hline

/-! ### Regularity -/

lemma liesIn_letterAt (field : Option Field) (h : place.index + 1 ≤ source.length) :
    (letterAt field place).LiesIn source :=
  .of_children (Nat.le_add_right _ _) h nofun

lemma liesIn_lettersAt (field : Option Field) {count : Nat}
    (h : place.index + (4 * count + 1) ≤ source.length) :
    (lettersAt field place count).LiesIn source := by
  induction count generalizing field place with
  | zero => exact liesIn_letterAt field h
  | succ count ih =>
    have hindex (k : Nat) : (place.right k).index = place.index + k := rfl
    have hright := @ih (place.right 4) (some .right) (by rw [hindex]; omega)
    have hstop : (lettersAt (some .right) (place.right 4) count).stop.index =
        place.index + (4 * (count + 1) + 1) := by
      rw [stop_lettersAt, Position.right_right, hindex]
      omega
    have hstart : (lettersAt (some .right) (place.right 4) count).start = place.right 4 := by
      cases count <;> rfl
    have hle : place.index ≤ (lettersAt (some .right) (place.right 4) count).stop.index := by
      rw [hstop]
      omega
    have hin : (lettersAt (some .right) (place.right 4) count).stop.index ≤ source.length := by
      rw [hstop]
      exact h
    refine .of_children hle hin ?_
    simp only [List.forall_mem_cons, hstop, hstart, hindex]
    refine ⟨⟨liesIn_letterAt _ (by omega), Nat.le_refl _, ?_⟩, ⟨.of_children ?_ ?_ nofun, ?_, ?_⟩,
      ⟨hright, by omega, Nat.le_refl _⟩, nofun⟩
    all_goals simp only [letterAt, Node.start, Node.stop, Node.info, hindex]; omega

lemma liesIn_letterLineAt {count : Nat} (h : place.index + (4 * count + 1) ≤ source.length) :
    (letterLineAt place count).LiesIn source := by
  have hletters := liesIn_lettersAt none h
  have hstart : (lettersAt none place count).start = place := by cases count <;> rfl
  have hle := hletters.start_le (Node.mem_preorder_self _)
  rw [hstart] at hle
  refine .of_children hle hletters.stop_le fun c hc => ?_
  obtain rfl := List.mem_singleton.mp hc
  exact ⟨hletters, Nat.le_of_eq (congrArg Position.index hstart.symm), Nat.le_refl _⟩

lemma hasTwoSides_of_mem_lettersAt {field : Option Field} {count : Nat} {m : Node}
    (hm : m ∈ (lettersAt field place count).preorder) (huntyped : isUntypedAssignment m) :
    m.HasTwoSides := by
  induction count generalizing field place with
  | zero =>
    obtain rfl := List.mem_singleton.mp hm
    cases huntyped
  | succ count ih =>
    have hrole := Node.hasRole_iff.mp (hasRole_lettersAt .right (place.right 4) count)
    rw [lettersAt, Node.preorder] at hm
    simp only [Node.preorderAll, List.mem_cons, List.mem_append, List.not_mem_nil, or_false] at hm
    rcases hm with rfl | hm | hm | hm
    · have hleft : (letterAt (some .left) place).role? = some .left := rfl
      have hsign (p q : Position) :
          (Node.node ⟨.token .equals, none, false, false, p, q⟩ []).role? = none := rfl
      refine ⟨by simp only [Node.children, List.filterMap_cons, List.filterMap_nil, hleft, hsign,
        hrole], fun {c} hc hnone => ?_⟩
      rcases List.mem_cons.mp hc with rfl | hc
      · cases hnone
      · rcases List.mem_cons.mp hc with rfl | hc
        · rfl
        · rw [List.mem_singleton.mp hc, hrole] at hnone
          cases hnone
    · obtain rfl := List.mem_singleton.mp hm
      cases huntyped
    · obtain rfl := List.mem_singleton.mp hm
      cases huntyped
    · exact ih hm

lemma isRegular_letterParser {tree : Node} (h : letterParser source = .ok tree) :
    IsRegular source tree := by
  obtain ⟨ls, rfl, rfl⟩ := letterParser_eq_ok_iff.mp h
  have hlines : ∀ n ∈ letterLinesAt .origin ls, ∃ (l : LetterLine) (p : Position),
      n = letterLineAt p l.targets.length ∧ HasAt _ p.index (.ofList l.chars) :=
    fun n hn => exists_line_of_mem_letterLinesAt (HasAt.self _) hn
  have hchildren (p : Position) (count : Nat) : ∀ c ∈ (letterLineAt p count).children,
      c = lettersAt none p count := fun c hc => List.mem_singleton.mp hc
  have hnamed (p : Position) (count : Nat) : (lettersAt none p count).isNamed := by
    cases count <;> rfl
  refine ⟨rfl, ?_, ?_, ?_, ?_⟩
  · refine .of_children (Nat.zero_le _) (Nat.le_refl _) fun n hn => ?_
    obtain ⟨l, p, rfl, hat⟩ := hlines n hn
    have hle := hat.length_le
    rw [String.length_ofList, LetterLine.length_chars] at hle
    have hlies := liesIn_letterLineAt hle
    exact ⟨hlies, Nat.zero_le _, hlies.stop_le⟩
  · intro c hc hunnamed
    obtain ⟨l, p, rfl, -⟩ := hlines c hc
    exact absurd rfl hunnamed
  · intro n c hn _ hc hunnamed
    obtain ⟨l, p, rfl, -⟩ := hlines n (Node.mem_children_of_mem_namedChildren hn)
    obtain rfl := hchildren p _ c hc
    exact absurd (hnamed p _) hunnamed
  · intro m hm huntyped
    rcases List.mem_cons.mp hm with rfl | hm
    · cases huntyped
    · rw [Node.preorderAll_eq_flatMap] at hm
      obtain ⟨n, hn, hm⟩ := List.mem_flatMap.mp hm
      obtain ⟨l, p, rfl, -⟩ := hlines n hn
      rcases List.mem_cons.mp hm with rfl | hm
      · cases huntyped
      · rw [Node.preorderAll_singleton] at hm
        exact hasTwoSides_of_mem_lettersAt hm huntyped

lemma text_letterLineAt {l : LetterLine} (h : HasAt source place.index (.ofList l.chars)) :
    (letterLineAt place l.targets.length).text source = .ofList l.chars := by
  refine Node.text_of_hasAt h ?_
  rw [letterLineAt_stop, String.length_ofList, LetterLine.length_chars]
  rfl

/-- The parser does with lines of letters what a parser of Python does. -/
lemma readsLines_letterParser : ReadsLines letterParser where
  regular := isRegular_letterParser
  nothing := reads_letterLines []
  alone {source tree g} htree hg _ _ := by
    obtain ⟨l, p, rfl, hat⟩ := exists_line_of_mem_groupsOf htree hg
    have hline := reads_line l
    rw [← text_letterLineAt hat, ← letterLineAt_moveTo p .origin] at hline
    rw [renderedComments_nil, String.append_empty]
    exact hline
  target htree hg _ hvalue ht _ :=
    readsChain_letters htree hg hvalue fun t' ht' => List.mem_singleton.mp ht' ▸ ht
  further htree hg _ hvalue hts _ := readsChain_letters htree hg hvalue fun t' ht' => hts.subset ht'
  below {line rest head last comments nodes} hline hcomments hlast _ hrest _ _ := by
    obtain ⟨ls, htext, hnodes⟩ := exists_letterLines_of_reads hline
    obtain ⟨ls', rfl, rfl⟩ := exists_letterLines_of_reads hrest
    rcases ls with _ | ⟨l, _ | ⟨l₂, ls⟩⟩
    · cases hnodes
    · obtain ⟨rfl, rfl⟩ := List.cons.inj hnodes
      obtain rfl := Option.some.inj hlast
      have hboth := reads_letterLines (l :: ls')
      rw [LetterLine.ofList_charsOf_cons, ← LetterLine.ofList_charsOf_singleton, ← htext] at hboth
      rw [← letterLinesAt_below]
      exact hboth
    · -- the second line would be a comment
      obtain ⟨-, rfl⟩ := List.cons.inj hnodes
      cases hcomments _ List.mem_cons_self

end Places

end NotebookExport
