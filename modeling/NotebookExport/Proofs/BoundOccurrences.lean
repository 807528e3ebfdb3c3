import NotebookExport.Proofs.Binding
import NotebookExport.Proofs.ReadOccurrences
import NotebookExport.Proofs.TargetLayout

/-!
# Which occurrences of a name are bound

The names that a tree binds stand at the end of ways of few kinds: into the target of a simple
assignment or of a loop, to the name of a definition, to a parameter. None of these ways makes a
name read, so that no occurrence both binds a name and reads it. What a target has besides names is
read: the object of `x.a = 1`, the object and the index of `x[i] = 1`.
-/

namespace NotebookExport

open Python

variable {source name : String}

namespace Branch

/-- Whether the step leads from a pattern to one of its parts. -/
def staysInPattern (b : Branch) : Bool :=
  match b.phrase? with
  | some p => isTargetPattern p
  | none => false

lemma staysInPattern_iff {b : Branch} :
    b.staysInPattern ↔ ∃ p, b.parent.kind = .phrase p ∧ isTargetPattern p := by
  simp only [staysInPattern, ← phrase?_eq_some]
  cases b.phrase? <;> simp

lemma staysInTarget_of_staysInPattern {b : Branch} (h : b.staysInPattern) : b.staysInTarget := by
  obtain ⟨p, hkind, hp⟩ := staysInPattern_iff.mp h
  rw [staysInTarget_eq (phrase?_eq_some.mpr hkind)]
  cases p <;> first | rfl | cases hp

end Branch

/-- Whether a way leads down to the name of a parameter with a default. -/
def leadsToName : List Branch → Bool
  | [] => false
  | b :: path => b.isFirst .name && path.all Branch.staysInPattern

/-- Whether a way leads down to the name of a parameter with a star or a type. -/
def leadsToStarred : List Branch → Bool
  | [_] => true
  | [b, _] => isSplatPattern b.child
  | _ => false

/-- Whether a parameter binds the name at the end of a way down from it. -/
def bindsAsParameter (parameter : Node) (path : List Branch) : Bool :=
  match parameter.kind with
  | .token .identifier => true
  | .phrase .defaultParameter | .phrase .typedDefaultParameter => leadsToName path
  | .phrase .typedParameter | .phrase .listSplatPattern | .phrase .dictionarySplatPattern =>
    leadsToStarred path
  | _ => false

/-- Whether a list of parameters binds the name at the end of a way down from it. -/
def bindsInList : List Branch → Bool
  | [] => false
  | b :: path => bindsAsParameter b.child path

/-- Whether a node binds by itself the name at the end of a way down from it. -/
def bindsItself (n : Node) : List Branch → Bool
  | [] => false
  | b :: path =>
    match n.kind with
    | .phrase .assignment =>
      (n.child? .declaredType).isNone && b.isFirst .left && path.all Branch.staysInPattern
    | .phrase .forStatement => b.isFirst .left && path.all Branch.staysInPattern
    | .phrase .classDefinition => b.isFirst .name
    | .phrase .functionDefinition => b.isFirst .name || b.isFirst .parameters && bindsInList path
    | _ => false

/-- A name is bound where some node on the way to it binds it. -/
def IsBound (path : List Branch) : Prop :=
  ∃ b rest, b :: rest <:+ path ∧ bindsItself b.parent (b :: rest)

/-! ### Names behind some ways -/

/-- A name stands at the end of one of some ways down from a node. -/
def StandsBehind (source name : String) (ways : List Branch → Prop) (n : Node) : Prop :=
  ∃ o ∈ n.occurrences, ways o.path ∧ o.text source = name

lemma standsBehind_of_identifier {n : Node} (h : n.IsSyntaxTree) {ways : List Branch → Prop}
    (hkind : n.kind = .token .identifier) :
    StandsBehind source name ways n ↔ ways [] ∧ n.text source = name := by
  simp [StandsBehind, h.occurrences_of_token hkind, Occurrence.text]

/-- Behind a node that is no name the names stand behind a step down from it. -/
lemma standsBehind_iff {n : Node} {ways : List Branch → Prop}
    (hkind : n.kind ≠ .token .identifier) :
    StandsBehind source name ways n ↔
      ∃ b : Branch, b.StartsAt n ∧
        StandsBehind source name (fun path => ways (b :: path)) b.child := by
  have hroot : n.isName = false := by simp [Node.isName, hkind]
  constructor
  · rintro ⟨⟨path, leaf⟩, ho, hway, htext⟩
    obtain ⟨hdescends, hname⟩ := Node.mem_occurrences.mp ho
    cases path with
    | nil =>
      have hsame : leaf = n := hdescends
      rw [hsame, hroot] at hname
      cases hname
    | cons b path =>
      exact ⟨b, hdescends.1, ⟨path, leaf⟩, Node.mem_occurrences.mpr ⟨hdescends.2, hname⟩, hway,
        htext⟩
  · rintro ⟨b, hb, ⟨path, leaf⟩, ho, hway, htext⟩
    obtain ⟨hdescends, hname⟩ := Node.mem_occurrences.mp ho
    exact ⟨⟨b :: path, leaf⟩, Node.mem_occurrences.mpr ⟨⟨hb, hdescends⟩, hname⟩, hway, htext⟩

/-- Only a name stands behind no step. -/
lemma standsBehind_nil_iff {n : Node} (h : n.IsSyntaxTree) :
    StandsBehind source name (· = []) n ↔
      n.kind = .token .identifier ∧ n.text source = name := by
  by_cases hkind : n.kind = .token .identifier
  · simp [standsBehind_of_identifier h hkind, hkind]
  · rw [standsBehind_iff hkind]
    simp [StandsBehind, hkind]

lemma standsBehind_and {n : Node} {condition : Prop} {ways : List Branch → Prop} :
    StandsBehind source name (fun path => condition ∧ ways path) n ↔
      condition ∧ StandsBehind source name ways n := by
  constructor
  · rintro ⟨o, ho, ⟨hcondition, hway⟩, htext⟩
    exact ⟨hcondition, o, ho, hway, htext⟩
  · rintro ⟨hcondition, o, ho, hway, htext⟩
    exact ⟨o, ho, ⟨hcondition, hway⟩, htext⟩

lemma standsBehind_or {n : Node} {ways others : List Branch → Prop} :
    StandsBehind source name (fun path => ways path ∨ others path) n ↔
      StandsBehind source name ways n ∨ StandsBehind source name others n := by
  simp only [StandsBehind, or_and_right, and_or_left, exists_or]

/-! ### Targets -/

/-- Only names and patterns bind names, and both are named nodes. -/
lemma isNamed_of_mem_boundBy {n : Node} (h : name ∈ (boundBy source n).names) :
    n.isNamed ∧ n.kind ≠ .token .comment := by
  by_contra hunnamed
  have hnone : boundBy source n = ⟨[], false⟩ := by
    apply boundBy_of_neither
    · intro hkind
      simp [Node.isNamed, hkind, Kind.isNamed, Token.isNamed] at hunnamed
    · intro p hkind hp
      have hnamed : p.isNamed := by cases p <;> first | rfl | cases hp
      simp [Node.isNamed, hkind, Kind.isNamed, hnamed] at hunnamed
  rw [hnone] at h
  cases h

lemma mem_boundByParts_iff {ns : List Node} :
    name ∈ (boundByParts source ns).names ↔ ∃ n ∈ ns, name ∈ (boundBy source n).names := by
  induction ns with
  | nil => simp [boundByParts, Bound.nothing]
  | cons n ns ih =>
    rw [boundByParts, List.exists_mem_cons_iff]
    split_ifs with hpart
    · rw [Bound.append, List.mem_append, ih]
    · have hnone : name ∉ (boundBy source n).names := by
        intro hbound
        simp [isNamed_of_mem_boundBy hbound] at hpart
      rw [ih, or_iff_right hnone]

/-- A target binds the names behind patterns. -/
lemma mem_boundBy_iff {n : Node} (h : n.IsSyntaxTree) :
    name ∈ (boundBy source n).names ↔
      StandsBehind source name (fun path => path.all Branch.staysInPattern) n := by
  by_cases hname : n.kind = .token .identifier
  · rw [standsBehind_of_identifier h hname, boundBy_of_identifier hname]
    simp [eq_comm]
  rw [standsBehind_iff hname]
  have hstays : ∀ b : Branch, b.StartsAt n →
      (b.staysInPattern ↔ ∃ p, n.kind = .phrase p ∧ isTargetPattern p) := by
    rintro b ⟨rfl, -⟩
    exact Branch.staysInPattern_iff
  by_cases hpattern : ∃ p, n.kind = .phrase p ∧ isTargetPattern p
  · obtain ⟨p, hkind, hp⟩ := id hpattern
    rw [boundBy_of_pattern hkind hp, mem_boundByParts_iff]
    constructor
    · rintro ⟨c, hc, hbound⟩
      have hsize := Node.sizeOf_lt_of_mem_children hc
      obtain ⟨b, hb, rfl⟩ := n.exists_startsAt hc
      obtain ⟨o, ho, hway, htext⟩ := (mem_boundBy_iff (h.of_mem_children hc)).mp hbound
      refine ⟨b, hb, o, ho, ?_, htext⟩
      simp only [List.all_cons, hway, Bool.and_true]
      exact (hstays b hb).mpr hpattern
    · rintro ⟨b, hb, o, ho, hway, htext⟩
      have hsize := Node.sizeOf_lt_of_mem_children hb.mem_children
      simp only [List.all_cons, Bool.and_eq_true] at hway
      exact ⟨b.child, hb.mem_children,
        (mem_boundBy_iff (h.of_mem_children hb.mem_children)).mpr ⟨o, ho, hway.2, htext⟩⟩
  · have hnone : boundBy source n = ⟨[], false⟩ :=
      boundBy_of_neither hname fun p hkind hp => hpattern ⟨p, hkind, hp⟩
    simp only [hnone, List.not_mem_nil, false_iff]
    rintro ⟨b, hb, o, -, hway, -⟩
    simp only [List.all_cons, Bool.and_eq_true] at hway
    exact hpattern ((hstays b hb).mp hway.1)
termination_by sizeOf n

/-- What is said of the child in a role is said of the node behind the step in that role. -/
lemma mem_child?_iff {n : Node} {role : Field} {f : Node → List String} :
    name ∈ ((n.child? role).map f).getD [] ↔
      ∃ b : Branch, b.StartsAt n ∧ b.isFirst role ∧ name ∈ f b.child := by
  constructor
  · intro hname
    cases hc : n.child? role with
    | none => simp [hc] at hname
    | some c =>
      obtain ⟨b, hb, hfirst, rfl⟩ := Node.child?_eq_some_iff.mp hc
      rw [hc] at hname
      exact ⟨b, hb, hfirst, hname⟩
  · rintro ⟨b, hb, hfirst, hname⟩
    rw [Node.child?_eq_some_iff.mpr ⟨b, hb, hfirst, rfl⟩]
    exact hname

lemma mem_boundBy_child?_iff {n : Node} (h : n.IsSyntaxTree) {role : Field} :
    name ∈ ((n.child? role).map fun c => (boundBy source c).names).getD [] ↔
      ∃ b : Branch, b.StartsAt n ∧ StandsBehind source name
        (fun path => b.isFirst role ∧ path.all Branch.staysInPattern) b.child := by
  rw [mem_child?_iff]
  refine exists_congr fun b => and_congr_right fun hb => ?_
  rw [standsBehind_and, mem_boundBy_iff (h.of_mem_children hb.mem_children)]

/-! ### Parameters -/

/-- The names that a part of a starred or typed parameter holds. -/
def starredNames (source : String) (n : Node) : List String :=
  if n.kind = .token .identifier then [n.text source]
  else if isSplatPattern n then nameChildren source n
  else []

lemma mem_flatMap_namedChildren_iff {n : Node} {f : Node → List String}
    (hf : ∀ c, name ∈ f c → c.isNamed) :
    name ∈ n.namedChildren.flatMap f ↔ ∃ b : Branch, b.StartsAt n ∧ name ∈ f b.child := by
  rw [List.mem_flatMap, ← Node.exists_mem_children_iff (P := (name ∈ f ·))]
  constructor
  · rintro ⟨c, hc, hname⟩
    exact ⟨c, Node.mem_children_of_mem_namedChildren hc, hname⟩
  · rintro ⟨c, hc, hname⟩
    exact ⟨c, List.mem_filter.mpr ⟨hc, hf c hname⟩, hname⟩

lemma mem_nameChildren_iff {n : Node} (h : n.IsSyntaxTree) :
    name ∈ nameChildren source n ↔
      ∃ b : Branch, b.StartsAt n ∧ StandsBehind source name (· = []) b.child := by
  rw [nameChildren, List.mem_map, ← Node.exists_mem_children_iff]
  constructor
  · rintro ⟨c, hc, htext⟩
    obtain ⟨hnamed, hkind⟩ := List.mem_filter.mp hc
    have hchild := Node.mem_children_of_mem_namedChildren hnamed
    exact ⟨c, hchild, (standsBehind_nil_iff (h.of_mem_children hchild)).mpr
      ⟨of_decide_eq_true hkind, htext⟩⟩
  · rintro ⟨c, hc, hbehind⟩
    obtain ⟨hkind, htext⟩ := (standsBehind_nil_iff (h.of_mem_children hc)).mp hbehind
    have hnamed : c.isNamed := by rw [Node.isNamed, hkind]; rfl
    exact ⟨c, List.mem_filter.mpr ⟨List.mem_filter.mpr ⟨hc, hnamed⟩, decide_eq_true hkind⟩, htext⟩

lemma leadsToStarred_cons_cons {b c : Branch} {path : List Branch} :
    leadsToStarred (b :: c :: path) ↔ isSplatPattern b.child ∧ path = [] := by
  cases path <;> simp [leadsToStarred]

lemma mem_starredNames_iff {b : Branch} (h : b.child.IsSyntaxTree) :
    name ∈ starredNames source b.child ↔
      StandsBehind source name (fun path => leadsToStarred (b :: path)) b.child := by
  by_cases hkind : b.child.kind = .token .identifier
  · rw [standsBehind_of_identifier h hkind, starredNames, if_pos hkind]
    simp [leadsToStarred, eq_comm]
  · simp only [standsBehind_iff hkind, leadsToStarred_cons_cons, standsBehind_and]
    rw [starredNames, if_neg hkind]
    split_ifs with hsplat
    · simp only [mem_nameChildren_iff h, hsplat, true_and]
    · simp [hsplat]

lemma isNamed_of_mem_starredNames {n : Node} (h : name ∈ starredNames source n) : n.isNamed := by
  unfold starredNames at h
  split_ifs at h with hkind hsplat
  · rw [Node.isNamed, hkind]
    rfl
  · simp only [isSplatPattern, Bool.or_eq_true, decide_eq_true_eq] at hsplat
    rcases hsplat with hsplat | hsplat <;> rw [Node.isNamed, hsplat] <;> rfl
  · cases h

lemma isNamed_of_mem_parameterNames {n : Node} (h : name ∈ parameterNames source n) :
    n.isNamed := by
  unfold parameterNames at h
  split at h
  case h_7 => cases h
  all_goals
    rename_i hkind
    rw [Node.isNamed, hkind]
    rfl

/-- A parameter binds the names behind the ways to its name. -/
lemma mem_parameterNames_iff {n : Node} (h : n.IsSyntaxTree) :
    name ∈ parameterNames source n ↔
      StandsBehind source name (fun path => bindsAsParameter n path) n := by
  have hdefault : n.kind ≠ .token .identifier →
      (name ∈ ((n.child? .name).map fun c => (boundBy source c).names).getD [] ↔
        StandsBehind source name (fun path => leadsToName path) n) := by
    intro hkind
    rw [mem_boundBy_child?_iff h, standsBehind_iff hkind]
    simp only [leadsToName, Bool.and_eq_true]
  have hstarred : n.kind ≠ .token .identifier →
      (name ∈ n.namedChildren.flatMap (starredNames source) ↔
        StandsBehind source name (fun path => leadsToStarred path) n) := by
    intro hkind
    rw [mem_flatMap_namedChildren_iff fun c => isNamed_of_mem_starredNames,
      standsBehind_iff hkind]
    refine exists_congr fun b => and_congr_right fun hb => ?_
    exact mem_starredNames_iff (h.of_mem_children hb.mem_children)
  rw [parameterNames]
  split
  case h_1 hkind =>
    rw [standsBehind_of_identifier h hkind]
    simp [bindsAsParameter, hkind, eq_comm]
  case h_2 hkind | h_3 hkind =>
    simp only [bindsAsParameter, hkind]
    exact hdefault (by simp [hkind])
  case h_4 hkind | h_5 hkind | h_6 hkind =>
    simp only [bindsAsParameter, hkind]
    exact hstarred (by simp [hkind])
  case h_7 =>
    have hnone : ∀ path, bindsAsParameter n path = false := by
      intro path
      unfold bindsAsParameter
      split <;> first | contradiction | rfl
    simp [StandsBehind, hnone]

/-! ### Definitions and whole trees -/

/-- The name of a definition stands behind the step to it. -/
lemma mem_name_iff {n : Node} (h : n.IsSyntaxTree)
    (hkind : n.kind = .phrase .functionDefinition ∨ n.kind = .phrase .classDefinition) :
    name ∈ ((n.child? .name).map (Node.text source)).toList ↔
      ∃ b : Branch, b.StartsAt n ∧ StandsBehind source name (fun _ => b.isFirst .name) b.child := by
  have hlist : ((n.child? .name).map (Node.text source)).toList =
      ((n.child? .name).map fun c => [c.text source]).getD [] := by
    cases n.child? .name <;> rfl
  rw [hlist, mem_child?_iff]
  refine exists_congr fun b => and_congr_right fun hb => ?_
  by_cases hfirst : b.isFirst .name
  · have hname := h.kind_of_name hkind hb.mem_children (Branch.hasRole_of_isFirst hfirst)
    rw [standsBehind_of_identifier (h.of_mem_children hb.mem_children) hname, List.mem_singleton]
    simp only [hfirst, true_and, eq_comm]
  · simp [hfirst, StandsBehind]

/-- The names of the parameters of a function stand behind the step to the list of these. -/
lemma mem_parameters_iff {n : Node} (h : n.IsSyntaxTree)
    (hkind : n.kind = .phrase .functionDefinition) :
    name ∈ ((n.child? .parameters).map fun c =>
        c.namedChildren.flatMap (parameterNames source)).getD [] ↔
      ∃ b : Branch, b.StartsAt n ∧ StandsBehind source name
        (fun path => b.isFirst .parameters ∧ bindsInList path) b.child := by
  rw [mem_child?_iff]
  refine exists_congr fun b => and_congr_right fun hb => ?_
  rw [standsBehind_and]
  refine and_congr_right fun hfirst => ?_
  have hlist := h.kind_of_parameters hkind hb.mem_children (Branch.hasRole_of_isFirst hfirst)
  have hbelow := h.of_mem_children hb.mem_children
  rw [mem_flatMap_namedChildren_iff fun c => isNamed_of_mem_parameterNames,
    standsBehind_iff (by simp [hlist])]
  refine exists_congr fun c => and_congr_right fun hc => ?_
  exact mem_parameterNames_iff (hbelow.of_mem_children hc.mem_children)

/-- A node binds by itself the names behind certain ways down from it. -/
lemma mem_ownNames_iff {n : Node} (h : n.IsSyntaxTree) :
    name ∈ ownNames source n ↔ StandsBehind source name (fun path => bindsItself n path) n := by
  rw [ownNames]
  split
  case h_1 hkind =>
    rw [standsBehind_iff (by simp [hkind])]
    simp only [bindsItself, hkind, Bool.and_eq_true, and_assoc]
    split_ifs with htype
    · simp only [htype, true_and]
      exact mem_boundBy_child?_iff h
    · simp [htype, StandsBehind]
  case h_2 hkind =>
    rw [standsBehind_iff (by simp [hkind])]
    simp only [bindsItself, hkind, Bool.and_eq_true]
    exact mem_boundBy_child?_iff h
  case h_3 hkind =>
    rw [standsBehind_iff (by simp [hkind])]
    simp only [bindsItself, hkind, Bool.or_eq_true, Bool.and_eq_true, standsBehind_or, and_or_left,
      exists_or, List.mem_append]
    exact or_congr (mem_name_iff h (.inl hkind)) (mem_parameters_iff h hkind)
  case h_4 hkind =>
    rw [standsBehind_iff (by simp [hkind])]
    simp only [bindsItself, hkind]
    exact mem_name_iff h (.inr hkind)
  case h_5 =>
    have hnone : ∀ path, bindsItself n path = false := by
      intro path
      unfold bindsItself
      split
      · rfl
      · split <;> first | contradiction | rfl
    simp [StandsBehind, hnone]

/-- A tree binds the names behind the ways on which some node binds them. -/
lemma mem_boundNames_iff {tree : Node} (h : tree.IsSyntaxTree) :
    name ∈ tree.boundNames source ↔ StandsBehind source name IsBound tree := by
  rw [Node.boundNames, List.mem_flatMap]
  constructor
  · rintro ⟨n, hn, hown⟩
    obtain ⟨way, hdescends⟩ := Node.exists_descends hn
    obtain ⟨⟨path, leaf⟩, ho, hbinds, htext⟩ :=
      (mem_ownNames_iff (h.of_descends hdescends)).mp hown
    obtain ⟨hpath, hname⟩ := Node.mem_occurrences.mp ho
    cases path with
    | nil => cases hbinds
    | cons b rest =>
      obtain rfl := hpath.1.1
      exact ⟨⟨way ++ b :: rest, leaf⟩,
        Node.mem_occurrences.mpr ⟨Node.descends_append.mpr ⟨_, hdescends, hpath⟩, hname⟩,
        ⟨b, rest, List.suffix_append way _, hbinds⟩, htext⟩
  · rintro ⟨⟨path, leaf⟩, ho, ⟨b, rest, ⟨way, rfl⟩, hbinds⟩, htext⟩
    obtain ⟨hpath, hname⟩ := Node.mem_occurrences.mp ho
    obtain ⟨n, hdescends, hrest⟩ := Node.descends_append.mp hpath
    obtain rfl := hrest.1.1
    exact ⟨b.parent, hdescends.mem_preorder, (mem_ownNames_iff (h.of_descends hdescends)).mpr
      ⟨⟨b :: rest, leaf⟩, Node.mem_occurrences.mpr ⟨hrest, hname⟩, hbinds, htext⟩⟩

/-! ### No name is bound and read in one place -/

lemma IsRead.of_append {path rest : List Branch} (h : IsRead (path ++ rest)) : IsRead rest := by
  induction path with
  | nil => exact h
  | cons b path ih => exact ih (isRead_cons.mp h).2.2.2

/-- The name of a parameter is not read: a bare parameter is withheld, and behind the others only
types and defaults are visible. -/
lemma not_reads_of_bindsAsParameter {n m : Node} {path : List Branch} (h : n.IsSyntaxTree)
    (hpath : Node.Descends n path m) (hname : m.isName) (hbinds : bindsAsParameter n path) :
    ¬Aspect.parameter.Reads n path := by
  rintro ⟨hbare, hannotation, -⟩
  unfold bindsAsParameter at hbinds
  split at hbinds
  case h_1 hkind | h_5 hkind | h_6 hkind => simp [Node.isBareParameter, hkind] at hbare
  case h_2 hkind | h_3 hkind =>
    cases path with
    | nil => cases hbinds
    | cons b path =>
      have hopens := hannotation (by simp [Node.isAnnotatedParameter, hkind]) b rfl
      simp only [Branch.opensAnnotation, Bool.or_eq_true] at hopens
      simp only [leadsToName, Bool.and_eq_true] at hbinds
      rcases hopens with hopens | hopens <;> cases Branch.eq_of_isFirst hbinds.1 hopens
  case h_4 hkind =>
    cases path with
    | nil => cases hbinds
    | cons b path =>
      have hopens := hannotation (by simp [Node.isAnnotatedParameter, hkind]) b rfl
      simp only [Branch.opensAnnotation, Bool.or_eq_true] at hopens
      obtain ⟨hb, hrest⟩ := hpath
      have htype : b.child.kind = .phrase .typeExpression :=
        h.kind_of_annotation hkind hb.mem_children
          (hopens.imp Branch.hasRole_of_isFirst Branch.hasRole_of_isFirst)
      cases path with
      | nil =>
        have hsame : m = b.child := hrest
        simp [hsame, Node.isName, htype] at hname
      | cons c path =>
        have hsplat := (leadsToStarred_cons_cons.mp hbinds).1
        simp [isSplatPattern, htype] at hsplat
  case h_7 => cases hbinds

lemma not_isRead_of_bindsInList {n m : Node} {path : List Branch} (h : n.IsSyntaxTree)
    (hkind : n.kind = .phrase .parameters) (hpath : Node.Descends n path m) (hname : m.isName)
    (hbinds : bindsInList path) : ¬IsRead path := by
  cases path with
  | nil => cases hbinds
  | cons b path =>
    obtain ⟨hb, hrest⟩ := hpath
    have hphrase : b.phrase? = some .parameters := Branch.phrase?_eq_some.mpr (hb.1 ▸ hkind)
    rw [isRead_cons_of_phrase hphrase]
    rintro ⟨aspect, haspect, hreads⟩
    obtain rfl := Option.some.inj haspect
    exact not_reads_of_bindsAsParameter (h.of_mem_children hb.mem_children) hrest hname hbinds
      hreads

/-- A name that a node binds by itself is not read. -/
lemma not_isRead_of_bindsItself {n m : Node} {path : List Branch} (h : n.IsSyntaxTree)
    (hpath : Node.Descends n path m) (hname : m.isName) (hbinds : bindsItself n path) :
    ¬IsRead path := by
  cases path with
  | nil => cases hbinds
  | cons b path =>
    intro hread
    obtain ⟨hb, hpath⟩ := hpath
    obtain ⟨hshown, -, hslot, hrest⟩ := isRead_cons.mp hread
    have hphrase : ∀ {p}, n.kind = .phrase p → b.phrase? = some p :=
      fun hkind => Branch.phrase?_eq_some.mpr (hb.1 ▸ hkind)
    have htarget : path.all Branch.staysInPattern → ∀ c ∈ path, c.staysInTarget := by
      intro hall c hc
      exact Branch.staysInTarget_of_staysInPattern (List.all_eq_true.mp hall c hc)
    simp only [bindsItself] at hbinds
    split at hbinds
    case h_1 hkind =>
      simp only [Bool.and_eq_true] at hbinds
      exact hslot ⟨by simp [Branch.opensSlot, hphrase hkind, hbinds.1.2], htarget hbinds.2⟩
    case h_2 hkind =>
      simp only [Bool.and_eq_true] at hbinds
      exact hslot ⟨by simp [Branch.opensSlot, hphrase hkind, hbinds.1], htarget hbinds.2⟩
    case h_3 hkind => exact hshown (by simp [Branch.withholds, hphrase hkind, hbinds])
    case h_4 hkind =>
      simp only [Bool.or_eq_true, Bool.and_eq_true] at hbinds
      rcases hbinds with hfirst | ⟨hfirst, hbinds⟩
      · exact hshown (by simp [Branch.withholds, hphrase hkind, hfirst])
      · have hlist :=
          h.kind_of_parameters hkind hb.mem_children (Branch.hasRole_of_isFirst hfirst)
        exact not_isRead_of_bindsInList (h.of_mem_children hb.mem_children) hlist hpath hname
          hbinds hrest
    case h_5 => cases hbinds

/-- No occurrence both binds a name and reads it. -/
lemma not_isRead_of_isBound {tree : Node} (h : tree.IsSyntaxTree) {o : Occurrence}
    (ho : o ∈ tree.occurrences) (hbound : IsBound o.path) : ¬IsRead o.path := by
  obtain ⟨hpath, hname⟩ := Node.mem_occurrences.mp ho
  obtain ⟨b, rest, ⟨way, hway⟩, hbinds⟩ := hbound
  intro hread
  rw [← hway] at hpath hread
  obtain ⟨n, hdescends, hrest⟩ := Node.descends_append.mp hpath
  obtain rfl := hrest.1.1
  exact not_isRead_of_bindsItself (h.of_descends hdescends) hrest hname hbinds hread.of_append

/-! ### Members and items are read in targets, too -/

lemma not_opensSlot_of_staysInTarget {b : Branch} (h : b.staysInTarget) : ¬b.opensSlot := by
  unfold Branch.staysInTarget at h
  cases hp : b.phrase? with
  | none => simp [hp] at h
  | some p =>
    simp only [hp] at h
    simp [opensSlot_eq hp, ofPhrase_of_groupsTargets h]

lemma not_isJoined_of_staysInTarget {path : List Branch} (h : ∀ b ∈ path, b.staysInTarget) :
    ¬IsJoined path := by
  rintro ⟨slot, group, hsuffix, hslot, -⟩
  exact not_opensSlot_of_staysInTarget (h slot (hsuffix.subset List.mem_cons_self)) hslot

/-- The last step that leads out of a group of targets decides whether a name is joined to a slot.
-/
lemma isJoined_append_cons_iff {way group : List Branch} {b : Branch} (hb : ¬b.staysInTarget)
    (hgroup : ∀ c ∈ group, c.staysInTarget) : IsJoined (way ++ b :: group) ↔ b.opensSlot := by
  induction way with
  | nil =>
    rw [List.nil_append, isJoined_cons, or_iff_left (not_isJoined_of_staysInTarget hgroup),
      and_iff_left hgroup]
  | cons c way ih =>
    have hout : ¬∀ d ∈ way ++ b :: group, d.staysInTarget := by
      intro h
      exact hb (h b (List.mem_append_right way List.mem_cons_self))
    rw [List.cons_append, isJoined_cons, ih, or_iff_right]
    exact fun h => hout h.2

/-- The object of a member and the object and the index of an item are read where they are visible,
however these stand in targets. -/
lemma isRead_of_place {way group : List Branch} {b : Branch}
    (hplace : b.phrase? = some .memberAccess ∨ b.phrase? = some .subscript)
    (hgroup : ∀ c ∈ group, c.staysInTarget) (hvisible : IsVisible (way ++ b :: group)) :
    IsRead (way ++ b :: group) := by
  have hb : ¬b.staysInTarget ∧ ¬b.opensSlot := by
    rcases hplace with hp | hp <;> simp [Branch.staysInTarget, Branch.opensSlot, hp, groupsTargets]
  refine ⟨hvisible, ?_⟩
  rw [isJoined_append_cons_iff hb.1 hgroup]
  exact hb.2

/-! ### Reads and bindings of a tree -/

lemma isBound_cons {b : Branch} {path : List Branch} :
    IsBound (b :: path) ↔ bindsItself b.parent (b :: path) ∨ IsBound path := by
  constructor
  · rintro ⟨c, rest, hsuffix, hbinds⟩
    rcases List.suffix_cons_iff.mp hsuffix with heq | hsuffix
    · obtain ⟨rfl, rfl⟩ := List.cons_eq_cons.mp heq
      exact .inl hbinds
    · exact .inr ⟨c, rest, hsuffix, hbinds⟩
  · rintro (hbinds | ⟨c, rest, hsuffix, hbinds⟩)
    · exact ⟨b, path, List.suffix_refl _, hbinds⟩
    · exact ⟨c, rest, hsuffix.trans (List.suffix_cons b path), hbinds⟩

instance decidableIsBound : (path : List Branch) → Decidable (IsBound path)
  | [] => .isFalse fun ⟨_, _, h, _⟩ => absurd (List.suffix_nil.mp h) (List.cons_ne_nil _ _)
  | b :: path =>
    have := decidableIsBound path
    decidable_of_iff (bindsItself b.parent (b :: path) ∨ IsBound path) isBound_cons.symm

/-- A tree reads the names of exactly those occurrences that are visible and not joined to a slot,
each of them once and in source order. It binds the names of the occurrences that some node on the
way to them binds, and none of these is read. What a member or an item is taken from, and the index
of the item, are read wherever they are visible. -/
theorem readNames_eq_occurrences (source : String) {tree : Node} (h : tree.IsSyntaxTree) :
    tree.readNames source =
        (tree.occurrences.filter fun o => IsRead o.path).map (Occurrence.text source) ∧
      (∀ name, name ∈ tree.boundNames source ↔
        ∃ o ∈ tree.occurrences, IsBound o.path ∧ o.text source = name) ∧
      (∀ o ∈ tree.occurrences, IsBound o.path → ¬IsRead o.path) ∧
      ∀ o ∈ tree.occurrences, ∀ way b group, o.path = way ++ b :: group →
        (b.phrase? = some .memberAccess ∨ b.phrase? = some .subscript) →
        (∀ c ∈ group, c.staysInTarget) → IsVisible o.path → IsRead o.path := by
  refine ⟨?_, ?_, ?_, ?_⟩
  · exact namesUnder_eq h .value
  · intro name
    exact mem_boundNames_iff h
  · intro o ho hbound
    exact not_isRead_of_isBound h ho hbound
  · intro o _ way b group hpath hplace hgroup hvisible
    rw [hpath] at hvisible ⊢
    exact isRead_of_place hplace hgroup hvisible

/-- The tree of `def f(k=d): a[k], b = c`. -/
def itemInTarget : Node :=
  let part := Node.onLine 0 0
  let name (field : Option Field) (column : Nat) : Node :=
    part (.token .identifier) field column (column + 1) []
  let mark (token : Token) (column : Nat) : Node := part (.token token) none column (column + 1) []
  .programOf 24 1 [part (.phrase .functionDefinition) none 0 23 [
    part (.token .kwDef) none 0 3 [],
    name (some .name) 4,
    part (.phrase .parameters) (some .parameters) 5 10 [
      mark .lparen 5,
      part (.phrase .defaultParameter) none 6 9 [
        name (some .name) 6, mark .equals 7, name (some .value) 8],
      mark .rparen 9],
    mark .colon 10,
    part (.phrase .block) (some .body) 12 23 [
      part (.phrase .expressionStatement) none 12 23 [part (.phrase .assignment) none 12 23 [
        part (.phrase .patternList) (some .left) 12 19 [
          part (.phrase .subscript) none 12 16 [
            name (some .value) 12, mark .lbracket 13, name (some .subscript) 14,
            mark .rbracket 15],
          mark .comma 16,
          name none 18],
        mark .equals 20,
        name (some .right) 22]]]]]

/-- The default, the object and the index are read; the function, the parameter and the other target
are bound. -/
theorem readNames_of_item_in_target :
    let source := "def f(k=d): a[k], b = c\n"
    itemInTarget.IsSyntaxTree ∧ itemInTarget.readNames source = ["d", "a", "k", "c"] ∧
      (∀ name ∈ ["f", "k", "b"], name ∈ itemInTarget.boundNames source) ∧
      ∀ o ∈ itemInTarget.occurrences, IsBound o.path → ¬IsRead o.path := by
  intro source
  have hshape : itemInTarget.IsSyntaxTree := by decide +kernel
  obtain ⟨hread, hbound, happart, -⟩ := readNames_eq_occurrences source hshape
  refine ⟨hshape, hread.trans (by decide +kernel), ?_, happart⟩
  intro name hname
  have hoccurs : ∀ name ∈ ["f", "k", "b"],
      ∃ o ∈ itemInTarget.occurrences, IsBound o.path ∧ o.text source = name := by
    decide +kernel
  exact (hbound name).mpr (hoccurs name hname)

/-- The tree of `match 5:` and `case 5 as z: pass` on an indented line below. -/
def caseWithAlias : Node :=
  let part := Node.onLine 9 1
  let upToEnd (kind : Phrase) (field : Option Field) (start : Text.Position)
      (children : List Node) : Node :=
    .node ⟨.phrase kind, field, false, false, start, placeAt 30 1 21⟩ children
  .programOf 31 2 [upToEnd .matchStatement none .origin [
    .onLine 0 0 (.token .kwMatch) none 0 5 [],
    .onLine 0 0 (.token .integer) (some .subject) 6 7 [],
    .onLine 0 0 (.token .colon) none 7 8 [],
    upToEnd .block (some .body) (placeAt 8 0 8) [
      upToEnd .caseClause (some .alternative) (placeAt 13 1 4) [
        part (.token .kwCase) none 4 8 [],
        part (.phrase .casePattern) none 9 15 [part (.phrase .asPattern) none 9 15 [
          part (.phrase .casePattern) none 9 10 [part (.token .integer) none 9 10 []],
          part (.token .kwAs) none 11 13 [],
          part (.token .identifier) none 14 15 []]],
        part (.token .colon) none 15 16 [],
        part (.phrase .block) (some .consequence) 17 21 [
          part (.phrase .passStatement) none 17 21 [part (.token .kwPass) none 17 21 []]]]]]]

/-- The alias in a pattern of a `match` has no role in the tree. So it opens no slot, and the only
name here, which stands behind an `as`, is read. -/
theorem alias_of_case_read :
    let source := "match 5:\n    case 5 as z: pass\n"
    caseWithAlias.IsSyntaxTree ∧ caseWithAlias.readNames source = ["z"] ∧
      ∀ o ∈ caseWithAlias.occurrences, ∃ b, o.path.getLast? = some b ∧
        b.phrase? = some .asPattern ∧ aliasOf b.parent.children = some b.child ∧
        IsVisible o.path := by
  intro source
  refine ⟨by decide +kernel, by decide +kernel, ?_⟩
  intro o ho
  obtain rfl : o = _ := List.mem_singleton.mp ho
  exact ⟨_, rfl, rfl, rfl, by decide +kernel⟩

end NotebookExport
