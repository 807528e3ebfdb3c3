import Mathlib.Data.List.Chain
import NotebookExport.Names.Reading
import NotebookExport.Proofs.Occurrences

/-!
# Which occurrences of a name are read

Whether a name is read depends only on the way down to it. A step of the way can withhold the name:
into an import, to the member of an object, to the name of a definition, to a parameter. And the
name can be joined to a slot that binds it, by steps that only group targets.

A node is looked at under an aspect, and `Aspect.Reads` says what the aspect makes of a way down
from the node. What one step does to it is `reads_cons`; from it `namesUnder_eq` follows by
recursion over the tree.
-/

namespace NotebookExport

open Python

/-- The parameters that are nothing but names. -/
def Python.Node.isBareParameter (n : Node) : Bool :=
  match n.kind with
  | .token .identifier | .phrase .listSplatPattern | .phrase .dictionarySplatPattern
  | .phrase .tuplePattern => true
  | _ => false

/-- The parameters with a type or a default. -/
def Python.Node.isAnnotatedParameter (n : Node) : Bool :=
  match n.kind with
  | .phrase .defaultParameter | .phrase .typedParameter | .phrase .typedDefaultParameter => true
  | _ => false

namespace Branch

/-- Whether the step leads to a parameter of a list. -/
def opensParameter (b : Branch) : Bool :=
  match b.phrase? with
  | some .parameters | some .lambdaParameters => true
  | _ => false

/-- Whether the step leads to a type or a default. -/
def opensAnnotation (b : Branch) : Bool := b.isFirst .declaredType || b.isFirst .value

/-- Whether names behind the step are no references: those of imports and declarations, the members
of objects, the keywords of arguments, the names of definitions, and bare parameters. -/
def withholds (b : Branch) : Bool :=
  match b.phrase? with
  | some .importStatement | some .importFromStatement | some .futureImportStatement
  | some .globalStatement | some .nonlocalStatement => true
  | some .memberAccess => !b.isFirst .object
  | some .keywordArgument => !b.isFirst .value
  | some .functionDefinition | some .classDefinition => b.isFirst .name
  | some .parameters | some .lambdaParameters => b.child.isBareParameter
  | _ => false

/-- Whether the step leads to a place where names are bound: the left of an assignment, a loop or a
comprehension, the name of an assignment expression, the alias behind an `as`, an operand of `del`.
-/
def opensSlot (b : Branch) : Bool :=
  match b.phrase? with
  | some .assignment | some .augmentedAssignment | some .forStatement | some .forInClause =>
    b.isFirst .left
  | some .namedExpression => b.isFirst .name
  | some .asPattern => b.isFirst .asName
  | some .deleteStatement => true
  | _ => false

/-- Whether the step leads from a group of targets to one of them. -/
def staysInTarget (b : Branch) : Bool :=
  match b.phrase? with
  | some p => groupsTargets p
  | none => false

end Branch

/-- A name is visible if no step withholds it, and if the way through a parameter with a type or a
default leads to one of these. -/
def IsVisible (path : List Branch) : Prop :=
  (∀ b ∈ path, ¬b.withholds) ∧
    path.IsChain fun b c => b.opensParameter ∧ b.child.isAnnotatedParameter → c.opensAnnotation

/-- A name is joined to a slot if behind a step into the slot there are only groups of targets. -/
def IsJoined (path : List Branch) : Prop :=
  ∃ slot group, slot :: group <:+ path ∧ slot.opensSlot ∧ ∀ b ∈ group, b.staysInTarget

/-- A name is read where it is visible and not joined to a slot. -/
def IsRead (path : List Branch) : Prop := IsVisible path ∧ ¬IsJoined path

/-! ### One more step -/

lemma isVisible_cons {b : Branch} {path : List Branch} :
    IsVisible (b :: path) ↔
      ¬b.withholds ∧
        (b.opensParameter ∧ b.child.isAnnotatedParameter → ∀ c ∈ path.head?, c.opensAnnotation) ∧
        IsVisible path := by
  simp only [IsVisible, List.forall_mem_cons, List.isChain_cons]
  constructor
  · rintro ⟨⟨hb, hpath⟩, hnext, hchain⟩
    exact ⟨hb, fun h c hc => hnext c hc h, hpath, hchain⟩
  · rintro ⟨hb, hnext, hpath, hchain⟩
    exact ⟨⟨hb, hpath⟩, fun c hc h => hnext h c hc, hchain⟩

lemma not_isJoined_nil : ¬IsJoined [] := by
  rintro ⟨slot, group, h, -⟩
  cases List.suffix_nil.mp h

lemma isJoined_cons {b : Branch} {path : List Branch} :
    IsJoined (b :: path) ↔ (b.opensSlot ∧ ∀ c ∈ path, c.staysInTarget) ∨ IsJoined path := by
  constructor
  · rintro ⟨slot, group, hsuffix, hslot, hgroup⟩
    rcases List.suffix_cons_iff.mp hsuffix with heq | hsuffix
    · obtain ⟨rfl, rfl⟩ := List.cons_eq_cons.mp heq
      exact .inl ⟨hslot, hgroup⟩
    · exact .inr ⟨slot, group, hsuffix, hslot, hgroup⟩
  · rintro (⟨hslot, hgroup⟩ | ⟨slot, group, hsuffix, hslot, hgroup⟩)
    · exact ⟨b, path, List.suffix_refl _, hslot, hgroup⟩
    · exact ⟨slot, group, hsuffix.trans (List.suffix_cons b path), hslot, hgroup⟩

lemma isRead_nil : IsRead [] := ⟨⟨nofun, .nil⟩, not_isJoined_nil⟩

lemma isRead_cons {b : Branch} {path : List Branch} :
    IsRead (b :: path) ↔
      ¬b.withholds ∧
        (b.opensParameter ∧ b.child.isAnnotatedParameter → ∀ c ∈ path.head?, c.opensAnnotation) ∧
        ¬(b.opensSlot ∧ ∀ c ∈ path, c.staysInTarget) ∧ IsRead path := by
  rw [IsRead, isVisible_cons, isJoined_cons, not_or, IsRead]
  tauto

instance decidableIsJoined : (path : List Branch) → Decidable (IsJoined path)
  | [] => .isFalse not_isJoined_nil
  | b :: path =>
    have := decidableIsJoined path
    decidable_of_iff ((b.opensSlot ∧ ∀ c ∈ path, c.staysInTarget) ∨ IsJoined path)
      isJoined_cons.symm

instance (path : List Branch) : Decidable (IsVisible path) :=
  inferInstanceAs (Decidable ((∀ b ∈ path, ¬b.withholds) ∧ List.IsChain _ path))

instance (path : List Branch) : Decidable (IsRead path) :=
  inferInstanceAs (Decidable (IsVisible path ∧ ¬IsJoined path))

/-! ### What an aspect makes of a way -/

/-- Whether the name at the end of a way down from a node is read, if the node is looked at under
an aspect. -/
def Aspect.Reads (n : Node) (path : List Branch) : Aspect → Prop
  | .value => IsRead path
  | .target => ¬(∀ b ∈ path, b.staysInTarget) ∧ IsRead path
  | .parameter =>
    ¬n.isBareParameter ∧ (n.isAnnotatedParameter → ∀ b ∈ path.head?, b.opensAnnotation) ∧
      IsRead path

instance (n : Node) (path : List Branch) : (aspect : Aspect) → Decidable (aspect.Reads n path)
  | .value => inferInstanceAs (Decidable (IsRead path))
  | .target => inferInstanceAs (Decidable (¬(∀ b ∈ path, b.staysInTarget) ∧ IsRead path))
  | .parameter =>
    inferInstanceAs (Decidable (¬n.isBareParameter ∧
      (n.isAnnotatedParameter → ∀ b ∈ path.head?, b.opensAnnotation) ∧ IsRead path))

variable {b : Branch} {path : List Branch}

/-! ### Steps down from a phrase, rule by rule -/

/-- Annotations are looked at in parameters only. -/
lemma ofPhrase_ne_annotations (p : Phrase) : ReadingRule.ofPhrase p ≠ .annotations := by
  cases p <;> exact nofun

section

variable {p : Phrase} (hp : b.phrase? = some p)
include hp

lemma withholds_eq : b.withholds =
    match ReadingRule.ofPhrase p with
    | .nothing => true
    | .only role => !b.isFirst role
    | .allBut role => b.isFirst role
    | .parameters => b.child.isBareParameter
    | _ => false := by
  rw [Branch.withholds, hp]
  cases p <;> rfl

lemma opensParameter_eq : b.opensParameter = decide (ReadingRule.ofPhrase p = .parameters) := by
  rw [Branch.opensParameter, hp]
  cases p <;> rfl

lemma opensSlot_eq : b.opensSlot =
    match ReadingRule.ofPhrase p with
    | .targets => true
    | .storing role => b.isFirst role
    | _ => false := by
  rw [Branch.opensSlot, hp]
  cases p <;> rfl

lemma staysInTarget_eq : b.staysInTarget = groupsTargets p := by rw [Branch.staysInTarget, hp]

/-- A step down from a phrase that is evaluated. -/
lemma isRead_cons_of_phrase :
    IsRead (b :: path) ↔
      ∃ aspect ∈ (ReadingRule.ofPhrase p).childAspect b.isFirst, aspect.Reads b.child path := by
  rw [isRead_cons, withholds_eq hp, opensParameter_eq hp, opensSlot_eq hp]
  -- what the step does depends on the phrase only through its rule
  generalize hrule : ReadingRule.ofPhrase p = rule
  cases rule with
  | values => simp [ReadingRule.childAspect, Aspect.Reads]
  | nothing => simp [ReadingRule.childAspect]
  | targets => simp [ReadingRule.childAspect, Aspect.Reads]
  | parameters => simp [ReadingRule.childAspect, Aspect.Reads]
  | storing role =>
    by_cases hfirst : b.isFirst role <;> simp [ReadingRule.childAspect, Aspect.Reads, hfirst]
  | only role =>
    by_cases hfirst : b.isFirst role <;> simp [ReadingRule.childAspect, Aspect.Reads, hfirst]
  | allBut role =>
    by_cases hfirst : b.isFirst role <;> simp [ReadingRule.childAspect, Aspect.Reads, hfirst]
  | annotations => exact absurd hrule (ofPhrase_ne_annotations p)

end

lemma ofPhrase_of_groupsTargets {p : Phrase} (h : groupsTargets p) :
    ReadingRule.ofPhrase p = .values := by
  cases p <;> first | rfl | cases h

lemma ofPhrase_of_annotated {n : Node} {p : Phrase} (hkind : n.kind = .phrase p)
    (h : n.isAnnotatedParameter) : ReadingRule.ofPhrase p = .values := by
  rw [Node.isAnnotatedParameter, hkind] at h
  cases p <;> first | rfl | cases h

lemma readingRule?_separator {n : Node} {named : Bool} (h : n.isSeparator) :
    readingRule? n.kind named .parameter = some .nothing := by
  unfold Node.isSeparator at h
  split at h
  case h_1 hkind => rw [hkind]; rfl
  case h_2 hkind => rw [hkind]; rfl
  case h_3 => cases h

/-- What a parameter is for the reading of names. -/
lemma readingRule?_parameter {n : Node} {p : Phrase} {named : Bool} (hkind : n.kind = .phrase p)
    (hmark : ¬n.isSeparator) :
    readingRule? (.phrase p) named .parameter =
      some (if n.isBareParameter then .nothing
        else if n.isAnnotatedParameter then .annotations else .ofPhrase p) := by
  rw [Node.isSeparator, hkind] at hmark
  rw [Node.isBareParameter, Node.isAnnotatedParameter, hkind]
  cases p <;> first | rfl | exact absurd rfl hmark

/-- A step down from text that does not fit the grammar, or from a phrase without a rule of its own.
-/
lemma isRead_cons_of_values (h : ∀ p ∈ b.phrase?, ReadingRule.ofPhrase p = .values) :
    IsRead (b :: path) ↔ IsRead path := by
  cases hp : b.phrase? with
  | none =>
    simp [isRead_cons, Branch.withholds, Branch.opensParameter, Branch.opensSlot, hp]
  | some p =>
    rw [isRead_cons_of_phrase hp, h p hp]
    simp [ReadingRule.childAspect, Aspect.Reads]

/-- What one step down makes of a way: it goes on under the aspect of the child, if the child is
looked at. -/
lemma reads_cons {aspect : Aspect} {rule : ReadingRule} {named : Bool}
    (hrule : readingRule? b.parent.kind named aspect = some rule)
    (htoken : ∀ t, b.parent.kind ≠ .token t)
    (hmark : ¬(aspect = .parameter ∧ b.parent.isSeparator)) :
    aspect.Reads b.parent (b :: path) ↔
      ∃ below ∈ rule.childAspect b.isFirst, below.Reads b.child path := by
  cases hkind : b.parent.kind with
  | token t => exact absurd hkind (htoken t)
  | error =>
    have hp : b.phrase? = none := by rw [Branch.phrase?, hkind]
    have hread : IsRead (b :: path) ↔ IsRead path := isRead_cons_of_values (by simp [hp])
    rw [hkind] at hrule
    cases aspect <;> cases hrule <;>
      simp [Aspect.Reads, ReadingRule.childAspect, hread, Branch.staysInTarget, hp,
        Node.isBareParameter, Node.isAnnotatedParameter, hkind]
  | phrase p =>
    have hp : b.phrase? = some p := Branch.phrase?_eq_some.mpr hkind
    have hvalue : IsRead (b :: path) ↔ _ := isRead_cons_of_phrase hp
    rw [hkind] at hrule
    cases aspect with
    | value =>
      obtain rfl := Option.some.inj hrule
      exact hvalue
    | target =>
      obtain rfl := Option.some.inj hrule
      by_cases hgroup : groupsTargets p
      · have hread : IsRead (b :: path) ↔ IsRead path :=
          isRead_cons_of_values (by simpa [hp] using ofPhrase_of_groupsTargets hgroup)
        simp [Aspect.Reads, ReadingRule.childAspect, hread, staysInTarget_eq hp, hgroup]
      · rw [if_neg hgroup, ← hvalue]
        simp [Aspect.Reads, staysInTarget_eq hp, hgroup]
    | parameter =>
      have hpart : ¬b.parent.isSeparator := fun h => hmark ⟨rfl, h⟩
      rw [readingRule?_parameter hkind hpart] at hrule
      obtain rfl := Option.some.inj hrule
      by_cases hbare : b.parent.isBareParameter
      · simp [Aspect.Reads, hbare, ReadingRule.childAspect]
      · by_cases hann : b.parent.isAnnotatedParameter
        · have hread : IsRead (b :: path) ↔ IsRead path :=
            isRead_cons_of_values (by simpa [hp] using ofPhrase_of_annotated hkind hann)
          simp [Aspect.Reads, hbare, hann, ReadingRule.childAspect, hread, Branch.opensAnnotation]
        · simp [Aspect.Reads, hbare, hann, hvalue]

/-! ### The names that are read -/

variable {source : String}

/-- The texts of the names that are read under an aspect of a node. -/
def textsRead (source : String) (aspect : Aspect) (n : Node) (os : List Occurrence) :
    List String :=
  (os.filter fun o => aspect.Reads n o.path).map (Occurrence.text source)

lemma textsRead_append {aspect : Aspect} {n : Node} (os rest : List Occurrence) :
    textsRead source aspect n (os ++ rest) =
      textsRead source aspect n os ++ textsRead source aspect n rest := by
  simp [textsRead]

/-- The names behind a step are read as the child is looked at. -/
lemma textsRead_below {aspect : Aspect} {below? : Option Aspect}
    (h : ∀ path, aspect.Reads b.parent (b :: path) ↔ ∃ below ∈ below?, below.Reads b.child path)
    (os : List Occurrence) :
    textsRead source aspect b.parent (os.map (·.below b)) =
      (below?.map fun below => textsRead source below b.child os).getD [] := by
  rw [textsRead, List.filter_map, List.map_map]
  cases below? with
  | none =>
    have hnone : ∀ path, ¬aspect.Reads b.parent (b :: path) := by simpa using h
    simp [Function.comp_def, Occurrence.below, hnone]
  | some below =>
    have hsome : ∀ path, aspect.Reads b.parent (b :: path) ↔ below.Reads b.child path := by
      simpa using h
    simp only [Function.comp_def, Occurrence.below, hsome]
    rfl

/-- A name by itself is read where it is evaluated. -/
lemma textsRead_name {n : Node} (hkind : n.kind = .token .identifier) (aspect : Aspect) :
    textsRead source aspect n [⟨[], n⟩] = if aspect = .value then [n.text source] else [] := by
  cases aspect <;>
    simp [textsRead, Aspect.Reads, isRead_nil, Node.isBareParameter, hkind, Occurrence.text]

/-- Only a name has no rule. -/
lemma kind_of_readingRule?_eq_none {kind : Kind} {named : Bool} {aspect : Aspect}
    (h : readingRule? kind named aspect = none) : kind = .token .identifier := by
  cases aspect with
  | value =>
    simp only [readingRule?] at h
    split at h
    case h_1 => rfl
    all_goals cases h
  | target =>
    simp only [readingRule?] at h
    split at h <;> cases h
  | parameter =>
    simp only [readingRule?] at h
    split at h <;> cases h

lemma namesUnder_of_rule {info : NodeInfo} {children : List Node} {rule : ReadingRule}
    {aspect : Aspect}
    (h : readingRule? info.kind (children.any Node.isNamed) aspect = some rule) :
    namesUnder source aspect (.node info children) = namesOfChildren source rule [] children := by
  simp only [namesUnder, h]

/-- A token is read if it is a name that is evaluated. -/
lemma namesUnder_of_token {n : Node} (h : n.IsSyntaxTree) {t : Token}
    (hkind : n.kind = .token t) (aspect : Aspect) :
    namesUnder source aspect n = textsRead source aspect n n.occurrences := by
  rw [h.occurrences_of_token hkind]
  by_cases ht : t = .identifier
  · obtain ⟨info, children⟩ := n
    obtain rfl : children = [] := h.children_of_token hkind
    subst ht
    have hinfo : info.kind = .token .identifier := hkind
    rw [if_pos rfl, textsRead_name hkind]
    cases aspect <;> simp [namesUnder, readingRule?, hinfo, namesOfChildren]
  · obtain ⟨info, children⟩ := n
    obtain rfl : children = [] := h.children_of_token hkind
    rw [if_neg ht]
    cases hrule : readingRule? info.kind (List.any [] Node.isNamed) aspect with
    | none =>
      have hname : info.kind = .token t := hkind
      rw [kind_of_readingRule?_eq_none hrule] at hname
      exact absurd (Kind.token.inj hname).symm ht
    | some rule =>
      rw [namesUnder_of_rule hrule]
      rfl

mutual

/-- Of the names in a tree those are read whose way makes them read. -/
lemma namesUnder_eq {n : Node} (h : n.IsSyntaxTree) (aspect : Aspect) :
    namesUnder source aspect n = textsRead source aspect n n.occurrences := by
  match n with
  | .node info children =>
    by_cases htoken : ∃ t, info.kind = .token t
    · obtain ⟨t, hkind⟩ := htoken
      exact namesUnder_of_token h hkind aspect
    push Not at htoken
    obtain ⟨rule, hrule⟩ : ∃ rule,
        readingRule? info.kind (children.any Node.isNamed) aspect = some rule := by
      rw [← Option.ne_none_iff_exists']
      intro hnone
      exact htoken _ (kind_of_readingRule?_eq_none hnone)
    rw [namesUnder_of_rule hrule]
    by_cases hmark : aspect = .parameter ∧ (Node.node info children).isSeparator
    · -- the reading of names passes over the marks between parameters, which hold none
      obtain ⟨rfl, hseparator⟩ := hmark
      rw [h.occurrences_of_separator hseparator]
      obtain rfl := Option.some.inj (hrule.symm.trans (readingRule?_separator hseparator))
      exact namesOfChildren_nothing [] children
    · have hname : (Node.node info children).kind ≠ .token .identifier := htoken _
      rw [Node.occurrences_eq_below hname]
      refine namesOfChildren_eq (fun m hm => h.of_mem_children hm) (by simp) ?_
      rintro b path hb
      have hparent : b.parent.kind = info.kind := hb ▸ rfl
      apply reads_cons (hparent ▸ hrule)
      · exact fun t ht => htoken t (hparent ▸ ht)
      · rwa [hb]

lemma namesOfChildren_eq {parent : Node} {before ns : List Node} {aspect : Aspect}
    {rule : ReadingRule} {seen : List Field} (h : ∀ n ∈ ns, n.IsSyntaxTree)
    (hseen : ∀ role, role ∈ seen ↔ ∃ m ∈ before, m.hasRole role)
    (hstep : ∀ (b : Branch) path, b.parent = parent → (aspect.Reads b.parent (b :: path) ↔
      ∃ below ∈ rule.childAspect b.isFirst, below.Reads b.child path)) :
    namesOfChildren source rule seen ns =
      textsRead source aspect parent (Node.occurrencesBelow parent before ns) := by
  match ns with
  | [] => rfl
  | n :: ns =>
    let b : Branch := ⟨parent, before, n⟩
    have hfirst : (fun role => n.hasRole role && decide (role ∉ seen)) = b.isFirst := by
      funext role
      have hnone : role ∉ seen ↔ ¬before.any (·.hasRole role) := by simp [hseen]
      rw [Branch.isFirst]
      congr 1
      simp only [b, hnone, Bool.not_eq_true, Bool.decide_eq_false]
    have hbelow : textsRead source aspect b.parent (n.occurrences.map (·.below b)) = _ :=
      textsRead_below (hstep b · rfl) n.occurrences
    have hrest : namesOfChildren source rule (n.role?.toList ++ seen) ns =
        textsRead source aspect parent (Node.occurrencesBelow parent (before ++ [n]) ns) := by
      refine namesOfChildren_eq (fun m hm => h m (List.mem_cons_of_mem n hm)) ?_ hstep
      intro role
      rw [List.mem_append, hseen]
      simp [Node.hasRole_iff, or_comm, or_and_right, exists_or]
    rw [namesOfChildren, Node.occurrencesBelow, textsRead_append, hrest, hbelow, hfirst]
    congr 1
    cases rule.childAspect b.isFirst with
    | none => rfl
    | some below => exact namesUnder_eq (h n List.mem_cons_self) below

end

end NotebookExport
