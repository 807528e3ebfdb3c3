import NotebookExport.Python.Node

/-!
# Reading names

The names that a syntax tree reads. Every name is read unless it stands where names are bound or
where it is no reference at all: the target of an assignment, a loop or a comprehension, the name of
a definition or parameter, a name after `as`, the member of an object, the keyword of an argument,
anything in an import or a `global` or `nonlocal` statement. What a target is made of besides bare
names is read: the object of `x.a = 1` and the index of `x[i] = 1`.

A tree is looked at in one of three ways, and its rule says in which way each of its children is
looked at, if at all.
-/

namespace NotebookExport

open Python

/-- The ways of looking at a node: as something that is evaluated, as the target of an assignment,
or as a parameter. -/
inductive Aspect where
  | value | target | parameter
  deriving DecidableEq

/-- How the children of a node are looked at. -/
inductive ReadingRule where
  | values
  | nothing
  | targets
  | parameters
  /-- The first child in the role is a target, the others are values. -/
  | storing (role : Field)
  /-- The first child in the role is a value, the others are left out. -/
  | only (role : Field)
  /-- The first child in the role is left out, the others are values. -/
  | allBut (role : Field)
  /-- The first type and the first default are values, all else is left out. -/
  | annotations
  deriving DecidableEq

namespace ReadingRule

/-- How a child is looked at; `isFirstIn` says in which role it is the first. -/
def childAspect (isFirstIn : Field → Bool) : ReadingRule → Option Aspect
  | .values => some .value
  | .nothing => none
  | .targets => some .target
  | .parameters => some .parameter
  | .storing role => if isFirstIn role then some .target else some .value
  | .only role => if isFirstIn role then some .value else none
  | .allBut role => if isFirstIn role then none else some .value
  | .annotations => if isFirstIn .declaredType || isFirstIn .value then some .value else none

/-- The rule of a phrase that is evaluated. -/
def ofPhrase : Phrase → ReadingRule
  | .importStatement | .importFromStatement | .futureImportStatement
  | .globalStatement | .nonlocalStatement => .nothing
  | .assignment | .augmentedAssignment | .forStatement | .forInClause => .storing .left
  | .namedExpression => .storing .name
  | .asPattern => .storing .asName
  | .deleteStatement => .targets
  | .memberAccess => .only .object
  | .keywordArgument => .only .value
  | .functionDefinition | .classDefinition => .allBut .name
  | .parameters | .lambdaParameters => .parameters
  | _ => .values

end ReadingRule

/-- The phrases that as a target only group other targets. -/
def groupsTargets : Phrase → Bool
  | .patternList | .tuplePattern | .listPattern | .listSplatPattern | .asPatternTarget
  | .parenthesizedExpression | .expressionList | .tuple | .list | .listSplat => true
  | _ => false

/-- The rule of a node, or `none` if the node is itself a name that is read. A name that holds
other named nodes is read as these. -/
def readingRule? (kind : Kind) (hasNamedChildren : Bool) : Aspect → Option ReadingRule
  | .value =>
    match kind with
    | .token .identifier => if hasNamedChildren then some .values else none
    | .token .comment => some .nothing
    | .phrase p => some (.ofPhrase p)
    | _ => some .values
  | .target =>
    match kind with
    | .token .identifier => some .nothing
    | .token .comment => some .nothing
    | .phrase p => some (if groupsTargets p then .targets else .ofPhrase p)
    | _ => some .values
  | .parameter =>
    match kind with
    | .token .identifier | .token .comment => some .nothing
    | .phrase .listSplatPattern | .phrase .dictionarySplatPattern | .phrase .tuplePattern
    | .phrase .keywordSeparator | .phrase .positionalSeparator => some .nothing
    | .phrase .defaultParameter | .phrase .typedParameter | .phrase .typedDefaultParameter =>
      some .annotations
    | .phrase p => some (.ofPhrase p)
    | _ => some .values

mutual

/-- The names read by a node under an aspect, in source order. -/
def namesUnder (source : String) (aspect : Aspect) : Node → List String
  | .node info children =>
    match readingRule? info.kind (children.any Node.isNamed) aspect with
    | some rule => namesOfChildren source rule [] children
    | none => [(Node.node info children).text source]

/-- The names read by the children of a node; `seen` holds the roles of those before them. -/
def namesOfChildren (source : String) (rule : ReadingRule) (seen : List Field) :
    List Node → List String
  | [] => []
  | n :: ns =>
    let names := match rule.childAspect fun role => n.hasRole role && role ∉ seen with
      | some aspect => namesUnder source aspect n
      | none => []
    names ++ namesOfChildren source rule (n.role?.toList ++ seen) ns

end

theorem namesOfChildren_nothing {source : String} (seen : List Field) (ns : List Node) :
    namesOfChildren source .nothing seen ns = [] := by
  induction ns generalizing seen with
  | nil => rfl
  | cons n ns ih => simp [namesOfChildren, ReadingRule.childAspect, ih]

/-- The names that a tree reads. -/
def Python.Node.readNames (source : String) (tree : Node) : List String :=
  namesUnder source .value tree

end NotebookExport
