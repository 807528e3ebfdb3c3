/-!
# Statements

The statements of a cell as far as the removal of unread assignments has to tell them apart. A
simple assignment has its targets, its value and the comment behind it; definitions have their name;
all other statements are only their text. `Statement.retain` is the removal: an assignment loses the
targets that bind nothing that is read, and goes with the last of them.
-/

namespace NotebookExport

/-- What a target of an assignment is. -/
inductive Target.Shape where
  | name (name : String)
  /-- A pattern made of names only. -/
  | pattern (names : List String)
  /-- A target with a part that is no name: assigning to it changes something else. -/
  | place
  deriving DecidableEq

structure Target where
  text : String
  shape : Target.Shape
  deriving DecidableEq

namespace Target

/-- Whether a target has to stay if the given names are never read: it binds another name, or it
binds none at all. -/
def isLive (unread : List String) (t : Target) : Bool :=
  match t.shape with
  | .name name => name ∉ unread
  | .pattern names => names.isEmpty || names.any fun name => name ∉ unread
  | .place => true

end Target

structure Assignment where
  /-- From left to right; `a = b = 1` has two. -/
  targets : List Target
  value : String
  comment : Option String
  deriving DecidableEq

namespace Assignment

/-- Two blanks and a comment. -/
def spaced (comment : String) : String := "  " ++ comment

def render (a : Assignment) : String :=
  String.join (a.targets.map fun t => t.text ++ " = ") ++ a.value ++
    ((a.comment.map spaced).getD "")

/-- The targets that bind none but the given names. -/
def deadTargets (unread : List String) (a : Assignment) : List Target :=
  a.targets.filter fun t => !t.isLive unread

end Assignment

/-- A function or a class with its whole text. -/
structure Definition where
  name : String
  text : String
  deriving DecidableEq

inductive Statement where
  | assignment (assignment : Assignment)
  | functionDefinition (definition : Definition)
  | classDefinition (definition : Definition)
  | other (text : String)
  deriving DecidableEq

namespace Statement

def render : Statement → String
  | .assignment a => a.render
  | .functionDefinition d | .classDefinition d => d.text
  | .other text => text

/-- The statement with a comment that stands behind it on the same line. -/
def attach (comment : String) : Statement → Statement
  | .assignment a => .assignment { a with comment := some comment }
  | .functionDefinition d =>
    .functionDefinition { d with text := d.text ++ Assignment.spaced comment }
  | .classDefinition d => .classDefinition { d with text := d.text ++ Assignment.spaced comment }
  | .other text => .other (text ++ Assignment.spaced comment)

/-- The targets that go if the given names are never read. -/
def deadTargets (unread : List String) : Statement → List Target
  | .assignment a => a.deadTargets unread
  | _ => []

/-- What stays of a statement if the given names are never read. -/
def retain (unread : List String) : Statement → Option Statement
  | .assignment a =>
    let targets := a.targets.filter (Target.isLive unread)
    if targets.isEmpty then none else some (.assignment { a with targets := targets })
  | s => some s

end Statement

/-- The statements one below the other. -/
def renderStatements (statements : List Statement) : String :=
  String.join (statements.map fun s => s.render ++ "\n")

end NotebookExport
