import NotebookExport.Python.Node
import NotebookExport.Python.Parser
import NotebookExport.Text.Lines
import NotebookExport.Text.Quoted

/-!
# Python source

Which texts count as Python, and what is said about those that do not. A tree is at fault if
anything in it does not fit the grammar or is missing, and else if it holds one of the statements
that only Python 2 has. The first such node, from the root down and in source order, is reported.

In a search the nodes that are still to be looked at lie on a stack, the next one on top. The search
for faulty nodes goes only into marked ones, which are those that have a faulty node in them.
-/

namespace NotebookExport.Python

open Text

/-- What is wrong with a text. -/
inductive Complaint where
  /-- A token that the text lacks, by what it is called. -/
  | missing (name : String)
  /-- Text that fits nowhere; its first line. -/
  | unexpected (line : String)
  | printStatement
  | execStatement
  deriving DecidableEq

/-- A complaint with its place: a line, and a column in bytes, both counted from one. -/
structure SyntaxFault where
  line : Nat
  column : Nat
  complaint : Complaint
  deriving DecidableEq

/-- The longest quotation in a complaint, in characters. -/
def quotationLimit : Nat := 40

/-- The beginning of a text, with dots where something is left out. -/
def shorten (limit : Nat) (text : List Char) : List Char :=
  if limit < text.length then text.take limit ++ "...".toList else text

namespace Complaint

def detail : Complaint → String
  | .missing name => "missing " ++ name
  | .unexpected line => "unexpected " ++ quote (String.ofList (shorten quotationLimit line.toList))
  | .printStatement => "Python 2 print statement"
  | .execStatement => "Python 2 exec statement"

end Complaint

namespace SyntaxFault

def message (fault : SyntaxFault) : String :=
  "Syntax error at line " ++ toString fault.line ++ ", column " ++ toString fault.column ++ ": " ++
    fault.complaint.detail

end SyntaxFault

/-- What a missing piece is called. Only tokens can be missing. -/
def Kind.name : Kind → String
  | .token t => t.display
  | _ => ""

namespace Node

/-- Whether a node does not belong into any Python text. -/
def isFaulty (n : Node) : Bool := n.isError || n.isMissing

/-- Whether a node is faulty or has a faulty node in it. -/
def hasError (n : Node) : Bool := n.preorder.any isFaulty

/-- Whether a node is of one of some kinds. -/
def hasKind (kinds : List Kind) (n : Node) : Bool := kinds.contains n.kind

/-! ### Searching -/

/-- Puts nodes on a stack, the last one first, so that the first one comes to lie on top. -/
def pushAll (stack ns : List Node) : List Node :=
  ns.reverse.foldl (fun stack n => n :: stack) stack

theorem pushAll_eq_append (stack ns : List Node) : pushAll stack ns = ns ++ stack := by
  rw [pushAll, List.foldl_reverse, List.foldr_cons_eq_append]
  simp

/-- When a node is taken from a stack and its children are put there, all nodes but this one are
still to come, in the order in which they were. -/
theorem preorderAll_cons_eq_pushAll (n : Node) (stack : List Node) :
    preorderAll (n :: stack) = n :: preorderAll (pushAll stack n.children) := by
  rw [pushAll_eq_append, preorderAll_append, preorderAll, preorder_eq, List.cons_append]

theorem length_preorderAll_pushAll_lt (n : Node) (stack : List Node) :
    (preorderAll (pushAll stack n.children)).length < (preorderAll (n :: stack)).length := by
  rw [preorderAll_cons_eq_pushAll, List.length_cons]
  exact Nat.lt_succ_self _

theorem length_preorderAll_lt (n : Node) (stack : List Node) :
    (preorderAll stack).length < (preorderAll (n :: stack)).length := by
  rw [preorderAll, preorder_eq, List.length_append, List.length_cons]
  omega

/-- The first faulty node of the trees on a stack. Trees whose root is not marked are left out. -/
def firstFaulty (marked : Node → Bool) : List Node → Option Node
  | [] => none
  | n :: stack =>
    if n.isFaulty then some n
    else if !marked n then firstFaulty marked stack
    else firstFaulty marked (pushAll stack n.children)
termination_by stack => (preorderAll stack).length
decreasing_by
  · exact length_preorderAll_lt n stack
  · exact length_preorderAll_pushAll_lt n stack

/-- The first node of the trees on a stack that is of one of some kinds. -/
def firstOfKind (kinds : List Kind) : List Node → Option Node
  | [] => none
  | n :: stack =>
    if hasKind kinds n then some n else firstOfKind kinds (pushAll stack n.children)
termination_by stack => (preorderAll stack).length
decreasing_by exact length_preorderAll_pushAll_lt n stack

/-! ### Reporting -/

/-- The statements that only Python 2 has. -/
def outdatedStatements : List Kind := [.phrase .printStatement, .phrase .execStatement]

/-- What is wrong at a faulty node. -/
def complaint (source : String) (n : Node) : Complaint :=
  if n.isMissing then .missing n.kind.name
  else .unexpected (String.ofList (trim ((lines (n.text source).toList).headD [])))

/-- What is wrong at a statement that only Python 2 has. -/
def outdatedComplaint (n : Node) : Complaint :=
  if n.kind = .phrase .execStatement then .execStatement else .printStatement

/-- A complaint about a node, at the place where the node begins. -/
def fault (n : Node) (complaint : Complaint) : SyntaxFault :=
  ⟨n.start.row + 1, n.start.column + 1, complaint⟩

/-- Accepts the tree of a text, in which some nodes are marked, or reports what is wrong with it. -/
def check (marked : Node → Bool) (source : String) (tree : Node) : Except SyntaxFault Node :=
  match firstFaulty marked [tree] with
  | some n => .error (n.fault (n.complaint source))
  | none =>
    match firstOfKind outdatedStatements [tree] with
    | some n => .error (n.fault n.outdatedComplaint)
    | none => .ok tree

end Node

/-- The syntax tree of a text that is Python. -/
def parse (source : String) : Except SyntaxFault Node :=
  (derive source.toList).tree.check Node.hasError source

end NotebookExport.Python
