import NotebookExport.Text.Utf8

/-!
# Shell scripts

The commands of the shell as trees. Words are kept in pieces, as what stands in quotes is neither
split nor matched when the word is expanded. A script inside a word stays text until it is run.
-/

namespace NotebookExport.Shell

open Text

/-- Octets, each as the character of its number. -/
abbrev Octets := List Char

namespace Octets

def ofBytes (bytes : List UInt8) : Octets := bytes.map fun b => Char.ofNat b.toNat

def toBytes (octets : Octets) : List UInt8 := octets.map fun c => UInt8.ofNat c.toNat

def ofText (text : String) : Octets := ofBytes (Utf8.encode text)

def toText (octets : Octets) : String := Utf8.decodeLossy (toBytes octets)

end Octets

mutual

/-- A part of a word. -/
inductive Piece where
  | text (isQuoted : Bool) (octets : Octets)
  | parameter (isQuoted : Bool) (name : Octets) (form : ParameterForm)
  /-- The output of a script. -/
  | output (isQuoted : Bool) (script : Octets)
  | arithmetic (isQuoted : Bool) (expression : List Piece)

/-- What is taken from a parameter. -/
inductive ParameterForm where
  | value
  | length
  /-- Something else if the parameter is not set, or also if it is empty. -/
  | instead (action : Instead) (alsoIfEmpty : Bool) (word : List Piece)
  /-- The value without what a pattern matches at one of its ends. -/
  | without (atEnd isLongest : Bool) (pattern : List Piece)

/-- What to do about a parameter that is not set, or, for an alternative, about one that is. -/
inductive Instead where
  | take
  | assign
  | refuse
  | alternative

end

abbrev Word := List Piece

namespace Word

/-- The text of a word without quotes and parameters. -/
def literal? : Word → Option Octets
  | [] => some []
  | .text false octets :: rest => (literal? rest).map (octets ++ ·)
  | _ => none

end Word

/-- Where a stream of a command comes from or goes to. -/
inductive RedirectionKind where
  | input
  | output
  | append
  | duplicate
  /-- The word itself is the input. -/
  | here

structure Redirection where
  descriptor : Nat
  kind : RedirectionKind
  target : Word

inductive Command where
  | simple (line : Nat) (assignments : List (Octets × Word)) (words : List Word)
      (redirections : List Redirection)
  | pipeline (isNegated : Bool) (parts : List Command)
  | both (left right : Command)
  | either (left right : Command)
  | sequence (commands : List Command)
  | subshell (body : Command)
  | redirected (body : Command) (redirections : List Redirection)
  | branch (condition yes no : Command)
  | loop (isUntil : Bool) (condition body : Command)
  | each (name : Octets) (words : List Word) (body : Command)
  | cases (subject : Word) (arms : List (List Word × Command))
  | define (name : Octets) (body : Command)

end NotebookExport.Shell
