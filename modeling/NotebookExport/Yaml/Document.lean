import NotebookExport.Yaml.Event

/-!
# YAML documents

The first document of a text: its events, with references led back to the nodes they name, what
breaks it off if anything does, and whether it is the only one.
-/

namespace NotebookExport.Yaml

/-- A document as a row of nodes. -/
structure Document where
  /-- The events; none for an empty text. A reference is given by the number of events before the
  node that it names. -/
  events : List (Event × Option Nat)
  /-- What ends the row too early, if so. -/
  fault : Option Fault
  /-- Whether there is nothing behind the document. -/
  isOnly : Bool

namespace Document

/-! ### Directives -/

/-- Takes the directives in front of a document off, and collects the handles of tags. -/
def takeDirectives (broken : Fault) : Bool → TagHandles → List Token →
    Except Fault (TagHandles × List Token)
  | _, _, [] => .error broken
  | hasVersion, handles, token :: rest =>
    let fail (problem : Problem) : Except Fault (TagHandles × List Token) :=
      .error (.broken ⟨problem, token.start, none⟩)
    match token.kind with
    | .versionDirective major minor =>
      if hasVersion then fail .repeatedVersion
      else if major = 1 && (minor = 1 || minor = 2) then takeDirectives broken true handles rest
      else fail .wrongVersion
    | .tagDirective handle lead =>
      if (handles.lookup handle).isSome then fail .repeatedTagDirective
      else takeDirectives broken hasVersion (handles ++ [(handle, lead)]) rest
    | _ => .ok (handles ++ standardHandles, token :: rest)

/-! ### One document -/

/-- Whether a token cannot begin the content of a document. -/
def isOutside : TokenKind → Bool
  | .versionDirective _ _ | .tagDirective _ _ | .documentStart | .documentEnd | .streamEnd => true
  | _ => false

/-- Reads the root of a document. -/
def readRoot (broken : Fault) (handles : TagHandles) (tokens : List Token) : Part :=
  readNode (4 * tokens.length + 4) ⟨handles, broken, true, false⟩ tokens

/-- Reads the first document. Its beginning is only marked if it has to be. -/
def readFirst (broken : Fault) (tokens : List Token) : Part :=
  match tokens with
  | [] => .fail broken
  | token :: _ =>
    match token.kind with
    | .streamEnd => ⟨[], .ok tokens⟩
    | .versionDirective _ _ | .tagDirective _ _ | .documentStart =>
      match takeDirectives broken false [] tokens with
      | .error fault => .fail fault
      | .ok (_, []) => .fail broken
      | .ok (handles, token :: rest) =>
        if token.kind = .documentStart then
          match rest with
          | [] => .fail broken
          | next :: _ =>
            if isOutside next.kind then .emptyNode next.start rest else readRoot broken handles rest
        else .fail (.broken ⟨.noDocumentStart, token.start, none⟩)
    | _ => readRoot broken standardHandles tokens

/-- Whether there is nothing but ends of documents. -/
def isAtEnd : List Token → Bool
  | [] => false
  | token :: rest =>
    match token.kind with
    | .documentEnd => isAtEnd rest
    | .streamEnd => true
    | _ => false

/-! ### References -/

/-- Leads references back to the last node with the name; `names` holds the nodes so far. -/
def resolve : Nat → List (String × Nat) → List Event →
    List (Event × Option Nat) × Option Fault
  | _, _, [] => ([], none)
  | count, names, event :: rest =>
    let names := match event.anchor with
      | some name => (name, count) :: names
      | none => names
    match event.kind with
    | .alias name =>
      match names.lookup name with
      | none => ([], some (.unknownAnchor event.mark))
      | some target =>
        let (events, fault) := resolve (count + 1) names rest
        ((event, some target) :: events, fault)
    | _ =>
      let (events, fault) := resolve (count + 1) names rest
      ((event, none) :: events, fault)

/-- The first document of a text. -/
def ofText (text : String) : Document :=
  let scanned := Tokens.ofText text
  let part := readFirst (scanned.fault.getD .endOfText) scanned.tokens
  let (events, unknown) := resolve 0 [] part.events
  let (fault, isOnly) :=
    match part.rest with
    | .error fault => (some fault, true)
    | .ok [] => (scanned.fault, true)
    | .ok tokens => (none, isAtEnd tokens)
  ⟨events, unknown.or fault, isOnly⟩

end Document

end NotebookExport.Yaml
