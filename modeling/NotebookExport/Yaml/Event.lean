import NotebookExport.Yaml.Tokens

/-!
# Events of YAML documents

The structure of a document as a row of events: scalars, references to earlier nodes, and the
beginnings and ends of sequences and mappings. A text that breaks off somewhere still gives the
events up to that place.
-/

namespace NotebookExport.Yaml

structure Scalar where
  text : String
  style : ScalarStyle
  tag : Option String
  deriving DecidableEq

inductive EventKind where
  | alias (name : String)
  | scalar (value : Scalar)
  | sequenceStart
  | sequenceEnd
  | mappingStart
  | mappingEnd
  deriving DecidableEq

structure Event where
  kind : EventKind
  mark : Mark
  /-- The name given to the node that begins here. -/
  anchor : Option String
  deriving DecidableEq

/-- The events of a part of a document, and the tokens behind that part, unless there is a fault. -/
structure Part where
  events : List Event
  rest : Except Fault (List Token)

namespace Part

def fail (fault : Fault) : Part := ⟨[], .error fault⟩

/-- Part and what follows it. -/
def andThen (part : Part) (next : List Token → Part) : Part :=
  match part.rest with
  | .error _ => part
  | .ok tokens =>
    let more := next tokens
    ⟨part.events ++ more.events, more.rest⟩

/-- One event, which takes no tokens. -/
def event (kind : EventKind) (mark : Mark) (tokens : List Token) : Part :=
  ⟨[⟨kind, mark, none⟩], .ok tokens⟩

/-- A node that is not written. -/
def emptyNode (mark : Mark) (tokens : List Token) : Part :=
  event (.scalar ⟨"", .plain, none⟩) mark tokens

end Part

/-- A fault in the structure at a token. -/
def structureFault (problem : Problem) (mark : Mark) (activity : Activity) (start : Mark) : Fault :=
  .broken ⟨problem, mark, some (activity, start)⟩

/-- What comes before a node: its name and its tag. -/
structure Properties where
  anchor : Option String
  tag : Option (String × String × Mark)

namespace Properties

/-- Takes the properties off, in either order. -/
def take : List Token → Properties × List Token
  | ⟨.anchor name, _, _⟩ :: ⟨.tag handle suffix, mark, _⟩ :: rest =>
    (⟨some name, some (handle, suffix, mark)⟩, rest)
  | ⟨.tag handle suffix, mark, _⟩ :: ⟨.anchor name, _, _⟩ :: rest =>
    (⟨some name, some (handle, suffix, mark)⟩, rest)
  | ⟨.anchor name, _, _⟩ :: rest => (⟨some name, none⟩, rest)
  | ⟨.tag handle suffix, mark, _⟩ :: rest => (⟨none, some (handle, suffix, mark)⟩, rest)
  | tokens => (⟨none, none⟩, tokens)

def isEmpty (p : Properties) : Bool := p.anchor.isNone && p.tag.isNone

end Properties

/-- What the handles of tags stand for, beginning with those that a document declares. -/
abbrev TagHandles := List (String × String)

def standardHandles : TagHandles := [("!", "!"), ("!!", "tag:yaml.org,2002:")]

/-- The whole text of a tag. -/
def fullTag? (handles : TagHandles) (handle suffix : String) : Option String :=
  if handle = "" then some suffix else (handles.lookup handle).map (· ++ suffix)

/-- Where a node may stand: what it may be, and what may follow it. -/
structure Setting where
  handles : TagHandles
  /-- The fault of a text whose tokens end here. -/
  broken : Fault
  isBlock : Bool
  /-- Whether the entries of a sequence may stand as far to the left as what is around it. -/
  allowsFlush : Bool

def Setting.flow (s : Setting) : Setting := { s with isBlock := false, allowsFlush := false }

def Setting.entry (s : Setting) : Setting := { s with isBlock := true, allowsFlush := false }

def Setting.member (s : Setting) : Setting := { s with isBlock := true, allowsFlush := true }

/-- The event of a scalar token with a tag. The tag that only says that there is none is dropped. -/
def scalarKind (text : String) (style : ScalarStyle) (tag : Option String) : EventKind :=
  .scalar ⟨text, style, if tag = some "!" then none else tag⟩

/-- Whether a value is left out in front of this token of a block. -/
def endsMember (kind : TokenKind) : Bool := kind = .key || kind = .value || kind = .blockEnd

mutual

/-- Reads a node. -/
def readNode : Nat → Setting → List Token → Part
  | 0, s, _ => .fail s.broken
  | fuel + 1, s, tokens =>
    match tokens with
    | [] => .fail s.broken
    | first :: rest =>
      match first.kind with
      | .alias name => .event (.alias name) first.start rest
      | _ =>
        let (properties, behind) := Properties.take tokens
        match behind with
        | [] => .fail s.broken
        | token :: after =>
          let tag? : Except Fault (Option String) :=
            match properties.tag with
            | none => .ok none
            | some (handle, suffix, mark) =>
              match fullTag? s.handles handle suffix with
              | some tag => .ok (some tag)
              | none => .error (structureFault .undefinedHandle mark .node first.start)
          match tag? with
          | .error fault => .fail fault
          | .ok tag =>
            let begin (kind : EventKind) (tokens : List Token) : Part :=
              ⟨[⟨kind, first.start, properties.anchor⟩], .ok tokens⟩
            match token.kind with
            | .scalar text style => begin (scalarKind text style tag) after
            | .flowSequenceStart =>
              (begin .sequenceStart after).andThen (readFlowEntries fuel s token.start true)
            | .flowMappingStart =>
              (begin .mappingStart after).andThen (readFlowMembers fuel s token.start true)
            | kind =>
              if s.allowsFlush && kind = .sequenceEntry then
                (begin .sequenceStart behind).andThen (readFlushEntries fuel s)
              else if s.isBlock && kind = .sequenceStart then
                (begin .sequenceStart after).andThen (readEntries fuel s token.start)
              else if s.isBlock && kind = .mappingStart then
                (begin .mappingStart after).andThen (readMembers fuel s token.start)
              else if !properties.isEmpty then begin (scalarKind "" .plain tag) behind
              else
                let activity := if s.isBlock then Activity.blockNode else .flowNode
                .fail (structureFault .noContent token.start activity first.start)

/-- Reads the entries of a block sequence. -/
def readEntries : Nat → Setting → Mark → List Token → Part
  | 0, s, _, _ => .fail s.broken
  | fuel + 1, s, start, tokens =>
    match tokens with
    | [] => .fail s.broken
    | token :: rest =>
      match token.kind with
      | .sequenceEntry =>
        match rest with
        | [] => .fail s.broken
        | next :: _ =>
          let entry :=
            if next.kind = .sequenceEntry || next.kind = .blockEnd then .emptyNode token.stop rest
            else readNode fuel s.entry rest
          entry.andThen (readEntries fuel s start)
      | .blockEnd => .event .sequenceEnd token.start rest
      | _ => .fail (structureFault .noEntry token.start .blockSequence start)

/-- Reads the entries of a sequence that stand as far to the left as the keys around it. -/
def readFlushEntries : Nat → Setting → List Token → Part
  | 0, s, _ => .fail s.broken
  | fuel + 1, s, tokens =>
    match tokens with
    | [] => .fail s.broken
    | token :: rest =>
      match token.kind with
      | .sequenceEntry =>
        match rest with
        | [] => .fail s.broken
        | next :: _ =>
          let entry :=
            if next.kind = .sequenceEntry || endsMember next.kind then .emptyNode token.stop rest
            else readNode fuel s.entry rest
          entry.andThen (readFlushEntries fuel s)
      | _ => .event .sequenceEnd token.start tokens

/-- Reads the members of a block mapping. -/
def readMembers : Nat → Setting → Mark → List Token → Part
  | 0, s, _, _ => .fail s.broken
  | fuel + 1, s, start, tokens =>
    match tokens with
    | [] => .fail s.broken
    | token :: rest =>
      match token.kind with
      | .key =>
        match rest with
        | [] => .fail s.broken
        | next :: _ =>
          let key :=
            if endsMember next.kind then .emptyNode token.stop rest
            else readNode fuel s.member rest
          key.andThen (readMemberValue fuel s start)
      | .blockEnd => .event .mappingEnd token.start rest
      | _ => .fail (structureFault .noKey token.start .blockMapping start)

/-- Reads the value of a member of a block mapping, and the members behind it. -/
def readMemberValue : Nat → Setting → Mark → List Token → Part
  | 0, s, _, _ => .fail s.broken
  | fuel + 1, s, start, tokens =>
    match tokens with
    | [] => .fail s.broken
    | token :: rest =>
      match token.kind with
      | .value =>
        match rest with
        | [] => .fail s.broken
        | next :: _ =>
          let value :=
            if endsMember next.kind then .emptyNode token.stop rest
            else readNode fuel s.member rest
          value.andThen (readMembers fuel s start)
      | _ => (Part.emptyNode token.start tokens).andThen (readMembers fuel s start)

/-- Reads the entries of a flow sequence. An entry may be a mapping with one member. -/
def readFlowEntries : Nat → Setting → Mark → Bool → List Token → Part
  | 0, s, _, _, _ => .fail s.broken
  | fuel + 1, s, start, isFirst, tokens =>
    let entry (tokens : List Token) : Part :=
      match tokens with
      | [] => .fail s.broken
      | token :: rest =>
        match token.kind with
        | .key => (Part.event .mappingStart token.start rest).andThen (readPair fuel s start)
        | .flowSequenceEnd => .event .sequenceEnd token.start rest
        | _ => (readNode fuel s.flow tokens).andThen (readFlowEntries fuel s start false)
    match tokens with
    | [] => .fail s.broken
    | token :: rest =>
      match token.kind with
      | .flowSequenceEnd => .event .sequenceEnd token.start rest
      | kind =>
        if isFirst then entry tokens
        else if kind = .flowEntry then entry rest
        else .fail (structureFault .noSequenceEnd token.start .flowSequence start)

/-- Reads a member that is an entry of a flow sequence, and the entries behind it. -/
def readPair : Nat → Setting → Mark → List Token → Part
  | 0, s, _, _ => .fail s.broken
  | fuel + 1, s, start, tokens =>
    let finish (tokens : List Token) : Part :=
      match tokens with
      | [] => .fail s.broken
      | token :: _ =>
        (Part.event .mappingEnd token.start tokens).andThen (readFlowEntries fuel s start false)
    let value (tokens : List Token) : Part :=
      match tokens with
      | [] => .fail s.broken
      | token :: rest =>
        match token.kind, rest with
        | .value, [] => .fail s.broken
        | .value, next :: _ =>
          if next.kind = .flowEntry || next.kind = .flowSequenceEnd then
            (Part.emptyNode next.start rest).andThen finish
          else (readNode fuel s.flow rest).andThen finish
        | _, _ => (Part.emptyNode token.start tokens).andThen finish
    match tokens with
    | [] => .fail s.broken
    | token :: rest =>
      match token.kind with
      | .value | .flowEntry | .flowSequenceEnd => (Part.emptyNode token.stop rest).andThen value
      | _ => (readNode fuel s.flow tokens).andThen value

/-- Reads the members of a flow mapping. -/
def readFlowMembers : Nat → Setting → Mark → Bool → List Token → Part
  | 0, s, _, _, _ => .fail s.broken
  | fuel + 1, s, start, isFirst, tokens =>
    let value (tokens : List Token) : Part :=
      match tokens with
      | [] => .fail s.broken
      | token :: rest =>
        match token.kind, rest with
        | .value, [] => .fail s.broken
        | .value, next :: _ =>
          if next.kind = .flowEntry || next.kind = .flowMappingEnd then
            (Part.emptyNode next.start rest).andThen (readFlowMembers fuel s start false)
          else (readNode fuel s.flow rest).andThen (readFlowMembers fuel s start false)
        | _, _ =>
          (Part.emptyNode token.start tokens).andThen (readFlowMembers fuel s start false)
    let member (tokens : List Token) : Part :=
      match tokens with
      | [] => .fail s.broken
      | token :: rest =>
        match token.kind, rest with
        | .key, [] => .fail s.broken
        | .key, next :: _ =>
          if next.kind = .value || next.kind = .flowEntry || next.kind = .flowMappingEnd then
            (Part.emptyNode next.start rest).andThen value
          else (readNode fuel s.flow rest).andThen value
        | .flowMappingEnd, _ => .event .mappingEnd token.start rest
        | _, _ =>
          (readNode fuel s.flow tokens).andThen fun tokens =>
            match tokens with
            | [] => .fail s.broken
            | token :: _ =>
              (Part.emptyNode token.start tokens).andThen (readFlowMembers fuel s start false)
    match tokens with
    | [] => .fail s.broken
    | token :: rest =>
      match token.kind with
      | .flowMappingEnd => .event .mappingEnd token.start rest
      | kind =>
        if isFirst then member tokens
        else if kind = .flowEntry then member rest
        else .fail (structureFault .noMappingEnd token.start .flowMapping start)

end

end NotebookExport.Yaml
