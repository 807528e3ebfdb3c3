import NotebookExport.Shell.Token

/-!
# Reading scripts

A script is read a line at a time, as what stands in later lines may depend on what the earlier ones
do. Commands are read by recursive descent.
-/

namespace NotebookExport.Shell

/-- The lines up to one that is a mark, and the rest behind it. -/
def hereText (dropTabs : Bool) (mark : Octets) : Nat → Octets → Octets × Octets
  | 0, rest => ([], rest)
  | fuel + 1, rest =>
    if rest.isEmpty then ([], [])
    else
      let line := rest.takeWhile (· ≠ '\n')
      let line := if dropTabs then line.dropWhile (· = '\t') else line
      let more := (rest.dropWhile (· ≠ '\n')).tail
      if line = mark then ([], more)
      else
        let (text, behind) := hereText dropTabs mark fuel more
        (line ++ '\n' :: text, behind)

/-- The octets of a word in which no quotes count. -/
def Word.plainText (w : Word) : Octets :=
  w.flatMap fun
    | .text _ octets => octets
    | .parameter _ name _ => '$' :: name
    | _ => []

/-- The text that stands in a script behind its current line. -/
def readHere (fuel : Nat) (dropTabs : Bool) (mark : Word) (i : Input) : Read Word :=
  let line := i.rest.takeWhile (· ≠ '\n')
  let later := (i.rest.dropWhile (· ≠ '\n')).tail
  let (text, rest) := hereText dropTabs mark.plainText (later.length + 1) later
  let behind : Input := ⟨line ++ '\n' :: rest, i.line⟩
  match mark.literal? with
  | none => .ok ([.text true text], behind)
  | some _ =>
    (readQuoted fuel '\x00' ⟨text ++ ['\x00'], i.line⟩).map fun (word, _) => (word, behind)

/-- The redirection behind its sign. -/
def readRedirection (fuel : Nat) (descriptor : Option Nat) (sign : String) (i : Input) :
    Read Redirection :=
  (readToken fuel i).bind fun (token, i) =>
    match token with
    | .word w =>
      if sign = "<<" || sign = "<<-" then
        (readHere fuel (sign = "<<-") w i).map fun (text, i) =>
          (⟨descriptor.getD 0, .here, text⟩, i)
      else if sign = "<" || sign = "<>" then .ok (⟨descriptor.getD 0, .input, w⟩, i)
      else if sign = ">>" then .ok (⟨descriptor.getD 1, .append, w⟩, i)
      else if sign = ">&" then .ok (⟨descriptor.getD 1, .duplicate, w⟩, i)
      else if sign = "<&" then .ok (⟨descriptor.getD 0, .duplicate, w⟩, i)
      else .ok (⟨descriptor.getD 1, .output, w⟩, i)
    | _ => unexpected token i none

/-- All redirections that follow. -/
def readRedirections : Nat → Input → Read (List Redirection)
  | 0, i => .ok ([], i)
  | fuel + 1, i =>
    (readToken fuel i).bind fun (token, next) =>
      match token with
      | .redirect descriptor sign =>
        (readRedirection fuel descriptor sign next).bind fun (r, i) =>
          (readRedirections fuel i).map fun (more, i) => (r :: more, i)
      | _ => .ok ([], i)

/-- The name and the value of a word that assigns. -/
def assignment? (w : Word) : Option (Octets × Word) :=
  let isNamePart : Piece → Bool
    | .text false [c] => isNameRest c
    | _ => false
  let name := Word.literal? (w.takeWhile isNamePart)
  match name, w.dropWhile isNamePart with
  | some (c :: cs), .text false ['='] :: value =>
    if isNameStart c then some (c :: cs, value) else none
  | _, _ => none

/-- The input behind all ends of lines that follow. -/
def skipNewlines : Nat → Input → Read Unit
  | 0, i => .ok ((), i)
  | fuel + 1, i =>
    (readToken fuel i).bind fun (token, next) =>
      match token with
      | .newline => skipNewlines fuel next
      | _ => .ok ((), i)

/-- The input behind a keyword that must follow. -/
def expectKeyword (fuel : Nat) (keyword : String) (i : Input) : Read Unit :=
  (readToken fuel i).bind fun (token, next) =>
    if token.keyword? = some keyword then .ok ((), next)
    else unexpected token next (some (.sign keyword))

/-- The words up to the end of a loop's head. -/
def readWords : Nat → Input → Read (List Word)
  | 0, i => .ok ([], i)
  | fuel + 1, i =>
    (readToken fuel i).bind fun (token, next) =>
      match token with
      | .word w => (readWords fuel next).map fun (more, i) => (w :: more, i)
      | .sign ";" | .newline => .ok ([], next)
      | _ => unexpected token next none

/-- The patterns of an arm, behind the first parenthesis if there is one. -/
def readPatterns : Nat → Input → Read (List Word)
  | 0, i => unexpected .scriptEnd i none
  | fuel + 1, i =>
    (readToken fuel i).bind fun (token, next) =>
      match token with
      | .word w =>
        (readToken fuel next).bind fun (token, next) =>
          match token with
          | .sign "|" => (readPatterns fuel next).map fun (more, i) => (w :: more, i)
          | .sign ")" => .ok ([w], next)
          | _ => unexpected token next (some (.sign ")"))
      | .scriptEnd => unexpected token next (some (.sign ")"))
      | _ => unexpected token next none

mutual

/-- Commands up to a token that cannot start one; with `onOneLine`, up to the end of the line. -/
def readList : Nat → Bool → Input → Read (List Command)
  | 0, _, i => unexpected .scriptEnd i none
  | fuel + 1, onOneLine, i =>
    (if onOneLine then .ok ((), i) else skipNewlines fuel i).bind fun (_, i) =>
      (readToken fuel i).bind fun (token, _) =>
        let ends := match token with
          | .scriptEnd | .newline | .sign ")" | .sign ";;" => true
          | _ => ["then", "else", "elif", "fi", "do", "done", "esac", "\x7d"].any fun keyword =>
              token.keyword? = some keyword
        if ends then .ok ([], i)
        else
          (readAndOr fuel i).bind fun (command, i) =>
            (readToken fuel i).bind fun (token, next) =>
              match token with
              | .sign ";" | .sign "&" =>
                (readList fuel onOneLine next).map fun (more, i) => (command :: more, i)
              | .newline =>
                if onOneLine then .ok ([command], i)
                else (readList fuel onOneLine next).map fun (more, i) => (command :: more, i)
              | .word _ => unexpected token next none
              | _ => .ok ([command], i)

/-- Commands of which there must be one, and the keyword behind them. -/
def readBody : Nat → List String → Input → Read (Command × String)
  | 0, _, i => unexpected .scriptEnd i none
  | fuel + 1, closing, i =>
    (readList fuel false i).bind fun (commands, i) =>
      (readToken fuel i).bind fun (token, next) =>
        match commands, token.keyword? with
        | _ :: _, some keyword =>
          if closing.contains keyword then .ok ((.sequence commands, keyword), next)
          else unexpected token next (closing.getLast?.map .sign)
        | [], some _ => unexpected token next none
        | [], none =>
          unexpected token next (match token with
            | .scriptEnd => closing.getLast?.map .sign
            | _ => none)
        | _, none => unexpected token next (closing.getLast?.map .sign)

/-- Pipelines joined by signs. -/
def readAndOr : Nat → Input → Read Command
  | 0, i => unexpected .scriptEnd i none
  | fuel + 1, i =>
    (readPipeline fuel i).bind fun (first, i) => readJoined fuel first i

/-- What is joined to a command on its right. -/
def readJoined : Nat → Command → Input → Read Command
  | 0, left, i => .ok (left, i)
  | fuel + 1, left, i =>
    (readToken fuel i).bind fun (token, next) =>
      match token with
      | .sign "&&" =>
        (skipNewlines fuel next).bind fun (_, i) =>
          (readPipeline fuel i).bind fun (right, i) => readJoined fuel (.both left right) i
      | .sign "||" =>
        (skipNewlines fuel next).bind fun (_, i) =>
          (readPipeline fuel i).bind fun (right, i) => readJoined fuel (.either left right) i
      | _ => .ok (left, i)

def readPipeline : Nat → Input → Read Command
  | 0, i => unexpected .scriptEnd i none
  | fuel + 1, i =>
    (readToken fuel i).bind fun (token, next) =>
      if token.keyword? = some "!" then
        (readParts fuel next).map fun (parts, i) => (.pipeline true parts, i)
      else
        (readParts fuel i).map fun (parts, i) =>
          match parts with
          | [command] => (command, i)
          | parts => (.pipeline false parts, i)

/-- The commands of a pipeline. -/
def readParts : Nat → Input → Read (List Command)
  | 0, i => unexpected .scriptEnd i none
  | fuel + 1, i =>
    (readCommand fuel i).bind fun (command, i) =>
      (readToken fuel i).bind fun (token, next) =>
        match token with
        | .sign "|" =>
          (skipNewlines fuel next).bind fun (_, i) =>
            (readParts fuel i).map fun (more, i) => (command :: more, i)
        | _ => .ok ([command], i)

def readCommand : Nat → Input → Read Command
  | 0, i => unexpected .scriptEnd i none
  | fuel + 1, i =>
    (readToken fuel i).bind fun (token, next) =>
      let compound (r : Read Command) : Read Command :=
        r.bind fun (command, i) =>
          (readRedirections fuel i).map fun (redirections, i) =>
            (if redirections.isEmpty then command else .redirected command redirections, i)
      match token, token.keyword? with
      | .sign "(", _ =>
        compound ((readList fuel false next).bind fun (commands, i) =>
          (readToken fuel i).bind fun (token, next) =>
            match commands, token with
            | _ :: _, .sign ")" => .ok (.subshell (.sequence commands), next)
            | [], .scriptEnd | _ :: _, _ => unexpected token next (some (.sign ")"))
            | [], _ => unexpected token next none)
      | _, some "\x7b" =>
        compound ((readBody fuel ["\x7d"] next).map fun ((body, _), i) => (body, i))
      | _, some "if" => compound (readIf fuel next)
      | _, some "while" => compound (readLoop fuel false next)
      | _, some "until" => compound (readLoop fuel true next)
      | _, some "for" => compound (readFor fuel next)
      | _, some "case" => compound (readCase fuel next)
      | _, some _ => unexpected token next none
      | .word _, none | .redirect _ _, none => readSimple fuel i.line [] [] [] i
      | _, none => unexpected token next none

/-- The rest of a simple command. -/
def readSimple : Nat → Nat → List (Octets × Word) → List Word → List Redirection → Input →
    Read Command
  | 0, _, _, _, _, i => unexpected .scriptEnd i none
  | fuel + 1, line, assignments, words, redirections, i =>
    (readToken fuel i).bind fun (token, next) =>
      match token with
      | .word w =>
        match words, assignment? w with
        | [], some a => readSimple fuel line (assignments ++ [a]) words redirections next
        | _, _ => readSimple fuel line assignments (words ++ [w]) redirections next
      | .redirect descriptor sign =>
        (readRedirection fuel descriptor sign next).bind fun (r, i) =>
          readSimple fuel line assignments words (redirections ++ [r]) i
      | .sign "(" =>
        match assignments, words with
        | [], [w] =>
          (readToken fuel next).bind fun (token, next) =>
            match token, w.literal? with
            | .sign ")", some (c :: cs) =>
              if isNameStart c && cs.all isNameRest then
                (skipNewlines fuel next).bind fun (_, i) =>
                  (readCommand fuel i).map fun (body, i) => (.define (c :: cs) body, i)
              else .error (.badFunctionName, next.line)
            | .sign ")", _ => .error (.badFunctionName, next.line)
            | .word _, _ => .error (.unexpected .word (some (.sign ")")), next.line)
            | _, _ => unexpected token next (some (.sign ")"))
        | _, _ => unexpected token next none
      | _ => .ok (.simple line assignments words redirections, i)

def readIf : Nat → Input → Read Command
  | 0, i => unexpected .scriptEnd i none
  | fuel + 1, i =>
    (readBody fuel ["then"] i).bind fun ((condition, _), i) =>
      (readBody fuel ["elif", "else", "fi"] i).bind fun ((yes, keyword), i) =>
        if keyword = "elif" then
          (readIf fuel i).map fun (no, i) => (.branch condition yes no, i)
        else if keyword = "else" then
          (readBody fuel ["fi"] i).map fun ((no, _), i) => (.branch condition yes no, i)
        else .ok (.branch condition yes (.sequence []), i)

def readLoop : Nat → Bool → Input → Read Command
  | 0, _, i => unexpected .scriptEnd i none
  | fuel + 1, isUntil, i =>
    (readBody fuel ["do"] i).bind fun ((condition, _), i) =>
      (readBody fuel ["done"] i).map fun ((body, _), i) => (.loop isUntil condition body, i)

def readFor : Nat → Input → Read Command
  | 0, i => unexpected .scriptEnd i none
  | fuel + 1, i =>
    (readToken fuel i).bind fun (token, next) =>
      let name := match token with
        | .word w => w.literal?
        | _ => none
      match name with
      | some (c :: cs) =>
        if !(isNameStart c && cs.all isNameRest) then .error (.badLoopVariable, next.line)
        else
          (skipNewlines fuel next).bind fun (_, i) =>
            (readToken fuel i).bind fun (token, next) =>
              let head : Read (List Word) :=
                if token.keyword? = some "in" then readWords fuel next
                else
                  match token with
                  | .sign ";" => .ok ([[.parameter true ['@'] .value]], next)
                  | _ => .ok ([[.parameter true ['@'] .value]], i)
              head.bind fun (words, i) =>
                (skipNewlines fuel i).bind fun (_, i) =>
                  (expectKeyword fuel "do" i).bind fun (_, i) =>
                    (readBody fuel ["done"] i).map fun ((body, _), i) =>
                      (.each (c :: cs) words body, i)
      | _ => .error (.badLoopVariable, next.line)

def readCase : Nat → Input → Read Command
  | 0, i => unexpected .scriptEnd i none
  | fuel + 1, i =>
    (readToken fuel i).bind fun (token, next) =>
      match token with
      | .word subject =>
        (skipNewlines fuel next).bind fun (_, i) =>
          (expectKeyword fuel "in" i).bind fun (_, i) =>
            (readArms fuel i).map fun (arms, i) => (.cases subject arms, i)
      | _ => unexpected token next (some .word)

def readArms : Nat → Input → Read (List (List Word × Command))
  | 0, i => unexpected .scriptEnd i none
  | fuel + 1, i =>
    (skipNewlines fuel i).bind fun (_, i) =>
      (readToken fuel i).bind fun (token, next) =>
        if token.keyword? = some "esac" then .ok ([], next)
        else
          let start := match token with
            | .sign "(" => next
            | _ => i
          (readPatterns fuel start).bind fun (patterns, i) =>
            (readList fuel false i).bind fun (body, i) =>
              (readToken fuel i).bind fun (token, next) =>
                let arm := (patterns, Command.sequence body)
                match token with
                | .sign ";;" => (readArms fuel next).map fun (more, i) => (arm :: more, i)
                | _ =>
                  if token.keyword? = some "esac" then .ok ([arm], next)
                  else unexpected token next (some (.sign ";;"))

end

/-- The commands of the next line that has any; none at the end of the script. -/
def readLine : Nat → Input → Read (List Command)
  | 0, i => .ok ([], i)
  | fuel + 1, i =>
    (readToken fuel i).bind fun (token, next) =>
      match token with
      | .newline => readLine fuel next
      | .scriptEnd => .ok ([], next)
      | _ =>
        (readList fuel true i).bind fun (commands, after) =>
          (readToken fuel after).bind fun (behind, behindNext) =>
            match commands, behind with
            | _ :: _, .newline | _ :: _, .scriptEnd => .ok (commands, after)
            | [], _ => unexpected token next none
            | _, _ => unexpected behind behindNext none

/-- The steps that reading a text may take. -/
def readingSteps (text : Octets) : Nat := 24 * text.length + 100

end NotebookExport.Shell
