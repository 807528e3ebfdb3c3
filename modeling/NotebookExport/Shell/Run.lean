import NotebookExport.Shell.Arithmetic
import NotebookExport.Shell.Builtin
import NotebookExport.Shell.Pattern
import NotebookExport.Shell.Reader

/-!
# Running scripts

Words are expanded and commands are run. Both may run further scripts, so that they go by steps, of
which a run has only so many. A script is read and run line by line.
-/

namespace NotebookExport.Shell

open Act

/-! ### Fields -/

/-- What a word comes to before it is split. -/
inductive Mark where
  | octet (c : Char) (isQuoted mayKeep : Bool)
  /-- A field is there even if it stays empty. -/
  | present
  /-- One field ends and the next one may begin. -/
  | gap

namespace Mark

/-- Octets as they stand. -/
def quoted (octets : Octets) : List Mark := .present :: octets.map fun c => .octet c true true

/-- Octets at which words may be split. -/
def loose (octets : Octets) : List Mark := octets.map fun c => .octet c false false

/-- The value of a parameter or a script. -/
def ofValue (isQuoted : Bool) (octets : Octets) : List Mark :=
  if isQuoted then quoted octets else loose octets

/-- The fields of marks behind one that has begun, if one has. -/
def split (splitsAt : Char → Bool) : Option (List Glyph) → List Mark → List (List Glyph)
  | current, [] => current.toList
  | current, .octet c isQuoted mayKeep :: rest =>
    if !mayKeep && splitsAt c then current.toList ++ split splitsAt none rest
    else split splitsAt (some (current.getD [] ++ [(c, isQuoted)])) rest
  | current, .present :: rest => split splitsAt (some (current.getD [])) rest
  | current, .gap :: rest => current.toList ++ split splitsAt none rest

/-- All octets in one. -/
def glyphs (marks : List Mark) : List Glyph :=
  marks.flatMap fun
    | .octet c isQuoted _ => [(c, isQuoted)]
    | .present => []
    | .gap => [(' ', true)]

def octets (marks : List Mark) : Octets := (glyphs marks).map Prod.fst

end Mark

/-! ### Loops -/

/-- Runs a round of a loop; whether the loop goes on. -/
def runRound (body : Act Unit) : Act Bool := do
  try
    body
    return true
  catch
    | .leaveLoop n => if n ≤ 1 then return false else throw (.leaveLoop (n - 1))
    | .nextRound n => if n ≤ 1 then return true else throw (.nextRound (n - 1))
    | stop => throw stop

/-- Runs a body for each item. -/
def runEach {α : Type} (body : α → Act Unit) : List α → Act Unit
  | [] => pure ()
  | item :: rest => do
    if ← runRound (body item) then runEach body rest

/-- Runs an action of which only the status is asked for. -/
def asCondition (act : Act Unit) : Act Unit := do
  let before := (← get).isCondition
  modify fun m => { m with isCondition := true }
  act
  modify fun m => { m with isCondition := before }

/-- Ends the shell after a failure, if it is to stop on failures. -/
def stopOnFailure : Act Unit := do
  let m ← get
  if m.stopsOnFailure && !m.isCondition && m.status ≠ 0 then throw .exit

/-- What the shell reports of a process that was ended by a signal. -/
def signalReport? (signal : Nat) : Option String :=
  [(1, "Hangup"), (3, "Quit"), (6, "Aborted"), (9, "Killed"), (10, "User defined signal 1"),
    (11, "Segmentation fault"), (12, "User defined signal 2"), (14, "Alarm clock"),
    (15, "Terminated")].lookup signal

/-- Runs a shell within the shell: a signal ends no more than that. -/
def asProcess (act : Act Unit) : Act Unit := do
  let before ← get
  try act
  catch
    | .signal number =>
      modify fun m =>
        { before with
          files := m.files, input := m.input, kept := m.kept, status := 128 + number }
      (signalReport? number).toList.forM complain
    | stop => throw stop

/-- The letters of the options with which a shell starts, and the arguments behind them. -/
def startOptions : List Octets → Octets × List Octets
  | [] => ([], [])
  | ['-', '-'] :: rest | ['-'] :: rest => ([], rest)
  | ('-' :: letters) :: rest =>
    let (others, operands) := startOptions rest
    (letters ++ others, operands)
  | operands => ([], operands)

/-- Starts a shell with the letters of its options and a script, and runs what is left to do at its
end. -/
def startShell (letters : Octets) (runScript : Input → Act Unit) (name : Octets)
    (arguments : List Octets) (script : Octets) : Act Unit := do
  modify fun m =>
    { m with
      name := name, arguments := arguments, bindings := [], functions := [], status := 0
      stopsOnFailure := letters.contains 'e', refusesUnset := letters.contains 'u'
      showsCommands := letters.contains 'x', isCondition := false, isEvaluating := false
      traps := [], line := 1 }
  if !letters.contains 'n' then
    try runScript ⟨script, 1⟩
    catch
      | .exit => pure ()
      | stop => throw stop
  let m ← get
  match m.traps.lookup 0 with
  | none => pure ()
  | some last =>
    runScript ⟨last, m.line⟩
    setStatus m.status

/-! ### Scripts -/

mutual

/-- What a word comes to. -/
def expand : Nat → Word → Act (List Mark)
  | 0, _ => throw .exhausted
  | fuel + 1, word => do
    let parts ← word.mapM fun piece => expandPiece fuel piece
    return parts.flatten

def expandPiece : Nat → Piece → Act (List Mark)
  | 0, _ => throw .exhausted
  | _ + 1, .text true octets => return Mark.quoted octets
  | _ + 1, .text false octets => return octets.map fun c => .octet c false true
  | fuel + 1, .output isQuoted script => do
    let status := (← get).status
    let output ← capture (apart (runScript fuel ⟨script, (← get).line⟩))
    modify fun m => { m with wordStatus := some m.status, status := status }
    return Mark.ofValue isQuoted (output.reverse.dropWhile (· = '\n')).reverse
  | fuel + 1, .arithmetic isQuoted word => do
    let expression := Mark.octets (← expand fuel word)
    let m ← get
    let value (name : Octets) : Int := (readNumber ((m.valueOf? name).getD [])).1
    match Arithmetic.evaluate value expression with
    | .ok n => return Mark.ofValue isQuoted (toString n).toList
    | .error fault => failForGood (fault.message expression)
  | fuel + 1, .parameter isQuoted name form => do
    let m ← get
    let value := m.parameter? name
    let isSet := value.isSome || name = ['@'] || name = ['*']
    let plain : List Mark :=
      if name = ['@'] || (name = ['*'] && !isQuoted) then
        List.intercalate [.gap] (m.arguments.map (Mark.ofValue isQuoted))
      else Mark.ofValue isQuoted (value.getD [])
    match form with
    | .value =>
      if !isSet && m.refusesUnset then
        failForGood (Octets.toText name ++ ": parameter not set")
      else return plain
    | .length => return Mark.ofValue isQuoted (toString (value.getD []).length).toList
    | .without atEnd isLongest pattern =>
      let pattern := Pattern.read (Mark.glyphs (← expand fuel pattern))
      return Mark.ofValue isQuoted (pattern.without atEnd isLongest (value.getD []))
    | .instead action alsoIfEmpty word =>
      let isMissing := value.isNone || (alsoIfEmpty && value = some [])
      match action with
      | .take => if isMissing then expand fuel word else return plain
      | .alternative => if isMissing then return [] else expand fuel word
      | .assign =>
        if isMissing then
          let octets := Mark.octets (← expand fuel word)
          modify fun m => m.assign name octets
          return Mark.ofValue isQuoted octets
        else return plain
      | .refuse =>
        if isMissing then
          let octets := Mark.octets (← expand fuel word)
          let reason := if octets.isEmpty then
              if alsoIfEmpty then "parameter not set or null" else "parameter not set"
            else Octets.toText octets
          failForGood (Octets.toText name ++ ": " ++ reason)
        else return plain

/-- The fields of words. -/
def expandAll : Nat → List Word → Act (List Octets)
  | 0, _ => throw .exhausted
  | fuel + 1, words => do
    let fields ← words.mapM fun word => do
      let marks ← expand fuel word
      let m ← get
      return Mark.split m.splitsAt none marks
    return fields.flatten.map fun glyphs => glyphs.map Prod.fst

/-- The octets of a word that is not split. -/
def expandOne : Nat → Word → Act Octets
  | 0, _ => throw .exhausted
  | fuel + 1, word => do return Mark.octets (← expand fuel word)

/-- Takes one redirection into effect; whether it could be. -/
def redirect : Nat → Redirection → Act Bool
  | 0, _ => throw .exhausted
  | fuel + 1, r => do
    let target ← expandOne fuel r.target
    let reasonFor (absent : String) (fault : FileFault) : String :=
      if fault = .notFound || fault = .notDirectory then absent else fault.reason
    let point (sink : Sink) : Act Unit :=
      modify fun m => { m with outputs := (r.descriptor, sink) :: m.outputs }
    match r.kind with
    | .here =>
      modify fun m => { m with input := target }
      return true
    | .input =>
      match ← readFile target with
      | .ok text =>
        modify fun m => { m with input := text }
        return true
      | .error .isDirectory =>
        modify fun m => { m with input := [] }
        return true
      | .error fault =>
        fail 2 ("cannot open " ++ Octets.toText target ++ ": " ++ reasonFor "No such file" fault)
        return false
    | .output | .append =>
      let keeps := match r.kind with
        | .append => true
        | _ => false
      match ← openOutput target keeps with
      | .ok sink =>
        point sink
        return true
      | .error fault =>
        fail 2 ("cannot create " ++ Octets.toText target ++ ": " ++
          reasonFor "Directory nonexistent" fault)
        return false
    | .duplicate =>
      if target = ['-'] then
        point .nowhere
        return true
      else
        let m ← get
        match (natural? target).map fun n => (n, m.outputs.lookup n) with
        | some (_, some sink) =>
          point sink
          return true
        | some (0, none) => return true
        | some (n, none) =>
          fail 2 (toString n ++ ": Bad file descriptor")
          return false
        | none => failForGood "Syntax error: Bad fd number"

/-- Takes redirections into effect, up to the first that cannot be. -/
def redirectAll : Nat → List Redirection → Act Bool
  | 0, _ => throw .exhausted
  | _ + 1, [] => return true
  | fuel + 1, r :: rest => do
    if ← redirect fuel r then redirectAll fuel rest else return false

/-- Runs something with redirections, which end with it. -/
def withRedirections : Nat → List Redirection → Act Unit → Act Unit → Act Unit
  | 0, _, _, _ => throw .exhausted
  | fuel + 1, redirections, onFault, act => do
    let before ← get
    let changesInput := redirections.any fun r => r.descriptor = 0
    let restore : Act Unit := modify fun m =>
      { m with outputs := before.outputs, input := if changesInput then before.input else m.input }
    if ← redirectAll fuel redirections then
      try act
      catch stop =>
        restore
        throw stop
      restore
    else
      restore
      onFault

/-- Runs a command by its name. -/
def call : Nat → Octets → List Octets → Act Unit
  | 0, _, _ => throw .exhausted
  | fuel + 1, name, arguments => do
    let m ← get
    match m.functions.lookup name, builtin? name with
    | some body, _ =>
      let outer := m.arguments
      modify fun m => { m with arguments := arguments }
      try run fuel body
      catch
        | .leaveFunction => pure ()
        | stop => throw stop
      modify fun m => { m with arguments := outer }
    | none, some tool => tool arguments
    | none, none =>
      match Octets.toText name with
      | "eval" =>
        modify fun m => { m with status := 0, isEvaluating := true }
        runScript fuel ⟨List.intercalate [' '] arguments, m.line⟩
        modify fun n => { n with isEvaluating := m.isEvaluating }
      | "command" | "env" =>
        match arguments with
        | [] => setStatus 0
        | ['-', 'v'] :: names =>
          setStatus 0
          names.forM fun name => do
            if (builtin? name).isSome then write (name ++ ['\n']) else setStatus 127
        | inner :: others => call fuel inner others
      | "type" =>
        setStatus 0
        arguments.forM fun name => do
          if (builtin? name).isSome then write (name ++ " is a shell builtin\n".toList)
          else
            write (name ++ ": not found\n".toList)
            setStatus 127
      | "exec" =>
        match arguments with
        | [] => setStatus 0
        | inner :: others =>
          if (builtin? inner).isNone && inner ≠ "sh".toList && (toolAtPath? inner).isNone then
            fail 127 ("exec: " ++ Octets.toText inner ++ ": not found")
          else call fuel inner others
          throw .exit
      | "sh" | "dash" => asProcess (apart (runShell fuel arguments))
      | "." =>
        match arguments with
        | [] => setStatus 0
        | path :: _ =>
          match ← readFile path with
          | .ok text => runScript fuel ⟨text, 1⟩
          | .error _ =>
            let path := Octets.toText path
            if path.contains '/' then failForGood (".: cannot open " ++ path ++ ": No such file")
            else failForGood (".: " ++ path ++ ": not found")
      | _ =>
        match toolAtPath? name with
        | some inner =>
          if Tool.isProgram inner || inner = "sh".toList then call fuel inner arguments
          else failNotFound name
        | none => failNotFound name

/-- Runs the script of a signal that has come. -/
def runTrap : Nat → Act Unit
  | 0 => throw .exhausted
  | fuel + 1 => do
    let m ← get
    match m.pendingTrap with
    | none => pure ()
    | some script =>
      set { m with pendingTrap := none }
      runScript fuel ⟨script, m.line⟩
      setStatus m.status

/-- Runs a command. -/
def run : Nat → Command → Act Unit
  | 0, _ => throw .exhausted
  | fuel + 1, .simple line assignments words redirections => do
    modify fun m => { m with line := line, wordStatus := none }
    let fields ← expandAll fuel words
    let assign : Act Unit := assignments.forM fun (name, word) => do
      let value ← expandOne fuel word
      modify fun m => m.assign name value
    match fields with
    | [] =>
      withRedirections fuel redirections (throw .exit) do
        assign
        modify fun m => { m with status := m.wordStatus.getD 0 }
      stopOnFailure
    | name :: arguments =>
      if (← get).showsCommands then
        complain ("+ " ++ Octets.toText (List.intercalate [' '] fields))
      if name = "exec".toList && arguments.isEmpty then
        assign
        if ← redirectAll fuel redirections then setStatus 0 else throw .exit
      else if isSpecial name then
        withRedirections fuel redirections (throw .exit) do
          assign
          call fuel name arguments
      else
        withRedirections fuel redirections (pure ()) do
          if assignments.isEmpty then call fuel name arguments
          else
            let outer := (← get).bindings
            assign
            call fuel name arguments
            if name ≠ "read".toList then modify fun m => { m with bindings := outer }
      runTrap fuel
      stopOnFailure
  | fuel + 1, .pipeline isNegated parts => do
    let body : Act Unit := do
      match parts with
      | [command] => run fuel command
      | parts => apart (runParts fuel parts)
    if isNegated then
      asCondition body
      modify fun m => { m with status := if m.status = 0 then 1 else 0 }
    else
      body
      stopOnFailure
  | fuel + 1, .both left right => do
    asCondition (run fuel left)
    if (← get).status = 0 then run fuel right
  | fuel + 1, .either left right => do
    asCondition (run fuel left)
    if (← get).status ≠ 0 then run fuel right
  | fuel + 1, .sequence commands => commands.forM fun command => run fuel command
  | fuel + 1, .subshell body => do
    apart (run fuel body)
    stopOnFailure
  | fuel + 1, .redirected body redirections =>
    withRedirections fuel redirections (pure ()) (run fuel body)
  | fuel + 1, .branch condition yes no => do
    asCondition (run fuel condition)
    if (← get).status = 0 then run fuel yes
    else
      setStatus 0
      run fuel no
  | fuel + 1, .loop isUntil condition body => runLoop fuel isUntil condition body 0
  | fuel + 1, .each name words body => do
    let items ← expandAll fuel words
    setStatus 0
    runEach (fun item => do
      modify fun m => m.assign name item
      run fuel body) items
  | fuel + 1, .cases subject arms => do
    let text ← expandOne fuel subject
    setStatus 0
    runArms fuel text arms
  | _ + 1, .define name body =>
    modify fun m => { m with functions := (name, body) :: m.functions, status := 0 }

/-- Runs the commands of a pipeline, each on the output of the one before. -/
def runParts : Nat → List Command → Act Unit
  | 0, _ => throw .exhausted
  | _ + 1, [] => pure ()
  | fuel + 1, [command] => apart (run fuel command)
  | fuel + 1, command :: rest => do
    let output ← capture (apart (run fuel command))
    modify fun m => { m with input := output }
    runParts fuel rest

/-- Runs the rounds of a loop, where the last round had a status. -/
def runLoop : Nat → Bool → Command → Command → Nat → Act Unit
  | 0, _, _, _, _ => throw .exhausted
  | fuel + 1, isUntil, condition, body, status => do
    asCondition (run fuel condition)
    if ((← get).status = 0) = !isUntil then
      if ← runRound (run fuel body) then
        runLoop fuel isUntil condition body (← get).status
    else setStatus status

/-- Runs the first arm that has a pattern for a text. -/
def runArms : Nat → Octets → List (List Word × Command) → Act Unit
  | 0, _, _ => throw .exhausted
  | _ + 1, _, [] => pure ()
  | fuel + 1, text, (patterns, body) :: rest => do
    let found ← patterns.anyM fun pattern => do
      return (Pattern.read (Mark.glyphs (← expand fuel pattern))).isMatch text
    if found then run fuel body else runArms fuel text rest

/-- Runs a script line by line. -/
def runScript : Nat → Input → Act Unit
  | 0, _ => throw .exhausted
  | fuel + 1, i =>
    match readLine (readingSteps i.rest) i with
    | .ok ([], _) => pure ()
    | .ok (commands, rest) => do
      run fuel (.sequence commands)
      runScript fuel rest
    | .error (fault, line) => do
      modify fun m => { m with line := line }
      failForGood ((if (← get).isEvaluating then "eval: " else "") ++ fault.message)

/-- Runs a shell with the arguments of its command line. -/
def runShell : Nat → List Octets → Act Unit
  | 0, _ => throw .exhausted
  | fuel + 1, arguments => do
    let (letters, operands) := startOptions arguments
    let refuse (status : Nat) (text : String) : Act Unit := do
      complain ("sh: 0: " ++ text)
      setStatus status
    let start := startShell letters (runScript fuel)
    match letters.find? fun c => !"abefhilmnpsuvxcCE".toList.contains c with
    | some c => refuse 2 ("Illegal option -" ++ c.toString)
    | none =>
      match operands with
      | [] =>
        if letters.contains 'c' then refuse 2 "-c requires an argument"
        else start "sh".toList [] (← takeInput)
      | first :: rest =>
        if letters.contains 'c' then start (rest.head?.getD "sh".toList) rest.tail first
        else if letters.contains 's' then start "sh".toList operands (← takeInput)
        else
          match ← readFile first with
          | .ok script => start first rest script
          | .error .isDirectory => setStatus 0
          | .error _ => refuse 2 ("cannot open " ++ Octets.toText first ++ ": No such file")

end

/-- The steps that a run may take. -/
def runSteps : Nat := 20000

end NotebookExport.Shell
