import NodeTrial.Executor.Script.Builtin
import NodeTrial.Executor.Script.Reader

/-! Running scripts. Words are expanded and commands run together, for each may need the other; all
of it goes down from a bound on how deep it may go, and a loop ends after a bounded number of
rounds.
-/

namespace NodeTrial.Script

def mostRounds : Nat := 1000000

/-- The stream of a path that is written to, which loses what it held unless it is kept. -/
def openForWriting (keeps : Bool) (path : String) : Run (Option Stream) := do
  let s ← get
  match path with
  | "/dev/stdout" | "/dev/fd/1" => return s.channels.lookup 1
  | "/dev/stderr" | "/dev/fd/2" => return s.channels.lookup 2
  | path =>
    match s.allFiles.target path with
    | .error error =>
      complain ("cannot create " ++ path ++ ": " ++ error.description)
      return none
    | .ok place =>
      if place = FileTree.nullDevice then return some .nothing
      if place = FileTree.fullDevice then return some .full
      if place = ["dev", "zero"] then return some .zeros
      let before := if keeps then (s.content? place).getD "" else ""
      modify fun s => { s with files := put place before s.files }
      return some (.file place)

def openForReading (path : String) : Run (Option Stream) := do
  let s ← get
  match path with
  | "/dev/stdin" | "/dev/fd/0" => return s.channels.lookup 0
  | path =>
    match contentOf s path with
    | .ok content => return some (.text (← newText content))
    | .error .isADirectory => return some .nothing
    | .error error =>
      complain ("cannot open " ++ path ++ ": " ++ error.description)
      return none

def tie (channel : Nat) (stream : Option Stream) : Run Unit :=
  modify fun s =>
    { s with channels := match stream with
        | some stream => put channel stream s.channels
        | none => remove channel s.channels }

/-- A text without the line ends at its end, and without the character that ends texts. -/
def withoutLineEnds (text : String) : String :=
  let cs := (text.toList.reverse.dropWhile (· = '\n')).reverse
  String.ofList (cs.filter (· != '\x00'))

/-- A value with the case of its letters changed. -/
def Casing.apply (casing : Casing) (text : String) : String :=
  let change := if casing.upper then Char.toUpper else Char.toLower
  match casing.all, text.toList with
  | true, cs => String.ofList (cs.map change)
  | false, c :: rest => String.ofList (change c :: rest)
  | false, [] => ""

/-- A part of a row from a start on; a negative start counts from the end. None if the end comes
before the start.
-/
def sliceOf {α : Type} (items : List α) (start : Int) (length : Option Int) : Option (List α) :=
  let size : Int := items.length
  let first := if start < 0 then size + start else start
  if first < 0 ∨ size < first then some []
  else
    let last := match length with
      | none => size
      | some n => if n < 0 then size + n else min size (first + n)
    if last < first then none else some ((items.take last.toNat).drop first.toNat)

/-- A word as a line of a trace shows it. -/
def traced (dialect : Dialect) (word : String) : String :=
  let isPlain (c : Char) : Bool :=
    c.isAlphanum || ['%', '+', '-', '.', '/', ':', '=', '@', '_', ','].contains c
  if dialect = .plain ∨ (word ≠ "" ∧ word.toList.all isPlain) then word
  else "'" ++ "'\\''".intercalate (word.splitOn "'") ++ "'"

/-- Writes a line of a trace, if the script is traced; the extended dialect marks how deep it is. -/
def traceLine (text : String) : Run Unit := do
  let s ← get
  if s.hasOption "xtrace" then
    let level := if s.dialect = .plain then 1 else s.level + 1
    report (String.ofList (List.replicate level '+') ++ " " ++ text ++ "\n")

/-- Writes words as a line of a trace. -/
def trace (assigned : List (String × String)) (words : List String) : Run Unit := do
  let s ← get
  let assignments := assigned.map fun (name, value) => name ++ "=" ++ traced s.dialect value
  traceLine (" ".intercalate (assignments ++ words.map (traced s.dialect)))

/-- The arguments of a program that reads a script, as its options, the script itself or its file,
and what the script is handed.
-/
def shellArguments (dialect : Dialect) : List String → List Char × Option String × List String
  | "-c" :: script :: rest => ([], some script, rest)
  | arg :: rest =>
    match arg.toList with
    | '-' :: c :: letters =>
      let (more, script, rest) := shellArguments dialect rest
      if (c :: letters).contains 'c' ∧ script.isNone then
        ((c :: letters).filter (· != 'c') ++ more, rest.head?, rest.drop 1)
      else (c :: letters ++ more, script, rest)
    | _ => ([], none, arg :: rest)
  | [] => ([], none, [])

/-- A word with the home directory in place of a tilde at its front. -/
def withHome (word : List Part) : Run (List Part) := do
  match word with
  | .text text false :: rest =>
    match text.toList with
    | '~' :: after =>
      if after.isEmpty ∧ rest.isEmpty ∨ after.head? = some '/' then
        let home := ((← get).value? "HOME").getD "~"
        return .text home true :: .text (String.ofList after) false :: rest
      else return word
    | _ => return word
  | _ => return word

/-- Runs a loop, whose rounds may be left. -/
def looping (body : Run Unit) : Run Unit :=
  restoring (fun before after => { after with loops := before.loops }) do
    modify fun s => { s with loops := s.loops + 1 }
    body

/-- Runs a round of a loop, and says whether another one may follow. -/
def inRound (body : Run Unit) : Run Bool := do
  try
    body
    return true
  catch halt =>
    match halt with
    | .left levels again =>
      if levels ≤ 1 then return again else throw (.left (levels - 1) again)
    | halt => throw halt

/-- Says that there is no such command. -/
def missing (name : String) : Run Unit := do
  complain (name ++ ": not found")
  setStatus 127

/-- A row in parts of a size; `bound` is the most parts. -/
def chunksOf (size : Nat) : (bound : Nat) → List String → List (List String)
  | 0, _ => []
  | bound + 1, items =>
    if items.isEmpty then [] else items.take size :: chunksOf size bound (items.drop size)

/-- The variables that a script of a dialect starts with. -/
def ownVariables (dialect : Dialect) : List (String × Variable) :=
  [("IFS", ⟨some " \t\n", false, false⟩), ("OPTIND", ⟨some "1", false, false⟩),
   ("PS4", ⟨some "+ ", false, false⟩)] ++
    match dialect with
    | .plain => []
    | .extended => [("BASH", ⟨some "/usr/bin/bash", false, false⟩),
        ("BASH_VERSION", ⟨some "5.2.15(1)-release", false, false⟩),
        ("SHLVL", ⟨some "1", false, true⟩)]

mutual

def pieces : Nat → List Part → Run (List Piece)
  | 0, _ => lost
  | fuel + 1, parts => do
    return (← parts.mapM (partPieces fuel)).flatten

def partPieces : Nat → Part → Run (List Piece)
  | 0, _ => lost
  | fuel + 1, part => do
    match part with
    | .text text quoted => return [if quoted then .quoted text else .bare text]
    | .value parameter change quoted => valuePieces fuel parameter change quoted
    | .output body quoted =>
      let text ← outputOf fuel body
      return [if quoted then .quoted text else .divided text]
    | .sum expression quoted =>
      let text := Text.intText (← sumOf fuel expression)
      return [if quoted then .quoted text else .divided text]

/-- The text of a word that is not divided. -/
def textOf : Nat → List Part → Run String
  | 0, _ => lost
  | fuel + 1, parts => do
    return String.join ((← pieces fuel parts).map Piece.text)

/-- The characters of a word as a pattern. -/
def patternOf : Nat → List Part → Run (List Glyph)
  | 0, _ => lost
  | fuel + 1, parts => do
    return (← pieces fuel parts).flatMap Piece.glyphs

def fieldsOf : Nat → List (List Part) → Run (List String)
  | 0, _ => lost
  | fuel + 1, words => do
    let dialect := (← get).dialect
    let fields ← (words.flatMap (Braces.expand dialect)).mapM fun word => do
      let word ← withHome word
      let found ← pieces fuel word
      return Fields.ofPieces (dialect = .plain) (← get).separators found
    return fields.flatten

def sumOf : Nat → List Part → Run Int
  | 0, _ => lost
  | fuel + 1, expression => do
    let text ← textOf fuel expression
    let s ← get
    match Sum.calculate s.dialect s.value? text with
    | .ok (value, assigned) =>
      for (name, n) in assigned do assign name (Text.intText n)
      return value
    | .error .malformed => failLine "arithmetic expression: syntax error"
    | .error .divisionByZero => failLine "arithmetic expression: division by zero"
    | .error .noNumber => failLine "Illegal number"

/-- The pieces of the value of a parameter and of what is made of it. -/
def valuePieces : Nat → String → Change → Bool → Run (List Piece)
  | 0, _, _, _ => lost
  | fuel + 1, parameter, change, quoted => do
    let s ← get
    let parameter := match parameter.toList with
      | '!' :: c :: rest => (s.value? (String.ofList (c :: rest))).getD ""
      | _ => parameter
    let isAll := parameter = "@" ∨ parameter = "*"
    let piece (text : String) : Piece := if quoted then .quoted text else .divided text
    let all (arguments : List String) : List Piece :=
      if quoted ∧ parameter = "*" then [.quoted (s.joint.intercalate arguments)]
      else (arguments.map piece).intersperse .boundary
    let value? := s.value? parameter
    let needed : Run String := do
      match value? with
      | some value => return value
      | none =>
        if s.hasOption "nounset" ∧ ¬isAll then
          complain (parameter ++ ": parameter not set")
          setStatus s.usageStatus
          throw .exited
        else return ""
    let each (change : String → String) : Run (List Piece) := do
      if isAll then return all (s.arguments.map change)
      else return [piece (change (← needed))]
    match change with
    | .none =>
      if isAll then return all s.arguments
      return [piece (← needed)]
    | .length =>
      if isAll then
        let joined := s.joint.intercalate s.arguments
        let length := if s.dialect = .plain then joined.length else s.arguments.length
        return [piece (Text.natText length)]
      return [piece (Text.natText (← needed).length)]
    | .substitute kind forEmpty word =>
      let isMissing := value?.isNone ∨ (forEmpty ∧ value? = some "")
      match kind with
      | .alternative =>
        if isMissing then return if quoted then [.quoted ""] else []
        return (← pieces fuel word).map fun p => if quoted then p else p.ofValue
      | _ =>
        if ¬isMissing then
          return if isAll then all s.arguments else [piece (value?.getD "")]
        match kind with
        | .assigned =>
          let text ← textOf fuel word
          assign parameter text
          return [piece text]
        | .error =>
          let text ← textOf fuel word
          let usual := if forEmpty then "parameter not set or null" else "parameter not set"
          complain (parameter ++ ": " ++ (if text.isEmpty then usual else text))
          setStatus s.usageStatus
          throw .exited
        | _ =>
          let found := (← pieces fuel word).map fun p => if quoted then p else p.ofValue
          return if quoted ∧ found.isEmpty then [.quoted ""] else found
    | .cut atEnd longest pattern =>
      let globs := Glob.ofGlyphs (← patternOf fuel pattern)
      each fun text => String.ofList (Glob.cut atEnd longest globs text.toList)
    | .slice start length =>
      let first ← sumOf fuel start
      let count ← match length with
        | some length => some <$> sumOf fuel length
        | none => pure none
      if isAll then
        let items := if first = 0 then s.name :: s.arguments else s.arguments
        return all ((sliceOf items (if 0 < first then first - 1 else first) count).getD [])
      match sliceOf (← needed).toList first count with
      | some cs => return [piece (String.ofList cs)]
      | none => failLine (parameter ++ ": substring expression < 0")
    | .replace replacesAll pattern text =>
      let glyphs ← patternOf fuel pattern
      let text ← textOf fuel text
      each fun value =>
        String.ofList (Glob.replaced replacesAll glyphs text.toList value.toList)
    | .casing casing => each casing.apply

/-- What commands write, as a value. -/
def outputOf : Nat → List Command → Run String
  | 0, _ => lost
  | fuel + 1, body => do
    let index ← newText ""
    let status ← inSubshell fuel do
      modify fun s => { s with level := s.level + 1 }
      tie 1 (some (.text index))
      runAll fuel body
    modify fun s => { s with outputStatus := some status, status }
    return withoutLineEnds ((← get).texts.getD index "")

/-- Runs commands in a copy of the script, of which only what is written is left, and gives their
status.
-/
def inSubshell : Nat → Run Unit → Run Nat
  | 0, _ => lost
  | fuel + 1, body => do
    return (← asChild fuel do
      modify fun s => { s with depth := s.depth + 1 }
      body).1

/-- Runs commands in another process, of which only what is written is left, and gives their
status and the signal that killed them, if one did.
-/
def asChild : Nat → Run Unit → Run (Nat × Option Nat)
  | 0, _ => lost
  | fuel + 1, body => do
    let outer ← get
    set { outer with traps := outer.traps.filter fun (_, action) => action.isEmpty }
    let halt ← try
        body
        pure none
      catch halt => pure (some halt)
    let signal ← finish fuel halt
    let inner ← get
    set { outer with
      texts := inner.texts
      files := inner.files
      pending := inner.pending
      tree := { inner.tree with here := outer.tree.here } }
    return match signal with
      | some n => (128 + n, signal)
      | none => (inner.status % 256, none)

/-- Ends a script or a copy of it: the action for the end is run, and the signal that killed it is
given, if one did.
-/
def finish : Nat → Option Halt → Run (Option Nat)
  | 0, _ => lost
  | fuel + 1, halt => do
    let s ← get
    let action := (s.traps.lookup "0").getD ""
    modify fun s => { s with traps := remove "0" s.traps, guarded := true }
    let runAction : Run Unit := do
      if action.isEmpty then return
      try
        runText fuel action
        setStatus s.status
      catch halt =>
        match halt with
        | .exited => pure ()
        | .lost => lost
        | _ => setStatus s.status
    match halt with
    | some .lost => lost
    | some (.killed signal) =>
      if s.dialect = .extended ∧ [1, 2, 13, 14, 15].contains signal then runAction
      return some signal
    | some .dropped =>
      setStatus 1
      runAction
      return none
    | _ =>
      runAction
      return none

/-- Takes a signal that was sent to a process. One for another process than that of the commands
that run now waits until they have ended.
-/
def takeSignal : Nat → (process signal : Nat) → Run Unit
  | 0, _, _ => lost
  | fuel + 1, process, signal => do
    let s ← get
    if process ≠ s.process ∨ 0 < s.depth then
      set { s with pending := s.pending ++ [(process, signal)] }
    else
      match if signal = 9 then none else s.traps.lookup (Text.natText signal) with
      | some action =>
        if s.dialect = .extended ∧ signal = 17 then return
        runText fuel action
        setStatus s.status
      | none => if !(quietSignals s.dialect).contains signal then throw (.killed signal)

/-- Takes the signals that have waited for the commands that run now. -/
def takePending : Nat → Run Unit
  | 0 => lost
  | fuel + 1 => do
    let s ← get
    if s.depth = 0 then
      let (own, others) := s.pending.partition fun (process, _) => process = s.process
      set { s with pending := others }
      for (process, signal) in own do takeSignal fuel process signal

/-- Runs the lines of a script one after another; the rest of a line may be dropped. -/
def runLines : Nat → List (List Command) → Run Unit
  | 0, _ => lost
  | fuel + 1, lines => do
    for line in lines do
      try runAll fuel line
      catch halt =>
        match halt with
        | .dropped => setStatus 1
        | halt => throw halt

def runText : Nat → String → Run Unit
  | 0, _ => lost
  | fuel + 1, text => do
    let lines := parse (← get).dialect text
    if lines.isEmpty then setStatus 0
    for line in lines do
      match line, (← get).dialect with
      | [.broken], .extended =>
        complain "syntax error"
        setStatus 2
      | _, _ => runAll fuel line

/-- Runs commands one after another. -/
def runAll : Nat → List Command → Run Unit
  | 0, _ => lost
  | fuel + 1, commands => do
    for command in commands do run fuel command

/-- Ends the script if a command has failed and the script asks for it. -/
def checked : Nat → Run Unit → Run Unit
  | 0, _ => lost
  | fuel + 1, body => do
    body
    let s ← get
    if s.status ≠ 0 ∧ ¬s.guarded then
      match s.traps.lookup "ERR" with
      | some action =>
        runText fuel action
        setStatus s.status
      | none => pure ()
      if s.hasOption "errexit" then throw .exited

def run : Nat → Command → Run Unit
  | 0, _ => lost
  | fuel + 1, command => do
    if (← get).hasOption "noexec" then return
    match command with
    | .simple assignments words redirects =>
      checked fuel (runSimple fuel assignments words redirects)
    | .redirected body redirects => redirecting fuel redirects (run fuel body)
    | .group body => runAll fuel body
    | .subshell body =>
      checked fuel do
        setStatus (← inSubshell fuel (runAll fuel body))
        takePending fuel
    | .background body =>
      let s ← get
      let status ← inSubshell fuel do
        tie 0 (some .nothing)
        run fuel body
      modify fun after =>
        { after with jobs := (s.nextJob, status) :: after.jobs, status := 0 }
      takePending fuel
    | .pipeline stages => checked fuel (runStages fuel stages)
    | .negated body =>
      guarding (run fuel body)
      setStatus (if (← get).status = 0 then 1 else 0)
    | .both first second =>
      guarding (run fuel first)
      if (← get).status = 0 then run fuel second
    | .either first second =>
      guarding (run fuel first)
      if (← get).status ≠ 0 then run fuel second
    | .choice condition yes no =>
      guarding (runAll fuel condition)
      if (← get).status = 0 then runAll fuel yes
      else if no.isEmpty then setStatus 0
      else runAll fuel no
    | .loop whileTrue condition body =>
      looping do
        let mut status := 0
        let mut rounds := 0
        for _ in [0:mostRounds] do
          rounds := rounds + 1
          let goesOn ← inRound do
            guarding (runAll fuel condition)
          if !goesOn then break
          if ((← get).status = 0) ≠ whileTrue then
            setStatus status
            break
          let goesOn ← inRound (runAll fuel body)
          status := (← get).status
          if !goesOn then break
        if rounds = mostRounds then lost
    | .count start condition step body =>
      looping do
        let mut status := 0
        let mut rounds := 0
        let value (clause : List Part) : Run Int := do
          traceLine ("(( " ++ (bareText clause).1 ++ " ))")
          sumOf fuel clause
        let _ ← value start
        for _ in [0:mostRounds] do
          rounds := rounds + 1
          if !condition.isEmpty ∧ (← value condition) = 0 then
            setStatus status
            break
          let goesOn ← inRound (runAll fuel body)
          status := (← get).status
          if !goesOn then break
          let _ ← value step
        if rounds = mostRounds then lost
    | .each name words body =>
      let fields ← match words with
        | some words => fieldsOf fuel words
        | none => pure (← get).arguments
      if fields.isEmpty then setStatus 0
      looping do
        for field in fields do
          assign name field
          if (← get).dialect = .extended then
            traceLine ("for " ++ name ++ " in " ++
              " ".intercalate ((words.getD [[.text "\"$@\"" false]]).map fun word =>
                (bareText word).1))
          if !(← inRound (runAll fuel body)) then break
    | .case word branches =>
      if (← get).dialect = .extended then
        traceLine ("case " ++ (bareText word).1 ++ " in")
      let text ← textOf fuel word
      let mut isDone := true
      for (patterns, body) in branches do
        let mut fits := false
        for pattern in patterns do
          if !fits then
            fits := Glob.matchesText (Glob.ofGlyphs (← patternOf fuel pattern)) text.toList
        if fits then
          isDone := body.isEmpty
          runAll fuel body
          break
      if isDone then setStatus 0
    | .define name body =>
      modify fun s => { s with functions := put name body s.functions, status := 0 }
    | .sum expression =>
      checked fuel do
        traceLine ("(( " ++ (bareText expression).1 ++ " ))")
        setStatus (if (← sumOf fuel expression) = 0 then 1 else 0)
    | .condition words => checked fuel (runCondition fuel words)
    | .broken =>
      complain "Syntax error"
      setStatus 2
      throw .exited

/-- Tests a condition of words. -/
def runCondition : Nat → List (List Part) → Run Unit
  | 0, _ => lost
  | fuel + 1, words => do
    let found ← words.mapM fun word => do
      let parts ← pieces fuel word
      let isMark := match word with
        | [.text _ false] => true
        | _ => false
      return Condition.Word.mk (String.join (parts.map Piece.text)) (parts.flatMap Piece.glyphs)
        isMark
    let s ← get
    let number (text : String) : Int :=
      match Sum.calculate s.dialect s.value? text with
      | .ok (value, _) => value
      | .error _ => 0
    match Condition.holds? (factsOf s) number found with
    | some holds => setStatus (if holds then 0 else 1)
    | none =>
      complain "syntax error in conditional expression"
      setStatus 2

/-- Runs commands that hand their output on. -/
def runStages : Nat → List Command → Run Unit
  | 0, _ => lost
  | fuel + 1, stages => do
    let mut input : Option Stream := none
    let mut statuses : List Nat := []
    for (stage, index) in stages.zipIdx do
      let isLast : Bool := index + 1 = stages.length
      let output ← if isLast then pure none else do
        pure (some (Stream.text (← newText "")))
      let source := input
      let status ← inSubshell fuel do
        if source.isSome then tie 0 source
        if output.isSome then tie 1 output
        run fuel stage
      statuses := status :: statuses
      input := output
    let last := statuses.headD 0
    let failed := statuses.find? (· != 0)
    setStatus (if (← get).hasOption "pipefail" then failed.getD 0 else last)
    takePending fuel

/-- Ties the channels that redirections name. The answer says whether all could be. -/
def openAll : Nat → List Redirect → Run Bool
  | 0, _ => lost
  | fuel + 1, redirects => do
    for redirect in redirects do
      match redirect with
      | .mk channel opening target =>
        let text ← textOf fuel target
        match opening with
        | .content => tie channel (some (.text (← newText text)))
        | .read =>
          match ← openForReading text with
          | some stream => tie channel (some stream)
          | none => return false
        | .write | .append =>
          match ← openForWriting (opening = .append) text with
          | some stream => tie channel (some stream)
          | none => return false
        | .duplicate =>
          if text = "-" then tie channel none
          else
            match Text.digits? text.toList with
            | some source =>
              match ← streamOf source with
              | some stream => tie channel (some stream)
              | none =>
                complain (text ++ ": Bad file descriptor")
                return false
            | none =>
              if (← get).dialect = .plain then
                complain "Syntax error: Bad fd number"
                setStatus 2
                throw .exited
              match ← openForWriting false text with
              | some stream =>
                tie 1 (some stream)
                tie 2 (some stream)
              | none => return false
    return true

/-- Runs commands with redirections. -/
def redirecting : Nat → List Redirect → Run Unit → Run Unit
  | 0, _, _ => lost
  | fuel + 1, redirects, body =>
    restoring (fun before after => { after with channels := before.channels }) do
      if ← openAll fuel redirects then body
      else setStatus (← get).usageStatus

/-- Runs a command of words. -/
def runSimple : Nat → List (String × Bool × List Part) → List (List Part) → List Redirect
    → Run Unit
  | 0, _, _, _ => lost
  | fuel + 1, assignments, words, redirects => do
    modify fun s => { s with outputStatus := none }
    let fields ← fieldsOf fuel words
    let valueOf (name : String) (adds : Bool) (word : List Part) : Run String := do
      let text ← textOf fuel (← withHome word)
      let before := ((← get).value? name).getD ""
      return if adds then before ++ text else text
    match fields with
    | [] =>
      redirecting fuel redirects do
        for (name, adds, word) in assignments do
          let value ← valueOf name adds word
          trace [(name, value)] []
          assign name value
        setStatus ((← get).outputStatus.getD 0)
    | ["exec"] =>
      if ← openAll fuel redirects then setStatus 0
      else
        setStatus (← get).usageStatus
        throw .exited
    | name :: args =>
      let s ← get
      let assigned ← assignments.mapM fun (name, adds, word) => do
        return (name, ← valueOf name adds word)
      trace assigned fields
      let isSpecial := specialNames.contains name
      let keeps := isSpecial ∧ s.dialect = .plain
      let restore (before after : Shell) : Shell :=
        { after with
          channels := before.channels
          bindings := if keeps then after.bindings
            else assigned.foldl (fun bindings (name, _) =>
              match s.bindings.lookup name with
              | some old => put name old bindings
              | none => remove name bindings) after.bindings }
      restoring restore do
        for (name, value) in assigned do
          assign name value
          if !keeps then mark name fun v => { v with exported := true }
        if ← openAll fuel redirects then runNamed fuel true name args
        else
          setStatus s.usageStatus
          if keeps then throw .exited

/-- Runs a command by its name. -/
def runNamed : Nat → (withFunctions : Bool) → String → List String → Run Unit
  | 0, _, _, _ => lost
  | fuel + 1, withFunctions, name, args => do
    let s ← get
    let isFirst := s.dialect = .extended ∨ !specialNames.contains name
    match if withFunctions ∧ isFirst then s.functions.lookup name else none with
    | some body => runFunction fuel body args
    | none =>
      if ← runBuiltin name args then return
      if ← runControl fuel name args then return
      runProgram fuel name args

def runFunction : Nat → Command → List String → Run Unit
  | 0, _, _ => lost
  | fuel + 1, body, args => do
    let restore (before after : Shell) : Shell :=
      let saved := after.locals.headD []
      { after with
        arguments := before.arguments
        loops := before.loops
        calls := before.calls
        locals := after.locals.drop 1
        bindings := saved.foldl (fun bindings (name, old) =>
          match old with
          | some old => put name old bindings
          | none => remove name bindings) after.bindings }
    restoring restore do
      modify fun s =>
        { s with arguments := args, loops := 0, calls := s.calls + 1, locals := [] :: s.locals }
      try run fuel body
      catch halt =>
        match halt with
        | .returned => pure ()
        | halt => throw halt

/-- Runs a command of the script itself that runs other commands. The answer is no if this is no
such command.
-/
def runControl : Nat → String → List String → Run Bool
  | 0, _, _ => lost
  | fuel + 1, name, args => do
    let s ← get
    match name, args with
    | "eval", args =>
      restoring (fun before after => { after with level := before.level }) do
        modify fun s => { s with level := s.level + 1 }
        runText fuel (" ".intercalate args)
    | "return", args =>
      if s.calls = 0 ∧ s.dialect = .extended then
        complain "return: can only be used in a function"
        setStatus 2
      else
        setStatus (← statusOf (s.dialect = .extended) "return" args)
        throw .returned
    | "exec", command :: args =>
      modify fun s => { s with traps := [] }
      runNamed fuel false command args
      throw .exited
    | "kill", args => runKill fuel args
    | "command", args =>
      match args with
      | "-v" :: names => describe true names
      | "-V" :: names => describe false names
      | "-p" :: command :: args | "--" :: command :: args | command :: args =>
        runNamed fuel false command args
      | [] => setStatus 0
    | "builtin", command :: args =>
      if s.dialect = .plain then return false
      if !(← runBuiltin command args) then setStatus 1
    | ".", path :: args =>
      match contentOf s path with
      | .ok content =>
        let saved := s.arguments
        if s.dialect = .extended ∧ ¬args.isEmpty then
          modify fun s => { s with arguments := args }
        modify fun s => { s with calls := s.calls + 1 }
        try runText fuel content
        catch halt =>
          match halt with
          | .returned => pure ()
          | halt => throw halt
        modify fun after => { after with calls := s.calls, arguments := saved }
      | .error _ =>
        complain (".: cannot open " ++ path)
        setStatus s.usageStatus
        if s.dialect = .plain then throw .exited
    | "source", args =>
      if s.dialect = .plain then return false
      return ← runControl fuel "." args
    | _, _ => return false
    return true

/-- Sends a signal to processes. -/
def runKill : Nat → List String → Run Unit
  | 0, _ => lost
  | fuel + 1, args => do
    let s ← get
    match args, signalAnd s.dialect args with
    | [], _ | _, some (_, []) =>
      match s.dialect with
      | .plain => complain "kill: Usage: kill [-s sigspec | -signum | -sigspec] [pid | job]..."
      | .extended =>
        report ("kill: usage: kill [-s sigspec | -n signum | -sigspec] pid | jobspec ... or " ++
          "kill -l [sigspec]\n")
      setStatus 2
    | "-l" :: _, _ => lost
    | _, none =>
      complain "kill: invalid signal number or name"
      setStatus s.usageStatus
    | _, some (signal, processes) =>
      setStatus 0
      for process in processes do
        match Text.digits? process.toList with
        | some number =>
          if (s.process :: s.ancestors).contains number then takeSignal fuel number signal
          else if (s.jobs.lookup number).isNone then
            complain ("kill: " ++ process ++ ": No such process")
            setStatus 1
        | none =>
          if !process.startsWith "%" then
            complain ("kill: Illegal number: " ++ process)
            setStatus s.usageStatus

def runProgram : Nat → String → List String → Run Unit
  | 0, _, _ => lost
  | fuel + 1, name, args => do
    let s ← get
    let bare? := ["/bin/", "/usr/bin/"].findSome? fun directory =>
      if name.startsWith directory then some (String.ofList (name.toList.drop directory.length))
      else none
    let isReachable := match s.value? "PATH" with
      | some path => (path.splitOn ":").any fun d => ["/bin", "/usr/bin"].contains d
      | none => true
    match bare? with
    | some bare => if !(← runKnown fuel bare args) then missing name
    | none =>
      if name.contains '/' then
        match s.allFiles.startable name with
        | .ok _ | .error .permissionDenied =>
          complain (name ++ ": Permission denied")
          setStatus 126
        | .error _ => missing name
      else if !isReachable then missing name
      else if !(← runKnown fuel name args) then missing name

/-- Runs a program by its bare name. The answer is no if there is no such program. -/
def runKnown : Nat → String → List String → Run Bool
  | 0, _, _ => lost
  | fuel + 1, name, args => do
    match name, args with
    | "sh", args | "dash", args => runShell fuel .plain name args
    | "bash", args => runShell fuel .extended name args
    | "env", args =>
      let assignments := args.takeWhile fun arg => arg.contains '=' && !arg.startsWith "-"
      match args.drop assignments.length with
      | [] => lost
      | command :: args =>
        if command.startsWith "-" then lost
        let s ← get
        restoring (fun _ after => { after with bindings := s.bindings }) do
          for arg in assignments do
            let (name, value) := assignmentOf arg
            assign name (value.getD "")
            mark name fun v => { v with exported := true }
          runProgram fuel command args
    | "nohup", command :: args | "setsid", command :: args | "nice", command :: args =>
      if command.startsWith "-" then lost
      runProgram fuel command args
    | "timeout", duration :: command :: args =>
      if duration.startsWith "-" ∨ command = "sleep" then lost
      runProgram fuel command args
    | "xargs", args =>
      let groups? := match args with
        | "-n" :: n :: rest => (Text.digits? n.toList).map fun n => (n, rest)
        | "-n1" :: rest => some (1, rest)
        | first :: _ => if first.startsWith "-" then none else some (0, args)
        | [] => some (0, [])
      match groups? with
      | none => lost
      | some (size, command) =>
        let blanks := [' ', '\t', '\n']
        let items := ((Text.sections blanks.contains (← readAll 0).toList).filter
          fun item => !item.isEmpty).map String.ofList
        let groups := if size = 0 then [items] else chunksOf size items.length items
        let command := if command.isEmpty then ["echo"] else command
        setStatus 0
        for group in groups do
          runProgram fuel (command.headD "") (command.drop 1 ++ group)
    | _, _ =>
      if ["true", "false", "echo", "printf", "test", "["].contains name then
        return ← restoring (fun before after => { after with dialect := before.dialect }) do
          modify fun s => { s with dialect := .extended }
          runBuiltin name args
      if name = "pwd" then return ← runBuiltin name args
      if ← runOnFiles name args then return true
      if ← runUtility name args then return true
      if isProgram name then lost
      return false
    return true

/-- Runs a script of its own. -/
def runShell : Nat → Dialect → String → List String → Run Unit
  | 0, _, _, _ => lost
  | fuel + 1, dialect, name, args => do
    let outer ← get
    let (letters, script?, rest) := shellArguments dialect args
    let (script, name, arguments) ← match script?, rest with
      | some script, rest => pure (some script, rest.headD name, rest.drop 1)
      | none, path :: arguments =>
        if letters.contains 's' then pure (some (← readAll 0), name, rest)
        else pure ((contentOf outer path).toOption, path, arguments)
      | none, [] => pure (some (← readAll 0), name, [])
    match script with
    | none =>
      complain ("cannot open " ++ name)
      setStatus (if dialect = .plain then 2 else 127)
    | some script =>
      let options := letters.filterMap fun c => optionNames.lookup c
      let (status, signal) ← asChild fuel do
        modify fun s =>
          { s with
            dialect, name, arguments, options
            process := s.process + 1000
            ancestors := s.process :: s.ancestors
            depth := 0
            level := 0
            bindings := (s.bindings.filter fun (_, v) => v.exported) ++ ownVariables dialect
            functions := []
            traps := []
            status := 0
            guarded := false
            loops := 0
            calls := 0
            jobs := []
            locals := [] }
        runLines fuel (parse dialect script)
      if outer.depth = 0 then
        match signal.bind obituary? with
        | some text => report (text ++ "\n")
        | none => pure ()
      setStatus status
      takePending fuel

end

/-- How deep commands may go. -/
def depthLimit : Nat := 3000

/-- How a script ended: its code, none if a signal killed it, and what it wrote. -/
structure Ending where
  code : Option Nat
  output : String
  errors : String
  deriving DecidableEq, Repr

/-- Runs a script with arguments; none if it runs for too long or needs a program whose work is not
known.
-/
def runScript? (dialect : Dialect) (tree : FileTree) (name script : String)
    (arguments : List String) : Option Ending :=
  let shell : Shell :=
    { dialect, tree, name, arguments
      bindings :=
        [("HOME", ⟨some "/root", false, true⟩),
         ("PATH", ⟨some "/usr/local/sbin:/usr/local/bin:/usr/sbin:/usr/bin:/sbin:/bin",
           false, true⟩),
         ("PWD", ⟨some ("/" ++ "/".intercalate tree.here), false, true⟩)] ++ ownVariables dialect
      functions := []
      options := []
      traps := []
      status := 0
      outputStatus := none
      channels := [(0, .nothing), (1, .text 0), (2, .text 1)]
      texts := #["", ""]
      files := match tree.locate name with
        | .ok place => [(place, script)]
        | .error _ => []
      guarded := false
      loops := 0
      calls := 0
      process := Shell.firstProcess
      ancestors := []
      depth := 0
      level := 0
      pending := []
      jobs := []
      locals := [] }
  let whole : Run (Option Nat) := do
    let halt ← try
        runLines depthLimit (parse dialect script)
        pure none
      catch halt => pure (some halt)
    finish depthLimit halt
  match whole.run.run shell with
  | (.ok signal, s) =>
    some ⟨if signal.isSome then none else some (s.status % 256), s.texts.getD 0 "",
      s.texts.getD 1 ""⟩
  | (.error .exited, s) | (.error .returned, s) =>
    some ⟨some (s.status % 256), s.texts.getD 0 "", s.texts.getD 1 ""⟩
  | (.error (.killed _), s) => some ⟨none, s.texts.getD 0 "", s.texts.getD 1 ""⟩
  | (.error _, _) => none

end NodeTrial.Script
