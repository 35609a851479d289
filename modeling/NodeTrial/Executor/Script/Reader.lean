import NodeTrial.Executor.Script.Command
import NodeTrial.Executor.Script.Escape

/-! Reading scripts. A reader works on the characters that are left; what a word or a command is
depends on where it stands, so one pass reads the characters and the commands together. All
readers go down from a bound on how deep they may call one another, which the length of the
script gives.
-/

namespace NodeTrial.Script

abbrev Reader : Type → Type :=
  StateT (List Char) Option

def endsWord (c : Char) : Bool :=
  [' ', '\t', '\n', ';', '&', '|', '<', '>', '(', ')'].contains c

/-- A character that a name starts with, and one that it goes on with. -/
def startsName (c : Char) : Bool :=
  c.isAlpha || c == '_'
def inName (c : Char) : Bool :=
  c.isAlphanum || c == '_'

/-- A parameter with a name of one sign. -/
def isSign (c : Char) : Bool :=
  ['@', '*', '#', '?', '-', '$', '!'].contains c

/-- Skips blanks and a comment, line ends too if `lines` says so. -/
def skip (lines inComment : Bool) : List Char → List Char
  | [] => []
  | '\\' :: '\n' :: rest =>
    if inComment then (if lines then skip lines false rest else '\n' :: rest)
    else skip lines false rest
  | c :: rest =>
    if c = '\n' then (if lines then skip lines false rest else c :: rest)
    else if inComment then skip lines true rest
    else if c = ' ' ∨ c = '\t' then skip lines false rest
    else if c = '#' then skip lines true rest
    else c :: rest

def skipBlanks : Reader Unit :=
  modify (skip false false)

/-- Skips blanks, comments and line ends. -/
def skipLines : Reader Unit :=
  modify (skip true false)

/-- The text up to where a word would end. -/
def nextWord (cs : List Char) : String :=
  String.ofList (cs.takeWhile fun c => !endsWord c)

/-- The words that end a list of commands. -/
def closingWords : List String :=
  ["then", "do", "done", "fi", "else", "elif", "esac", "\x7d"]

/-- A list of commands ends here. -/
def atListEnd (cs : List Char) : Bool :=
  match cs with
  | [] => true
  | ')' :: _ => true
  | ';' :: ';' :: _ => true
  | cs => closingWords.contains (nextWord cs)

/-- Takes a text that must come next. -/
def expect (text : String) : Reader Unit := do
  let cs ← get
  if text.toList.isPrefixOf cs then set (cs.drop text.length) else failure

/-- Takes a text if it comes next. -/
def takes (text : String) : Reader Bool := do
  let cs ← get
  if text.toList.isPrefixOf cs then
    set (cs.drop text.length)
    return true
  else return false

/-- Takes a reserved word that must come next. -/
def expectWord (word : String) : Reader Unit := do
  skipLines
  if nextWord (← get) = word then expect word else failure

/-- Takes characters as long as they are of a kind. -/
def takeWhile (kind : Char → Bool) : Reader String := do
  let cs ← get
  set (cs.dropWhile kind)
  return String.ofList (cs.takeWhile kind)

/-- Where a part of a word is read: in a word, between double quotes, in braces up to one of some
characters, in a text given to a command, in a sum with open brackets or in one of several sums,
or in a regular expression.
-/
inductive Place where
  | word
  | double
  | brace (stops : List Char) (double : Bool)
  | here
  | sum (depth : Nat)
  | clause
  | expression

namespace Place

/-- Texts here are quoted. -/
def isQuoted : Place → Bool
  | .word | .brace _ false | .expression => false
  | .double | .brace _ true | .here | .sum _ | .clause => true

/-- A text ends here before what is left. -/
def ends : Place → List Char → Bool
  | .word, cs => cs.head?.all endsWord
  | .double, cs => cs.head? = some '"'
  | .brace stops _, cs => cs.head?.any fun c => c == '\x7d' || stops.contains c
  | .here, cs => cs.isEmpty
  | .sum depth, cs => depth = 0 && cs.head? = some ')'
  | .clause, cs => cs.head? = some ';' || cs.take 2 == [')', ')']
  | .expression, cs => cs.head?.all fun c => c == ' ' || c == '\t' || c == '\n'

/-- A backslash before this character takes its meaning from it. -/
def escapes : Place → Char → Bool
  | .word, _ | .brace _ false, _ | .expression, _ => true
  | .here, c => ['$', '\x60', '\\'].contains c
  | .brace _ true, c => ['$', '\x60', '\\', '"', '\x7d'].contains c
  | _, c => ['$', '\x60', '\\', '"'].contains c

/-- The place after a character, which may be a bracket. -/
def after (c : Char) : Place → Place
  | .sum depth => .sum (if c = '(' then depth + 1 else if c = ')' then depth - 1 else depth)
  | place => place

end Place

/-- Adds a character to the parts of a word, which come in reverse. -/
def pushChar (c : Char) (quoted : Bool) : List Part → List Part
  | .text text q :: parts =>
    if q == quoted then .text (text.push c) quoted :: parts
    else .text c.toString quoted :: .text text q :: parts
  | parts => .text c.toString quoted :: parts

/-- The text up to a backquote, in which a backslash before some characters is left out. -/
def takeBackquoted (double : Bool) : List Char → Option (List Char × List Char)
  | [] => none
  | '\\' :: c :: rest =>
    let plain := ['$', '\x60', '\\'].contains c || (double && c == '"')
    (takeBackquoted double rest).map fun (text, after) =>
      (if plain then c :: text else '\\' :: c :: text, after)
  | c :: rest =>
    if c = '\x60' then some ([], rest)
    else (takeBackquoted double rest).map fun (text, after) => (c :: text, after)

/-- The lines before one that is the given text, and what follows that line. In the extended dialect
the last line has an end even where the script ends without one.
-/
def takeLines (dialect : Dialect) (stripTabs : Bool) (last : List Char) : (bound : Nat) → List Char
    → List Char × List Char
  | 0, cs => ([], cs)
  | _, [] => ([], [])
  | bound + 1, cs =>
    let cs := if stripTabs then cs.dropWhile (· == '\t') else cs
    let (line, more) := Text.upTo (· == '\n') cs
    if line = last then ([], more.drop 1)
    else
      let (lines, after) := takeLines dialect stripTabs last bound (more.drop 1)
      let lineEnd := if dialect = .extended then ['\n'] else more.take 1
      (line ++ lineEnd ++ lines, after)

/-- Takes a text given to a command: the lines after this one, up to one with the given text. -/
def takeHereText (dialect : Dialect) (stripTabs : Bool) (last : List Char) : Reader (List Char) := do
  let (line, more) := Text.upTo (· == '\n') (← get)
  let (text, after) := takeLines dialect stripTabs last more.length (more.drop 1)
  set (line ++ more.take 1 ++ after)
  return text

/-- The text of a word without its quotes, and whether it had any. -/
def bareText (parts : List Part) : String × Bool :=
  parts.foldr (fun part (text, quoted) =>
    match part with
    | .text t q => (t ++ text, quoted || q)
    | .value name _ q => ("$" ++ name ++ text, quoted || q)
    | _ => (text, quoted)) ("", false)

/-- The kind of a fallback by its sign. -/
def substituteOf? (c : Char) : Option Substitute :=
  match c with
  | '-' => some .text
  | '=' => some .assigned
  | '?' => some .error
  | '+' => some .alternative
  | _ => none

/-- The name and the sign of an assignment at the front of a text; it may be one that adds. -/
def assignmentAt? (dialect : Dialect) (cs : List Char) : Option (String × Bool × List Char) :=
  let name := cs.takeWhile inName
  match name.head?.filter startsName, cs.drop name.length with
  | some _, '=' :: rest => some (String.ofList name, false, rest)
  | some _, '+' :: '=' :: rest =>
    if dialect = .extended then some (String.ofList name, true, rest) else none
  | _, _ => none

/-- The name of a function whose definition starts here. -/
def definitionAt? (cs : List Char) : Option (String × List Char) :=
  let name := cs.takeWhile fun c => inName c || c == '-' || c == '.'
  match name, skip false false (cs.drop name.length) with
  | _ :: _, '(' :: rest =>
    match skip false false rest with
    | ')' :: rest => some (String.ofList name, rest)
    | _ => none
  | _, _ => none

/-- A redirection starts here: the channel it concerns, if it names one, and what follows. -/
def redirectAt? (cs : List Char) : Option (Option Nat × List Char) :=
  match cs with
  | '<' :: _ | '>' :: _ => some (none, cs)
  | digit :: sign :: rest =>
    if sign = '<' ∨ sign = '>' then
      (Text.digitValue? digit).map fun n => (some n, sign :: rest)
    else none
  | _ => none

mutual

/-- Reads the parts of a word; those read already come in reverse. -/
def readParts (dialect : Dialect) : Nat → Place → List Part → Reader (List Part)
  | 0, _, _ => failure
  | bound + 1, place, parts => do
    let cs ← get
    if place.ends cs then return parts.reverse
    let quoted := place.isQuoted
    match cs with
    | [] => failure
    | '\\' :: '\n' :: rest =>
      set rest
      readParts dialect bound place parts
    | '\\' :: c :: rest =>
      if place.escapes c then
        set rest
        readParts dialect bound place (pushChar c true parts)
      else
        set (c :: rest)
        readParts dialect bound place (pushChar '\\' quoted parts)
    | '$' :: rest =>
      set rest
      let part ← readDollar dialect bound place
      readParts dialect bound place (part.reverse ++ parts)
    | c :: rest =>
      set rest
      if c = '\x60' then
        let some (text, after) := takeBackquoted quoted rest | failure
        set text
        let body ← readList dialect bound
        if !(← get).isEmpty then failure
        set after
        readParts dialect bound place (.output body quoted :: parts)
      else if c = '\'' ∧ ¬quoted then
        let (text, after) := Text.upTo (· == '\'') rest
        if after.isEmpty then failure
        set (after.drop 1)
        readParts dialect bound place (.text (String.ofList text) true :: parts)
      else if c = '"' ∧ (¬quoted ∨ place matches .brace _ true) then
        let inner ← readParts dialect bound .double []
        expect "\""
        let inner := if inner.isEmpty then [Part.text "" true] else inner
        readParts dialect bound place (inner.reverse ++ parts)
      else readParts dialect bound (place.after c) (pushChar c quoted parts)

/-- Reads what follows a dollar sign. -/
def readDollar (dialect : Dialect) : Nat → Place → Reader (List Part)
  | 0, _ => failure
  | bound + 1, place => do
    let quoted := place.isQuoted
    match ← get with
    | '(' :: '(' :: rest =>
      let sum : Reader (List Part) := do
        set rest
        let parts ← readParts dialect bound (.sum 0) []
        expect "))"
        return [.sum parts quoted]
      let output : Reader (List Part) := do
        set ('(' :: rest)
        let body ← readList dialect bound
        expect ")"
        return [.output body quoted]
      sum <|> output
    | '(' :: rest =>
      set rest
      let body ← readList dialect bound
      skipLines
      expect ")"
      return [.output body quoted]
    | '\x7b' :: rest =>
      set rest
      readBraced dialect bound quoted
    | '\'' :: rest =>
      if dialect = .extended ∧ ¬quoted then
        let some (text, after) := takeEscaped rest | failure
        set after
        return [.text (String.ofList text) true]
      else return [.text "$" quoted]
    | '"' :: _ =>
      if dialect = .extended ∧ ¬quoted then return [] else return [.text "$" quoted]
    | c :: rest =>
      if startsName c then return [.value (← takeWhile inName) .none quoted]
      else if isSign c || c.isDigit then
        set rest
        return [.value c.toString .none quoted]
      else return [.text "$" quoted]
    | [] => return [.text "$" quoted]

/-- Reads a parameter in braces, with what is made of its value. -/
def readBraced (dialect : Dialect) : Nat → Bool → Reader (List Part)
  | 0, _ => failure
  | bound + 1, quoted => do
    let isCount := match ← get with
      | '#' :: c :: _ => inName c || c == '@' || c == '*' || c == '?' || c == '$' || c == '!'
      | _ => false
    if isCount then expect "#"
    let isIndirect : Bool := match ← get with
      | '!' :: c :: _ => dialect == .extended && startsName c
      | _ => false
    if isIndirect then expect "!"
    let name ← match ← get with
      | c :: rest =>
        if startsName c then takeWhile inName
        else if c.isDigit then takeWhile Char.isDigit
        else if isSign c then do
          set rest
          pure c.toString
        else failure
      | [] => failure
    let name := if isIndirect then "!" ++ name else name
    if isCount then
      expect "\x7d"
      return [.value name .length quoted]
    let change ← match ← get with
      | '\x7d' :: _ => pure Change.none
      | '%' :: '%' :: rest => do
        set rest
        pure (.cut true true (← readParts dialect bound (.brace [] false) []))
      | '%' :: rest => do
        set rest
        pure (.cut true false (← readParts dialect bound (.brace [] false) []))
      | '#' :: '#' :: rest => do
        set rest
        pure (.cut false true (← readParts dialect bound (.brace [] false) []))
      | '#' :: rest => do
        set rest
        pure (.cut false false (← readParts dialect bound (.brace [] false) []))
      | ':' :: c :: rest => do
        match substituteOf? c with
        | some kind =>
          set rest
          pure (.substitute kind true (← readParts dialect bound (.brace [] quoted) []))
        | none =>
          if dialect = .plain then failure
          set (c :: rest)
          let start ← readParts dialect bound (.brace [':'] true) []
          if ← takes ":" then
            pure (.slice start (some (← readParts dialect bound (.brace [] true) [])))
          else pure (.slice start none)
      | c :: rest => do
        match substituteOf? c with
        | some kind =>
          set rest
          pure (.substitute kind false (← readParts dialect bound (.brace [] quoted) []))
        | none =>
          if dialect = .plain then failure
          set rest
          if c = '/' then
            let all ← takes "/"
            let pattern ← readParts dialect bound (.brace ['/'] false) []
            if ← takes "/" then
              pure (.replace all pattern (← readParts dialect bound (.brace [] quoted) []))
            else pure (.replace all pattern [])
          else if c = '^' ∨ c = ',' then
            let all ← takes c.toString
            pure (.casing ⟨c == '^', all⟩)
          else failure
      | [] => failure
    expect "\x7d"
    return [.value name change quoted]

/-- Reads commands up to the end of their list. -/
def readList (dialect : Dialect) : Nat → Reader (List Command)
  | 0 => failure
  | bound + 1 => do
    skipLines
    if atListEnd (← get) then return []
    let command ← readAndOr dialect bound
    skipBlanks
    match ← get with
    | '&' :: rest =>
      set rest
      return .background command :: (← readList dialect bound)
    | ';' :: ';' :: _ => return [command]
    | ';' :: rest | '\n' :: rest =>
      set rest
      return command :: (← readList dialect bound)
    | cs => if atListEnd cs then return [command] else failure

/-- Reads commands that depend on one another's success. -/
def readAndOr (dialect : Dialect) : Nat → Reader Command
  | 0 => failure
  | bound + 1 => do
    readAndOrAfter dialect bound (← readPipeline dialect bound)

/-- Reads the commands that depend on the success of the one before them. -/
def readAndOrAfter (dialect : Dialect) : Nat → Command → Reader Command
  | 0, _ => failure
  | bound + 1, first => do
    skipBlanks
    if ← takes "&&" then
      skipLines
      readAndOrAfter dialect bound (.both first (← readPipeline dialect bound))
    else if ← takes "||" then
      skipLines
      readAndOrAfter dialect bound (.either first (← readPipeline dialect bound))
    else return first

/-- Reads commands that hand their output on. -/
def readPipeline (dialect : Dialect) : Nat → Reader Command
  | 0 => failure
  | bound + 1 => do
    skipBlanks
    if nextWord (← get) = "!" then
      expect "!"
      return .negated (← readPipeline dialect bound)
    match ← readStages dialect bound with
    | [only] => return only
    | stages => return .pipeline stages

def readStages (dialect : Dialect) : Nat → Reader (List Command)
  | 0 => failure
  | bound + 1 => do
    let first ← readCommand dialect bound
    skipBlanks
    match ← get with
    | '|' :: '|' :: _ => return [first]
    | '|' :: rest =>
      let merges := dialect = .extended ∧ rest.head? = some '&'
      set (if merges then rest.drop 1 else rest)
      skipLines
      let first := if merges then
          Command.redirected first [.mk 2 .duplicate [.text "1" false]]
        else first
      return first :: (← readStages dialect bound)
    | _ => return [first]

def readCommand (dialect : Dialect) : Nat → Reader Command
  | 0 => failure
  | bound + 1 => do
    skipBlanks
    let cs ← get
    let compound? : Reader (Option Command) := do
      match cs with
      | '(' :: '(' :: rest =>
        if dialect = .extended then
          set rest
          let parts ← readParts dialect bound (.sum 0) []
          expect "))"
          return some (.sum parts)
        else
          set ('(' :: rest)
          let body ← readList dialect bound
          expect ")"
          return some (.subshell body)
      | '(' :: rest =>
        set rest
        let body ← readBody dialect bound
        expect ")"
        return some (.subshell body)
      | _ => readCompound dialect bound (nextWord cs)
    match ← compound? with
    | some command =>
      let redirects ← readRedirects dialect bound
      return if redirects.isEmpty then command else .redirected command redirects
    | none =>
      match definitionAt? cs with
      | some (name, rest) =>
        if dialect = .plain ∧ ¬name.toList.all inName then failure
        set rest
        skipLines
        return .define name (← readCommand dialect bound)
      | none => readSimple dialect bound [] [] []

/-- Reads a command that starts with a reserved word, if this is one. -/
def readCompound (dialect : Dialect) : Nat → String → Reader (Option Command)
  | 0, _ => failure
  | bound + 1, word => do
    match word with
    | "\x7b" =>
      expect word
      let body ← readBody dialect bound
      expectWord "\x7d"
      return some (.group body)
    | "if" =>
      expect word
      return some (← readChoice dialect bound)
    | "while" | "until" =>
      expect word
      let condition ← readBody dialect bound
      expectWord "do"
      let body ← readBody dialect bound
      expectWord "done"
      return some (.loop (word == "while") condition body)
    | "for" =>
      expect word
      skipBlanks
      if dialect = .extended then
        if ← takes "((" then return some (← readCount dialect bound)
      let name ← takeWhile inName
      if !name.toList.head?.any startsName then failure
      skipLines
      let words ←
        if nextWord (← get) = "in" then do
          expect "in"
          pure (some (← readWords dialect bound))
        else pure none
      skipBlanks
      let _ ← takes ";"
      expectWord "do"
      let body ← readBody dialect bound
      expectWord "done"
      return some (.each name words body)
    | "case" =>
      expect word
      skipBlanks
      let subject ← readParts dialect bound .word []
      expectWord "in"
      return some (.case subject (← readBranches dialect bound))
    | "function" =>
      if dialect = .plain then return none
      expect word
      skipBlanks
      let name := nextWord (← get)
      expect name
      skipBlanks
      if ← takes "(" then
        skipBlanks
        expect ")"
      skipLines
      return some (.define name (← readCommand dialect bound))
    | "[[" =>
      if dialect = .plain then return none
      expect word
      let words ← readTestWords dialect bound
      return some (.condition words)
    | "then" | "do" | "done" | "fi" | "else" | "elif" | "esac" | "\x7d" => failure
    | _ => return none

/-- Reads what follows the opening brackets of a loop with sums. -/
def readCount (dialect : Dialect) : Nat → Reader Command
  | 0 => failure
  | bound + 1 => do
    let start ← readParts dialect bound .clause []
    expect ";"
    let condition ← readParts dialect bound .clause []
    expect ";"
    let step ← readParts dialect bound .clause []
    expect "))"
    skipBlanks
    let _ ← takes ";"
    expectWord "do"
    let body ← readBody dialect bound
    expectWord "done"
    return .count start condition step body

/-- Reads commands of which there must be some. -/
def readBody (dialect : Dialect) : Nat → Reader (List Command)
  | 0 => failure
  | bound + 1 => do
    let body ← readList dialect bound
    if body.isEmpty then failure else return body

def readChoice (dialect : Dialect) : Nat → Reader Command
  | 0 => failure
  | bound + 1 => do
    let condition ← readBody dialect bound
    expectWord "then"
    let yes ← readBody dialect bound
    skipLines
    match nextWord (← get) with
    | "elif" =>
      expect "elif"
      return .choice condition yes [← readChoice dialect bound]
    | "else" =>
      expect "else"
      let no ← readBody dialect bound
      expectWord "fi"
      return .choice condition yes no
    | _ =>
      expectWord "fi"
      return .choice condition yes []

/-- Reads words up to the end of a line or a command. -/
def readWords (dialect : Dialect) : Nat → Reader (List (List Part))
  | 0 => failure
  | bound + 1 => do
    skipBlanks
    if (← get).head?.all endsWord then return []
    let word ← readParts dialect bound .word []
    return word :: (← readWords dialect bound)

/-- Reads the words of a condition in double square brackets. -/
def readTestWords (dialect : Dialect) : Nat → Reader (List (List Part))
  | 0 => failure
  | bound + 1 => do
    skipLines
    if nextWord (← get) = "]]" then
      expect "]]"
      return []
    let cs ← get
    let operators := ["&&", "||", "(", ")", "<", ">"]
    match operators.find? fun sign => sign.toList.isPrefixOf cs with
    | some sign =>
      expect sign
      return [.text sign false] :: (← readTestWords dialect bound)
    | none =>
      if cs.head?.all endsWord then failure
      let word ← readParts dialect bound .word []
      if word matches [.text "=~" false] then
        skipBlanks
        let expression ← readParts dialect bound .expression []
        return word :: expression :: (← readTestWords dialect bound)
      return word :: (← readTestWords dialect bound)

/-- Reads the branches of a case, up to its end. -/
def readBranches (dialect : Dialect) : Nat → Reader (List (List (List Part) × List Command))
  | 0 => failure
  | bound + 1 => do
    skipLines
    if nextWord (← get) = "esac" then
      expect "esac"
      return []
    let _ ← takes "("
    let patterns ← readPatterns dialect bound
    let body ← readList dialect bound
    skipLines
    if ← takes ";;" then return (patterns, body) :: (← readBranches dialect bound)
    expectWord "esac"
    return [(patterns, body)]

/-- Reads the patterns of a branch, up to its bracket. -/
def readPatterns (dialect : Dialect) : Nat → Reader (List (List Part))
  | 0 => failure
  | bound + 1 => do
    skipBlanks
    let pattern ← readParts dialect bound .word []
    if pattern.isEmpty then failure
    skipBlanks
    if ← takes "|" then return pattern :: (← readPatterns dialect bound)
    expect ")"
    return [pattern]

def readRedirects (dialect : Dialect) : Nat → Reader (List Redirect)
  | 0 => failure
  | bound + 1 => do
    skipBlanks
    match redirectAt? (← get) with
    | none => return []
    | some (channel, rest) =>
      set rest
      let redirect ← readRedirect dialect bound channel
      return redirect :: (← readRedirects dialect bound)

/-- Reads a redirection of a channel, or of the usual one. -/
def readRedirect (dialect : Dialect) : Nat → Option Nat → Reader Redirect
  | 0, _ => failure
  | bound + 1, channel => do
    let input := channel.getD 0
    let output := channel.getD 1
    let target : Reader (List Part) := do
      skipBlanks
      if (← get).head?.all endsWord then failure
      readParts dialect bound .word []
    let hereText (stripTabs : Bool) : Reader Redirect := do
      let (last, isQuoted) := bareText (← target)
      let text ← takeHereText dialect stripTabs last.toList
      if isQuoted then return .mk input .content [.text (String.ofList text) true]
      let rest ← get
      set text
      let parts ← readParts dialect bound .here []
      set rest
      return .mk input .content parts
    match ← get with
    | '<' :: '<' :: '<' :: rest =>
      if dialect = .plain then failure
      set rest
      return .mk input .content ((← target) ++ [.text "\n" true])
    | '<' :: '<' :: '-' :: rest =>
      set rest
      hereText true
    | '<' :: '<' :: rest =>
      set rest
      hereText false
    | '<' :: '&' :: rest =>
      set rest
      return .mk input .duplicate (← target)
    | '<' :: '>' :: rest =>
      set rest
      return .mk input .read (← target)
    | '<' :: rest =>
      set rest
      return .mk input .read (← target)
    | '>' :: '>' :: rest =>
      set rest
      return .mk output .append (← target)
    | '>' :: '&' :: rest =>
      set rest
      return .mk output .duplicate (← target)
    | '>' :: '|' :: rest | '>' :: rest =>
      set rest
      return .mk output .write (← target)
    | _ => failure

/-- Reads a command of words, with assignments before them and redirections among them; those
read already come in reverse.
-/
def readSimple (dialect : Dialect) : Nat → List (String × Bool × List Part)
    → List (List Part) → List Redirect → Reader Command
  | 0, _, _, _ => failure
  | bound + 1, assignments, words, redirects => do
    skipBlanks
    let cs ← get
    match redirectAt? cs, cs with
    | some (channel, rest), _ =>
      set rest
      let redirect ← readRedirect dialect bound channel
      readSimple dialect bound assignments words (redirect :: redirects)
    | none, '&' :: '>' :: rest =>
      if dialect = .plain then
        return .simple assignments.reverse words.reverse redirects.reverse
      set ('>' :: rest)
      let redirect ← readRedirect dialect bound none
      readSimple dialect bound assignments words
        (.mk 2 .duplicate [.text "1" false] :: redirect :: redirects)
    | none, _ =>
      if cs.head?.all endsWord then
        if assignments.isEmpty && words.isEmpty && redirects.isEmpty then failure
        return .simple assignments.reverse words.reverse redirects.reverse
      match (if words.isEmpty then assignmentAt? dialect cs else none) with
      | some (name, adds, rest) =>
        set rest
        let value ← readParts dialect bound .word []
        readSimple dialect bound ((name, adds, value) :: assignments) words redirects
      | none =>
        let word ← readParts dialect bound .word []
        readSimple dialect bound assignments (word :: words) redirects

end

/-- Reads the commands of one line, and of the lines that it takes with it. -/
def readLine (dialect : Dialect) : (bound : Nat) → Reader (List Command)
  | 0 => failure
  | bound + 1 => do
    let command ← readAndOr dialect (bound + 1)
    skipBlanks
    match ← get with
    | [] => return [command]
    | '\n' :: rest =>
      set rest
      return [command]
    | '&' :: rest =>
      set rest
      return .background command :: (← lineRest dialect bound)
    | ';' :: rest =>
      set rest
      return command :: (← lineRest dialect bound)
    | _ => failure
where
  /-- Reads what else a line holds, if it holds anything. -/
  lineRest (dialect : Dialect) (bound : Nat) : Reader (List Command) := do
    skipBlanks
    match ← get with
    | [] => return []
    | '\n' :: rest =>
      set rest
      return []
    | _ => readLine dialect bound

/-- The lines of a script, each with its commands. A line that cannot be read is the last one. -/
def readScript (dialect : Dialect) : (bound : Nat) → List Char → List (List Command)
  | 0, _ => [[.broken]]
  | bound + 1, cs =>
    match skip true false cs with
    | [] => []
    | c :: rest =>
      match (readLine dialect (20 * (rest.length + 5))).run (c :: rest) with
      | some (commands, after) => commands :: readScript dialect bound after
      | none => [[.broken]]

/-- Reads the commands of a script, line by line. -/
def parse (dialect : Dialect) (script : String) : List (List Command) :=
  readScript dialect (script.length + 1) script.toList

end NodeTrial.Script
