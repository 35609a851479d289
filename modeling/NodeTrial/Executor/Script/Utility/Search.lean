import NodeTrial.Executor.Script.Expression
import NodeTrial.Executor.Script.Utility.Basic

/-! Programs that search lines for expressions, and those that edit them.
-/

namespace NodeTrial.Script

namespace Utility

/-- Lines that an expression fits. -/
def grep (r : Readings) (args : List String) : Option Effect := do
  let (options, operands) ← takeOptions
    ['q', 'c', 'v', 'i', 'o', 'n', 'E', 'F', 'x', 'w', 's', 'h', 'a'] ['e', 'm'] args
  let (pattern, operands) ← match last? 'e' options, operands with
    | some pattern, operands => some (pattern, operands)
    | none, pattern :: operands => some (pattern, operands)
    | none, [] => none
  let literal (text : String) : Expression :=
    text.toList.foldr (fun c e => .row (.char (.char c)) e) .empty
  let expressions ← if has 'F' options then some ((pattern.splitOn "\n").map literal)
    else (pattern.splitOn "\n").mapM (Expression.read? (has 'E' options))
  let whole (e : Expression) : Expression :=
    if has 'x' options then .row .lineStart (.row e .lineEnd) else e
  let ignoreCase := has 'i' options
  let fits (line : List Char) : Bool :=
    expressions.any fun e => (Expression.search? ignoreCase (whole e) 0 line).isSome
  let (found, errors, _) := texts "grep" r operands
  let lines := (linesIn (String.join found)).map bare
  let chosen := (lines.zipIdx).filter fun (line, _) => fits line.toList != has 'v' options
  let chosen := match (last? 'm' options).bind count? with
    | some n => chosen.take n
    | none => chosen
  let number (index : Nat) : String :=
    if has 'n' options then Text.natText (index + 1) ++ ":" else ""
  let output :=
    if has 'q' options then ""
    else if has 'c' options then Text.natText chosen.length ++ "\n"
    else if has 'o' options then
      String.join (chosen.flatMap fun (line, index) =>
        (expressions.flatMap fun e =>
          (Expression.searchAll ignoreCase (whole e) (line.length + 1) 0 line.toList)).filterMap
          fun found => if found.taken.isEmpty then none
            else some (number index ++ String.ofList found.taken ++ "\n"))
    else String.join (chosen.map fun (line, index) => number index ++ line ++ "\n")
  let errors := if has 's' options then "" else errors
  return ⟨output, errors, if errors ≠ "" then 2 else if chosen.isEmpty then 1 else 0⟩

/-- An address of lines: a number, the last line, or those that an expression fits. -/
inductive Address where
  | always
  | line (number : Nat)
  | last
  | fits (e : Expression)

/-- A command on lines: it puts texts in place of what an expression takes, prints a line, deletes
it, or stops after it.
-/
inductive Edit where
  | substitute (e : Expression) (text : List Char) (all prints ignoreCase : Bool) (nth : Nat)
  | print
  | delete
  | quit

/-- Takes a text up to a delimiter; a backslash takes its meaning from it. -/
def takeDelimited (delimiter : Char) : List Char → Option (List Char × List Char)
  | [] => none
  | '\\' :: c :: rest =>
    (takeDelimited delimiter rest).map fun (text, after) =>
      (if c = delimiter then c :: text else '\\' :: c :: text, after)
  | c :: rest =>
    if c = delimiter then some ([], rest)
    else (takeDelimited delimiter rest).map fun (text, after) => (c :: text, after)

/-- The commands of a text; `bound` is more than its length. -/
def editsOf? (extended : Bool) : (bound : Nat) → List Char → Option (List (Address × Edit))
  | 0, _ => none
  | bound + 1, cs =>
    match cs.dropWhile fun c => c == ';' || c == '\n' || c == ' ' with
    | [] => some []
    | cs => do
      let (address, cs) ← match cs with
        | '$' :: rest => some (Address.last, rest)
        | '/' :: rest =>
          (takeDelimited '/' rest).bind fun (pattern, rest) =>
            (Expression.read? extended (String.ofList pattern)).map fun e => (.fits e, rest)
        | cs =>
          match takeDigits Text.digitValue? 10 cs.length 0 0 cs with
          | (0, _, _) => some (.always, cs)
          | (_, n, rest) => some (.line n, rest)
      match cs.dropWhile (· = ' ') with
      | 'p' :: rest => return (address, .print) :: (← editsOf? extended bound rest)
      | 'd' :: rest => return (address, .delete) :: (← editsOf? extended bound rest)
      | 'q' :: rest => return (address, .quit) :: (← editsOf? extended bound rest)
      | 's' :: delimiter :: rest =>
        let (pattern, rest) ← takeDelimited delimiter rest
        let (text, rest) ← takeDelimited delimiter rest
        let flags := rest.takeWhile fun c => c.isAlphanum
        let e ← Expression.read? extended (String.ofList pattern)
        let nth := (Text.digits? (flags.filter Text.isDigit)).getD 1
        let edit := Edit.substitute e text (flags.contains 'g') (flags.contains 'p')
          (flags.contains 'i' || flags.contains 'I') nth
        return (address, edit) :: (← editsOf? extended bound (rest.drop flags.length))
      | _ => none

/-- A text that is put in, with what was taken and its groups. -/
def filledIn (found : Expression.Found) : List Char → List Char
  | '\\' :: c :: rest =>
    let piece := match Text.digitValue? c with
      | some n => if n = 0 then found.taken else (found.groups.lookup n).getD []
      | none => if c = 'n' then ['\n'] else if c = 't' then ['\t'] else [c]
    piece ++ filledIn found rest
  | '&' :: rest => found.taken ++ filledIn found rest
  | c :: rest => c :: filledIn found rest
  | [] => []

/-- A line after texts are put in. -/
def substituted (e : Expression) (text : List Char) (all ignoreCase : Bool) (nth : Nat)
    (line : List Char) : Option (List Char) :=
  let found := Expression.searchAll ignoreCase e (line.length + 2) 0 line
  if found.length < nth then none
  else
    let pieces := found.zipIdx.map fun (f, index) =>
      let isMeant := if all then nth ≤ index + 1 else nth = index + 1
      f.before ++ (if isMeant then filledIn f text else f.taken)
    some (pieces.flatten ++ ((found.getLast?).map (·.after)).getD [])

/-- A line under commands: the line, what was printed before it, and whether it is deleted and
whether it is the last one.
-/
structure Edited where
  line : List Char
  printed : String
  deleted : Bool
  quits : Bool

def editLine (edits : List (Address × Edit)) (number : Nat) (isLast : Bool) (line : String)
    : Edited :=
  edits.foldl (fun state (address, edit) =>
    let applies := match address with
      | .always => true
      | .line n => n = number
      | .last => isLast
      | .fits e => (Expression.search? false e 0 state.line).isSome
    if !applies || state.deleted || state.quits then state
    else
      match edit with
      | .print => { state with printed := state.printed ++ String.ofList state.line ++ "\n" }
      | .delete => { state with deleted := true }
      | .quit => { state with quits := true }
      | .substitute e text all prints ignoreCase nth =>
        match substituted e text all ignoreCase nth state.line with
        | none => state
        | some line =>
          let more := if prints then String.ofList line ++ "\n" else ""
          { state with line, printed := state.printed ++ more })
    ⟨line.toList, "", false, false⟩

/-- Lines edited one after another. -/
def editLines (edits : List (Address × Edit)) (quiet : Bool) : (number : Nat) → List String
    → String
  | _, [] => ""
  | number, line :: rest =>
    let edited := editLine edits number rest.isEmpty (bare line)
    let shown := if quiet || edited.deleted then ""
      else String.ofList edited.line ++ (if line.endsWith "\n" then "\n" else "")
    edited.printed ++ shown ++ (if edited.quits then "" else editLines edits quiet (number + 1) rest)

/-- Lines edited by commands. -/
def sed (r : Readings) (args : List String) : Option Effect := do
  let (options, operands) ← takeOptions ['n', 'E', 'r', 's'] ['e'] args
  let (script, operands) ← match last? 'e' options, operands with
    | some _, operands =>
      some ("\n".intercalate ((options.filter fun (c, _) => c == 'e').map (·.2)), operands)
    | none, script :: operands => some (script, operands)
    | none, [] => none
  let extended := has 'E' options || has 'r' options
  let edits ← editsOf? extended (script.length + 1) script.toList
  return filter "sed" r operands fun text => editLines edits (has 'n' options) 1 (linesIn text)

end Utility

end NodeTrial.Script
