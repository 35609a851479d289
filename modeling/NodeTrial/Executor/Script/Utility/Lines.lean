import NodeTrial.Executor.Script.Pattern
import NodeTrial.Executor.Script.Utility.Basic

/-! Programs that take parts of texts, count them, put them in order or change their characters.
-/

namespace NodeTrial.Script

namespace Utility

/-- The first lines or bytes, or all but the last ones. -/
def head (r : Readings) (args : List String) : Option Effect := do
  let (options, operands) ← takeOptions ['q'] ['n', 'c'] (withCount args)
  let take {α : Type} (text : String) (items : List α) : Option (List α) :=
    match text.toList with
    | '-' :: digits => (count? (String.ofList digits)).map fun n => items.take (items.length - n)
    | _ => (count? text).map items.take
  match last? 'c' options with
  | some n =>
    let _ ← take n ([] : List Char)
    return filterEach "head" r operands fun text =>
      String.ofList ((take n text.toList).getD [])
  | none =>
    let n := (last? 'n' options).getD "10"
    let _ ← take n ([] : List Char)
    return filterEach "head" r operands fun text => String.join ((take n (linesIn text)).getD [])

/-- The last lines or bytes, or all from some place on. -/
def tail (r : Readings) (args : List String) : Option Effect := do
  let (options, operands) ← takeOptions ['q'] ['n', 'c'] (withCount args)
  let take {α : Type} (text : String) (items : List α) : Option (List α) :=
    match text.toList with
    | '+' :: digits => (count? (String.ofList digits)).map fun n => items.drop (n - 1)
    | '-' :: digits => (count? (String.ofList digits)).map fun n => items.drop (items.length - n)
    | _ => (count? text).map fun n => items.drop (items.length - n)
  match last? 'c' options with
  | some n =>
    let _ ← take n ([] : List Char)
    return filterEach "tail" r operands fun text =>
      String.ofList ((take n text.toList).getD [])
  | none =>
    let n := (last? 'n' options).getD "10"
    let _ ← take n ([] : List Char)
    return filterEach "tail" r operands fun text => String.join ((take n (linesIn text)).getD [])

def wordCount (text : String) : Nat :=
  let isBlank (c : Char) : Bool := c == ' ' || ('\t' ≤ c && c ≤ '\r')
  (text.toList.foldl (fun (count, inWord) c =>
    (if !inWord && !isBlank c then count + 1 else count, !isBlank c)) (0, false)).1

/-- Counts of lines, words and bytes. -/
def wc (r : Readings) (args : List String) : Option Effect := do
  let (options, operands) ← takeOptions ['l', 'w', 'c', 'm'] [] args
  let options := if options.isEmpty then [('l', ""), ('w', ""), ('c', "")] else options
  let countsOf (text : String) : List Nat :=
    (if has 'l' options then [(text.toList.filter (· = '\n')).length] else []) ++
      (if has 'w' options then [wordCount text] else []) ++
      (if has 'c' options ∨ has 'm' options then [text.length] else [])
  let isSingle := (countsOf "").length = 1
  match operands with
  | [] =>
    let width := if isSingle then 0 else 7
    return written (" ".intercalate ((countsOf r.input).map (column width)) ++ "\n")
  | [operand] =>
    let (found, errors, _) := texts "wc" r [operand]
    match found with
    | text :: _ =>
      let width := if isSingle then 0 else (Nat.toDigits 10 text.length).length
      return written (" ".intercalate ((countsOf text).map (column width) ++ [shown operand]) ++ "\n")
    | [] => return ⟨"", errors, 1⟩
  | _ => none

/-- The characters of a set; `bound` is more than its length. -/
def setOf (bound : Nat) (cs : List Char) : List Char :=
  match bound, cs with
  | 0, _ | _, [] => []
  | bound + 1, '[' :: ':' :: rest =>
    let name := rest.takeWhile (· != ':')
    let ranges := Glob.classRanges (String.ofList name)
    if ranges.isEmpty then '[' :: setOf bound (':' :: rest)
    else (ranges.flatMap fun (low, high) => between low high) ++
      setOf bound (rest.drop (name.length + 2))
  | bound + 1, c :: rest =>
    let (c, rest) := if c = '\\' then escape rest else (c, rest)
    match rest with
    | '-' :: high :: more =>
      let (high, more) := if high = '\\' then escape more else (high, more)
      between c high ++ setOf bound more
    | rest => c :: setOf bound rest
where
  /-- The characters from one to another. -/
  between (low high : Char) : List Char :=
    (List.range (high.toNat + 1 - low.toNat)).map fun n => byteOf (low.toNat + n)
  /-- The character of an escape, and what follows it. -/
  escape (cs : List Char) : Char × List Char :=
    match takeEscape .plain false cs with
    | some ([c], rest) => (c, rest)
    | some ([_, c], rest) => (c, rest)
    | _ => ('\\', cs)

/-- Leaves one of each run of a character of a set. -/
def squeeze (set : List Char) : List Char → List Char
  | a :: b :: rest =>
    if a = b ∧ set.contains a then squeeze set (b :: rest) else a :: squeeze set (b :: rest)
  | cs => cs

/-- Characters put in place of others. -/
def tr (r : Readings) (args : List String) : Option Effect := do
  let (options, operands) ← takeOptions ['d', 's', 'c', 'C', 't'] [] args
  let sets := operands.map fun operand => setOf (operand.length + 1) operand.toList
  let first := sets.headD []
  let first :=
    if has 'c' options ∨ has 'C' options then
      ((List.range 256).map byteOf).filter fun c => !first.contains c
    else first
  let second := sets[1]?
  let cs := r.input.toList
  let cs :=
    if has 'd' options then cs.filter fun c => !first.contains c
    else
      match second with
      | some (d :: ds) =>
        let extended := (d :: ds) ++
          List.replicate (first.length - ds.length - 1) ((d :: ds).getLastD d)
        let pairs := (first.zip extended).reverse
        cs.map fun c => (pairs.lookup c).getD c
      | _ => cs
  let cs := if has 's' options then squeeze (second.getD first) cs else cs
  return written (String.ofList cs)

/-- The whole number at the front of a line. -/
def leadingNumber (line : String) : Int :=
  let cs := line.toList.dropWhile fun c => c == ' ' || c == '\t'
  let (sign, cs) : Int × List Char := match cs with
    | '-' :: rest => (-1, rest)
    | cs => (1, cs)
  sign * (takeDigits Text.digitValue? 10 cs.length 0 0 cs).2.1

/-- Lines in order. -/
def sort (r : Readings) (args : List String) : Option Effect := do
  let (options, operands) ← takeOptions ['r', 'n', 'u'] [] args
  let key (line : String) : Int := if has 'n' options then leadingNumber line else 0
  let isLess (a b : String) : Bool := key a < key b || (key a == key b && a < b)
  return filter "sort" r operands fun text =>
    let lines := (linesIn text).map bare
    let sorted := lines.mergeSort fun a b =>
      if has 'r' options then !isLess a b else !isLess b a
    let isSame (a b : String) : Bool := if has 'n' options then key a == key b else a == b
    let kept := if has 'u' options then
        (sorted.splitBy isSame).filterMap List.head?
      else sorted
    String.join (kept.map ended)

/-- Runs of equal lines, each once. -/
def uniq (r : Readings) (args : List String) : Option Effect := do
  let (options, operands) ← takeOptions ['c', 'd', 'u'] [] args
  return filter "uniq" r operands fun text =>
    let runs := ((linesIn text).map bare).splitBy (· == ·)
    let runs := runs.filter fun run =>
      !(has 'd' options && run.length == 1) && !(has 'u' options && run.length != 1)
    String.join (runs.map fun run =>
      (if has 'c' options then column 7 run.length ++ " " else "") ++ run.headD "" ++ "\n")

/-- The ranges of a list of places, the last one perhaps open. -/
def rangesOf? (text : String) : Option (List (Nat × Option Nat)) :=
  (Text.sections (· == ',') text.toList).mapM fun part =>
    match Text.splitFirst? (· == '-') part with
    | none => (Text.digits? part).map fun n => (n, some n)
    | some ([], high) => (Text.digits? high).map fun n => (1, some n)
    | some (low, []) => (Text.digits? low).map fun n => (n, none)
    | some (low, high) => do return (← Text.digits? low, some (← Text.digits? high))

/-- Parts of lines: characters, or fields between delimiters. -/
def cut (r : Readings) (args : List String) : Option Effect := do
  let (options, operands) ← takeOptions ['s'] ['d', 'f', 'c', 'b'] args
  let chosen {α : Type} (ranges : List (Nat × Option Nat)) (items : List α) : List α :=
    (items.zipIdx.filter fun (_, index) =>
      ranges.any fun (low, high) => low ≤ index + 1 ∧ high.all (index + 1 ≤ ·)).map (·.1)
  match last? 'f' options with
  | some list =>
    let ranges ← rangesOf? list
    let delimiter := ((last? 'd' options).getD "\t").toList.headD '\t'
    return filter "cut" r operands fun text =>
      String.join ((linesIn text).map fun line =>
        let line := bare line
        if line.toList.contains delimiter then
          let fields := (Text.sections (· == delimiter) line.toList).map String.ofList
          delimiter.toString.intercalate (chosen ranges fields) ++ "\n"
        else if has 's' options then "" else line ++ "\n")
  | none =>
    let list ← (last? 'c' options).or (last? 'b' options)
    let ranges ← rangesOf? list
    return filter "cut" r operands fun text =>
      String.join ((linesIn text).map fun line =>
        String.ofList (chosen ranges (bare line).toList) ++ "\n")

end Utility

end NodeTrial.Script
