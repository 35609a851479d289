import NodeTrial.Executor.Script.Expression
import NodeTrial.Executor.Script.Utility.Basic

/-! Programs on numbers: rows of them, and expressions that are made of arguments.
-/

namespace NodeTrial.Script

namespace Utility

/-- Numbers in a row. -/
def seq (args : List String) : Option Effect := do
  let (options, rest) := match args with
    | "-w" :: rest => ([('w', "")], rest)
    | "-s" :: separator :: rest => ([('s', separator)], rest)
    | first :: rest =>
      match first.toList with
      | '-' :: 's' :: separator => ([('s', String.ofList separator)], rest)
      | _ => ([], args)
    | [] => ([], args)
  let numbers ← rest.mapM fun arg => Text.integer? arg.toList
  let (first, increment, last) ← match numbers with
    | [last] => some (1, 1, last)
    | [first, last] => some (first, 1, last)
    | [first, increment, last] => some (first, increment, last)
    | _ => none
  if increment = 0 then none
  let steps := if 0 < increment then last - first else first - last
  let count := if steps < 0 then 0 else (steps / increment.natAbs).toNat + 1
  let items := (List.range count).map fun (n : Nat) => Text.intText (first + increment * n)
  let width := (items.map String.length).foldl max 0
  let items := if has 'w' options then items.map fun item =>
      String.ofList (padded width false true [] item.toList)
    else items
  let separator := (last? 's' options).getD "\n"
  return written (if items.isEmpty then "" else separator.intercalate items ++ "\n")

/-- A value in an expression of arguments: a text, which may be a number. -/
def exprNumber? (text : String) : Option Int :=
  match text.toList with
  | '-' :: digits => (Text.digits? digits).map fun n => -(n : Int)
  | digits => (Text.digits? digits).map Int.ofNat

/-- What is wrong with an expression of arguments. -/
inductive ExprError where
  | missingOperand
  | missingAfter (operator : String)
  | unexpected (argument : String)
  | notClosed (last : String)
  | notANumber
  | divisionByZero
  | tooDeep
  deriving DecidableEq, Repr

def ExprError.message : ExprError → String
  | .missingOperand => "missing operand\nTry 'expr --help' for more information."
  | .missingAfter operator => "syntax error: missing argument after '" ++ operator ++ "'"
  | .unexpected argument => "syntax error: unexpected argument '" ++ argument ++ "'"
  | .notClosed last => "syntax error: expecting ')' after '" ++ last ++ "'"
  | .notANumber => "non-integer argument"
  | .divisionByZero => "division by zero"
  | .tooDeep => "syntax error"

/-- A reader of an expression of arguments. -/
abbrev ExprReader : Type → Type :=
  StateT (List String) (Except ExprError)

/-- How tightly an operator between arguments binds. -/
def exprLevel? (operator : String) : Option Nat :=
  match operator with
  | "|" => some 1
  | "&" => some 2
  | "<" | "<=" | "=" | "==" | "!=" | ">=" | ">" => some 3
  | "+" | "-" => some 4
  | "*" | "/" | "%" => some 5
  | ":" => some 6
  | _ => none

/-- An argument stands for nothing: it is empty or zero. -/
def isNull (text : String) : Bool :=
  text.isEmpty || exprNumber? text == some 0

/-- What an operator makes of two numbers. -/
def exprNumber (a b : String) (f : Int → Int → Except ExprError Int) : Except ExprError String := do
  match exprNumber? a, exprNumber? b with
  | some x, some y => return Text.intText (← f x y)
  | _, _ => throw .notANumber

/-- What a pattern takes of the front of a text: its first group, or else the length. -/
def exprMatch (a b : String) : Except ExprError String := do
  let some e := Expression.read? false b | throw .tooDeep
  let hasGroup := (b.splitOn "\\(").length != 1
  match Expression.fit? false e ⟨a.toList, 0, []⟩ some with
  | some place =>
    return if hasGroup then String.ofList ((place.groups.lookup 1).getD [])
      else Text.natText place.offset
  | none => return if hasGroup then "" else "0"

/-- What an operator makes of two arguments. -/
def exprApply (operator a b : String) : Except ExprError String :=
  let compare (order : Ordering → Bool) : Except ExprError String :=
    let result := match exprNumber? a, exprNumber? b with
      | some x, some y => Ord.compare x y
      | _, _ => Ord.compare a b
    .ok (if order result then "1" else "0")
  let divided (f : Int → Int → Int) : Except ExprError String :=
    exprNumber a b fun x y => if y = 0 then .error .divisionByZero else .ok (f x y)
  match operator with
  | "|" => .ok (if !isNull a then a else if !isNull b then b else "0")
  | "&" => .ok (if isNull a || isNull b then "0" else a)
  | "<" => compare (· == .lt)
  | "<=" => compare (· != .gt)
  | "=" | "==" => compare (· == .eq)
  | "!=" => compare (· != .eq)
  | ">=" => compare (· != .lt)
  | ">" => compare (· == .gt)
  | "+" => exprNumber a b fun x y => .ok (x + y)
  | "-" => exprNumber a b fun x y => .ok (x - y)
  | "*" => exprNumber a b fun x y => .ok (x * y)
  | "/" => divided Int.tdiv
  | "%" => divided Int.tmod
  | _ => exprMatch a b

mutual

/-- Reads operators that bind at least this tightly. -/
def readExpr : Nat → (level : Nat) → (before : String) → ExprReader String
  | 0, _, _ => throw .tooDeep
  | bound + 1, level, before => do
    readExprAfter bound level (← readExprOperand bound before)

/-- Reads the operators after a value. -/
def readExprAfter : Nat → (level : Nat) → String → ExprReader String
  | 0, _, _ => throw .tooDeep
  | bound + 1, level, left => do
    match ← get with
    | operator :: rest =>
      match exprLevel? operator with
      | some tightness =>
        if tightness < level then return left
        set rest
        let right ← readExpr bound (tightness + 1) operator
        match exprApply operator left right with
        | .ok result => readExprAfter bound level result
        | .error error => throw error
      | none => return left
    | [] => return left

/-- Reads a value after an argument. -/
def readExprOperand : Nat → (before : String) → ExprReader String
  | 0, _ => throw .tooDeep
  | bound + 1, before => do
    match ← get with
    | "(" :: rest =>
      set rest
      let inner ← readExpr bound 1 "("
      match ← get with
      | ")" :: rest =>
        set rest
        return inner
      | _ => throw (.notClosed inner)
    | "length" :: text :: rest =>
      set rest
      return Text.natText text.length
    | "substr" :: text :: start :: length :: rest =>
      set rest
      match exprNumber? start, exprNumber? length with
      | some s, some n =>
        if s < 1 ∨ n < 1 then return ""
        return String.ofList ((text.toList.drop (s.toNat - 1)).take n.toNat)
      | _, _ => return ""
    | "index" :: text :: chars :: rest =>
      set rest
      let place := (text.toList.findIdx? chars.toList.contains).map (· + 1)
      return Text.natText (place.getD 0)
    | value :: rest =>
      set rest
      return value
    | [] => throw (.missingAfter before)

end

/-- The value of an expression of arguments. -/
def expr (args : List String) : Effect :=
  let result : Except ExprError String := do
    if args.isEmpty then throw .missingOperand
    let (value, rest) ← (readExpr (4 * (args.length + 2)) 1 "").run args
    match rest with
    | [] => return value
    | argument :: _ => throw (.unexpected argument)
  match result with
  | .ok value => ⟨value ++ "\n", "", if isNull value then 1 else 0⟩
  | .error error => ⟨"", "expr: " ++ error.message ++ "\n", 2⟩

end Utility

end NodeTrial.Script
