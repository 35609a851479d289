import NodeTrial.Executor.Script.Command
import NodeTrial.Executor.Script.Escape

/-! Sums in scripts: whole numbers of 64 bits, which wrap, with the operators of the two dialects.
A sum is read into a tree first; names in it stand for values, and may be assigned to.
-/

namespace NodeTrial.Script

/-- An operator between two numbers. -/
inductive Operator where
  | add
  | subtract
  | multiply
  | divide
  | remainder
  | power
  | shiftLeft
  | shiftRight
  | less
  | lessEqual
  | greater
  | greaterEqual
  | equal
  | unequal
  | bitAnd
  | bitXor
  | bitOr
  deriving DecidableEq, Repr

/-- A sum. -/
inductive Sum where
  | number (value : Int)
  | named (name : String)
  | negative (operand : Sum)
  | complement (operand : Sum)
  | not (operand : Sum)
  | operation (operator : Operator) (left right : Sum)
  | both (left right : Sum)
  | either (left right : Sum)
  | choice (condition yes no : Sum)
  | assign (name : String) (operator : Option Operator) (value : Sum)
  | step (name : String) (increment : Int) (after : Bool)
  | sequence (first second : Sum)
  deriving Repr

/-- Why a sum has no value. -/
inductive SumError where
  | malformed
  | divisionByZero
  | noNumber
  deriving DecidableEq, Repr

namespace Sum

/-- The number of values of a word, and the greatest of them. -/
def modulus : Nat := 18446744073709551616
def greatest : Int := 9223372036854775807

/-- A number in the range of words. -/
def wrap (n : Int) : Int :=
  n.bmod modulus

/-- The value of a digit in a base of up to 36. -/
def digitIn? (base : Nat) (c : Char) : Option Nat :=
  let value? :=
    if 'a' ≤ c ∧ c ≤ 'z' then some (c.toNat - 'a'.toNat + 10)
    else if 'A' ≤ c ∧ c ≤ 'Z' then some (c.toNat - 'A'.toNat + 10)
    else Text.digitValue? c
  value?.filter (· < base)

/-- Takes the digits of a number in a base: how many there are, their value, and what follows. -/
def takeNumberIn (base : Nat) (cs : List Char) : Nat × Nat × List Char :=
  takeDigits (digitIn? base) base cs.length 0 0 cs

/-- Takes a number: hexadecimal after `0x`, octal after `0`, else decimal. -/
def takeNumber (cs : List Char) : Nat × List Char :=
  match cs with
  | '0' :: x :: rest =>
    if x = 'x' ∨ x = 'X' then
      match takeNumberIn 16 rest with
      | (0, _, _) => (0, x :: rest)
      | (_, value, after) => (value, after)
    else (takeNumberIn 8 cs).2
  | cs => (takeNumberIn 10 cs).2

/-- A whole text as a number with an optional sign and blanks around it. -/
def numberOf? (s : String) : Option Int :=
  let isSpace (c : Char) : Bool := c == ' ' || c == '\t' || c == '\n'
  let cs := ((s.toList.dropWhile isSpace).reverse.dropWhile isSpace).reverse
  let (sign, digits) : Int × List Char := match cs with
    | '-' :: rest => (-1, rest)
    | '+' :: rest => (1, rest)
    | cs => (1, cs)
  if digits.head?.any Text.isDigit then
    match takeNumber digits with
    | (value, []) => some (sign * value)
    | _ => none
  else none

/-- A token of a sum. -/
inductive Token where
  | number (value : Int)
  | named (name : String)
  | sign (text : String)
  deriving DecidableEq, Repr

/-- The signs of sums, longer ones before those that they start with. -/
def signs (dialect : Dialect) : List String :=
  (if dialect = .extended then ["**", "++", "--"] else []) ++
    ["<<=", ">>=", "<<", ">>", "<=", ">=", "==", "!=", "&&", "||", "+=", "-=", "*=", "/=", "%=",
     "&=", "^=", "|=", "+", "-", "*", "/", "%", "<", ">", "=", "!", "~", "&", "^", "|", "?", ":",
     "(", ")"] ++
    (if dialect = .extended then [","] else [])

/-- The number at the front of a text in the forms of a dialect. -/
def takeLiteral (dialect : Dialect) (cs : List Char) : Int × List Char :=
  let (value, rest) := takeNumber cs
  match dialect, rest with
  | .plain, _ => (min value greatest, rest)
  | .extended, '#' :: digits =>
    match takeNumberIn value digits with
    | (0, _, _) => (value, rest)
    | (_, inBase, after) => (wrap inBase, after)
  | .extended, _ => (wrap value, rest)

/-- The tokens of a sum; `bound` is more than its length. -/
def tokens? (dialect : Dialect) : (bound : Nat) → List Char → Option (List Token)
  | 0, _ => none
  | _, [] => some []
  | bound + 1, c :: rest =>
    if c = ' ' ∨ c = '\t' ∨ c = '\n' then tokens? dialect bound rest
    else if c.isDigit then
      let (value, after) := takeLiteral dialect (c :: rest)
      if after.head?.any fun c => c.isAlphanum || c == '_' || c == '#' then none
      else (tokens? dialect bound after).map (.number value :: ·)
    else if c.isAlpha ∨ c = '_' then
      let name := (c :: rest).takeWhile fun c => c.isAlphanum || c == '_'
      (tokens? dialect bound ((c :: rest).drop name.length)).map
        (.named (String.ofList name) :: ·)
    else
      match (signs dialect).find? fun sign => sign.toList.isPrefixOf (c :: rest) with
      | some sign =>
        (tokens? dialect bound ((c :: rest).drop sign.length)).map (.sign sign :: ·)
      | none => none

/-- The operator of a sign between two sums, and how tightly it binds. -/
def operatorOf? (sign : String) : Option (Operator × Nat) :=
  match sign with
  | "|" => some (.bitOr, 3)
  | "^" => some (.bitXor, 4)
  | "&" => some (.bitAnd, 5)
  | "==" => some (.equal, 6)
  | "!=" => some (.unequal, 6)
  | "<" => some (.less, 7)
  | "<=" => some (.lessEqual, 7)
  | ">" => some (.greater, 7)
  | ">=" => some (.greaterEqual, 7)
  | "<<" => some (.shiftLeft, 8)
  | ">>" => some (.shiftRight, 8)
  | "+" => some (.add, 9)
  | "-" => some (.subtract, 9)
  | "*" => some (.multiply, 10)
  | "/" => some (.divide, 10)
  | "%" => some (.remainder, 10)
  | "**" => some (.power, 11)
  | _ => none

/-- How tightly a sign between two sums binds. -/
def levelOf? (sign : String) : Option Nat :=
  match sign with
  | "||" => some 1
  | "&&" => some 2
  | sign => (operatorOf? sign).map (·.2)

/-- The sum of two others and the sign between them. -/
def combine (sign : String) (left right : Sum) : Sum :=
  match sign with
  | "||" => .either left right
  | "&&" => .both left right
  | sign => .operation (((operatorOf? sign).map (·.1)).getD .add) left right

/-- The operator of an assignment, none for a plain one. -/
def assignmentOf? (sign : String) : Option (Option Operator) :=
  if sign = "=" then some none
  else if sign.length < 2 ∨ ["==", "!=", "<=", ">="].contains sign then none
  else
    match sign.toList.reverse with
    | '=' :: before =>
      (operatorOf? (String.ofList before.reverse)).map fun (operator, _) => some operator
    | _ => none

abbrev TokenReader : Type → Type :=
  StateT (List Token) Option

/-- Takes a sign that must come next. -/
def expectSign (sign : String) : TokenReader Unit := do
  match ← get with
  | .sign next :: rest => if next = sign then set rest else failure
  | _ => failure

mutual

def readRow : Nat → TokenReader Sum
  | 0 => failure
  | bound + 1 => do
    let first ← readChoice bound
    match ← get with
    | .sign "," :: rest =>
      set rest
      return .sequence first (← readRow bound)
    | _ => return first

/-- Reads an assignment, or a choice between two sums. -/
def readChoice : Nat → TokenReader Sum
  | 0 => failure
  | bound + 1 => do
    match ← get with
    | .named name :: .sign sign :: rest =>
      match assignmentOf? sign with
      | some operator =>
        set rest
        return .assign name operator (← readChoice bound)
      | none => readCondition bound
    | _ => readCondition bound

/-- Reads a choice between two sums, or one sum. -/
def readCondition : Nat → TokenReader Sum
  | 0 => failure
  | bound + 1 => do
    let condition ← readLevel bound 1
    match ← get with
    | .sign "?" :: rest =>
      set rest
      let yes ← readRow bound
      expectSign ":"
      return .choice condition yes (← readChoice bound)
    | _ => return condition

/-- Reads a sum whose operators bind at least this tightly. -/
def readLevel : Nat → (level : Nat) → TokenReader Sum
  | 0, _ => failure
  | bound + 1, level => do
    readOperators bound level (← readOperand bound)

/-- Reads the operators after a sum that bind at least this tightly. -/
def readOperators : Nat → (level : Nat) → Sum → TokenReader Sum
  | 0, _, _ => failure
  | bound + 1, level, left => do
    match ← get with
    | .sign sign :: rest =>
      match levelOf? sign with
      | some tightness =>
        if tightness < level then return left
        set rest
        let right ← readLevel bound (if sign = "**" then tightness else tightness + 1)
        readOperators bound level (combine sign left right)
      | none => return left
    | _ => return left

/-- Reads a number, a name, a sum in brackets, or one of these with a sign. -/
def readOperand : Nat → TokenReader Sum
  | 0 => failure
  | bound + 1 => do
    let tokens ← get
    set (tokens.drop 1)
    match tokens with
    | .number value :: _ => return .number value
    | .named name :: .sign "++" :: rest =>
      set rest
      return .step name 1 true
    | .named name :: .sign "--" :: rest =>
      set rest
      return .step name (-1) true
    | .named name :: _ => return .named name
    | .sign "++" :: .named name :: rest =>
      set rest
      return .step name 1 false
    | .sign "--" :: .named name :: rest =>
      set rest
      return .step name (-1) false
    | .sign "(" :: _ =>
      let inner ← readRow bound
      expectSign ")"
      return inner
    | .sign "-" :: _ => return .negative (← readOperand bound)
    | .sign "+" :: _ => readOperand bound
    | .sign "~" :: _ => return .complement (← readOperand bound)
    | .sign "!" :: _ => return .not (← readOperand bound)
    | _ => failure

end

/-- Reads a sum; in the extended dialect an empty one is zero. -/
def read? (dialect : Dialect) (text : String) : Option Sum := do
  let tokens ← tokens? dialect (text.length + 1) text.toList
  if tokens.isEmpty ∧ dialect = .extended then return .number 0
  let (sum, rest) ← (readRow (20 * (tokens.length + 2))).run tokens
  if rest.isEmpty then return sum else none

/-- The number of a truth value. -/
def ofBool (b : Bool) : Int :=
  if b then 1 else 0

/-- The word of the bits of a number. -/
def bits (n : Int) : UInt64 :=
  .ofInt n

def ofBits (word : UInt64) : Int :=
  wrap word.toNat

/-- A number times itself, wrapped. -/
def powerOf (base : Int) : (exponent : Nat) → Int
  | 0 => 1
  | exponent + 1 => wrap (powerOf base exponent * base)

/-- The number that an operator makes of two others. -/
def Operator.apply (operator : Operator) (a b : Int) : Except SumError Int :=
  match operator with
  | .add => .ok (wrap (a + b))
  | .subtract => .ok (wrap (a - b))
  | .multiply => .ok (wrap (a * b))
  | .divide => if b = 0 then .error .divisionByZero else .ok (wrap (a.tdiv b))
  | .remainder => if b = 0 then .error .divisionByZero else .ok (a.tmod b)
  | .power => if b < 0 then .error .noNumber else .ok (powerOf a (min b 4096).toNat)
  | .shiftLeft => .ok (ofBits (bits a <<< bits b))
  | .shiftRight => .ok (a >>> (b % 64).toNat)
  | .less => .ok (ofBool (a < b))
  | .lessEqual => .ok (ofBool (a ≤ b))
  | .greater => .ok (ofBool (b < a))
  | .greaterEqual => .ok (ofBool (b ≤ a))
  | .equal => .ok (ofBool (a = b))
  | .unequal => .ok (ofBool (a ≠ b))
  | .bitAnd => .ok (ofBits (bits a &&& bits b))
  | .bitXor => .ok (ofBits (bits a ^^^ bits b))
  | .bitOr => .ok (ofBits (bits a ||| bits b))

/-- An evaluation of a sum: it assigns numbers to names, the latest first. -/
abbrev Evaluation : Type → Type :=
  StateT (List (String × Int)) (Except SumError)

/-- The value of a name: one that was assigned, or one that the name stands for before. -/
def valueOf (lookup : String → Except SumError Int) (name : String) : Evaluation Int := do
  match (← get).lookup name with
  | some value => return value
  | none =>
    match lookup name with
    | .ok value => return value
    | .error error => throw error

def evaluate (lookup : String → Except SumError Int) : Sum → Evaluation Int
  | .number value => return value
  | .named name => valueOf lookup name
  | .negative operand => return wrap (-(← evaluate lookup operand))
  | .complement operand => return -(← evaluate lookup operand) - 1
  | .not operand => return ofBool ((← evaluate lookup operand) = 0)
  | .operation operator left right => do
    let a ← evaluate lookup left
    let b ← evaluate lookup right
    match Operator.apply operator a b with
    | .ok value => return value
    | .error error => throw error
  | .both left right => do
    if (← evaluate lookup left) = 0 then return 0
    return ofBool ((← evaluate lookup right) ≠ 0)
  | .either left right => do
    if (← evaluate lookup left) ≠ 0 then return 1
    return ofBool ((← evaluate lookup right) ≠ 0)
  | .choice condition yes no => do
    if (← evaluate lookup condition) ≠ 0 then evaluate lookup yes else evaluate lookup no
  | .assign name operator value => do
    let right ← evaluate lookup value
    let result ← match operator with
      | none => pure right
      | some operator =>
        match Operator.apply operator (← valueOf lookup name) right with
        | .ok result => pure result
        | .error error => throw error
    modify ((name, result) :: ·)
    return result
  | .step name increment after => do
    let before ← valueOf lookup name
    let result := wrap (before + increment)
    modify ((name, result) :: ·)
    return if after then before else result
  | .sequence first second => do
    let _ ← evaluate lookup first
    evaluate lookup second

/-- The number that the value of a name stands for. In the plain dialect it must be a number; in
the other one it is a sum in turn, in which other names may stand.
-/
def numberOfName (dialect : Dialect) (textOf? : String → Option String)
    : (bound : Nat) → String → Except SumError Int
  | 0, _ => .error .noNumber
  | bound + 1, name =>
    match textOf? name with
    | none => .ok 0
    | some text =>
      match dialect, numberOf? text with
      | .plain, some value => .ok (max (-greatest - 1) (min value greatest))
      | .plain, none => if text.isEmpty then .ok 0 else .error .noNumber
      | .extended, some value => .ok (wrap value)
      | .extended, none =>
        match read? dialect text with
        | none => .error .malformed
        | some inner =>
          (fun (value, _) => value) <$>
            (evaluate (numberOfName dialect textOf? bound) inner).run []

/-- The value of the text of a sum, and the numbers that it assigns, the first one first. -/
def calculate (dialect : Dialect) (textOf? : String → Option String) (text : String)
    : Except SumError (Int × List (String × Int)) :=
  match read? dialect text with
  | none => .error .malformed
  | some sum => do
    let (value, assigned) ← (sum.evaluate (numberOfName dialect textOf? 100)).run []
    return (value, assigned.reverse)

end Sum

end NodeTrial.Script
