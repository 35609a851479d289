import NodeTrial.Executor.Script.Utility.Basic

/-! Programs on the names in paths.
-/

namespace NodeTrial.Script

namespace Utility

/-- A text without the slashes at its end. -/
def withoutSlashes (cs : List Char) : List Char :=
  (cs.reverse.dropWhile (· = '/')).reverse

/-- The last name of a path. -/
def basename (args : List String) : Option Effect :=
  let args := if args.head? = some "--" then args.drop 1 else args
  match args with
  | [] => some (misused "basename" "missing operand")
  | path :: suffix =>
    let cs := withoutSlashes path.toList
    let name := match Text.splitLast? (· == '/') cs with
      | some (_, name) => name
      | none => cs
    let name := if cs.isEmpty ∧ path ≠ "" then ['/'] else name
    match suffix with
    | [] => some (written (String.ofList name ++ "\n"))
    | [suffix] =>
      let cut := String.ofList name |>.endsWith suffix
      let name := if cut ∧ suffix.length < name.length then
          name.take (name.length - suffix.length)
        else name
      some (written (String.ofList name ++ "\n"))
    | _ :: extra :: _ => some (misused "basename" ("extra operand '" ++ extra ++ "'"))

/-- Paths without their last names. -/
def dirname (args : List String) : Option Effect :=
  let args := if args.head? = some "--" then args.drop 1 else args
  if args.isEmpty then some (misused "dirname" "missing operand")
  else
    some (written (String.join (args.map fun path =>
      let cs := withoutSlashes path.toList
      let directory := match Text.splitLast? (· == '/') cs with
        | some (before, _) =>
          let before := withoutSlashes before
          if before.isEmpty then ['/'] else before
        | none => if cs.isEmpty ∧ path ≠ "" then ['/'] else ['.']
      String.ofList directory ++ "\n")))

end Utility

end NodeTrial.Script
