/-! Command scripts: what a script says once it is read. A script is a row of commands; a command is
made of words, and a word is made of texts and of values that are put in when it is expanded.
-/

namespace NodeTrial.Script

/-- The two dialects of scripts: the plain one, and one with more forms. -/
inductive Dialect where
  | plain
  | extended
  deriving DecidableEq, Repr

/-- What stands in for the value of a parameter that has none: a text, which may be assigned, or
an error; or a text that stands in for a value that there is.
-/
inductive Substitute where
  | text
  | assigned
  | error
  | alternative
  deriving DecidableEq, Repr

/-- What a redirection does with its target. -/
inductive Opening where
  | read
  | write
  | append
  | duplicate
  | content
  deriving DecidableEq, Repr

/-- How the letters of a value are changed, all of them or the first. -/
structure Casing where
  upper : Bool
  all : Bool
  deriving DecidableEq, Repr

mutual

/-- A part of a word. What is quoted is never divided or taken for a pattern. -/
inductive Part where
  | text (text : String) (quoted : Bool)
  | value (parameter : String) (change : Change) (quoted : Bool)
  | output (body : List Command) (quoted : Bool)
  | sum (expression : List Part) (quoted : Bool)

/-- What is made of the value of a parameter. -/
inductive Change where
  | none
  | length
  | substitute (kind : Substitute) (forEmpty : Bool) (word : List Part)
  | cut (atEnd longest : Bool) (pattern : List Part)
  | slice (start : List Part) (length : Option (List Part))
  | replace (all : Bool) (pattern text : List Part)
  | casing (casing : Casing)

/-- A redirection of one of the numbered channels of a command. -/
inductive Redirect where
  | mk (channel : Nat) (opening : Opening) (target : List Part)

/-- A command. -/
inductive Command where
  | simple (assignments : List (String × Bool × List Part)) (words : List (List Part))
      (redirects : List Redirect)
  | redirected (body : Command) (redirects : List Redirect)
  | group (body : List Command)
  | subshell (body : List Command)
  | background (body : Command)
  | pipeline (stages : List Command)
  | negated (body : Command)
  | both (first second : Command)
  | either (first second : Command)
  | choice (condition yes no : List Command)
  | loop (whileTrue : Bool) (condition body : List Command)
  | count (start condition step : List Part) (body : List Command)
  | each (name : String) (words : Option (List (List Part))) (body : List Command)
  | case (word : List Part) (branches : List (List (List Part) × List Command))
  | define (name : String) (body : Command)
  | sum (expression : List Part)
  | condition (words : List (List Part))
  | broken

end

instance : Inhabited Part := ⟨.text "" false⟩
instance : Inhabited Command := ⟨.broken⟩

end NodeTrial.Script
