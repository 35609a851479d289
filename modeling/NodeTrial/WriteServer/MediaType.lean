import NodeTrial.Text.Division

/-! Media types as they stand in a header: a type, a slash, a subtype that may have a suffix
after a plus sign, and parameters after semicolons. All that counts here is whether a media
type is that of JSON: type `application`, subtype `json`, any case, any parameters.
-/

namespace NodeTrial.WriteServer

/-- A character that names in a header are made of. -/
def isTokenChar (c : Char) : Bool :=
  c.isAlphanum || "!#$%&'*+-.^_\x60|~".toList.contains c

/-- A character that may stand in a quoted parameter. -/
def isQuotable (c : Char) : Bool :=
  ' ' ≤ c && c != '\x7F'

/-- Where a reader of parameters stands. -/
inductive ParameterState where
  | gap
  | name
  | valueStart
  | value
  | quoteStart
  | quote
  | afterQuote
  deriving DecidableEq, Repr

namespace ParameterState

/-- The state after one more character, if that is allowed. -/
def next? (s : ParameterState) (c : Char) : Option ParameterState :=
  match s with
  | .gap => if c = ' ' then some .gap else if isTokenChar c then some .name else none
  | .name => if c = '=' then some .valueStart else if isTokenChar c then some .name else none
  | .valueStart =>
    if c = '"' then some .quoteStart else if isTokenChar c then some .value else none
  | .value => if c = ';' then some .gap else if isTokenChar c then some .value else none
  | .quoteStart => if isQuotable c then some .quote else none
  | .quote => if c = '"' then some .afterQuote else if isQuotable c then some .quote else none
  | .afterQuote => if c = ';' then some .gap else if c = ' ' then some .afterQuote else none

def mayEnd : ParameterState → Bool
  | .gap | .valueStart | .value | .afterQuote => true
  | .name | .quoteStart | .quote => false

/-- The rest of some parameters is well formed. -/
def accepts : ParameterState → List Char → Bool
  | s, [] => s.mayEnd
  | s, c :: rest =>
    match s.next? c with
    | some after => accepts after rest
    | none => false

end ParameterState

/-- A non-empty name, followed by parameters if a semicolon starts any. -/
def wellFormedRest (subtype : List Char) (parameters : Option (List Char)) : Bool :=
  !subtype.isEmpty && subtype.all isTokenChar
    && (parameters.map ParameterState.gap.accepts).getD true

/-- A subtype without its suffix, which starts at the last plus sign after the front. -/
def withoutSuffix (subtype : List Char) : List Char :=
  match Text.splitLast? (· == '+') subtype with
  | some (before, _) => if before.isEmpty then subtype else before
  | none => subtype

/-- A name equals a lower-case text, whatever its case. -/
def named (name : List Char) (text : String) : Bool :=
  String.ofList (name.map Char.toLower) = text

def isJsonMediaType (value : String) : Bool :=
  match Text.splitFirst? (· == '/') value.toList with
  | none => false
  | some (type, rest) =>
    let (subtype, parameters) := match Text.splitFirst? (· == ';') rest with
      | some (subtype, parameters) => (subtype, some parameters)
      | none => (rest, none)
    named type "application" && wellFormedRest subtype parameters
      && named (withoutSuffix subtype) "json"

end NodeTrial.WriteServer
