import NodeTrial.Json.Basic
import NodeTrial.Text.Quoted

/-! Why a JSON text is refused: a fault of the text itself, or a well-formed value that does not
fit what is expected. Each cause has one wording.
-/

namespace NodeTrial.Json

/-- What makes a text no JSON, or no JSON this library reads. -/
inductive Fault where
  | endInValue
  | endInObject
  | endInList
  | endInString
  | expectedValue
  | expectedLiteral
  | expectedColon
  | expectedMemberEnd
  | expectedItemEnd
  | keyNotString
  | trailingComma
  | trailingText
  | badNumber
  | numberOutOfRange
  | badEscape
  | controlCharacter
  | loneSurrogate
  | halfSurrogatePair
  | notUtf8
  | tooDeep
  deriving DecidableEq, Repr

def Fault.message : Fault → String
  | .endInValue => "EOF while parsing a value"
  | .endInObject => "EOF while parsing an object"
  | .endInList => "EOF while parsing a list"
  | .endInString => "EOF while parsing a string"
  | .expectedValue => "expected value"
  | .expectedLiteral => "expected ident"
  | .expectedColon => "expected `:`"
  | .expectedMemberEnd => "expected `,` or `\x7d`"
  | .expectedItemEnd => "expected `,` or `]`"
  | .keyNotString => "key must be a string"
  | .trailingComma => "trailing comma"
  | .trailingText => "trailing characters"
  | .badNumber => "invalid number"
  | .numberOutOfRange => "number out of range"
  | .badEscape => "invalid escape"
  | .controlCharacter => "control character (\\u0000-\\u001F) found while parsing a string"
  | .loneSurrogate => "lone leading surrogate in hex escape"
  | .halfSurrogatePair => "unexpected end of hex escape"
  | .notUtf8 => "invalid unicode code point"
  | .tooDeep => "recursion limit exceeded"

/-- The text ended where more was needed. -/
def Fault.isEnd : Fault → Bool
  | .endInValue | .endInObject | .endInList | .endInString => true
  | _ => false

/-- What a message says it found: a scalar with its value, or the kind of a container. -/
inductive Found where
  | null
  | bool (value : Bool)
  | number (value : Number)
  | text (value : String)
  | sequence
  | map
  deriving DecidableEq, Repr

/-- What a message says of a value. -/
def Found.of : Json → Found
  | .null => .null
  | .bool b => .bool b
  | .number n => .number n
  | .text s => .text s
  | .list _ => .sequence
  | .object _ => .map

/-- The wording of what was found. -/
def Found.message : Found → String
  | .null => "null"
  | .bool true => "boolean `true`"
  | .bool false => "boolean `false`"
  | .number (.whole n) => "integer `" ++ Text.intText n.val ++ "`"
  | .number (.real x) => "floating point `" ++ x.render ++ "`"
  | .text s => "string " ++ Text.quoted s
  | .sequence => "sequence"
  | .map => "map"

/-- Why a well-formed value is not what was expected. -/
inductive Mismatch where
  | missingField (name : String)
  | duplicateField (name : String)
  | wrongType (found : Found) (expected : String)
  | outOfRange (value : Int) (expected : String)
  | wrongLength (length : Nat) (expected : String)
  | unknownVariant (name : String) (known : List String)
  | noVariant (kind : String)
  deriving DecidableEq, Repr

def Mismatch.message : Mismatch → String
  | .missingField name => "missing field `" ++ name ++ "`"
  | .duplicateField name => "duplicate field `" ++ name ++ "`"
  | .wrongType found expected =>
    "invalid type: " ++ found.message ++ ", expected " ++ expected
  | .outOfRange value expected =>
    "invalid value: integer `" ++ Text.intText value ++ "`, expected " ++ expected
  | .wrongLength length expected =>
    "invalid length " ++ Text.natText length ++ ", expected " ++ expected
  | .unknownVariant name known =>
    "unknown variant `" ++ name ++ "`, expected one of "
      ++ String.intercalate ", " (known.map fun k => "`" ++ k ++ "`")
  | .noVariant kind => "data did not match any variant of untagged enum " ++ kind

end NodeTrial.Json

namespace NodeTrial

/-- Why a text was not read. -/
inductive ReadError where
  | malformed (fault : Json.Fault)
  | unfit (cause : Json.Mismatch)
  deriving DecidableEq, Repr

namespace ReadError

def message : ReadError → String
  | .malformed fault => fault.message
  | .unfit cause => cause.message

/-- The text ended where more was needed. -/
def isEnd : ReadError → Bool
  | .malformed fault => fault.isEnd
  | .unfit _ => false

end ReadError

end NodeTrial
