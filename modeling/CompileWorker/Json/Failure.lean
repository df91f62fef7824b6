import CompileWorker.Json.Printer

namespace CompileWorker.Json

inductive Found
  | null
  | bool (value : Bool)
  | number (value : Number)
  | string (text : String)
  | array
  | object
  deriving Repr

def Found.of : Json → Found
  | .null => .null
  | .bool b => .bool b
  | .number n => .number n
  | .string s => .string s
  | .array _ => .array
  | .object _ => .object

def Found.describe : Found → String
  | .null => "null"
  | .bool b => "boolean `" ++ (if b then "true" else "false") ++ "`"
  | .number (.integer n) => "integer `" ++ toString n ++ "`"
  | .number (.double x) => "floating point `" ++ (Number.double x).text ++ "`"
  | .string s => "string " ++ Text.quoted s
  | .array => "sequence"
  | .object => "map"

inductive Cause
  | endOfValue
  | endOfString
  | endOfList
  | endOfObject
  | expectedValue
  | expectedLiteral
  | expectedColon
  | expectedListSeparator
  | expectedObjectSeparator
  | trailingComma
  | trailingCharacters
  | nameNotString
  | invalidNumber
  | numberOutOfRange
  | invalidEscape
  | controlCharacter
  | loneSurrogate
  | unfinishedSurrogate
  | notUnicode
  | tooDeep
  | missingField (name : String)
  | duplicateField (name : String)
  | unknownField (name : String) (known : List String)
  | unknownVariant (name : String) (known : List String)
  | wrongType (found : Found) (expected : String)
  | outOfRange (value : Int) (expected : String)
  | wrongLength (length : Nat) (expected : String)
  deriving Repr

def alternatives (names : List String) : String :=
  match names.map fun name ↦ "`" ++ name ++ "`" with
  | [] => "there are no fields"
  | [a] => "expected " ++ a
  | [a, b] => "expected " ++ a ++ " or " ++ b
  | all => "expected one of " ++ ", ".intercalate all

def Cause.message : Cause → String
  | .endOfValue => "EOF while parsing a value"
  | .endOfString => "EOF while parsing a string"
  | .endOfList => "EOF while parsing a list"
  | .endOfObject => "EOF while parsing an object"
  | .expectedValue => "expected value"
  | .expectedLiteral => "expected ident"
  | .expectedColon => "expected `:`"
  | .expectedListSeparator => "expected `,` or `]`"
  | .expectedObjectSeparator => "expected `,` or `\x7d`"
  | .trailingComma => "trailing comma"
  | .trailingCharacters => "trailing characters"
  | .nameNotString => "key must be a string"
  | .invalidNumber => "invalid number"
  | .numberOutOfRange => "number out of range"
  | .invalidEscape => "invalid escape"
  | .controlCharacter => "control character (\\u0000-\\u001F) found while parsing a string"
  | .loneSurrogate => "lone leading surrogate in hex escape"
  | .unfinishedSurrogate => "unexpected end of hex escape"
  | .notUnicode => "invalid unicode code point"
  | .tooDeep => "recursion limit exceeded"
  | .missingField name => "missing field `" ++ name ++ "`"
  | .duplicateField name => "duplicate field `" ++ name ++ "`"
  | .unknownField name known => "unknown field `" ++ name ++ "`, " ++ alternatives known
  | .unknownVariant name known => "unknown variant `" ++ name ++ "`, " ++ alternatives known
  | .wrongType found expected => "invalid type: " ++ found.describe ++ ", expected " ++ expected
  | .outOfRange value expected =>
    "invalid value: integer `" ++ toString value ++ "`, expected " ++ expected
  | .wrongLength length expected =>
    "invalid length " ++ toString length ++ ", expected " ++ expected

/-- A cause with its place in the text read: how many bytes are left after it. A failure met while
decoding a value that is already read has no place. -/
structure Failure where
  cause : Cause
  left : Option Nat
  deriving Repr

structure Place where
  line : Nat
  column : Nat
  deriving DecidableEq, Repr

def Place.after (bytes : List UInt8) : Place :=
  ⟨bytes.count 0x0A + 1, (bytes.reverse.takeWhile (· ≠ 0x0A)).length⟩

structure TextError where
  cause : Cause
  place : Option Place
  deriving Repr

def Failure.inText (text : List UInt8) (failure : Failure) : TextError :=
  ⟨failure.cause, failure.left.map fun n ↦ Place.after (text.take (text.length - n))⟩

def TextError.message (e : TextError) : String :=
  match e.place with
  | none => e.cause.message
  | some p => e.cause.message ++ " at line " ++ toString p.line ++ " column " ++ toString p.column

abbrev Reader (α : Type) := List UInt8 → Except Failure (α × List UInt8)

/-- The failure that puts its place right after the given rest begins. -/
def fails {α : Type} (cause : Cause) (rest : List UInt8) : Except Failure α :=
  .error ⟨cause, some rest.length⟩

/-- The failure of an unexpected byte: its place is past that byte, or the end of the text. -/
def failsAt {α : Type} (cause : Cause) (bytes : List UInt8) : Except Failure α :=
  fails cause (bytes.drop 1)

end CompileWorker.Json
