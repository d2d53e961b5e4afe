import ServiceBroker.Json.Printer
import ServiceBroker.Text.Quoted

/-!
What can be wrong with a JSON text or value. A syntax fault says where the grammar broke, an
end-of-text fault inside what the text stopped, and a mismatch how a value differs from the type it
is read as.
-/

namespace ServiceBroker.Json

/-- A value as a mismatch names it; of arrays and objects only the kind is told. -/
inductive Found where
  | null
  | boolean (value : Bool)
  | number (value : Number)
  | text (value : String)
  | sequence
  | map
deriving DecidableEq, Repr

namespace Found

def ofValue : Value → Found
  | .null => .null
  | .boolean b => .boolean b
  | .number n => .number n
  | .text s => .text s
  | .array _ => .sequence
  | .object _ => .map

def describe : Found → String
  | .null => "null"
  | .boolean b => s!"boolean `{b}`"
  | .number (.integer i) => "integer `" ++ String.ofList (integerText i) ++ "`"
  | .number (.real x) => "floating point `" ++ String.ofList (realText x) ++ "`"
  | .text s => "string " ++ Text.quoted s
  | .sequence => "sequence"
  | .map => "map"

end Found

/-- Alternatives in backquotes, as a message lists them. -/
def oneOf : List String → String
  | [a] => "`" ++ a ++ "`"
  | [a, b] => "`" ++ a ++ "` or `" ++ b ++ "`"
  | names => "one of " ++ ", ".intercalate (names.map fun n => "`" ++ n ++ "`")

/-- How a value fails to be of the wanted type. -/
inductive Mismatch where
  | type (found : Found) (expected : String)
  | value (found : Found) (expected : String)
  | length (length : Nat) (expected : String)
  | unknownField (name : String) (known : List String)
  | unknownVariant (name : String) (known : List String)
  | missingField (name : String)
  | repeatedField (name : String)
  /-- Neither a text nor a list of texts. -/
  | stringOrList
  /-- A text that is none of the values of its type, with the reason. -/
  | text (reason : String)
deriving DecidableEq, Repr

namespace Mismatch

def message : Mismatch → String
  | .type found expected => "invalid type: " ++ found.describe ++ ", expected " ++ expected
  | .value found expected => "invalid value: " ++ found.describe ++ ", expected " ++ expected
  | .length n expected => s!"invalid length {n}, expected " ++ expected
  | .unknownField name [] => "unknown field `" ++ name ++ "`, there are no fields"
  | .unknownField name known => "unknown field `" ++ name ++ "`, expected " ++ oneOf known
  | .unknownVariant name known => "unknown variant `" ++ name ++ "`, expected " ++ oneOf known
  | .missingField name => "missing field `" ++ name ++ "`"
  | .repeatedField name => "duplicate field `" ++ name ++ "`"
  | .stringOrList => "data did not match any variant of untagged enum StringOrList"
  | .text reason => reason

end Mismatch

/-- Inside what a text came to its end. -/
inductive Cut where
  | value
  | text
  | list
  | object
deriving DecidableEq, Repr

inductive SyntaxFault where
  | expectedValue
  | expectedIdent
  | expectedColon
  | expectedListCommaOrEnd
  | expectedObjectCommaOrEnd
  | keyMustBeText
  | trailingComma
  | trailingCharacters
  | invalidNumber
  | numberOutOfRange
  | invalidEscape
  | unpairedSurrogate
  | brokenSurrogatePair
  | controlCharacter
  | nestingTooDeep
deriving DecidableEq, Repr

/-- Why a text could not be read. -/
inductive Fault where
  | syntactic (fault : SyntaxFault)
  | cut (inside : Cut)
  | mismatch (mismatch : Mismatch)
deriving DecidableEq, Repr

/-- The three kinds of faults, by what would mend them: another text, more text, other data. -/
inductive Category where
  | syntactic
  | eof
  | data
deriving DecidableEq, Repr

namespace Cut

def message : Cut → String
  | .value => "EOF while parsing a value"
  | .text => "EOF while parsing a string"
  | .list => "EOF while parsing a list"
  | .object => "EOF while parsing an object"

end Cut

namespace SyntaxFault

def message : SyntaxFault → String
  | .expectedValue => "expected value"
  | .expectedIdent => "expected ident"
  | .expectedColon => "expected `:`"
  | .expectedListCommaOrEnd => "expected `,` or `]`"
  | .expectedObjectCommaOrEnd => "expected `,` or `\x7d`"
  | .keyMustBeText => "key must be a string"
  | .trailingComma => "trailing comma"
  | .trailingCharacters => "trailing characters"
  | .invalidNumber => "invalid number"
  | .numberOutOfRange => "number out of range"
  | .invalidEscape => "invalid escape"
  | .unpairedSurrogate => "lone leading surrogate in hex escape"
  | .brokenSurrogatePair => "unexpected end of hex escape"
  | .controlCharacter => "control character (\\u0000-\\u001F) found while parsing a string"
  | .nestingTooDeep => "recursion limit exceeded"

end SyntaxFault

namespace Fault

def message : Fault → String
  | .syntactic fault => fault.message
  | .cut inside => inside.message
  | .mismatch m => m.message

def category : Fault → Category
  | .syntactic _ => .syntactic
  | .cut _ => .eof
  | .mismatch _ => .data

end Fault

end ServiceBroker.Json
