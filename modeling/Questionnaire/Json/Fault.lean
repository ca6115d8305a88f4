/-!
What can be wrong with the text of a document before its shape is looked at.
-/

namespace Questionnaire.Json

inductive Fault where
  | endInList
  | endInMap
  | endInText
  | endInValue
  | colonWanted
  | listCommaWanted
  | mapCommaWanted
  | wordWanted
  | valueWanted
  | badEscape
  | badNumber
  | numberTooLarge
  | controlCharacter
  | keyNotText
  | loneSurrogate
  | escapeCutShort
  | trailingComma
  | trailingText
  | tooDeep
deriving DecidableEq, Repr

def Fault.message : Fault → String
  | .endInList => "EOF while parsing a list"
  | .endInMap => "EOF while parsing an object"
  | .endInText => "EOF while parsing a string"
  | .endInValue => "EOF while parsing a value"
  | .colonWanted => "expected `:`"
  | .listCommaWanted => "expected `,` or `]`"
  | .mapCommaWanted => "expected `,` or `\x7d`"
  | .wordWanted => "expected ident"
  | .valueWanted => "expected value"
  | .badEscape => "invalid escape"
  | .badNumber => "invalid number"
  | .numberTooLarge => "number out of range"
  | .controlCharacter => "control character (\\u0000-\\u001F) found while parsing a string"
  | .keyNotText => "key must be a string"
  | .loneSurrogate => "lone leading surrogate in hex escape"
  | .escapeCutShort => "unexpected end of hex escape"
  | .trailingComma => "trailing comma"
  | .trailingText => "trailing characters"
  | .tooDeep => "recursion limit exceeded"

-- A reader that keeps the value it is reading and a reader that skips it can see a fault
-- differently.
structure Break where
  kept : Fault
  skipped : Fault
deriving DecidableEq, Repr

def Break.of (fault : Fault) : Break := ⟨fault,fault⟩

end Questionnaire.Json
