import Questionnaire.Json.Reading
import Questionnaire.Json.Sorted
/-!
Responses: the raw text given for each question, by the question's identifier.
-/

namespace Questionnaire

open Json

abbrev Responses := Std.ExtTreeMap String String

namespace Responses

inductive Refusal where
  | notAMap
  | nested (id : String) (value : Value)

def Refusal.message : Refusal → String
  | .notAMap => "responses must be a JSON object keyed by question id"
  | .nested id value =>
    "response '" ++ id ++ "' must be a scalar, got " ++ value.sorted.compact

def isScalar : Value → Bool
  | .list _ | .map _ => false
  | _ => true

-- Numbers and booleans are taken as typed; `null` is no response.
def rawText? : Value → Option String
  | .text s => some s
  | .number n => some (String.ofList n.text)
  | .bool b => some (if b then "true" else "false")
  | .null | .list _ | .map _ => none

-- Lists and maps are refused, the first of them in the order of the keys.
def ofValue : Value → Except Refusal Responses
  | .map members =>
    let byId := Value.byKey members
    match byId.toList.find? fun member => !isScalar member.2 with
    | some (id,value) => .error (.nested id value)
    | none => .ok (byId.filterMap fun _ value => rawText? value)
  | _ => .error .notAMap

def valueOfText (text : String) : Read Value := (Document.ofText text.toList).read readAny

end Responses

end Questionnaire
