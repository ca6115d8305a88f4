import Questionnaire.Answer
import Questionnaire.Json.Reading
import Questionnaire.Rule
/-!
Rules in documents.
-/

namespace Questionnaire

open Json

def optional {α : Type} (name : String) (write : α → Value) (a : Option α) : List (String × Value) :=
  a.elim [] fun a => [(name,write a)]

def RuleKind.name : RuleKind → String
  | .number => "number"
  | .text => "text"
  | .length => "length"

def RuleKind.tags : Tags RuleKind where
  known := [RuleKind.number,.text,.length].map fun kind => (kind.name,kind)

def NumberMethod.name : NumberMethod → String
  | .greaterThan => "greater_than"
  | .greaterThanOrEqual => "greater_than_or_equal"
  | .lessThan => "less_than"
  | .lessThanOrEqual => "less_than_or_equal"
  | .equal => "equal"
  | .notEqual => "not_equal"
  | .isNumber => "is_number"
  | .unrecognized => "unrecognized"

def NumberMethod.tags : Tags NumberMethod where
  known := [NumberMethod.greaterThan,.greaterThanOrEqual,.lessThan,.lessThanOrEqual,.equal,
    .notEqual,.isNumber].map fun method => (method.name,method)
  fallback := some .unrecognized

def TextMethod.name : TextMethod → String
  | .contains => "contains"
  | .excludes => "nocontains"
  | .email => "email"
  | .url => "url"
  | .unrecognized => "unrecognized"

def TextMethod.tags : Tags TextMethod where
  known := [TextMethod.contains,.excludes,.email,.url].map fun method => (method.name,method)
  fallback := some .unrecognized

def LengthMethod.name : LengthMethod → String
  | .max => "max"
  | .min => "min"
  | .unrecognized => "unrecognized"

def LengthMethod.tags : Tags LengthMethod where
  known := [LengthMethod.max,.min].map fun method => (method.name,method)
  fallback := some .unrecognized

def NumberRule.record : Record NumberRule where
  title := "struct NumberRule"
  blank := ⟨.unrecognized,0.0,""⟩
  fields := [
    .of "method" true NumberMethod.tags.read fun method rule => { rule with method },
    .of "value" true readFloat fun value rule => { rule with value },
    .of "errorMessage" false readText fun errorMessage rule => { rule with errorMessage }]

def NumberRule.toJson (rule : NumberRule) : Value :=
  .map [("method",.text rule.method.name),("value",.number (.double rule.value)),
    ("errorMessage",.text rule.errorMessage)]

def TextRule.record : Record TextRule where
  title := "struct TextRule"
  blank := ⟨.unrecognized,"",""⟩
  fields := [
    .of "method" true TextMethod.tags.read fun method rule => { rule with method },
    .of "message" false readText fun needle rule => { rule with needle },
    .of "errorMessage" false readText fun errorMessage rule => { rule with errorMessage }]

def TextRule.toJson (rule : TextRule) : Value :=
  .map [("method",.text rule.method.name),("message",.text rule.needle),
    ("errorMessage",.text rule.errorMessage)]

def LengthRule.record : Record LengthRule where
  title := "struct LengthRule"
  blank := ⟨.unrecognized,0.0,""⟩
  fields := [
    .of "method" true LengthMethod.tags.read fun method rule => { rule with method },
    .of "value" true readFloat fun value rule => { rule with value },
    .of "errorMessage" false readText fun errorMessage rule => { rule with errorMessage }]

def LengthRule.toJson (rule : LengthRule) : Value :=
  .map [("method",.text rule.method.name),("value",.number (.double rule.value)),
    ("errorMessage",.text rule.errorMessage)]

namespace RuleSheet

def record : Record RuleSheet where
  title := "struct ValidationDocument"
  blank := {}
  fields := [
    .of "isRequired" false readBool fun required sheet => { sheet with required },
    .of "type" false (readOption RuleKind.tags.read) fun kind sheet => { sheet with kind },
    .of "number" false (readOption NumberRule.record.read) fun number sheet => { sheet with number },
    .of "text" false (readOption TextRule.record.read) fun text sheet => { sheet with text },
    .of "length" false (readOption LengthRule.record.read) fun length sheet =>
      { sheet with length }]

def toJson (sheet : RuleSheet) : Value :=
  .map (("isRequired",.bool sheet.required) ::
    (optional "type" (fun kind => .text kind.name) sheet.kind ++
      optional "number" NumberRule.toJson sheet.number ++
      optional "text" TextRule.toJson sheet.text ++
      optional "length" LengthRule.toJson sheet.length))

end RuleSheet

namespace Validation

def read : Reader Validation := fun mode t => (RuleSheet.record.read mode t).map RuleSheet.validation

def toJson (v : Validation) : Value := (RuleSheet.ofValidation v).toJson

end Validation

def Answer.toJson : Answer → Value
  | .missing => .null
  | .text s => .text s
  | .number x => .number (.double x)

end Questionnaire
