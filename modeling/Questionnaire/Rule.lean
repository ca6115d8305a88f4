import Questionnaire.Wording
/-!
Rules: what a question demands of its answer, as its author states it.
-/

namespace Questionnaire

inductive RuleKind where
  | number
  | text
  | length
deriving DecidableEq, Repr

-- A method that is spelt in a way nobody knows is kept as `unrecognized`, so that a document
-- written for a later version still loads; it judges nothing.
inductive NumberMethod where
  | greaterThan
  | greaterThanOrEqual
  | lessThan
  | lessThanOrEqual
  | equal
  | notEqual
  | isNumber
  | unrecognized
deriving DecidableEq, Repr

inductive TextMethod where
  | contains
  | excludes
  | email
  | url
  | unrecognized
deriving DecidableEq, Repr

inductive LengthMethod where
  | max
  | min
  | unrecognized
deriving DecidableEq, Repr

structure NumberRule where
  method : NumberMethod
  value : Float
  errorMessage : String
deriving BEq, DecidableEq

structure TextRule where
  method : TextMethod
  needle : String
  errorMessage : String
deriving DecidableEq, Repr

structure LengthRule where
  method : LengthMethod
  value : Float
  errorMessage : String
deriving BEq, DecidableEq

inductive Rule where
  | free
  | number (rule : NumberRule)
  | text (rule : TextRule)
  | length (rule : LengthRule)
  | missing (kind : RuleKind)
deriving BEq, DecidableEq

structure Validation where
  required : Bool := false
  rule : Rule := .free
deriving BEq, DecidableEq

namespace Rule

def kind : Rule → Option RuleKind
  | .free => none
  | .number _ => some .number
  | .text _ => some .text
  | .length _ => some .length
  | .missing kind => some kind

def initial (kind : RuleKind) (wording : Wording) : Rule :=
  match kind with
  | .text => .text ⟨.contains,"",wording.defaultError⟩
  | .number => .number ⟨.greaterThan,10.0,wording.defaultError⟩
  | .length => .length ⟨.max,10.0,wording.defaultError⟩

end Rule

namespace Validation

def hasNumberRule (v : Validation) : Bool :=
  match v.rule with
  | .number _ => true
  | _ => false

end Validation

-- A validation as documents hold it: the declared kind, and a place for a rule of each kind. Only
-- the rule of the declared kind counts.
structure RuleSheet where
  required : Bool := false
  kind : Option RuleKind := none
  number : Option NumberRule := none
  text : Option TextRule := none
  length : Option LengthRule := none
deriving BEq, DecidableEq

namespace RuleSheet

def rule (sheet : RuleSheet) : Rule :=
  match sheet.kind with
  | none => .free
  | some .number => sheet.number.elim (.missing .number) .number
  | some .text => sheet.text.elim (.missing .text) .text
  | some .length => sheet.length.elim (.missing .length) .length

def validation (sheet : RuleSheet) : Validation := ⟨sheet.required,sheet.rule⟩

def ofValidation (v : Validation) : RuleSheet :=
  match v.rule with
  | .free => { required := v.required }
  | .number rule => { required := v.required, kind := some .number, number := some rule }
  | .text rule => { required := v.required, kind := some .text, text := some rule }
  | .length rule => { required := v.required, kind := some .length, length := some rule }
  | .missing kind => { required := v.required, kind := some kind }

theorem validation_ofValidation (v : Validation) : (ofValidation v).validation = v := by
  obtain ⟨required,rule⟩ := v
  cases rule with
  | missing kind => cases kind <;> rfl
  | _ => rfl

end RuleSheet

end Questionnaire
