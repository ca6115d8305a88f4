import Questionnaire.Address.Mailbox
import Questionnaire.Address.Url
import Questionnaire.Answer
import Questionnaire.Decimal.Leading
import Questionnaire.Notice
import Questionnaire.Rule
import Questionnaire.Text.Blank
/-!
Validators: what a validation comes down to when answers are judged by it. A rule that cannot be
understood demands nothing, so every validation has a validator.
-/

namespace Questionnaire

inductive Comparison where
  | greater
  | greaterOrEqual
  | less
  | lessOrEqual
  | equal
  | notEqual
deriving DecidableEq, Repr

-- IEEE comparisons: what is no number fails all of them but `notEqual`.
def Comparison.holds (comparison : Comparison) (x threshold : Float) : Bool :=
  match comparison with
  | .greater => threshold < x
  | .greaterOrEqual => threshold ≤ x
  | .less => x < threshold
  | .lessOrEqual => x ≤ threshold
  | .equal => x == threshold
  | .notEqual => x != threshold

inductive Bound where
  | max
  | min
deriving DecidableEq, Repr

inductive Check where
  | anything
  | compare (comparison : Comparison) (threshold : Float) (message : String)
  | isNumber (message : String)
  | contains (needle message : String)
  | excludes (needle message : String)
  | email (message : String)
  | url (message : String)
  | length (bound : Bound) (limit : Float) (message : String)
deriving DecidableEq

def characterCount (raw : String) : Float := Float.ofNat raw.toList.length

namespace Check

def require {α : Type} (holds : Bool) (value : α) (message : String) : Except String α :=
  if holds then .ok value else .error message

-- No text contains or excludes the empty needle.
def run (check : Check) (raw : String) : Except String Answer :=
  match check with
  | .anything => .ok (.text raw)
  | .compare comparison threshold message =>
    let x := Decimal.leadingNumber raw.toList
    require (comparison.holds x threshold) (.number x) message
  | .isNumber message =>
    let x := Decimal.leadingNumber raw.toList
    require (!x.isNaN) (.number x) message
  | .contains needle message =>
    require (needle ≠ "" && Text.occurs needle.toList raw.toList) (.text raw) message
  | .excludes needle message =>
    require (needle ≠ "" && !Text.occurs needle.toList raw.toList) (.text raw) message
  | .email message => require (Mailbox.isValid raw.toList) (.text raw) message
  | .url message => require (Url.isValid raw.toList) (.text raw) message
  | .length .max limit message => require (characterCount raw ≤ limit) (.text raw) message
  | .length .min limit message => require (limit ≤ characterCount raw) (.text raw) message

def comparisonOf? : NumberMethod → Option Comparison
  | .greaterThan => some .greater
  | .greaterThanOrEqual => some .greaterOrEqual
  | .lessThan => some .less
  | .lessThanOrEqual => some .lessOrEqual
  | .equal => some .equal
  | .notEqual => some .notEqual
  | .isNumber | .unrecognized => none

def ofNumberRule (rule : NumberRule) : Noted Check :=
  match rule.method,comparisonOf? rule.method with
  | _,some comparison => ⟨.compare comparison rule.value rule.errorMessage,[]⟩
  | .isNumber,none => ⟨.isNumber rule.errorMessage,[]⟩
  | _,none => ⟨.anything,[.unknownNumberMethod]⟩

def ofTextRule (rule : TextRule) : Noted Check :=
  match rule.method with
  | .contains => ⟨.contains rule.needle rule.errorMessage,[]⟩
  | .excludes => ⟨.excludes rule.needle rule.errorMessage,[]⟩
  | .email => ⟨.email rule.errorMessage,[]⟩
  | .url => ⟨.url rule.errorMessage,[]⟩
  | .unrecognized => ⟨.anything,[.unknownTextMethod]⟩

def ofLengthRule (rule : LengthRule) : Noted Check :=
  match rule.method with
  | .max => ⟨.length .max rule.value rule.errorMessage,[]⟩
  | .min => ⟨.length .min rule.value rule.errorMessage,[]⟩
  | .unrecognized => ⟨.anything,[.unknownLengthMethod]⟩

def ofRule : Rule → Noted Check
  | .free => ⟨.anything,[]⟩
  | .number rule => ofNumberRule rule
  | .text rule => ofTextRule rule
  | .length rule => ofLengthRule rule
  | .missing kind => ⟨.anything,[.ruleMissing kind]⟩

end Check

structure Validator where
  required : Option String
  check : Check
deriving DecidableEq

namespace Validator

def isRequired (v : Validator) : Bool := v.required.isSome

-- `none` is no response at all. A required answer may not be blank; an optional one may be absent
-- or empty, whatever its rule.
def validate (v : Validator) : Option String → Except String Answer
  | none => v.required.elim (.ok .missing) .error
  | some raw =>
    match v.required with
    | some message => if Text.allBlank raw.toList then .error message else v.check.run raw
    | none => if raw = "" then .ok (.text raw) else v.check.run raw

def compile (validation : Option Validation) (wording : Wording) : Noted Validator :=
  match validation with
  | none => ⟨⟨none,.anything⟩,[]⟩
  | some validation =>
    let check := Check.ofRule validation.rule
    ⟨⟨if validation.required then some wording.required else none,check.value⟩,check.notices⟩

end Validator

end Questionnaire
