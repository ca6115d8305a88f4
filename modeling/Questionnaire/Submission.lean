import Questionnaire.Question
import Questionnaire.Responses
import Questionnaire.Validator
/-!
Submissions: the responses to a form, judged question by question and handed in as answers.
-/

namespace Questionnaire

-- Where questions share an identifier the last stands, and it can have an answer and a message.
structure Verdict where
  errors : Std.ExtTreeMap String String := ∅
  values : Std.ExtTreeMap String Answer := ∅

namespace Verdict

def isValid (verdict : Verdict) : Bool := verdict.errors.isEmpty

def record (verdict : Verdict) (id : String) : Except String Answer → Verdict
  | .ok answer => { verdict with values := verdict.values.insert id answer }
  | .error message => { verdict with errors := verdict.errors.insert id message }

end Verdict

structure Entry where
  id : String
  text : String
  validator : Validator
deriving DecidableEq

namespace Entry

def ofQuestion (wording : Wording) (q : Question) : Entry :=
  ⟨q.id,q.text.getD "",(Validator.compile q.validation wording).value⟩

-- An entry sees no response but its own.
def judge (entry : Entry) (responses : Responses) : Except String Answer :=
  entry.validator.validate responses[entry.id]?

end Entry

structure Submitted where
  questionId : String
  questionText : String
  answer : Answer
deriving DecidableEq

namespace Submission

inductive Refusal where
  | nothingToSubmit
  | invalid (verdict : Verdict)

def Refusal.message : Refusal → String
  | .nothingToSubmit => "the form has no question with text to submit"
  | .invalid verdict => toString verdict.errors.size ++ " field(s) failed validation"

def entries (questions : List Question) (wording : Wording) : List Entry :=
  (questions.filter Question.isComplete).map (Entry.ofQuestion wording)

def notices (questions : List Question) (wording : Wording) : List Notice :=
  (questions.filter Question.isComplete).flatMap fun q =>
    (Validator.compile q.validation wording).notices

def judge (entries : List Entry) (responses : Responses) : Verdict :=
  entries.foldl (fun verdict entry => verdict.record entry.id (entry.judge responses)) {}

-- Every value goes to the first entry with its identifier. The others get no answer.
def deal : List Entry → Std.ExtTreeMap String Answer → List Submitted
  | [],_ => []
  | entry :: rest,values =>
    ⟨entry.id,entry.text,values[entry.id]?.getD .missing⟩ :: deal rest (values.erase entry.id)

def submit (entries : List Entry) (responses : Responses) : Except Refusal (List Submitted) :=
  if entries.isEmpty then .error .nothingToSubmit
  else
    let verdict := judge entries responses
    if verdict.isValid then .ok (deal entries verdict.values) else .error (.invalid verdict)

end Submission

end Questionnaire
