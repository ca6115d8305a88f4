import Questionnaire.Document.Rule
import Questionnaire.Submission
/-!
Verdicts and submitted answers in documents.
-/

namespace Questionnaire

open Json

def Verdict.toJson (verdict : Verdict) : Value :=
  .map [("valid",.bool verdict.isValid),
    ("errors",.map (verdict.errors.toList.map fun (id,message) => (id,.text message))),
    ("values",.map (verdict.values.toList.map fun (id,answer) => (id,answer.toJson)))]

def Submitted.toJson (submitted : Submitted) : Value :=
  .map [("questionId",.text submitted.questionId),("questionText",.text submitted.questionText),
    ("response",submitted.answer.toJson)]

end Questionnaire
