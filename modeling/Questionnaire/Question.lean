import Questionnaire.Rule
/-!
Questions, their choices, and forms as ordered lists of questions.
-/

namespace Questionnaire

inductive ChoiceKind where
  | option
  | other
deriving DecidableEq, Repr

structure Choice where
  id : String
  label : String
  kind : ChoiceKind := .option
deriving DecidableEq, Repr

def Choice.isOther (c : Choice) : Bool := c.kind = .other

inductive QuestionKind where
  | short
  | long
  | multipleChoice
deriving DecidableEq, Repr

structure Question where
  id : String
  kind : QuestionKind := .short
  text : Option String := none
  -- An empty description is shown, an absent one is not.
  description : Option String := none
  mask : Option String := none
  validation : Option Validation := none
  choices : List Choice := []
deriving BEq, DecidableEq

namespace Question

-- A question without text is left out of previews and submissions.
def isComplete (q : Question) : Bool := q.text.getD "" ≠ ""

def isRequired (q : Question) : Bool := q.validation.elim false Validation.required

def hasNumberRule (q : Question) : Bool := q.validation.elim false Validation.hasNumberRule

def choice? (q : Question) (id : String) : Option Choice := q.choices.find? (·.id = id)

end Question

structure Form where
  title : String
  description : String
  questions : List Question := []
deriving BEq, DecidableEq

namespace Form

-- Identifiers need not be distinct; the first question with an identifier is the one it names.
def question? (form : Form) (id : String) : Option Question := form.questions.find? (·.id = id)

def completeQuestions (form : Form) : List Question := form.questions.filter Question.isComplete

def isSubmittable (form : Form) : Bool := !form.completeQuestions.isEmpty

end Form

end Questionnaire
