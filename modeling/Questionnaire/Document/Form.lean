import Questionnaire.Document.Rule
import Questionnaire.Question
/-!
Forms, questions and choices in documents.
-/

namespace Questionnaire

open Json

def ChoiceKind.name : ChoiceKind → String
  | .option => "option"
  | .other => "other"

def ChoiceKind.tags : Tags ChoiceKind where
  known := [ChoiceKind.option,.other].map fun kind => (kind.name,kind)

def Choice.record : Record Choice where
  title := "struct Choice"
  blank := ⟨"","",.option⟩
  fields := [
    .of "id" true readText fun id choice => { choice with id },
    .of "value" true readText fun label choice => { choice with label },
    .of "type" false ChoiceKind.tags.read fun kind choice => { choice with kind }]

def Choice.toJson (choice : Choice) : Value :=
  .map [("id",.text choice.id),("value",.text choice.label),("type",.text choice.kind.name)]

def QuestionKind.name : QuestionKind → String
  | .short => "short"
  | .long => "long"
  | .multipleChoice => "multipleChoice"

def QuestionKind.tags : Tags QuestionKind where
  known := [QuestionKind.short,.long,.multipleChoice].map fun kind => (kind.name,kind)

def Question.record : Record Question where
  title := "struct Question"
  blank := { id := "" }
  fields := [
    .of "id" true readText fun id question => { question with id },
    .of "typeQuestion" false QuestionKind.tags.read fun kind question => { question with kind },
    .of "questionText" false (readOption readText) fun text question => { question with text },
    .of "questionDescription" false (readOption readText) fun description question =>
      { question with description },
    .of "mask" false (readOption readText) fun mask question => { question with mask },
    .of "validation" false (readOption Validation.read) fun validation question =>
      { question with validation },
    .of "multipleChoices" false (readList Choice.record.read) fun choices question =>
      { question with choices }]

def Question.toJson (question : Question) : Value :=
  .map ([("id",.text question.id),("typeQuestion",.text question.kind.name)] ++
    (optional "questionText" .text question.text ++
      optional "questionDescription" .text question.description ++
      optional "mask" .text question.mask ++
      optional "validation" Validation.toJson question.validation) ++
    [("multipleChoices",.list (question.choices.map Choice.toJson))])

def Form.record : Record Form where
  title := "struct FormModel"
  blank := ⟨"","",[]⟩
  fields := [
    .of "title" true readText fun title form => { form with title },
    .of "description" true readText fun description form => { form with description },
    .of "questions" false (readList Question.record.read) fun questions form =>
      { form with questions }]

def Form.toJson (form : Form) : Value :=
  .map [("title",.text form.title),("description",.text form.description),
    ("questions",.list (form.questions.map Question.toJson))]

def Form.ofText (text : String) : Read Form :=
  (Document.ofText text.toList).read (Form.record.read .fromText)

end Questionnaire
