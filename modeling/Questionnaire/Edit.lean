import Questionnaire.Questions
/-!
Edits: the intents that turn one form into the next.
-/

namespace Questionnaire

inductive Edit where
  | setTitle (title : String)
  | setDescription (description : String)
  | createQuestion
  | duplicateQuestion (id : String)
  | removeQuestion (id : String)
  | setQuestionText (id : String) (text : Option String)
  | setQuestionDescription (id : String) (description : Option String)
  | setMask (id : String) (mask : Option String)
  | setKind (id : String) (kind : QuestionKind)
  | setValidation (id : String) (validation : Option Validation)
  | setRequired (id : String) (required : Bool)
  | setRuleKind (id : String) (kind : Option RuleKind)
  | addDescription (id : String)
  | addMask (id : String)
  | reorderQuestions (order : List String)
  | addChoice (id : String) (other : Bool)
  | renameChoice (id choice label : String)
  | removeChoice (id choice : String)
  | reorderChoices (id : String) (order : List String)
deriving BEq, DecidableEq

structure Outcome where
  result : Except Rejection Form
  ids : IdSource
  notices : List Notice

namespace Form

def fresh (wording : Wording) (ids : IdSource) : Form × IdSource :=
  let (question,ids) := Question.fresh wording ids
  (⟨wording.untitledForm,wording.formDescription,[question]⟩,ids)

def withQuestions (form : Form) (ids : IdSource) (questions : Noted (List Question)) : Outcome :=
  ⟨.ok { form with questions := questions.value },ids,questions.notices⟩

def addChoice (form : Form) (id : String) (other : Bool) (settings : Settings) (ids : IdSource) :
    Outcome :=
  match form.questions.find? (·.id = id) with
  | none => ⟨.ok form,ids,[.choiceForUnknownQuestion id]⟩
  | some q =>
    match Choices.add q.choices other settings ids with
    | .error rejection => ⟨.error rejection,ids,[.secondOther]⟩
    | .ok (choices,ids) =>
      form.withQuestions ids (Questions.update id ({ · with choices }) form.questions)

def apply (form : Form) (edit : Edit) (settings : Settings) (ids : IdSource) : Outcome :=
  let wording := settings.wording
  let change (id : String) (edit : Question → Question) : Outcome :=
    form.withQuestions ids (Questions.update id edit form.questions)
  match edit with
  | .setTitle title => ⟨.ok { form with title },ids,[]⟩
  | .setDescription description => ⟨.ok { form with description },ids,[]⟩
  | .createQuestion =>
    let (question,ids) := Question.fresh wording ids
    form.withQuestions ids ⟨form.questions ++ [question],[]⟩
  | .duplicateQuestion id =>
    let (questions,ids) := Questions.duplicate id ids form.questions
    form.withQuestions ids questions
  | .removeQuestion id => form.withQuestions ids ⟨Questions.remove id form.questions,[]⟩
  | .setQuestionText id text => change id ({ · with text })
  | .setQuestionDescription id description => change id ({ · with description })
  | .setMask id mask => change id ({ · with mask })
  | .setKind id kind => change id (Question.setKind kind)
  | .setValidation id validation => change id ({ · with validation })
  | .setRequired id required => change id (Question.setRequired required)
  | .setRuleKind id kind => change id (Question.setRuleKind kind wording)
  | .addDescription id => change id (Question.addDescription wording)
  | .addMask id => change id (Question.addMask wording)
  | .reorderQuestions order => form.withQuestions ids (Questions.reorder order form.questions)
  | .addChoice id other => form.addChoice id other settings ids
  | .renameChoice id choice label =>
    form.withQuestions ids
      (Questions.change id (Question.renameChoice choice label) form.questions)
  | .removeChoice id choice => change id fun q => { q with choices := Choices.remove choice q.choices }
  | .reorderChoices id order =>
    change id fun q => { q with choices := Choices.reorder order q.choices }

def applyAll (form : Form) (edits : List Edit) (settings : Settings) (ids : IdSource) : Outcome :=
  match edits with
  | [] => ⟨.ok form,ids,[]⟩
  | edit :: rest =>
    let first := form.apply edit settings ids
    match first.result with
    | .error _ => first
    | .ok next =>
      let others := next.applyAll rest settings first.ids
      { others with notices := first.notices ++ others.notices }

end Form

end Questionnaire
