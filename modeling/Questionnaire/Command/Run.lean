import Questionnaire.Command.Arguments
import Questionnaire.Command.Files
import Questionnaire.Document.Edit
import Questionnaire.Document.Preview
import Questionnaire.Document.Schema
import Questionnaire.Document.Settings
/-!
What a command does: the files it reads, the one it may write, and what it prints. Reading is a
function from paths to texts, and a command writes at most once, when nothing can fail any more but
the writing itself.
-/

namespace Questionnaire.Command

open Json

inductive Failure where
  | settingsFile (fault : FileFault)
  | settings (problem : Problem)
  | file (fault : FileFault)
  | document (problem : Problem)
  | responses (refusal : Responses.Refusal)
  | rejected (rejection : Rejection)
  | nothingToSubmit
  | invalid

def problemText (problem : Problem) : String := "Error(" ++ Text.visible problem.message ++ ")"

def Failure.message : Failure → String
  | .settingsFile fault => "Io(" ++ fault.text ++ ")"
  | .settings problem => "Parse(" ++ problemText problem ++ ")"
  | .file fault => fault.text
  | .document problem => problemText problem
  | .responses refusal => Text.visible refusal.message
  | .rejected .otherExists => "OtherChoiceExists"
  | .nothingToSubmit => "NothingToSubmit"
  | .invalid => "\"validation failed\""

-- The output may stand beside a failure; a file is written before anything is printed.
structure Report where
  written : Option (String × String) := none
  lines : List String := []
  failure : Option Failure := none
  notices : List Notice := []

namespace Report

def failed (failure : Failure) : Report := { failure := some failure }

def output (report : Report) : String := String.join (report.lines.map (· ++ "\n"))

def exitCode (report : Report) : Nat := if report.failure.isSome then 1 else 0

-- Where writing fails nothing is printed, and only the directories on the way may have been made.
def settle (report : Report) (files : Files) : Report × Files :=
  match report.written with
  | none => (report,files)
  | some (path,content) =>
    match files.write path content with
    | .ok files => (report,files)
    | .error fault => (failed (.file fault),(files.makeWay path).1)

end Report

abbrev Shelf := String → Except FileFault String

abbrev Running := Except Failure

namespace Shelf

def settings (shelf : Shelf) : Option String → Running Settings
  | none => .ok {}
  | some path => do
    let text ← (shelf path).mapError .settingsFile
    (Settings.ofText text).mapError .settings

def load {α : Type} (shelf : Shelf) (ofText : String → Read α) (path : String) : Running α := do
  let text ← (shelf path).mapError .file
  (ofText text).mapError .document

def responses (shelf : Shelf) (path : String) : Running Responses := do
  (Responses.ofValue (← shelf.load Responses.valueOfText path)).mapError .responses

end Shelf

def save (path : String) (form : Form) : Option (String × String) :=
  some (path,form.toJson.indented)

def titled (form : Form) (title description : Option String) : Form :=
  { form with title := title.getD form.title, description := description.getD form.description }

def verdictLine (valid : Bool) : String :=
  "Validation result: " ++ (if valid then "valid" else "invalid")

def answerLine (submitted : Submitted) : String :=
  "  " ++ submitted.questionText ++ ": " ++ submitted.answer.display

-- By question, not by identifier: questions that share an identifier share its message.
def errorLines (form : Form) (verdict : Verdict) : List String :=
  form.completeQuestions.filterMap fun q =>
    verdict.errors[q.id]?.map fun message =>
      "  " ++ q.text.getD "" ++ " (" ++ q.id ++ ") - " ++ message

def validation (form : Form) (responses : Responses) (wording : Wording) : Report :=
  let notices := Submission.notices form.questions wording
  match Submission.submit (Submission.entries form.questions wording) responses with
  | .ok submitted => { lines := verdictLine true :: submitted.map answerLine, notices }
  | .error .nothingToSubmit => { failure := some .nothingToSubmit, notices }
  | .error (.invalid verdict) =>
    { lines := verdictLine false :: "Errors:" :: errorLines form verdict
      failure := some .invalid
      notices }

def edition (form : Form) (edits : List Edit) (target : String) (settings : Settings)
    (ids : IdSource) : Report :=
  let outcome := form.applyAll edits settings ids
  match outcome.result with
  | .error rejection => { failure := some (.rejected rejection), notices := outcome.notices }
  | .ok edited =>
    { written := save target edited
      lines := ["Applied " ++ toString edits.length ++ " edit(s); " ++
        toString edited.questions.length ++ " question(s) written to " ++ target]
      notices := outcome.notices }

def Task.run (task : Task) (shelf : Shelf) (settings : Settings) (ids : IdSource) :
    Running Report := do
  match task with
  | .new out title description =>
    let (form,_) := Form.fresh settings.wording ids
    return { written := save out (titled form title description), lines := ["Created " ++ out] }
  | .edit path edits out =>
    let form ← shelf.load Form.ofText path
    return edition form (← shelf.load Edit.allOfText edits) (out.getD path) settings ids
  | .validate path responses =>
    let form ← shelf.load Form.ofText path
    return validation form (← shelf.responses responses) settings.wording
  | .preview path responses format =>
    let form ← shelf.load Form.ofText path
    let responses ← responses.mapM shelf.responses
    let preview := Preview.ofForm form responses settings.wording
    return {
      lines := [match format with
        | .text => preview.text
        | .json => preview.toJson.indented]
      notices := Submission.notices form.questions settings.wording }
  | .mask template input => return { lines := [Mask.apply template input] }
  | .schema => return { lines := [Schema.form.indented] }

-- The settings come first, from the file named on the command line or else from the one that
-- `fallback` names.
def Invocation.run (invocation : Invocation) (shelf : Shelf) (fallback : Option String)
    (ids : IdSource) : Report :=
  let report : Running Report := do
    let settings ← shelf.settings (invocation.config <|> fallback)
    invocation.task.run shelf settings ids
  match report with
  | .ok report => report
  | .error failure => .failed failure

def Task.sources : Task → List String
  | .edit form edits _ => [form,edits]
  | .validate form responses => [form,responses]
  | .preview form responses _ => form :: responses.toList
  | .new .. | .mask .. | .schema => []

end Questionnaire.Command
