import Questionnaire.Mask
import Questionnaire.Selection
import Questionnaire.Submission
/-!
Previews: a form as a respondent sees it, with the responses given so far. Questions without text do
not appear.
-/

namespace Questionnaire

namespace Question

def activeMask (q : Question) : Option String := if q.kind = .short then q.mask else none

def shown (q : Question) (raw : String) : String :=
  q.activeMask.elim raw fun template => Mask.apply template raw

end Question

namespace Preview

inductive Status where
  | empty
  | pending
  | invalid
  | ready
deriving DecidableEq, Repr

structure Row where
  id : String
  label : String
  selected : Bool
deriving DecidableEq, Repr

structure Field where
  id : String
  label : String
  description : Option String
  kind : QuestionKind
  required : Bool
  numeric : Bool
  mask : Option String
  value : Option String
  rows : List Row
  customText : Option String
  error : Option String
deriving DecidableEq, Repr

-- Choices may share an identifier; a selection then shows on all of them.
def Row.ofChoice (selection : Selection) (c : Choice) : Row where
  id := c.id
  label := c.label
  selected := match selection with
    | .listed listed => listed.id = c.id
    | _ => false

def Field.rowsOf (q : Question) (value : Option String) : List Row :=
  if q.kind = .multipleChoice then
    (Selection.rows q.choices value).map (Row.ofChoice (Selection.resolve q.choices value))
  else []

def Field.customTextOf (q : Question) (value : Option String) : Option String :=
  match q.kind,Selection.resolve q.choices value with
  | .multipleChoice,.custom text => some text
  | _,_ => none

def Field.ofQuestion (q : Question) (value error : Option String) : Field where
  id := q.id
  label := q.text.getD ""
  description := q.description
  kind := q.kind
  required := q.isRequired
  numeric := q.hasNumberRule
  mask := q.activeMask
  value
  rows := rowsOf q value
  customText := customTextOf q value
  error

def Status.of (entries : List Entry) (verdict : Option Verdict) : Status :=
  if entries.isEmpty then .empty
  else match verdict with
    | none => .pending
    | some verdict => if verdict.isValid then .ready else .invalid

end Preview

structure Preview where
  title : String
  description : String
  status : Preview.Status
  fields : List Preview.Field
deriving DecidableEq, Repr

namespace Preview

def isSubmittable (preview : Preview) : Bool := preview.status ≠ .empty

-- Without responses nothing is judged, so no field shows an error.
def ofForm (form : Form) (responses : Option Responses) (wording : Wording) : Preview :=
  let entries := Submission.entries form.questions wording
  let verdict := responses.map (Submission.judge entries)
  { title := form.title
    description := form.description
    status := .of entries verdict
    fields := form.completeQuestions.map fun q =>
      .ofQuestion q ((responses.bind (·[q.id]?)).map q.shown) (verdict.bind (·.errors[q.id]?)) }

end Preview

end Questionnaire
