import Questionnaire.Choices
/-!
Editing the questions of a form. An edit that names a question nobody has leaves the list as it is
and says so in a notice.
-/

namespace Questionnaire

def Question.fresh (wording : Wording) (ids : IdSource) : Question × IdSource :=
  let (id,ids) := ids.draw
  let (choice,ids) := ids.draw
  ({ id, choices := [⟨choice,Choices.optionLabel wording 1,.option⟩] },ids)

namespace Questions

def change (id : String) (edit : Question → Noted Question) : List Question → Noted (List Question)
  | [] => ⟨[],[.unknownQuestion id]⟩
  | q :: rest =>
    if q.id = id then
      let edited := edit q
      ⟨edited.value :: rest,edited.notices⟩
    else
      let changed := change id edit rest
      ⟨q :: changed.value,changed.notices⟩

def update (id : String) (edit : Question → Question) (questions : List Question) :
    Noted (List Question) :=
  change id (fun q => ⟨edit q,[]⟩) questions

def duplicate (id : String) (ids : IdSource) (questions : List Question) :
    Noted (List Question) × IdSource :=
  match questions.find? (·.id = id) with
  | none => (⟨questions,[.duplicateOfUnknownQuestion id]⟩,ids)
  | some q =>
    let (copy,ids) := ids.draw
    (⟨questions ++ [{ q with id := copy, mask := none }],[]⟩,ids)

def remove (id : String) (questions : List Question) : List Question :=
  questions.filter (·.id ≠ id)

def isOrderOf (order : List String) (questions : List Question) : Bool :=
  let ids := questions.map Question.id
  order.length = questions.length && decide order.Nodup && order.all ids.contains &&
    ids.all order.contains

def reorder (order : List String) (questions : List Question) : Noted (List Question) :=
  if isOrderOf order questions then
    ⟨order.filterMap fun id => questions.find? (·.id = id),[]⟩
  else ⟨questions,[.notAPermutation order]⟩

end Questions

namespace Question

-- A question with choices keeps no validation, a long one none that asks for a number.
def setKind (kind : QuestionKind) (q : Question) : Question :=
  let drops := match kind with
    | .multipleChoice => true
    | .long => q.hasNumberRule
    | .short => false
  { q with kind, validation := if drops then none else q.validation }

def setRequired (required : Bool) (q : Question) : Question :=
  { q with validation := some { q.validation.getD {} with required } }

def setRuleKind (kind : Option RuleKind) (wording : Wording) (q : Question) : Question :=
  let rule := kind.elim Rule.free (Rule.initial · wording)
  { q with validation := some ⟨q.isRequired,rule⟩ }

def addDescription (wording : Wording) (q : Question) : Question :=
  { q with description := some (q.description.getD wording.descriptionPlaceholder) }

def addMask (wording : Wording) (q : Question) : Question :=
  if q.kind = .short then { q with mask := some (q.mask.getD wording.defaultMask) } else q

def renameChoice (choice label : String) (q : Question) : Noted Question :=
  let renamed := Choices.rename choice label q.choices
  ⟨{ q with choices := renamed.value },renamed.notices⟩

end Question

end Questionnaire
