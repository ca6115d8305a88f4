import Questionnaire.IdSource
import Questionnaire.Notice
import Questionnaire.Question
/-!
Editing the choices of a question. Renaming and removing go by identifier, reordering by label.
-/

namespace Questionnaire

inductive Rejection where
  | otherExists
deriving DecidableEq, Repr

def Rejection.message : Rejection → String
  | .otherExists => "the question already has an \"Other\" choice"

namespace Choices

def optionLabel (wording : Wording) (place : Nat) : String :=
  wording.optionLabel ++ " " ++ (if place < 10 then "0" else "") ++ toString place

def hasOther (choices : List Choice) : Bool := choices.any Choice.isOther

def refuses (settings : Settings) (choices : List Choice) (other : Bool) : Bool :=
  other && settings.otherPolicy = .strict && hasOther choices

def fresh (wording : Wording) (choices : List Choice) (other : Bool) (id : String) : Choice :=
  if other then ⟨id,wording.otherLabel,.other⟩
  else ⟨id,optionLabel wording (choices.length + 1),.option⟩

def add (choices : List Choice) (other : Bool) (settings : Settings) (ids : IdSource) :
    Except Rejection (List Choice × IdSource) :=
  if refuses settings choices other then .error .otherExists
  else
    let (id,ids) := ids.draw
    .ok (choices ++ [fresh settings.wording choices other id],ids)

def rename (id label : String) : List Choice → Noted (List Choice)
  | [] => ⟨[],[.unknownChoice id]⟩
  | c :: rest =>
    if c.id = id then
      if c.isOther then ⟨c :: rest,[.renameOfOther id]⟩ else ⟨{ c with label } :: rest,[]⟩
    else
      let renamed := rename id label rest
      ⟨c :: renamed.value,renamed.notices⟩

def remove (id : String) (choices : List Choice) : List Choice := choices.filter (·.id ≠ id)

-- Labels may repeat: the first choice with a label then stands wherever the label is asked for,
-- and the others are lost.
def reorder (order : List String) (choices : List Choice) : List Choice :=
  order.filterMap fun label => choices.find? (·.label = label)

end Choices

end Questionnaire
