import Questionnaire.Question
/-!
Which choice a response stands for.
-/

namespace Questionnaire

inductive Selection where
  | empty
  | listed (choice : Choice)
  | custom (text : String)
deriving DecidableEq, Repr

namespace Selection

-- The first option labelled like the response; failing that the response is free text, even when it
-- is the label of the choice for free text.
def resolve (choices : List Choice) (response : Option String) : Selection :=
  match response with
  | none => .empty
  | some text =>
    if text = "" then .empty
    else match choices.find? fun c => !c.isOther && c.label = text with
      | some c => .listed c
      | none => .custom text

def isCustom : Selection → Bool
  | .custom _ => true
  | _ => false

-- While a free text is given, its box takes the place of the choices for free text.
def rows (choices : List Choice) (response : Option String) : List Choice :=
  choices.filter fun c => !((resolve choices response).isCustom && c.isOther)

end Selection

end Questionnaire
