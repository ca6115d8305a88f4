/-!
The texts a questionnaire falls back on, and the settings shared by editing and validation.
-/

namespace Questionnaire

structure Wording where
  required : String := "field required"
  defaultError : String := "An error occurred in this field"
  optionLabel : String := "Option"
  otherLabel : String := "Other"
  descriptionPlaceholder : String := "Add a description"
  defaultMask : String := "999"
  untitledForm : String := "Untitled form"
  formDescription : String := "Form description"
deriving DecidableEq, Repr

inductive OtherPolicy where
  | permissive
  | strict
deriving DecidableEq, Repr

structure Settings where
  otherPolicy : OtherPolicy := .permissive
  wording : Wording := {}
deriving DecidableEq, Repr

end Questionnaire
