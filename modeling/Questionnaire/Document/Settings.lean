import Questionnaire.Json.Reading
import Questionnaire.Text.Blank
import Questionnaire.Wording
/-!
Settings in documents. Every part may be left out, down to a blank text.
-/

namespace Questionnaire

open Json

def OtherPolicy.name : OtherPolicy → String
  | .permissive => "permissive"
  | .strict => "strict"

def OtherPolicy.tags : Tags OtherPolicy where
  known := [OtherPolicy.permissive,.strict].map fun policy => (policy.name,policy)

def Wording.record : Record Wording where
  title := "struct Messages"
  blank := {}
  fields := [
    .of "required" false readText fun required wording => { wording with required },
    .of "defaultError" false readText fun defaultError wording => { wording with defaultError },
    .of "optionLabel" false readText fun optionLabel wording => { wording with optionLabel },
    .of "otherLabel" false readText fun otherLabel wording => { wording with otherLabel },
    .of "descriptionPlaceholder" false readText fun descriptionPlaceholder wording =>
      { wording with descriptionPlaceholder },
    .of "defaultMask" false readText fun defaultMask wording => { wording with defaultMask },
    .of "untitledForm" false readText fun untitledForm wording => { wording with untitledForm },
    .of "formDescription" false readText fun formDescription wording =>
      { wording with formDescription }]

def Wording.toJson (wording : Wording) : Value :=
  .map [("required",.text wording.required),("defaultError",.text wording.defaultError),
    ("optionLabel",.text wording.optionLabel),("otherLabel",.text wording.otherLabel),
    ("descriptionPlaceholder",.text wording.descriptionPlaceholder),
    ("defaultMask",.text wording.defaultMask),("untitledForm",.text wording.untitledForm),
    ("formDescription",.text wording.formDescription)]

namespace Settings

def record : Record Settings where
  title := "struct FormConfig"
  blank := {}
  fields := [
    .of "otherPolicy" false OtherPolicy.tags.read fun otherPolicy settings =>
      { settings with otherPolicy },
    .of "messages" false Wording.record.read fun wording settings => { settings with wording }]

def toJson (settings : Settings) : Value :=
  .map [("otherPolicy",.text settings.otherPolicy.name),("messages",settings.wording.toJson)]

def ofText (text : String) : Read Settings :=
  if Text.allBlank text.toList then .ok {}
  else (Document.ofText text.toList).read (record.read .fromText)

end Settings

end Questionnaire
