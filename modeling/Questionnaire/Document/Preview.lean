import Questionnaire.Document.Form
import Questionnaire.Preview.Lines
/-!
Previews in documents. They are written for programs, with the members in the order of their keys.
-/

namespace Questionnaire.Preview

open Json

def Row.toJson (row : Row) : Value :=
  .map [("id",.text row.id),("selected",.bool row.selected),("value",.text row.label)]

-- `choices` tells a question with choices from all others, even when it has none.
def Field.toJson (field : Field) : Value :=
  .map ((if field.kind = .multipleChoice then
      [("choices",.list (field.rows.map Row.toJson))] else []) ++
    optional "currentValue" .text field.value ++
    [("description",field.description.elim .null .text)] ++
    optional "error" .text field.error ++
    [("id",.text field.id),
      ("inputType",.text (if field.numeric then "number" else "text")),
      ("label",.text field.label)] ++
    optional "mask" .text field.mask ++
    optional "otherText" .text field.customText ++
    [("required",.bool field.required),("type",.text field.kind.name)])

def toJson (preview : Preview) : Value :=
  .map [("description",.text preview.description),
    ("fields",.list (preview.fields.map Field.toJson)),
    ("status",.text preview.status.name),
    ("submittable",.bool preview.isSubmittable),
    ("title",.text preview.title)]

end Questionnaire.Preview
