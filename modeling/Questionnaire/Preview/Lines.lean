import Questionnaire.Preview
/-!
Previews as lines of text.
-/

namespace Questionnaire.Preview

def Status.name : Status → String
  | .empty => "empty"
  | .pending => "pending"
  | .invalid => "invalid"
  | .ready => "ready"

def Field.heading (field : Field) : String :=
  " - " ++ field.label ++ (if field.required then " *" else "") ++
    field.mask.elim "" (fun mask => " [" ++ mask ++ "]") ++ field.value.elim "" (" = " ++ ·)

def Row.line (row : Row) : String := (if row.selected then "   (x) " else "   ( ) ") ++ row.label

def Field.lines (field : Field) : List String :=
  field.heading :: ((field.description.map ("   " ++ ·)).toList ++ field.rows.map Row.line ++
    (field.customText.map ("   (x) " ++ ·)).toList ++ (field.error.map ("   ! " ++ ·)).toList)

def lines (preview : Preview) : List String :=
  ["Form: " ++ preview.title] ++
    (if preview.description = "" then [] else [preview.description]) ++
    ["Status: " ++ preview.status.name] ++
    (if preview.isSubmittable then preview.fields.flatMap Field.lines
    else ["Add at least one question with text to build the form."])

def text (preview : Preview) : String := "\n".intercalate preview.lines

end Questionnaire.Preview
