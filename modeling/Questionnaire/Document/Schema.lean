import Questionnaire.Document.Form
/-!
The schema of form documents, for programs that check or complete them. Every map is in the order of
its keys, but for the order that schemas give their own keywords.
-/

namespace Questionnaire.Schema

open Json

def texts (items : List String) : Value := .list (items.map .text)

def typed (name : String) : List (String × Value) := [("type",.text name)]

def described (text : String) : List (String × Value) := [("description",.text text)]

def reference (name : String) : List (String × Value) :=
  [("$ref",.text ("#/$defs/" ++ name))]

def withDefault (value : Value) : List (String × Value) := [("default",value)]

def listOf (name : String) : Value :=
  .map (typed "array" ++ withDefault (.list []) ++ [("items",.map (reference name))])

def orNull (name : String) : Value :=
  .map [("anyOf",.list [.map (reference name),.map (typed "null")])]

def text : Value := .map (typed "string")

def textOrNull : List (String × Value) := [("type",texts ["string","null"])]

def emptyText : Value := .map (typed "string" ++ withDefault (.text ""))

def double : Value := .map (typed "number" ++ [("format",.text "double")])

def oneOf (names : List String) : List (String × Value) := typed "string" ++ [("enum",texts names)]

def object (properties : List (String × Value)) (required : List String) :
    List (String × Value) :=
  typed "object" ++ [("properties",.map properties)] ++
    (if required.isEmpty then [] else [("required",texts required)])

def methods {α : Type} (tags : Tags α) (name : α → String) : Value :=
  .map (oneOf (tags.known.map Prod.fst ++ (tags.fallback.map name).toList))

def names {α : Type} (tags : Tags α) : List String := tags.known.map Prod.fst

def choice : Value :=
  .map (described "One selectable option of a multiple-choice question." ++
    object [("id",text),
      ("type",.map (reference "ChoiceKind" ++ withDefault (.text ChoiceKind.option.name))),
      ("value",text)] ["id","value"])

def choiceKind : Value :=
  .map (described "Distinguishes regular options from the single free-text \"Other\" entry." ++
    oneOf (names ChoiceKind.tags))

def boundRule (method : String) : Value :=
  .map (object [("errorMessage",emptyText),("method",.map (reference method)),("value",double)]
    ["method","value"])

def textRule : Value :=
  .map (described "`message` is the configured substring for `contains`/`nocontains`." ++
    object [("errorMessage",emptyText),("message",emptyText),
      ("method",.map (reference "TextMethod"))] ["method"])

def question : Value :=
  .map (described "Definition of a single form field." ++
    object [("id",text),
      ("mask",.map textOrNull),
      ("multipleChoices",listOf "Choice"),
      ("questionDescription",.map (described
        "`Some(\"\")` is a visible but empty description; `None` hides it." ++ textOrNull)),
      ("questionText",.map textOrNull),
      ("typeQuestion",
        .map (reference "QuestionType" ++ withDefault (.text QuestionKind.short.name))),
      ("validation",orNull "ValidationDocument")] ["id"])

def questionKind : Value :=
  .map (described "Answer shape of a question." ++ oneOf (names QuestionKind.tags))

def ruleKind : Value :=
  .map (described "Shape constraint selector (`type` in the document form)." ++
    oneOf (names RuleKind.tags))

def validation : Value :=
  .map (described ("Flat document form of [`ValidationSpec`]: " ++
      "`\x7bisRequired, type, number|text|length\x7d`.") ++
    object [("isRequired",.map (typed "boolean" ++ withDefault (.bool false))),
      ("length",orNull "LengthRule"),("number",orNull "NumberRule"),("text",orNull "TextRule"),
      ("type",orNull "RuleKind")] [])

def form : Value :=
  .map ([("$schema",.text "https://json-schema.org/draft/2020-12/schema"),
      ("title",.text "FormModel")] ++
    described "Top-level form snapshot consumed by renderers." ++
    object [("description",text),("questions",listOf "Question"),("title",text)]
      ["title","description"] ++
    [("$defs",.map [("Choice",choice),("ChoiceKind",choiceKind),
      ("LengthMethod",methods LengthMethod.tags LengthMethod.name),
      ("LengthRule",boundRule "LengthMethod"),
      ("NumberMethod",methods NumberMethod.tags NumberMethod.name),
      ("NumberRule",boundRule "NumberMethod"),
      ("Question",question),("QuestionType",questionKind),("RuleKind",ruleKind),
      ("TextMethod",methods TextMethod.tags TextMethod.name),("TextRule",textRule),
      ("ValidationDocument",validation)])])

end Questionnaire.Schema
