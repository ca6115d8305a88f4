import Questionnaire.Document.Form
import Questionnaire.Edit
/-!
Edits in documents. The member `op` names the edit and may stand anywhere, so the other members are
kept whole before any of them is read.
-/

namespace Questionnaire

open Json

namespace Edit

structure Parts where
  id : String := ""
  title : String := ""
  description : String := ""
  text : Option String := none
  kind : QuestionKind := .short
  validation : Option Validation := none
  required : Bool := false
  ruleKind : Option RuleKind := none
  order : List String := []
  other : Bool := false
  choice : String := ""
  label : String := ""

namespace Parts

def idField : FieldReader Parts := .of "id" true readText fun id parts => { parts with id }

def textField (name : String) : FieldReader Parts :=
  .of name false (readOption readText) fun text parts => { parts with text }

def orderField : FieldReader Parts :=
  .of "order" true (readList readText) fun order parts => { parts with order }

def choiceField : FieldReader Parts :=
  .of "choiceId" true readText fun choice parts => { parts with choice }

end Parts

structure Shape where
  name : String
  variant : String
  fields : List (FieldReader Parts)
  build : Parts → Edit

open Parts in
def shapes : List Shape := [
  ⟨"set_title","SetTitle",[.of "title" true readText fun title parts => { parts with title }],
    fun parts => .setTitle parts.title⟩,
  ⟨"set_description","SetDescription",
    [.of "description" true readText fun description parts => { parts with description }],
    fun parts => .setDescription parts.description⟩,
  ⟨"create_question","CreateQuestion",[],fun _ => .createQuestion⟩,
  ⟨"duplicate_question","DuplicateQuestion",[idField],fun parts => .duplicateQuestion parts.id⟩,
  ⟨"remove_question","RemoveQuestion",[idField],fun parts => .removeQuestion parts.id⟩,
  ⟨"set_question_text","SetQuestionText",[idField,textField "text"],
    fun parts => .setQuestionText parts.id parts.text⟩,
  ⟨"set_question_description","SetQuestionDescription",[idField,textField "description"],
    fun parts => .setQuestionDescription parts.id parts.text⟩,
  ⟨"set_mask","SetMask",[idField,textField "mask"],fun parts => .setMask parts.id parts.text⟩,
  ⟨"set_type","SetType",
    [idField,.of "typeQuestion" true QuestionKind.tags.read fun kind parts => { parts with kind }],
    fun parts => .setKind parts.id parts.kind⟩,
  ⟨"set_validation","SetValidation",
    [idField,.of "validation" false (readOption Validation.read) fun validation parts =>
      { parts with validation }],
    fun parts => .setValidation parts.id parts.validation⟩,
  ⟨"set_required","SetRequired",
    [idField,.of "required" true readBool fun required parts => { parts with required }],
    fun parts => .setRequired parts.id parts.required⟩,
  ⟨"set_rule_kind","SetRuleKind",
    [idField,.of "type" false (readOption RuleKind.tags.read) fun ruleKind parts =>
      { parts with ruleKind }],
    fun parts => .setRuleKind parts.id parts.ruleKind⟩,
  ⟨"add_description","AddDescription",[idField],fun parts => .addDescription parts.id⟩,
  ⟨"add_mask","AddMask",[idField],fun parts => .addMask parts.id⟩,
  ⟨"reorder_questions","ReorderQuestions",[orderField],
    fun parts => .reorderQuestions parts.order⟩,
  ⟨"add_choice","AddChoice",
    [idField,.of "other" false readBool fun other parts => { parts with other }],
    fun parts => .addChoice parts.id parts.other⟩,
  ⟨"rename_choice","RenameChoice",
    [idField,choiceField,.of "value" true readText fun label parts => { parts with label }],
    fun parts => .renameChoice parts.id parts.choice parts.label⟩,
  ⟨"remove_choice","RemoveChoice",[idField,choiceField],
    fun parts => .removeChoice parts.id parts.choice⟩,
  ⟨"reorder_choices","ReorderChoices",[idField,orderField],
    fun parts => .reorderChoices parts.id parts.order⟩]

def Shape.record (shape : Shape) : Record Parts where
  title := "struct variant Edit::" ++ shape.variant
  blank := {}
  fields := shape.fields

def Shape.read (shape : Shape) (t : Tree) : Read Edit :=
  (shape.record.read .fromCopy t).map shape.build

def readName : Tree → Read Shape
  | .text (.ok name) =>
    match shapes.find? (·.name = name) with
    | some shape => .ok shape
    | none => .error (.unknownVariant name (shapes.map Shape.name))
  | t => mismatch "variant identifier" t

def splitName (levels : Nat) : Members → Option Shape → Read (Option Shape × Members)
  | .closed,shape => .ok (shape,.closed)
  | .fault place,_ => malformed place.kept
  | .stray _,_ => malformed .keyNotText
  | .cons (.error fault) _ _,_ => malformed fault
  | .cons (.ok key) value rest,shape =>
    if key = "op" then
      match shape with
      | some _ => .error (.duplicateField "op")
      | none => do splitName levels rest (some (← readName value))
    else do
      discard <| lift (value.copy levels)
      let (shape,others) ← splitName levels rest shape
      return (shape,.cons (.ok key) value others)

-- At most so many levels of lists and maps, the edit included. A list gives the name first and then
-- the fields in their order.
def read (levels : Nat) : Tree → Read Edit
  | .map members => do
    match ← splitName (levels - 1) members none with
    | (none,_) => .error (.missingField "op")
    | (some shape,others) => shape.read (.map others)
  | .list (.cons name rest) => do
    let shape ← readName name
    discard <| lift (rest.copy (levels - 1))
    shape.read (.list rest)
  | .list .closed => .error (.missingField "op")
  | .list (.fault place) => malformed place.kept
  | t => mismatch "internally tagged enum Edit" t

def ofText (text : String) : Read Edit := (Document.ofText text.toList).read (read deepest)

def readAll : Tree → Read (List Edit) := readList (fun _ => read (deepest - 1)) .fromText

def allOfText (text : String) : Read (List Edit) :=
  (Document.ofText text.toList).read readAll

def orNull {α : Type} (write : α → Value) (a : Option α) : Value := a.elim .null write

def toJson (edit : Edit) : Value :=
  let op (name : String) (members : List (String × Value)) : Value :=
    .map (("op",.text name) :: members)
  let texts (items : List String) : Value := .list (items.map .text)
  match edit with
  | .setTitle title => op "set_title" [("title",.text title)]
  | .setDescription description => op "set_description" [("description",.text description)]
  | .createQuestion => op "create_question" []
  | .duplicateQuestion id => op "duplicate_question" [("id",.text id)]
  | .removeQuestion id => op "remove_question" [("id",.text id)]
  | .setQuestionText id text => op "set_question_text" [("id",.text id),("text",orNull .text text)]
  | .setQuestionDescription id description =>
    op "set_question_description" [("id",.text id),("description",orNull .text description)]
  | .setMask id mask => op "set_mask" [("id",.text id),("mask",orNull .text mask)]
  | .setKind id kind => op "set_type" [("id",.text id),("typeQuestion",.text kind.name)]
  | .setValidation id validation =>
    op "set_validation" [("id",.text id),("validation",orNull Validation.toJson validation)]
  | .setRequired id required => op "set_required" [("id",.text id),("required",.bool required)]
  | .setRuleKind id kind =>
    op "set_rule_kind" [("id",.text id),("type",orNull (fun kind => .text kind.name) kind)]
  | .addDescription id => op "add_description" [("id",.text id)]
  | .addMask id => op "add_mask" [("id",.text id)]
  | .reorderQuestions order => op "reorder_questions" [("order",texts order)]
  | .addChoice id other => op "add_choice" [("id",.text id),("other",.bool other)]
  | .renameChoice id choice label =>
    op "rename_choice" [("id",.text id),("choiceId",.text choice),("value",.text label)]
  | .removeChoice id choice => op "remove_choice" [("id",.text id),("choiceId",.text choice)]
  | .reorderChoices id order => op "reorder_choices" [("id",.text id),("order",texts order)]

end Edit

end Questionnaire
