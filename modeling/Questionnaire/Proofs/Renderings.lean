import Questionnaire.Document.Preview
import Questionnaire.Proofs.Json.Sorted
/-!
The two ways a preview is written. Programs are told all there is to a preview, so people are shown nothing that
programs do not learn.
-/

namespace Questionnaire

open Json

theorem lookup_optional {α : Type} (name key : String) (write : α → Value) (a : Option α) :
    (optional name write a).lookup key = if key = name then a.map write else none := by
  cases a with
  | none => simp [optional]
  | some a =>
    by_cases same : key = name
    · simp [optional,same]
    · simp [optional,List.lookup_cons,beq_false_of_ne same,same]

theorem QuestionKind.name_injective {one two : QuestionKind} (same : one.name = two.name) : one = two := by
  revert same
  cases one <;> cases two <;> decide

namespace Preview

theorem Status.name_injective {one two : Status} (same : one.name = two.name) : one = two := by
  revert same
  cases one <;> cases two <;> decide

theorem Row.toJson_injective {one two : Row} (same : one.toJson = two.toJson) : one = two := by
  obtain ⟨id,label,selected⟩ := one
  obtain ⟨idToo,labelToo,selectedToo⟩ := two
  simpa [Row.toJson,and_comm,and_assoc] using same

theorem Row.toJson_sorted (row : Row) : row.toJson.sorted = row.toJson := by
  apply Value.sorted_map
  · have names : (["id","selected","value"] : List String).Pairwise (compare · · = .lt) := by decide
    exact names
  · simp [Value.sorted]

namespace Field

variable {one two : Field}

-- What a field tells programs under a name.
def member? (field : Field) (name : String) : Option Value :=
  match field.toJson with
  | .map members => members.lookup name
  | _ => none

theorem member?_exact (field : Field) :
    field.member? "choices" = (if field.kind = .multipleChoice then some (.list (field.rows.map Row.toJson)) else none) ∧
    field.member? "currentValue" = field.value.map .text ∧
    field.member? "description" = some (field.description.elim .null .text) ∧
    field.member? "error" = field.error.map .text ∧
    field.member? "id" = some (.text field.id) ∧
    field.member? "inputType" = some (.text (if field.numeric then "number" else "text")) ∧
    field.member? "label" = some (.text field.label) ∧
    field.member? "mask" = field.mask.map .text ∧
    field.member? "otherText" = field.customText.map .text ∧
    field.member? "required" = some (.bool field.required) ∧
    field.member? "type" = some (.text field.kind.name) := by
  by_cases choosing : field.kind = .multipleChoice <;>
    simp [member?,toJson,choosing,List.lookup_append,List.lookup_cons,lookup_optional]

-- Only a question with choices has rows, so that programs are told of all rows.
def RowsTold (field : Field) : Prop := field.kind ≠ .multipleChoice → field.rows = []

theorem texts_injective : Function.Injective (Option.map Value.text) :=
  Option.map_injective fun _ _ => Value.text.inj

theorem described_injective {a b : Option String} (same : a.elim Value.null .text = b.elim .null .text) : a = b := by
  cases a <;> cases b <;> cases same <;> rfl

theorem inputType_injective {a b : Bool} (same : (if a then "number" else "text") = if b then "number" else "text") :
    a = b := by
  revert same
  cases a <;> cases b <;> decide

theorem toJson_injective (told : one.RowsTold) (toldToo : two.RowsTold) (same : one.toJson = two.toJson) : one = two := by
  have agree {name : String} {a b : Option Value} (first : one.member? name = a) (second : two.member? name = b) :
      a = b := by
    rw [← first,← second,member?,member?,same]
  obtain ⟨choices,value,description,error,id,inputType,label,mask,otherText,required,kind⟩ := member?_exact one
  obtain ⟨choicesToo,valueToo,descriptionToo,errorToo,idToo,inputTypeToo,labelToo,maskToo,otherTextToo,requiredToo,kindToo⟩ :=
    member?_exact two
  have kinds := QuestionKind.name_injective (Value.text.inj (Option.some.inj (agree kind kindToo)))
  have rows : one.rows = two.rows := by
    by_cases choosing : one.kind = .multipleChoice
    · have listed := agree choices choicesToo
      rw [if_pos choosing,if_pos (kinds ▸ choosing)] at listed
      have written := Value.list.inj (Option.some.inj listed)
      exact List.map_injective_iff.mpr (fun _ _ => Row.toJson_injective) written
    · rw [told choosing,toldToo (kinds ▸ choosing)]
  have values := texts_injective (agree value valueToo)
  have errors := texts_injective (agree error errorToo)
  have masks := texts_injective (agree mask maskToo)
  have customTexts := texts_injective (agree otherText otherTextToo)
  have descriptions := described_injective (Option.some.inj (agree description descriptionToo))
  have ids := Value.text.inj (Option.some.inj (agree id idToo))
  have labels := Value.text.inj (Option.some.inj (agree label labelToo))
  have numerics := inputType_injective (Value.text.inj (Option.some.inj (agree inputType inputTypeToo)))
  have demands := Value.bool.inj (Option.some.inj (agree required requiredToo))
  cases one
  cases two
  rw [mk.injEq]
  exact ⟨ids,labels,descriptions,kinds,demands,numerics,masks,values,rows,customTexts,errors⟩

-- Which members a field has varies; the names they go by, and their order, do not.
theorem names_sublist (field : Field) : ∃ members, field.toJson = .map members ∧
    (members.map Prod.fst).Sublist ["choices","currentValue","description","error","id","inputType","label","mask",
      "otherText","required","type"] := by
  have choices : ((if field.kind = .multipleChoice then [("choices",Value.list (field.rows.map Row.toJson))]
      else []).map Prod.fst).Sublist ["choices"] := by
    split <;> simp
  have named (name : String) (a : Option String) : ((optional name Value.text a).map Prod.fst).Sublist [name] := by
    cases a <;> simp [optional]
  refine ⟨_,rfl,?_⟩
  simp only [List.map_append]
  exact (((((((choices.append (named _ _)).append (.refl _)).append (named _ _)).append (.refl _)).append
    (named _ _)).append (named _ _)).append (.refl _))

theorem toJson_sorted (field : Field) : field.toJson.sorted = field.toJson := by
  have texts (name : String) (a : Option String) : ∀ member ∈ optional name Value.text a, member.2.sorted = member.2 := by
    cases a <;> simp [optional,Value.sorted]
  have rows : (Value.list (field.rows.map Row.toJson)).sorted = .list (field.rows.map Row.toJson) :=
    Value.sorted_list (List.forall_mem_map.mpr fun row _ => row.toJson_sorted)
  have description : (field.description.elim Value.null .text).sorted = field.description.elim .null .text := by
    cases field.description <;> rfl
  obtain ⟨members,written,names⟩ := names_sublist field
  rw [written]
  apply Value.sorted_map
  · exact List.Pairwise.sublist names (by decide)
  · cases written
    simp only [List.forall_mem_append,and_assoc]
    refine ⟨?_,texts _ _,by simp [description],texts _ _,by simp [Value.sorted],texts _ _,texts _ _,by simp [Value.sorted]⟩
    split <;> simp [rows]

end Field

theorem toJson_sorted (preview : Preview) : preview.toJson.sorted = preview.toJson := by
  apply Value.sorted_map
  · have names : (["description","fields","status","submittable","title"] : List String).Pairwise (compare · · = .lt) := by
      decide
    exact names
  · have fields : (Value.list (preview.fields.map Field.toJson)).sorted = .list (preview.fields.map Field.toJson) :=
      Value.sorted_list (List.forall_mem_map.mpr fun field _ => field.toJson_sorted)
    simp only [List.forall_mem_cons,fields]
    simp [Value.sorted]

theorem toJson_injective {one two : Preview} (told : ∀ field ∈ one.fields, field.RowsTold)
    (toldToo : ∀ field ∈ two.fields, field.RowsTold) (same : one.toJson = two.toJson) : one = two := by
  obtain ⟨title,description,status,fields⟩ := one
  obtain ⟨titleToo,descriptionToo,statusToo,fieldsToo⟩ := two
  obtain ⟨sameDescription,sameFields,sameStatus,-,sameTitle⟩ := by
    simpa only [toJson,Value.map.injEq,List.cons.injEq,Prod.mk.injEq,Value.text.injEq,Value.list.injEq,true_and,
      and_true] using same
  have listed : fields = fieldsToo := by
    clear same
    induction fields generalizing fieldsToo with
    | nil => exact (List.map_eq_nil_iff.mp sameFields.symm).symm
    | cons field rest ih =>
      obtain ⟨other,others,rfl,first,remaining⟩ := List.map_eq_cons_iff.mp sameFields.symm
      rw [List.forall_mem_cons] at told toldToo
      rw [Field.toJson_injective told.1 toldToo.1 first.symm,ih told.2 others toldToo.2 remaining.symm]
  rw [sameTitle,sameDescription,Status.name_injective sameStatus,listed]

theorem ofForm_rowsTold (form : Form) (responses : Option Responses) (wording : Wording) :
    ∀ field ∈ (ofForm form responses wording).fields, field.RowsTold :=
  List.forall_mem_map.mpr fun _ _ unlisted => if_neg unlisted

theorem text_determined (form formToo : Form) (responses responsesToo : Option Responses) (wording wordingToo : Wording)
    (same : (ofForm form responses wording).toJson.sorted = (ofForm formToo responsesToo wordingToo).toJson.sorted) :
    (ofForm form responses wording).text = (ofForm formToo responsesToo wordingToo).text := by
  rw [toJson_sorted,toJson_sorted] at same
  rw [toJson_injective (ofForm_rowsTold form responses wording) (ofForm_rowsTold formToo responsesToo wordingToo) same]

-- Choices of a question that has none, a question without text and an answer to it are shown to nobody.
theorem drafts_shown_alike :
    let year : Question := { id := "year", text := some "Year", mask := some "9999" }
    let plain : Form := ⟨"Visit","",[year]⟩
    let draft : Form := ⟨"Visit","",[{ year with choices := [⟨"past","Long ago",.option⟩] },{ id := "spare" }]⟩
    let answers : Responses := .ofList [("year","1987")]
    let more : Responses := .ofList [("spare","0"),("year","1987")]
    let wording : Wording := { required := "Please fill in" }
    plain ≠ draft ∧ answers ≠ more ∧
      (ofForm plain (some answers) {}).toJson.sorted = (ofForm draft (some more) wording).toJson.sorted ∧
      (ofForm plain (some answers) {}).text = (ofForm draft (some more) wording).text ∧
      (ofForm plain (some answers) {}).text = "Form: Visit\nStatus: ready\n - Year [9999] = 1987" := by
  intro year plain draft answers more wording
  have shown : ofForm plain (some answers) {} = ofForm draft (some more) wording := by decide +kernel
  have same := congrArg (fun preview => preview.toJson.sorted) shown
  have text := text_determined plain draft (some answers) (some more) {} wording same
  refine ⟨by decide,fun equal => ?_,same,text,by decide +kernel⟩
  have spare := congrArg (·["spare"]?) equal
  revert spare
  decide +kernel

end Preview
end Questionnaire
