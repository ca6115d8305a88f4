import Questionnaire.Document.Settings
import Questionnaire.Proofs.Document.Edit
import Questionnaire.Responses
/-!
Saving a form or edits and loading them again loses nothing, in either layout, as long as the text of
every number in their rules reads back as that number. Responses are texts and always load again.
-/

namespace Questionnaire

open Json

variable {text : String}

-- One of the two layouts in which documents are written.
def Json.Value.IsText (v : Value) (text : String) : Prop := text = v.compact ∨ text = v.indented

theorem Json.Value.ofText_isText {v : Value} (faithful : v.Faithful) (saved : v.IsText text) :
    Document.ofText text.toList = ⟨v.tree,true⟩ := by
  rcases saved with rfl | rfl
  · exact Value.ofText_compact faithful
  · exact Value.ofText_indented faithful

theorem faithful_of_thresholds {v : Value} {thresholds : List Float} (numbers : v.numbers = thresholds.map .double)
    (readsBack : ∀ x ∈ thresholds, (Number.double x).ReadsBack) : v.Faithful := by
  intro n mem
  rw [numbers] at mem
  obtain ⟨x,given,rfl⟩ := List.mem_map.mp mem
  exact readsBack x given

theorem validation_reloads {v : Validation} (readsBack : ∀ x ∈ v.rule.thresholds, (Number.double x).ReadsBack)
    (saved : v.toJson.IsText text) : (Document.ofText text.toList).read (Validation.read .fromText) = .ok v := by
  have faithful := faithful_of_thresholds (validation_numbers v) readsBack
  rw [Value.ofText_isText faithful saved,Document.read_ended]
  exact validation_restored v .fromText

theorem form_reloads {form : Form} (readsBack : ∀ x ∈ form.thresholds, (Number.double x).ReadsBack)
    (saved : form.toJson.IsText text) : Form.ofText text = .ok form := by
  have faithful := faithful_of_thresholds (form_numbers form) readsBack
  rw [Form.ofText,Value.ofText_isText faithful saved,Document.read_ended]
  exact form_restored form .fromText

theorem edit_reloads {edit : Edit} (readsBack : ∀ x ∈ edit.thresholds, (Number.double x).ReadsBack)
    (saved : edit.toJson.IsText text) : Edit.ofText text = .ok edit := by
  have faithful := faithful_of_thresholds edit.toJson_numbers readsBack
  rw [Edit.ofText,Value.ofText_isText faithful saved,Document.read_ended]
  exact edit.restored 124

theorem edits_reload {edits : List Edit} (readsBack : ∀ x ∈ edits.flatMap Edit.thresholds, (Number.double x).ReadsBack)
    (saved : (Value.list (edits.map Edit.toJson)).IsText text) : Edit.allOfText text = .ok edits := by
  have numbers : (Value.list (edits.map Edit.toJson)).numbers = (edits.flatMap Edit.thresholds).map .double := by
    simp [Value.numbers,Value.itemNumbers_eq,List.flatMap_map,Edit.toJson_numbers,List.map_flatMap]
  rw [Edit.allOfText,Value.ofText_isText (faithful_of_thresholds numbers readsBack) saved,
    Document.read_ended]
  exact Edit.all_restored edits

namespace Responses

def toJson (responses : Responses) : Value :=
  .map (responses.toList.map fun (id,raw) => (id,.text raw))

theorem byKey_toJson (responses : Responses) :
    Value.byKey (responses.toList.map fun (id,raw) => (id,.text raw)) = responses.map fun _ raw => Value.text raw := by
  refine Std.ExtTreeMap.ext_getElem? fun id => ?_
  rw [Std.ExtTreeMap.getElem?_map,Value.byKey]
  cases given : responses[id]? with
  | none =>
    refine Std.ExtTreeMap.getElem?_ofList_of_contains_eq_false (Bool.eq_false_iff.mpr fun listed => ?_)
    simp only [List.contains_iff_mem,List.map_map,List.mem_map,Function.comp_apply] at listed
    obtain ⟨⟨_,raw⟩,held,rfl⟩ := listed
    rw [Std.ExtTreeMap.mem_toList_iff_getElem?_eq_some.mp held] at given
    cases given
  | some raw =>
    have listed : (id,raw) ∈ responses.toList := Std.ExtTreeMap.mem_toList_iff_getElem?_eq_some.mpr given
    refine Std.ExtTreeMap.getElem?_ofList_of_mem Std.ReflCmp.compare_self ?_ (List.mem_map.mpr ⟨_,listed,rfl⟩)
    exact List.pairwise_map.mpr Std.ExtTreeMap.distinct_keys_toList

theorem ofValue_toJson (responses : Responses) : ofValue responses.toJson = .ok responses := by
  have scalar : ((responses.map fun _ raw => Value.text raw).toList.find? fun member => !isScalar member.2) = none := by
    simp [Std.ExtTreeMap.toList_map,isScalar]
  have same : ((responses.map fun _ raw => Value.text raw).filterMap fun _ value => rawText? value) = responses := by
    rw [← Std.ExtTreeMap.toList_inj,Std.ExtTreeMap.toList_filterMap,Std.ExtTreeMap.toList_map,List.filterMap_map]
    exact List.filterMap_some
  rw [toJson,ofValue,byKey_toJson,scalar,same]

theorem toJson_faithful (responses : Responses) : responses.toJson.Faithful := by
  have none : responses.toJson.numbers = [] := by
    simp [toJson,Value.numbers,Value.memberNumbers_eq,List.flatMap_map]
  intro n mem
  rw [none] at mem
  cases mem

theorem valueOfText_toJson {responses : Responses} (saved : responses.toJson.IsText text) :
    valueOfText text = .ok responses.toJson := by
  have shallow : responses.toJson.Fits deepest := by
    refine .map fun member mem => ?_
    obtain ⟨_,_,rfl⟩ := List.mem_map.mp mem
    exact .text _
  rw [valueOfText,Value.ofText_isText responses.toJson_faithful saved,Document.read_ended,readAny,Value.copy_tree shallow]
  rfl

end Responses

-- Reading back is asked of the numbers at hand only, since not every finite double does
-- (`Number.some_double_misread`). Texts always do.
theorem saving_loses_nothing (form : Form) (edits : List Edit)
    (finite : ∀ x ∈ form.thresholds ++ edits.flatMap Edit.thresholds, x.isFinite = true)
    (readsBack : ∀ x ∈ form.thresholds ++ edits.flatMap Edit.thresholds,
      x.isFinite = true → (Number.double x).ReadsBack) :
    (∀ text, form.toJson.IsText text → Form.ofText text = .ok form) ∧
    (∀ edit ∈ edits, ∀ text, edit.toJson.IsText text → Edit.ofText text = .ok edit) ∧
    (∀ text, (Value.list (edits.map Edit.toJson)).IsText text → Edit.allOfText text = .ok edits) ∧
    ∀ text, form.toJson.IsText text → ∀ others settings ids,
      (Form.ofText text).map (fun loaded => loaded.applyAll others settings ids) =
        .ok (form.applyAll others settings ids) := by
  have each : ∀ x ∈ form.thresholds ++ edits.flatMap Edit.thresholds, (Number.double x).ReadsBack :=
    fun x mem => readsBack x mem (finite x mem)
  obtain ⟨ofForm,ofEdits⟩ := List.forall_mem_append.mp each
  have reloads : ∀ text, form.toJson.IsText text → Form.ofText text = .ok form :=
    fun _ saved => form_reloads ofForm saved
  refine ⟨reloads,?_,fun _ saved => edits_reload ofEdits saved,?_⟩
  · intro edit mem text saved
    exact edit_reloads (fun x given => ofEdits x (List.mem_flatMap.mpr ⟨edit,mem,given⟩)) saved
  · intro text saved others settings ids
    rw [reloads text saved]
    rfl

-- A text that may be absent and is, and a method nobody knows.
theorem survey_reloads :
    let age : Question := { id := "age", validation := some ⟨true,.number ⟨.greaterThanOrEqual,18.0,"Adults only"⟩⟩ }
    let survey : Form := ⟨"Survey","",[age]⟩
    let edits : List Edit := [.setMask "age" none,.setValidation "age" (some ⟨false,.length ⟨.unrecognized,18.0,""⟩⟩)]
    (∀ x ∈ survey.thresholds ++ edits.flatMap Edit.thresholds, x.isFinite = true ∧ (Number.double x).ReadsBack) ∧
      Form.ofText survey.toJson.indented = .ok survey ∧
      Edit.allOfText (Value.list (edits.map Edit.toJson)).compact = .ok edits := by
  intro age survey edits
  have text : (Number.double 18.0).text = ['1','8','.','0'] := by decide +kernel
  have read : Spelling.scan (Number.double 18.0).text = .ok (⟨false,['1','8'],some ['0'],none⟩,[]) := by
    rw [text]
    rfl
  have eighteen : (18.0 : Float).isFinite = true ∧ (Number.double 18.0).ReadsBack :=
    ⟨by decide +kernel,(Number.readsBack_iff read).mpr (by decide +kernel)⟩
  have only : survey.thresholds ++ edits.flatMap Edit.thresholds = [18.0,18.0] := rfl
  have given : ∀ x ∈ survey.thresholds ++ edits.flatMap Edit.thresholds,
      x.isFinite = true ∧ (Number.double x).ReadsBack := by
    rw [only]
    simpa using eighteen
  obtain ⟨form,-,all,-⟩ :=
    saving_loses_nothing survey edits (fun x mem => (given x mem).1) fun x mem _ => (given x mem).2
  exact ⟨given,form _ (.inr rfl),all _ (.inl rfl)⟩

end Questionnaire
