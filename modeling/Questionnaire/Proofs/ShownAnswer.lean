import Mathlib.Logic.ExistsUnique
import Questionnaire.Proofs.Preview
import Questionnaire.Proofs.Selection
/-!
What a field shows of its answer: that there is none, the option that was picked, or a text of the respondent's own.
A field with choices shows exactly one of these, and it is the one its response stands for.
-/

namespace Questionnaire

def Selection.freeText? : Selection → Option String
  | .custom text => some text
  | .empty | .listed _ => none

namespace Preview

open Selection

def Row.of (selected : Bool) (c : Choice) : Row := ⟨c.id,c.label,selected⟩

-- Said of the rows and the box alone. Whoever sees them does not see the response.
def Field.Presents (choices : List Choice) (field : Field) : Selection → Prop
  | .empty => field.rows = choices.map (Row.of false) ∧ field.customText = none
  | .listed c =>
    (∃ before after, choices = before ++ c :: after ∧
      field.rows = before.map (Row.of false) ++ Row.of true c :: after.map (Row.of false)) ∧ field.customText = none
  | .custom text =>
    field.rows = (choices.filter fun c => c.kind = .option).map (Row.of false) ∧ field.customText = some text

variable {choices : List Choice} {field : Field} {q : Question} {one two : Selection}

theorem selected_unpicked (choices : List Choice) : (choices.map (Row.of false)).filter Row.selected = [] := by
  refine List.filter_eq_nil_iff.mpr fun row member => ?_
  obtain ⟨c,_,rfl⟩ := List.mem_map.mp member
  exact Bool.false_ne_true

theorem selected_picked {c : Choice} (presents : field.Presents choices (.listed c)) :
    c ∈ choices ∧ field.rows.filter Row.selected = [Row.of true c] := by
  obtain ⟨⟨before,after,rfl,rows⟩,_⟩ := presents
  refine ⟨by simp,?_⟩
  rw [rows,List.filter_append,List.filter_cons_of_pos rfl,selected_unpicked,selected_unpicked]
  rfl

-- The text in the box tells free text from the rest, the selected row tells the options apart.
theorem presents_unique (distinct : (choices.map Choice.id).Nodup) (first : field.Presents choices one)
    (second : field.Presents choices two) : one = two := by
  have unpicked {c : Choice} (empty : field.Presents choices .empty) (listed : field.Presents choices (.listed c)) : False := by
    have selected := (selected_picked listed).2
    rw [empty.1,selected_unpicked] at selected
    cases selected
  cases one with
  | empty =>
    cases two with
    | empty => rfl
    | listed c => exact (unpicked first second).elim
    | custom text => cases first.2.symm.trans second.2
  | listed c =>
    cases two with
    | empty => exact (unpicked second first).elim
    | listed d =>
      obtain ⟨held,selected⟩ := selected_picked first
      obtain ⟨heldToo,again⟩ := selected_picked second
      have same : Row.of true c = Row.of true d := List.singleton_inj.mp (selected.symm.trans again)
      rw [List.inj_on_of_nodup_map distinct held heldToo (congrArg Row.id same)]
    | custom text => cases first.2.symm.trans second.2
  | custom text =>
    cases two with
    | empty | listed => cases first.2.symm.trans second.2
    | custom other => rw [Option.some.inj (first.2.symm.trans second.2)]

theorem ofChoice_unpicked {c : Choice} {others : List Choice} (apart : ∀ other ∈ others, other.id ≠ c.id) :
    others.map (Row.ofChoice (.listed c)) = others.map (Row.of false) := by
  refine List.map_congr_left fun other member => ?_
  rw [Row.ofChoice,Row.of,decide_eq_false (Ne.symm (apart other member))]

theorem nothing_hidden {selection : Selection} (listed : selection.isCustom = false) (choices : List Choice) :
    (choices.filter fun c => !(selection.isCustom && c.isOther)) = choices := by
  refine List.filter_eq_self.mpr fun c _ => ?_
  rw [listed,Bool.false_and,Bool.not_false]

theorem customTextOf_choosing (choosing : q.kind = .multipleChoice) (value : Option String) :
    Field.customTextOf q value = (resolve q.choices value).freeText? := by
  rw [Field.customTextOf,choosing]
  cases resolve q.choices value <;> rfl

theorem customTextOf_other (other : q.kind ≠ .multipleChoice) (value : Option String) :
    Field.customTextOf q value = none := by
  rw [Field.customTextOf]
  split
  · exact absurd ‹_› other
  · rfl

theorem ofQuestion_presents (choosing : q.kind = .multipleChoice) (distinct : (q.choices.map Choice.id).Nodup)
    (value error : Option String) : (Field.ofQuestion q value error).Presents q.choices (resolve q.choices value) := by
  have shown : (Field.ofQuestion q value error).rows =
      (q.choices.filter fun c => !((resolve q.choices value).isCustom && c.isOther)).map
        (Row.ofChoice (resolve q.choices value)) := if_pos choosing
  have boxed : (Field.ofQuestion q value error).customText = (resolve q.choices value).freeText? :=
    customTextOf_choosing choosing value
  have stands := resolve_standsFor q.choices value
  generalize resolve q.choices value = selection at shown boxed stands
  cases stands with
  | absent | empty =>
    refine ⟨?_,boxed⟩
    rw [shown,nothing_hidden rfl]
    rfl
  | @listed before after c given split option first =>
    refine ⟨⟨before,after,split,?_⟩,boxed⟩
    rw [split,List.map_append,List.map_cons,List.nodup_middle,List.nodup_cons,← List.map_append] at distinct
    have apart : ∀ other ∈ before ++ after, other.id ≠ c.id := fun other member same =>
      distinct.1 (same ▸ List.mem_map_of_mem member)
    obtain ⟨earlier,later⟩ := List.forall_mem_append.mp apart
    have picked : Row.ofChoice (.listed c) c = Row.of true c := by
      rw [Row.ofChoice,Row.of,decide_eq_true rfl]
    rw [shown,nothing_hidden rfl,split,List.map_append,List.map_cons,ofChoice_unpicked earlier,ofChoice_unpicked later,
      picked]
  | @custom text given unlisted =>
    refine ⟨?_,boxed⟩
    have options : (fun c : Choice => !((Selection.custom text).isCustom && c.isOther)) = fun c => decide (c.kind = .option) := by
      funext c
      rcases c with ⟨_,_,_ | _⟩ <;> rfl
    rw [shown,options]
    rfl

-- Questions without text are not shown. Labels may repeat, and so may choices for free text and the
-- identifiers of questions.
theorem one_answer_shown {form : Form} {k : Nat} {q : Question} (asked : form.completeQuestions[k]? = some q)
    (responses : Option Responses) (wording : Wording) :
    ∃ field, (ofForm form responses wording).fields[k]? = some field ∧
      (q.kind ≠ .multipleChoice → field.rows = [] ∧ field.customText = none) ∧
      (q.kind = .multipleChoice → (q.choices.map Choice.id).Nodup →
        (∃! selection, field.Presents q.choices selection) ∧
        ∀ selection, field.Presents q.choices selection ↔
          StandsFor q.choices (responses.bind (·[q.id]?)) selection) := by
  let error := (responses.map (Submission.judge (Submission.entries form.questions wording))).bind (·.errors[q.id]?)
  refine ⟨.ofQuestion q ((responses.bind (·[q.id]?)).map q.shown) error,?_,?_,?_⟩
  · rw [ofForm,List.getElem?_map,asked]
    rfl
  · intro other
    exact ⟨if_neg other,customTextOf_other other _⟩
  · intro choosing distinct
    have unmasked : q.shown = id := by
      funext raw
      simp [Question.shown,Question.activeMask,choosing]
    rw [unmasked,Option.map_id_fun,id_eq]
    have presents := ofQuestion_presents choosing distinct (responses.bind (·[q.id]?)) error
    refine ⟨⟨_,presents,fun other again => presents_unique distinct again presents⟩,fun selection => ?_⟩
    rw [standsFor_iff]
    exact ⟨fun again => presents_unique distinct presents again,fun same => same ▸ presents⟩

-- Three choices share the label that was given, and one of them is for free text.
theorem first_red_selected :
    let other : Choice := ⟨"c-1","Red",.other⟩
    let red : Choice := ⟨"c-2","Red",.option⟩
    let again : Choice := ⟨"c-3","Red",.option⟩
    let color : Question := { id := "color", kind := .multipleChoice, text := some "Color", choices := [other,red,again] }
    let form : Form := ⟨"Survey","",[{ id := "draft" },color]⟩
    let responses : Responses := Std.ExtTreeMap.insert ∅ "color" "Red"
    form.completeQuestions[0]? = some color ∧ (color.choices.map Choice.id).Nodup ∧
      ∃ field, (ofForm form (some responses) {}).fields[0]? = some field ∧ field.Presents color.choices (.listed red) := by
  intro other red again color form responses
  have asked : form.completeQuestions[0]? = some color := rfl
  have distinct : (color.choices.map Choice.id).Nodup := by decide
  obtain ⟨field,shown,_,choosing⟩ := one_answer_shown asked (some responses) {}
  refine ⟨asked,distinct,field,shown,((choosing rfl distinct).2 _).mpr ?_⟩
  have response : (some responses).bind (·[color.id]?) = some red.label := by decide
  have split : color.choices = [other] ++ red :: [again] := rfl
  rw [response]
  exact .listed (by decide) split rfl (by decide)

end Preview
end Questionnaire
