import Mathlib.Data.List.Forall2
import Questionnaire.Proofs.Verdict
/-!
Handing in. The values of a verdict are dealt out again, each to the question it came from, and a
form is handed in exactly when there is something to hand in and no question refuses its answer.
-/

namespace Questionnaire

-- An answer as one question would hand it in.
def Question.HandsIn (q : Question) (wording : Wording) (responses : Responses) (given : Submitted) : Prop :=
  given.questionId = q.id ∧ q.text = some given.questionText ∧ q.judge wording responses = .ok given.answer

theorem Question.text_of_complete {q : Question} (complete : q.isComplete = true) : q.text = some (q.text.getD "") := by
  cases given : q.text with
  | none => simp [Question.isComplete,given] at complete
  | some text => rfl

theorem Question.handsIn_unique (wording : Wording) (responses : Responses) :
    Relator.RightUnique fun q => Question.HandsIn q wording responses := by
  rintro q ⟨id,text,answer⟩ ⟨otherId,otherText,otherAnswer⟩ ⟨named,asked,judged⟩ ⟨again,askedAgain,judgedAgain⟩
  cases named.trans again.symm
  cases asked.symm.trans askedAgain
  cases judged.symm.trans judgedAgain
  rfl

-- All that a submission has to ask of an entry.
def Entry.told (responses : Responses) (entry : Entry) : String × String × Except String Answer :=
  (entry.id,entry.text,entry.judge responses)

namespace Submission

open Verdict

variable {questions : List Question} {wording : Wording} {responses : Responses}

-- An identifier that is dealt once is not missed later.
theorem deal_eq_map {entries : List Entry} (distinct : (entries.map Entry.id).Nodup)
    (values : Std.ExtTreeMap String Answer) :
    deal entries values = entries.map fun entry => ⟨entry.id,entry.text,values[entry.id]?.getD .missing⟩ := by
  induction entries generalizing values with
  | nil => rfl
  | cons entry rest ih =>
    obtain ⟨alone,later⟩ := List.nodup_cons.mp distinct
    rw [deal,ih later,List.map_cons]
    congr 1
    refine List.map_congr_left fun other member => ?_
    have apart : entry.id ≠ other.id := fun same => alone (same ▸ List.mem_map_of_mem member)
    rw [Std.ExtTreeMap.getElem?_erase,if_neg (by simpa using apart)]

section

variable {one two : List Entry}

theorem judge_eq_foldl (entries : List Entry) (responses : Responses) :
    judge entries responses =
      (entries.map (Entry.told responses)).foldl (fun verdict told => verdict.record told.1 told.2.2) {} := by
  rw [judge,List.foldl_map]
  rfl

theorem deal_congr (same : one.map (fun entry => (entry.id,entry.text)) = two.map fun entry => (entry.id,entry.text))
    (values : Std.ExtTreeMap String Answer) : deal one values = deal two values := by
  induction one generalizing two values with
  | nil => rw [List.map_eq_nil_iff.mp same.symm]
  | cons entry rest ih =>
    obtain ⟨other,others,rfl,equal,rest⟩ := List.map_eq_cons_iff.mp same.symm
    obtain ⟨id,text⟩ := Prod.mk.inj equal
    rw [deal,deal,id,text,ih rest.symm]

theorem judge_congr (same : one.map (Entry.told responses) = two.map (Entry.told responses)) :
    judge one responses = judge two responses := by
  rw [judge_eq_foldl,judge_eq_foldl,same]

theorem submit_congr (same : one.map (Entry.told responses) = two.map (Entry.told responses)) :
    submit one responses = submit two responses := by
  have asked := congrArg (List.map fun told : String × String × Except String Answer => (told.1,told.2.1)) same
  rw [List.map_map,List.map_map] at asked
  have empty : one.isEmpty = two.isEmpty := by
    have long := congrArg List.length same
    rw [List.length_map,List.length_map] at long
    rw [Bool.eq_iff_iff,List.isEmpty_iff_length_eq_zero,List.isEmpty_iff_length_eq_zero,long]
  simp only [submit,empty,judge_congr same,deal_congr asked]

end

theorem entries_isEmpty_iff :
    (entries questions wording).isEmpty = true ↔ ∀ q ∈ questions, q.isComplete = false := by
  simp [entries]

theorem deal_handsIn (distinct : (questions.map Question.id).Nodup)
    (valid : (judge (entries questions wording) responses).isValid = true) :
    List.Forall₂ (fun q => Question.HandsIn q wording responses) (questions.filter Question.isComplete)
      (deal (entries questions wording) (judge (entries questions wording) responses).values) := by
  have exact := judge_exact distinct wording responses
  rw [deal_eq_map (entries_distinct distinct wording),entries,List.map_map,List.forall₂_map_right_iff,List.forall₂_same]
  intro q member
  obtain ⟨held,complete⟩ := List.mem_filter.mp member
  refine ⟨rfl,Question.text_of_complete complete,?_⟩
  cases judged : q.judge wording responses with
  | error message => exact absurd judged ((Verdict.exact_valid_iff exact).mp valid q held complete message)
  | ok answer =>
    have told : (judge (entries questions wording) responses).values[q.id]? = some answer :=
      (exact q.id (.ok answer)).mpr ⟨q,held,complete,rfl,judged⟩
    simp only [Function.comp_apply,Entry.ofQuestion]
    rw [← entries,told]
    rfl

theorem submit_empty (none : ∀ q ∈ questions, q.isComplete = false) :
    submit (entries questions wording) responses = .error .nothingToSubmit := by
  rw [submit,if_pos (entries_isEmpty_iff.mpr none)]

theorem submit_judged (some : ∃ q ∈ questions, q.isComplete = true) :
    submit (entries questions wording) responses =
      if (judge (entries questions wording) responses).isValid then
        .ok (deal (entries questions wording) (judge (entries questions wording) responses).values)
      else .error (.invalid (judge (entries questions wording) responses)) := by
  obtain ⟨q,member,complete⟩ := some
  have given : ¬ (entries questions wording).isEmpty = true := by
    intro empty
    rw [entries_isEmpty_iff.mp empty q member] at complete
    cases complete
  rw [submit,if_neg given]

theorem incomplete_or_complete (questions : List Question) :
    (∀ q ∈ questions, q.isComplete = false) ∨ ∃ q ∈ questions, q.isComplete = true := by
  by_cases complete : ∃ q ∈ questions, q.isComplete = true
  · exact .inr complete
  · exact .inl fun q member => Bool.eq_false_iff.mpr fun isOne => complete ⟨q,member,isOne⟩

theorem submit_nothing_iff :
    submit (entries questions wording) responses = .error .nothingToSubmit ↔ ∀ q ∈ questions, q.isComplete = false := by
  refine ⟨?_,submit_empty⟩
  intro refused
  rcases incomplete_or_complete questions with none | some
  · exact none
  · rw [submit_judged some] at refused
    split at refused <;> cases refused

theorem submit_invalid_iff (distinct : (questions.map Question.id).Nodup) {verdict : Verdict} :
    submit (entries questions wording) responses = .error (.invalid verdict) ↔
      verdict = judge (entries questions wording) responses ∧
        ∃ q ∈ questions, q.isComplete = true ∧ ∃ message, q.judge wording responses = .error message := by
  have valid := exact_valid_iff (judge_exact distinct wording responses)
  constructor
  · intro refused
    rcases incomplete_or_complete questions with none | some
    · rw [submit_empty none] at refused
      cases refused
    · rw [submit_judged some] at refused
      split at refused
      · cases refused
      · rename_i invalid
        cases refused
        refine ⟨rfl,?_⟩
        by_contra accepted
        exact invalid (valid.mpr fun q member complete message judged =>
          accepted ⟨q,member,complete,message,judged⟩)
  · rintro ⟨rfl,q,member,complete,message,judged⟩
    rw [submit_judged ⟨q,member,complete⟩,if_neg fun accepted => valid.mp accepted q member complete message judged]

theorem submit_ok_iff (distinct : (questions.map Question.id).Nodup) {answers : List Submitted} :
    submit (entries questions wording) responses = .ok answers ↔
      (∃ q ∈ questions, q.isComplete = true) ∧
        List.Forall₂ (fun q => Question.HandsIn q wording responses) (questions.filter Question.isComplete) answers := by
  have valid := exact_valid_iff (judge_exact distinct wording responses)
  constructor
  · intro accepted
    rcases incomplete_or_complete questions with none | some
    · rw [submit_empty none] at accepted
      cases accepted
    · rw [submit_judged some] at accepted
      split at accepted
      · rename_i valid
        cases accepted
        exact ⟨some,deal_handsIn distinct valid⟩
      · cases accepted
  · rintro ⟨some,handed⟩
    have answered : ∀ q ∈ questions.filter Question.isComplete, ∃ answer, q.judge wording responses = .ok answer :=
      ((List.forall₂_and_left _ _).mp (handed.imp fun q given one => ⟨⟨given.answer,one.2.2⟩,one⟩)).1
    have accepted : (judge (entries questions wording) responses).isValid = true := by
      refine valid.mpr fun q member complete message judged => ?_
      obtain ⟨answer,taken⟩ := answered q (List.mem_filter.mpr ⟨member,complete⟩)
      rw [taken] at judged
      cases judged
    rw [submit_judged some,if_pos accepted,
      (Question.handsIn_unique wording responses).forall₂ (deal_handsIn distinct accepted) handed]

-- Who answers what is nobody else's business: neither the order of the questions nor a response to
-- another one, asked or not, is seen by a question with an identifier of its own.
theorem fields_independent {questions : List Question} (distinct : (questions.map Question.id).Nodup)
    (wording : Wording) :
    let verdict := judge (entries questions wording)
    (∀ responses,
      (verdict responses).Exact questions wording responses ∧
      (∀ id, ¬ (id ∈ (verdict responses).errors ∧ id ∈ (verdict responses).values)) ∧
      (∀ id, (id ∈ (verdict responses).errors ∨ id ∈ (verdict responses).values) ↔
        ∃ q ∈ questions, q.isComplete = true ∧ q.id = id) ∧
      ((verdict responses).isValid = true ↔ (verdict responses).errors = ∅)) ∧
    (∀ others : List Question, others.Perm questions → judge (entries others wording) = verdict) ∧
    (∀ responses changed : Responses,
      (∀ q ∈ questions, q.isComplete = true → responses[q.id]? = changed[q.id]?) →
        verdict responses = verdict changed) ∧
    (∀ (responses changed : Responses) (id : String), (∀ other, other ≠ id → responses[other]? = changed[other]?) →
      ∀ other, other ≠ id →
        (verdict responses).errors[other]? = (verdict changed).errors[other]? ∧
        (verdict responses).values[other]? = (verdict changed).values[other]?) ∧
    ∀ responses,
      (submit (entries questions wording) responses = .error .nothingToSubmit ↔
        ∀ q ∈ questions, q.isComplete = false) ∧
      (∀ refused, submit (entries questions wording) responses = .error (.invalid refused) ↔
        refused = verdict responses ∧
          ∃ q ∈ questions, q.isComplete = true ∧ ∃ message, q.judge wording responses = .error message) ∧
      ∀ answers, submit (entries questions wording) responses = .ok answers ↔
        (∃ q ∈ questions, q.isComplete = true) ∧
          List.Forall₂ (fun q => Question.HandsIn q wording responses) (questions.filter Question.isComplete) answers := by
  intro verdict
  have exact := judge_exact distinct wording
  refine ⟨?_,?_,?_,?_,?_⟩
  · intro responses
    exact ⟨exact responses,exact_apart distinct (exact responses),exact_covers (exact responses),Std.ExtTreeMap.isEmpty_iff⟩
  · intro others same
    funext responses
    have distinctOthers : (others.map Question.id).Nodup := (same.map Question.id).nodup_iff.mpr distinct
    exact exact_unique (judge_exact distinctOthers wording responses) (exact_perm same (exact responses))
  · intro responses changed same
    exact exact_unique (exact responses) (exact_congr same (exact changed))
  · intro responses changed id same other apart
    have told := exact_tells (exact responses) (exact changed) (same other apart)
    exact ⟨Option.ext fun message => told (.error message),Option.ext fun answer => told (.ok answer)⟩
  · intro responses
    exact ⟨submit_nothing_iff,fun _ => submit_invalid_iff distinct,fun _ => submit_ok_iff distinct⟩

-- A required question left out, an answer that is refused, and a question nobody sees.
theorem minor_fields_independent :
    let name : Question := { id := "name", text := some "Name", validation := some ⟨true,.free⟩ }
    let age : Question :=
      { id := "age", text := some "Age", validation := some ⟨false,.number ⟨.greaterThanOrEqual,18.0,"Adults only"⟩⟩ }
    let draft : Question := { id := "draft", validation := some ⟨true,.free⟩ }
    let minor : Responses := Std.ExtTreeMap.insert ∅ "age" "16"
    let verdict := judge (entries [name,age,draft] {}) minor
    ([name,age,draft].map Question.id).Nodup ∧
      verdict.errors["name"]? = some "field required" ∧ verdict.errors["age"]? = some "Adults only" ∧
      (¬ ("draft" ∈ verdict.errors ∨ "draft" ∈ verdict.values)) ∧
      submit (entries [name,age,draft] {}) minor = .error (.invalid verdict) := by
  intro name age draft minor verdict
  have distinct : ([name,age,draft].map Question.id).Nodup := by decide
  obtain ⟨told,_,_,_,handed⟩ := fields_independent distinct {}
  obtain ⟨exact,_,covers,_⟩ := told minor
  have unnamed : name.judge {} minor = .error "field required" := by
    have silent : minor["name"]? = none := by decide
    rw [Question.judge,silent]
    rfl
  have tooYoung : age.judge {} minor = .error "Adults only" := by
    have given : minor["age"]? = some "16" := by decide
    rw [Question.judge,given]
    rfl
  refine ⟨distinct,?_,?_,?_,?_⟩
  · exact (exact "name" (.error "field required")).mpr ⟨name,by simp,rfl,rfl,unnamed⟩
  · exact (exact "age" (.error "Adults only")).mpr ⟨age,by simp,rfl,rfl,tooYoung⟩
  · rw [covers "draft"]
    decide
  · exact ((handed minor).2.1 verdict).mpr ⟨rfl,age,by simp,rfl,"Adults only",tooYoung⟩

end Submission
end Questionnaire
