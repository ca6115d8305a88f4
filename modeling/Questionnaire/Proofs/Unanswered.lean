import Questionnaire.Proofs.Agreement
import Questionnaire.Proofs.Judgement
import Questionnaire.Proofs.Submission
/-!
Questions that stay unanswered in a submission. Values are kept by identifier and each is dealt once, so
of the questions that share an identifier the first gets the answer the last one made of it, and the others
get none, required or not.
-/

namespace Questionnaire

theorem Question.optional_of_unanswered {q : Question} {wording : Wording} {responses : Responses} {answer : Answer}
    (accepted : q.judge wording responses = .ok answer) (silent : responses[q.id]? = none) : q.isRequired = false := by
  rw [judge,silent] at accepted
  have optional := (Validator.answer_none accepted).1
  unfold isRequired
  cases given : q.validation with
  | none => rfl
  | some v =>
    rw [given,Validator.compile] at optional
    cases required : v.required with
    | false => exact required
    | true => simp [required] at optional

namespace Submission

open Verdict

variable {form : Form} {wording : Wording} {responses : Responses} {answers : List Submitted}

theorem deal_getElem? (entries : List Entry) (values : Std.ExtTreeMap String Answer) (k : Nat) :
    (deal entries values)[k]? = entries[k]?.map fun entry =>
      ⟨entry.id,entry.text,
        if entry.id ∈ (entries.take k).map Entry.id then .missing else values[entry.id]?.getD .missing⟩ := by
  induction entries generalizing values k with
  | nil => rfl
  | cons first rest ih =>
    cases k with
    | zero => rfl
    | succ k =>
      rw [deal,List.getElem?_cons_succ,List.getElem?_cons_succ,ih]
      refine congrArg (rest[k]?.map ·) (funext fun entry => ?_)
      have before : entry.id ∈ ((first :: rest).take (k + 1)).map Entry.id ↔
          entry.id = first.id ∨ entry.id ∈ (rest.take k).map Entry.id := List.mem_cons
      simp only [before,Std.ExtTreeMap.getElem?_erase,Std.LawfulEqCmp.compare_eq_iff_eq]
      by_cases same : entry.id = first.id
      · simp [same]
      · simp [same,Ne.symm same]

-- Where every entry has something to show, the last one with an identifier is the one that counts.
theorem last?_of_shown {α : Type} {show? : Entry → Option α} {id : String} {entries : List Entry}
    (shown : ∀ entry ∈ entries, ∃ a, show? entry = some a) :
    last? show? id entries = (entries.reverse.find? fun entry => entry.id = id).bind show? := by
  have general : ∀ backwards : List Entry, (∀ entry ∈ backwards, ∃ a, show? entry = some a) →
      (backwards.findSome? fun entry => if entry.id = id then show? entry else none) =
        (backwards.find? fun entry => entry.id = id).bind show? := by
    intro backwards
    induction backwards with
    | nil => exact fun _ => rfl
    | cons entry rest ih =>
      intro shown
      obtain ⟨⟨a,first⟩,others⟩ := List.forall_mem_cons.mp shown
      by_cases named : entry.id = id
      · simp [named,first]
      · simp [named,ih others]
  exact general entries.reverse fun entry member => shown entry (List.mem_reverse.mp member)

theorem judge_of_valid {entries : List Entry} (valid : (judge entries responses).isValid = true) :
    ∀ entry ∈ entries, ∃ answer, entry.judge responses = .ok answer := by
  intro entry member
  have silent := Verdict.isValid_iff.mp valid entry.id
  rw [judge_errors] at silent
  have nothing := List.findSome?_eq_none_iff.mp silent entry (List.mem_reverse.mpr member)
  rw [if_pos rfl] at nothing
  cases judged : entry.judge responses with
  | ok answer => exact ⟨answer,rfl⟩
  | error message => simp [judged,refusal?] at nothing

theorem entries_eq_map (form : Form) (wording : Wording) :
    entries form.questions wording = form.completeQuestions.map (Entry.ofQuestion wording) := rfl

theorem judged_of_valid (valid : (form.verdict responses wording).isValid = true) {q : Question}
    (asked : q ∈ form.completeQuestions) : ∃ answer, q.judge wording responses = .ok answer :=
  judge_of_valid valid (Entry.ofQuestion wording q) (List.mem_map_of_mem asked)

theorem values_of_valid (valid : (form.verdict responses wording).isValid = true) (id : String) :
    (form.verdict responses wording).values[id]? =
      (form.completeQuestions.reverse.find? fun q => q.id = id).bind fun q => (q.judge wording responses).toOption := by
  have shown : ∀ entry ∈ entries form.questions wording, ∃ answer, (entry.judge responses).toOption = some answer := by
    intro entry member
    obtain ⟨answer,judged⟩ := judge_of_valid valid entry member
    exact ⟨answer,toOption_eq_some.mpr judged⟩
  rw [Form.verdict,judge_values,last?_of_shown shown,entries_eq_map,← List.map_reverse,List.find?_map,Option.bind_map]
  rfl

theorem submit_eq_ok (accepted : submit (entries form.questions wording) responses = .ok answers) :
    (form.verdict responses wording).isValid = true ∧
      answers = deal (entries form.questions wording) (form.verdict responses wording).values := by
  unfold submit at accepted
  split at accepted
  · cases accepted
  · dsimp only at accepted
    split at accepted
    · rename_i valid
      exact ⟨valid,(Except.ok.inj accepted).symm⟩
    · cases accepted

-- The answer at a place of the submission, by the last question with the identifier asked for there.
theorem submit_answers (accepted : submit (entries form.questions wording) responses = .ok answers) {k : Nat}
    {q : Question} (asked : form.completeQuestions[k]? = some q) :
    ∃ last answer, form.completeQuestions.reverse.find? (·.id = q.id) = some last ∧
      last.judge wording responses = .ok answer ∧
      answers[k]? = some ⟨q.id,q.text.getD "",
        if q.id ∈ (form.completeQuestions.take k).map Question.id then .missing else answer⟩ := by
  obtain ⟨valid,rfl⟩ := submit_eq_ok accepted
  obtain ⟨last,found⟩ : ∃ last, form.completeQuestions.reverse.find? (·.id = q.id) = some last := by
    refine Option.isSome_iff_exists.mp (List.find?_isSome.mpr ⟨q,?_,decide_eq_true rfl⟩)
    exact List.mem_reverse.mpr (List.mem_of_getElem? asked)
  have held : last ∈ form.completeQuestions := List.mem_reverse.mp (List.mem_of_find?_eq_some found)
  obtain ⟨answer,judged⟩ := judged_of_valid valid held
  have value : (form.verdict responses wording).values[q.id]? = some answer := by
    rw [values_of_valid valid,found,Option.bind_some,judged]
    rfl
  refine ⟨last,answer,found,judged,?_⟩
  have before : ((entries form.questions wording).take k).map Entry.id =
      (form.completeQuestions.take k).map Question.id := by
    rw [entries_eq_map,← List.map_take,List.map_map]
    rfl
  have own : (Entry.ofQuestion wording q).id = q.id := rfl
  rw [deal_getElem?,before,entries_eq_map,List.getElem?_map,asked,Option.map_some,Option.map_some,own,value]
  rfl

theorem deal_asked (entries : List Entry) (values : Std.ExtTreeMap String Answer) :
    (deal entries values).map (fun given => (given.questionId,given.questionText)) =
      entries.map fun entry => (entry.id,entry.text) := by
  induction entries generalizing values with
  | nil => rfl
  | cons entry rest ih => rw [deal,List.map_cons,List.map_cons,ih]

theorem submit_asked (accepted : submit (entries form.questions wording) responses = .ok answers) :
    answers.map (fun given => (given.questionId,given.questionText)) =
      form.completeQuestions.map fun q => (q.id,q.text.getD "") := by
  obtain ⟨_,rfl⟩ := submit_eq_ok accepted
  rw [deal_asked,entries_eq_map,List.map_map]
  rfl

-- A question that nobody answered is not required, whichever of those with its identifier is asked.
theorem required_answered (accepted : submit (entries form.questions wording) responses = .ok answers) {q : Question}
    (asked : q ∈ form.completeQuestions) (required : q.isRequired = true) : responses[q.id]? ≠ none := by
  intro silent
  obtain ⟨valid,_⟩ := submit_eq_ok accepted
  obtain ⟨answer,judged⟩ := judged_of_valid valid asked
  rw [Question.optional_of_unanswered judged silent] at required
  cases required

-- Where an earlier question has the identifier, the answer is gone: nothing is left for this one.
theorem required_unanswered_iff (accepted : submit (entries form.questions wording) responses = .ok answers) :
    answers.map (fun given => (given.questionId,given.questionText)) =
      form.completeQuestions.map (fun q => (q.id,q.text.getD "")) ∧
    ∀ k q, form.completeQuestions[k]? = some q →
      let repeated := q.id ∈ (form.completeQuestions.take k).map Question.id
      ∃ given, answers[k]? = some given ∧
        (given.answer = .missing ↔ responses[q.id]? = none ∨ repeated) ∧
        (q.isRequired = true → (given.answer = .missing ↔ repeated)) ∧
        (¬ repeated → ∃ last, form.completeQuestions.reverse.find? (·.id = q.id) = some last ∧
          last.judge wording responses = .ok given.answer) := by
  refine ⟨submit_asked accepted,?_⟩
  intro k q asked repeated
  obtain ⟨last,answer,found,judged,given⟩ := submit_answers accepted asked
  have answered (required : q.isRequired = true) : responses[q.id]? ≠ none :=
    required_answered accepted (List.mem_of_getElem? asked) required
  by_cases again : repeated
  · rw [if_pos again] at given
    exact ⟨_,given,iff_of_true rfl (.inr again),fun _ => iff_of_true rfl again,fun first => absurd again first⟩
  · rw [if_neg again] at given
    have named : last.id = q.id := by simpa using List.find?_some found
    have silent : answer = .missing ↔ responses[q.id]? = none := by
      rw [← named]
      exact Validator.answer_missing_iff judged
    refine ⟨_,given,?_,?_,fun _ => ⟨last,found,judged⟩⟩
    · rw [silent,or_iff_left again]
    · intro required
      exact iff_of_false (mt silent.mp (answered required)) again

-- Two required questions and one response for both.
theorem second_twin_unanswered :
    let first : Question := { id := "q", text := some "First", validation := some ⟨true,.free⟩ }
    let second : Question := { id := "q", text := some "Second", validation := some ⟨true,.free⟩ }
    let form : Form := ⟨"Survey","",[first,second]⟩
    let responses : Responses := Std.ExtTreeMap.insert ∅ "q" "x"
    ∃ answers, submit (entries form.questions {}) responses = .ok answers ∧ second.isRequired = true ∧
      ∃ given, answers[1]? = some given ∧ given.answer = .missing := by
  intro first second form responses
  have valid : (judge (entries form.questions {}) responses).isValid = true := by decide
  have accepted : submit (entries form.questions {}) responses = .ok _ :=
    (submit_judged ⟨first,by simp [form],rfl⟩).trans (if_pos valid)
  obtain ⟨_,places⟩ := required_unanswered_iff accepted
  obtain ⟨given,held,_,unanswered,_⟩ := places 1 second rfl
  exact ⟨_,accepted,rfl,given,held,(unanswered rfl).mpr (by decide)⟩

theorem required_handed_in_missing :
    ¬ ∀ (text : String) (form : Form), Form.ofText text = .ok form → ∀ wording responses answers,
      submit (entries form.questions wording) responses = .ok answers →
        ∀ (k : Nat) (q : Question) (given : Submitted), form.completeQuestions[k]? = some q →
          answers[k]? = some given → q.isRequired = true → given.answer ≠ .missing := by
  intro always
  let twin (text : String) : Question := { id := "q", text := some text, validation := some ⟨true,.free⟩ }
  let form : Form := ⟨"Survey","",[twin "First",twin "Second"]⟩
  let responses : Responses := Std.ExtTreeMap.insert ∅ "q" "x"
  have loaded : Form.ofText form.toJson.compact = .ok form := form_reloads (List.forall_mem_nil _) (.inl rfl)
  have valid : (judge (entries form.questions {}) responses).isValid = true := by decide
  have accepted : submit (entries form.questions {}) responses = .ok _ :=
    (submit_judged ⟨twin "First",by simp [form],rfl⟩).trans (if_pos valid)
  obtain ⟨_,_,_,_,given⟩ := submit_answers (q := twin "Second") (k := 1) accepted rfl
  exact always _ form loaded {} responses _ accepted 1 (twin "Second") _ rfl given rfl rfl

end Submission

end Questionnaire
