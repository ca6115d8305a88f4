import Mathlib.Data.List.Nodup
import Questionnaire.Submission
/-!
What responses come to, question by question. A verdict is filled entry by entry, the last entry with
an identifier standing; where identifiers are distinct no entry has a say in any other.
-/

namespace Questionnaire

namespace Verdict

def refusal? : Except String Answer → Option String
  | .ok _ => none
  | .error message => some message

theorem refusal?_eq_some {outcome : Except String Answer} {message : String} :
    refusal? outcome = some message ↔ outcome = .error message := by
  cases outcome <;> simp [refusal?]

theorem toOption_eq_some {outcome : Except String Answer} {answer : Answer} :
    outcome.toOption = some answer ↔ outcome = .ok answer := by
  cases outcome <;> simp [Except.toOption]

theorem record_errors (verdict : Verdict) (own id : String) (outcome : Except String Answer) :
    (verdict.record own outcome).errors[id]? =
      (if own = id then refusal? outcome else none).or verdict.errors[id]? := by
  cases outcome with
  | ok answer => simp [record,refusal?]
  | error message =>
    simp only [record,refusal?,Std.ExtTreeMap.getElem?_insert,Std.LawfulEqCmp.compare_eq_iff_eq]
    split <;> rfl

theorem record_values (verdict : Verdict) (own id : String) (outcome : Except String Answer) :
    (verdict.record own outcome).values[id]? =
      (if own = id then outcome.toOption else none).or verdict.values[id]? := by
  cases outcome with
  | error message => simp [record,Except.toOption]
  | ok answer =>
    simp only [record,Except.toOption,Std.ExtTreeMap.getElem?_insert,Std.LawfulEqCmp.compare_eq_iff_eq]
    split <;> rfl

def Tells (verdict : Verdict) (id : String) : Except String Answer → Prop
  | .error message => verdict.errors[id]? = some message
  | .ok answer => verdict.values[id]? = some answer

theorem ext_tells {one two : Verdict} (same : ∀ id outcome, one.Tells id outcome ↔ two.Tells id outcome) : one = two := by
  have errors : one.errors = two.errors :=
    Std.ExtTreeMap.ext_getElem? fun id => Option.ext fun message => same id (.error message)
  have values : one.values = two.values :=
    Std.ExtTreeMap.ext_getElem? fun id => Option.ext fun answer => same id (.ok answer)
  obtain ⟨_,_⟩ := one
  obtain ⟨_,_⟩ := two
  rw [mk.injEq]
  exact ⟨errors,values⟩

end Verdict

namespace Submission

open Verdict

-- The last entry with an identifier that has something to show for it.
def last? {α : Type} (show? : Entry → Option α) (id : String) (entries : List Entry) : Option α :=
  entries.reverse.findSome? fun entry => if entry.id = id then show? entry else none

theorem last?_cons {α : Type} (show? : Entry → Option α) (id : String) (entry : Entry) (rest : List Entry) :
    last? show? id (entry :: rest) = (last? show? id rest).or (if entry.id = id then show? entry else none) := by
  rw [last?,List.reverse_cons,List.findSome?_append,List.findSome?_singleton]
  rfl

theorem last?_append {α : Type} (show? : Entry → Option α) (id : String) (before after : List Entry) :
    last? show? id (before ++ after) = (last? show? id after).or (last? show? id before) := by
  rw [last?,List.reverse_append,List.findSome?_append]
  rfl

-- Where identifiers repeat there may be others: the last of them was found.
theorem mem_of_last? {α : Type} {show? : Entry → Option α} {id : String} {entries : List Entry} {a : α}
    (found : last? show? id entries = some a) : ∃ entry ∈ entries, entry.id = id ∧ show? entry = some a := by
  obtain ⟨entry,member,shown⟩ := List.exists_of_findSome?_eq_some found
  by_cases named : entry.id = id
  · rw [if_pos named] at shown
    exact ⟨entry,List.mem_reverse.mp member,named,shown⟩
  · rw [if_neg named] at shown
    cases shown

theorem last?_eq_some {α : Type} {show? : Entry → Option α} {id : String} {entries : List Entry} {a : α}
    (distinct : (entries.map Entry.id).Nodup) :
    last? show? id entries = some a ↔ ∃ entry ∈ entries, entry.id = id ∧ show? entry = some a := by
  refine ⟨mem_of_last?,?_⟩
  rintro ⟨entry,member,named,shown⟩
  cases found : last? show? id entries with
  | none =>
    have nothing := List.findSome?_eq_none_iff.mp found entry (List.mem_reverse.mpr member)
    rw [if_pos named,shown] at nothing
    cases nothing
  | some b =>
    obtain ⟨other,held,again,showsOther⟩ := mem_of_last? found
    have same : other = entry := List.inj_on_of_nodup_map distinct held member (again.trans named.symm)
    rw [← showsOther,same,shown]

-- Either half of a verdict is filled the same way: what it holds under an identifier changes with the
-- entries of that identifier that have something to show for it.
theorem judge_shows {α : Type} {show? : Except String Answer → Option α} {id : String} (held : Verdict → Option α)
    (blank : held {} = none)
    (recorded : ∀ (verdict : Verdict) own outcome,
      held (verdict.record own outcome) = (if own = id then show? outcome else none).or (held verdict))
    (entries : List Entry) (responses : Responses) :
    held (judge entries responses) = last? (fun entry => show? (entry.judge responses)) id entries := by
  have general : ∀ start : Verdict,
      held (entries.foldl (fun verdict entry => verdict.record entry.id (entry.judge responses)) start) =
        (last? (fun entry => show? (entry.judge responses)) id entries).or (held start) := by
    induction entries with
    | nil => intro start; rfl
    | cons entry rest ih =>
      intro start
      rw [List.foldl_cons,ih,recorded,last?_cons,Option.or_assoc]
  rw [judge,general,blank,Option.or_none]

theorem judge_errors (entries : List Entry) (responses : Responses) (id : String) :
    (judge entries responses).errors[id]? = last? (fun entry => refusal? (entry.judge responses)) id entries :=
  judge_shows (·.errors[id]?) Std.ExtTreeMap.getElem?_empty (fun verdict own => verdict.record_errors own id) entries
    responses

theorem judge_values (entries : List Entry) (responses : Responses) (id : String) :
    (judge entries responses).values[id]? = last? (fun entry => (entry.judge responses).toOption) id entries :=
  judge_shows (·.values[id]?) Std.ExtTreeMap.getElem?_empty (fun verdict own => verdict.record_values own id) entries
    responses

theorem judge_tells {entries : List Entry} (distinct : (entries.map Entry.id).Nodup) {responses : Responses}
    {id : String} {outcome : Except String Answer} :
    (judge entries responses).Tells id outcome ↔
      ∃ entry ∈ entries, entry.id = id ∧ entry.judge responses = outcome := by
  cases outcome with
  | error message => simp only [Tells,judge_errors,last?_eq_some distinct,refusal?_eq_some]
  | ok answer => simp only [Tells,judge_values,last?_eq_some distinct,toOption_eq_some]

end Submission

-- What a question makes of the responses, with no other question in sight.
def Question.judge (q : Question) (wording : Wording) (responses : Responses) : Except String Answer :=
  (Validator.compile q.validation wording).value.validate responses[q.id]?

namespace Verdict

def Exact (questions : List Question) (wording : Wording) (responses : Responses) (verdict : Verdict) : Prop :=
  ∀ id outcome, verdict.Tells id outcome ↔
    ∃ q ∈ questions, q.isComplete = true ∧ q.id = id ∧ q.judge wording responses = outcome

variable {questions others : List Question} {wording : Wording} {responses changed : Responses} {one two : Verdict}

theorem exact_unique (exact : one.Exact questions wording responses) (again : two.Exact questions wording responses) :
    one = two :=
  ext_tells fun id outcome => (exact id outcome).trans (again id outcome).symm

theorem exact_perm (same : others.Perm questions) (exact : one.Exact questions wording responses) :
    one.Exact others wording responses := by
  intro id outcome
  rw [exact id outcome]
  exact exists_congr fun q => and_congr_left fun _ => same.mem_iff.symm

theorem exact_congr (same : ∀ q ∈ questions, q.isComplete = true → responses[q.id]? = changed[q.id]?)
    (exact : one.Exact questions wording changed) : one.Exact questions wording responses := by
  intro id outcome
  rw [exact id outcome]
  refine exists_congr fun q => and_congr_right fun member => and_congr_right fun complete => and_congr_right fun _ => ?_
  rw [Question.judge,Question.judge,same q member complete]

theorem exact_tells (exact : one.Exact questions wording responses) (again : two.Exact questions wording changed)
    {id : String} (same : responses[id]? = changed[id]?) (outcome : Except String Answer) :
    one.Tells id outcome ↔ two.Tells id outcome := by
  rw [exact id outcome,again id outcome]
  refine exists_congr fun q => and_congr_right fun _ => and_congr_right fun _ => and_congr_right fun named => ?_
  rw [Question.judge,Question.judge,named,same]

theorem exact_apart (distinct : (questions.map Question.id).Nodup) (exact : one.Exact questions wording responses)
    (id : String) : ¬ (id ∈ one.errors ∧ id ∈ one.values) := by
  simp only [Std.ExtTreeMap.mem_iff_isSome_getElem?,Option.isSome_iff_exists]
  rintro ⟨⟨message,refused⟩,⟨answer,accepted⟩⟩
  obtain ⟨q,member,_,named,judged⟩ := (exact id (.error message)).mp refused
  obtain ⟨other,held,_,again,judgedOther⟩ := (exact id (.ok answer)).mp accepted
  have same : q = other := List.inj_on_of_nodup_map distinct member held (named.trans again.symm)
  rw [same,judgedOther] at judged
  cases judged

theorem exact_covers (exact : one.Exact questions wording responses) (id : String) :
    (id ∈ one.errors ∨ id ∈ one.values) ↔ ∃ q ∈ questions, q.isComplete = true ∧ q.id = id := by
  simp only [Std.ExtTreeMap.mem_iff_isSome_getElem?,Option.isSome_iff_exists]
  constructor
  · rintro (⟨message,refused⟩ | ⟨answer,accepted⟩)
    · obtain ⟨q,member,complete,named,_⟩ := (exact id (.error message)).mp refused
      exact ⟨q,member,complete,named⟩
    · obtain ⟨q,member,complete,named,_⟩ := (exact id (.ok answer)).mp accepted
      exact ⟨q,member,complete,named⟩
  · rintro ⟨q,member,complete,named⟩
    have told := (exact id _).mpr ⟨q,member,complete,named,rfl⟩
    cases judged : q.judge wording responses with
    | error message => rw [judged] at told; exact .inl ⟨message,told⟩
    | ok answer => rw [judged] at told; exact .inr ⟨answer,told⟩

theorem exact_valid_iff (exact : one.Exact questions wording responses) :
    one.isValid = true ↔
      ∀ q ∈ questions, q.isComplete = true → ∀ message, q.judge wording responses ≠ .error message := by
  rw [isValid,Std.ExtTreeMap.isEmpty_iff,Std.ExtTreeMap.eq_empty_iff_forall_not_mem]
  simp only [Std.ExtTreeMap.mem_iff_isSome_getElem?,Option.isSome_iff_exists]
  constructor
  · intro none q member complete message judged
    exact none q.id ⟨message,(exact q.id (.error message)).mpr ⟨q,member,complete,rfl,judged⟩⟩
  · rintro accepted id ⟨message,refused⟩
    obtain ⟨q,member,complete,_,judged⟩ := (exact id (.error message)).mp refused
    exact accepted q member complete message judged

end Verdict

namespace Submission

variable {questions : List Question} {wording : Wording} {responses : Responses}

theorem mem_entries {entry : Entry} :
    entry ∈ entries questions wording ↔ ∃ q ∈ questions, q.isComplete = true ∧ Entry.ofQuestion wording q = entry := by
  simp only [entries,List.mem_map,List.mem_filter,and_assoc]

theorem entries_distinct (distinct : (questions.map Question.id).Nodup) (wording : Wording) :
    ((entries questions wording).map Entry.id).Nodup := by
  have fewer : ((questions.filter Question.isComplete).map Question.id).Nodup :=
    distinct.sublist (List.filter_sublist.map Question.id)
  rwa [entries,List.map_map]

theorem judge_exact (distinct : (questions.map Question.id).Nodup) (wording : Wording) (responses : Responses) :
    (judge (entries questions wording) responses).Exact questions wording responses := by
  intro id outcome
  rw [judge_tells (entries_distinct distinct wording)]
  constructor
  · rintro ⟨entry,member,named,judged⟩
    obtain ⟨q,held,complete,rfl⟩ := mem_entries.mp member
    exact ⟨q,held,complete,named,judged⟩
  · rintro ⟨q,held,complete,named,judged⟩
    exact ⟨_,mem_entries.mpr ⟨q,held,complete,rfl⟩,named,judged⟩

end Submission
end Questionnaire
