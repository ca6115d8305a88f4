import Mathlib.Logic.Relation
import Questionnaire.Proofs.Agreement
import Questionnaire.Proofs.Json.KeyOrder
import Questionnaire.Proofs.Json.Sorted
/-!
Reading responses. A map is taken as a whole or refused as a whole, for the first member in the order of its keys that
no question could be answered with, and nulls are as good as nothing.
-/

namespace Questionnaire.Responses

open Json Json.Value

variable {value answer : Value} {members one two : List (String × Value)} {responses : Responses} {id raw : String}

-- The values that may stand for a response.
inductive Scalar : Value → Prop where
  | null : Scalar .null
  | bool (b : Bool) : Scalar (.bool b)
  | number (n : Number) : Scalar (.number n)
  | text (s : String) : Scalar (.text s)

inductive Nested : Value → Prop where
  | list (items : List Value) : Nested (.list items)
  | map (members : List (String × Value)) : Nested (.map members)

-- What a value is taken for: a text for what it is, a number or truth value for how it is written.
inductive TakenFor : Value → String → Prop where
  | bool (b : Bool) : TakenFor (.bool b) (Value.bool b).compact
  | number (n : Number) : TakenFor (.number n) (Value.number n).compact
  | text (s : String) : TakenFor (.text s) s

theorem isScalar_iff : isScalar value = true ↔ Scalar value := by
  constructor
  · intro scalar
    cases value with
    | null => exact .null
    | bool b => exact .bool b
    | number n => exact .number n
    | text s => exact .text s
    | list | map => cases scalar
  · rintro (_ | _ | _ | _) <;> rfl

theorem nested_iff : isScalar value = false ↔ Nested value := by
  constructor
  · intro nested
    cases value with
    | list items => exact .list items
    | map members => exact .map members
    | null | bool | number | text => cases nested
  · rintro (_ | _) <;> rfl

theorem rawText?_eq_some_iff : rawText? value = some raw ↔ TakenFor value raw := by
  constructor
  · intro taken
    cases value with
    | bool b =>
      cases taken
      cases b
      · exact .bool false
      · exact .bool true
    | number n =>
      cases taken
      exact .number n
    | text =>
      cases taken
      exact .text raw
    | null | list | map => cases taken
  · rintro (b | _ | _)
    · cases b <;> rfl
    · rfl
    · rfl

theorem TakenFor.of_scalar (scalar : Scalar value) (given : value ≠ .null) : ∃ raw, TakenFor value raw := by
  cases scalar with
  | null => exact absurd rfl given
  | bool b => exact ⟨_,.bool b⟩
  | number n => exact ⟨_,.number n⟩
  | text s => exact ⟨_,.text s⟩

theorem TakenFor.ne_null (taken : TakenFor value raw) : value ≠ .null := by
  cases taken <;> exact nofun

-- In a row that is in order the first of its kind comes before all others of its kind.
theorem find?_eq_some_iff_first {α : Type} {r : α → α → Prop} {p : α → Bool} {row : List α} {a : α}
    (ordered : row.Pairwise r) (asymm : ∀ {a b}, r a b → ¬ r b a) :
    row.find? p = some a ↔ a ∈ row ∧ p a = true ∧ ∀ b ∈ row, p b = true → b = a ∨ r a b := by
  rw [List.find?_eq_some_iff_append]
  constructor
  · rintro ⟨kind,before,after,rfl,others⟩
    obtain ⟨-,later,-⟩ := List.pairwise_append.mp ordered
    refine ⟨by simp,kind,fun b mem same => ?_⟩
    rcases List.mem_append.mp mem with earlier | here
    · have other := others b earlier
      rw [same] at other
      cases other
    · rcases List.mem_cons.mp here with rfl | after
      · exact .inl rfl
      · exact .inr (List.rel_of_pairwise_cons later after)
  · rintro ⟨mem,kind,first⟩
    obtain ⟨before,after,rfl⟩ := List.append_of_mem mem
    obtain ⟨-,-,earlier⟩ := List.pairwise_append.mp ordered
    refine ⟨kind,before,after,rfl,fun b held => ?_⟩
    have less := earlier b held a List.mem_cons_self
    cases same : p b with
    | false => rfl
    | true =>
      rcases first b (List.mem_append_left _ held) same with rfl | more
      · exact absurd less (asymm less)
      · exact absurd less (asymm more)

theorem mem_byKey_toList : (id,answer) ∈ (byKey members).toList ↔ Holds members id answer :=
  Std.ExtTreeMap.mem_toList_iff_getElem?_eq_some.trans byKey_eq_some_iff

-- The member that responses are refused for.
structure Offends (members : List (String × Value)) (id : String) (answer : Value) : Prop where
  holds : Holds members id answer
  nested : Nested answer
  first : ∀ other also, Holds members other also → Nested also → other ≠ id → keyBytes id < keyBytes other

theorem find?_eq_none_iff : ((byKey members).toList.find? fun member => !isScalar member.2) = none ↔
    ∀ id answer, Holds members id answer → Scalar answer := by
  simp only [List.find?_eq_none,Prod.forall,mem_byKey_toList,Bool.not_eq_true',Bool.not_eq_false,isScalar_iff]

theorem find?_eq_some_iff : ((byKey members).toList.find? fun member => !isScalar member.2) = some (id,answer) ↔
    Offends members id answer := by
  have ordered : (byKey members).toList.Pairwise fun one two => compare one.1 two.1 = .lt :=
    Std.ExtTreeMap.ordered_keys_toList
  have asymm {one two : String × Value} (less : compare one.1 two.1 = .lt) : ¬ compare two.1 one.1 = .lt := by
    rw [Std.OrientedOrd.eq_swap,less]
    exact nofun
  rw [find?_eq_some_iff_first ordered asymm]
  simp only [Prod.forall,mem_byKey_toList,Bool.not_eq_true',nested_iff,← keyBytes_lt_iff,Prod.mk.injEq]
  constructor
  · rintro ⟨holds,nested,first⟩
    refine ⟨holds,nested,fun other also held nestedToo apart => ?_⟩
    rcases first other also held nestedToo with ⟨same,-⟩ | less
    · exact absurd same apart
    · exact less
  · rintro ⟨holds,nested,first⟩
    refine ⟨holds,nested,fun other also held nestedToo => ?_⟩
    by_cases same : other = id
    · subst same
      have alike := (byKey_eq_some_iff.mpr held).symm.trans (byKey_eq_some_iff.mpr holds)
      exact .inl ⟨rfl,Option.some.inj alike⟩
    · exact .inr (first other also held nestedToo same)

-- The responses that a map amounts to.
structure Reads (members : List (String × Value)) (responses : Responses) : Prop where
  scalars : ∀ id answer, Holds members id answer → Scalar answer
  exact : ∀ id raw, responses[id]? = some raw ↔ ∃ answer, Holds members id answer ∧ TakenFor answer raw

theorem filterMap_exact (members : List (String × Value)) (id raw : String) :
    ((byKey members).filterMap fun _ value => rawText? value)[id]? = some raw ↔
      ∃ answer, Holds members id answer ∧ TakenFor answer raw := by
  rw [Std.ExtTreeMap.getElem?_filterMap',Option.bind_eq_some_iff]
  simp only [byKey_eq_some_iff,rawText?_eq_some_iff]

theorem ofValue_eq_ok_iff : ofValue (.map members) = .ok responses ↔ Reads members responses := by
  constructor
  · intro taken
    rw [ofValue] at taken
    split at taken
    · cases taken
    · rename_i none
      cases taken
      exact ⟨find?_eq_none_iff.mp none,filterMap_exact members⟩
  · rintro ⟨scalars,exact⟩
    have same : ((byKey members).filterMap fun _ value => rawText? value) = responses := by
      refine Std.ExtTreeMap.ext_getElem? fun id => Option.ext fun raw => ?_
      rw [filterMap_exact,exact]
    rw [ofValue,find?_eq_none_iff.mpr scalars,same]

theorem ofValue_eq_error_iff {refusal : Refusal} : ofValue (.map members) = .error refusal ↔
    ∃ id answer, refusal = .nested id answer ∧ Offends members id answer := by
  constructor
  · intro refused
    rw [ofValue] at refused
    split at refused
    · rename_i id answer found
      cases refused
      exact ⟨id,answer,rfl,find?_eq_some_iff.mp found⟩
    · cases refused
  · rintro ⟨id,answer,rfl,offends⟩
    rw [ofValue,find?_eq_some_iff.mpr offends]

theorem Reads.congr (alike : ∀ id answer, answer ≠ .null → (Holds one id answer ↔ Holds two id answer))
    (reads : Reads one responses) : Reads two responses where
  scalars id answer holds := by
    by_cases given : answer = .null
    · rw [given]
      exact .null
    · exact reads.scalars id answer ((alike id answer given).mpr holds)
  exact id raw := by
    rw [reads.exact]
    exact exists_congr fun answer => and_congr_left fun taken => alike id answer taken.ne_null

theorem Offends.congr (alike : ∀ id answer, answer ≠ .null → (Holds one id answer ↔ Holds two id answer))
    (offends : Offends one id answer) : Offends two id answer where
  holds := (alike id answer (by rintro rfl; cases offends.nested)).mp offends.holds
  nested := offends.nested
  first other also held nested :=
    offends.first other also ((alike other also (by rintro rfl; cases nested)).mpr held) nested

-- What is read depends on what is not null only.
theorem ofValue_congr (alike : ∀ id answer, answer ≠ .null → (Holds one id answer ↔ Holds two id answer)) :
    ofValue (.map one) = ofValue (.map two) := by
  cases read : ofValue (.map one) with
  | ok responses => exact (ofValue_eq_ok_iff.mpr ((ofValue_eq_ok_iff.mp read).congr alike)).symm
  | error refusal =>
    obtain ⟨id,answer,named,offends⟩ := ofValue_eq_error_iff.mp read
    exact (ofValue_eq_error_iff.mpr ⟨id,answer,named,offends.congr alike⟩).symm

-- One more null, for a question that is given nulls at most.
inductive NullAdded : List (String × Value) → List (String × Value) → Prop where
  | insert {before after : List (String × Value)} {id : String}
      (unanswered : ∀ answer, (id,answer) ∈ before ++ after → answer = .null) :
      NullAdded (before ++ after) (before ++ (id,.null) :: after)

theorem NullAdded.ofValue_eq (added : NullAdded one two) : ofValue (.map one) = ofValue (.map two) := by
  cases added with
  | @insert before after id unanswered =>
    refine ofValue_congr fun key answer given => ?_
    by_cases same : id = key
    · subst same
      refine iff_of_false (fun holds => given (unanswered answer (mem_of_holds holds))) fun holds => ?_
      have mem := mem_of_holds holds
      rw [List.mem_append,List.mem_cons,or_left_comm,← List.mem_append] at mem
      rcases mem with null | held
      · exact given (Prod.mk.inj null).2
      · exact given (unanswered answer held)
    · exact (holds_insert same).symm

-- However often nulls are added and taken out.
theorem ofValue_eq_of_nulls (path : Relation.EqvGen NullAdded one two) : ofValue (.map one) = ofValue (.map two) := by
  induction path with
  | rel _ _ added => exact added.ofValue_eq
  | refl => rfl
  | symm _ _ _ ih => exact ih.symm
  | trans _ _ _ _ _ first second => exact first.trans second

theorem exists_reads (scalars : ∀ id answer, Holds members id answer → Scalar answer) :
    ∃ responses, Reads members responses :=
  ⟨_,scalars,filterMap_exact members⟩

theorem Reads.mem_iff (reads : Reads members responses) :
    id ∈ responses ↔ ∃ answer, Holds members id answer ∧ answer ≠ .null := by
  rw [Std.ExtTreeMap.mem_iff_isSome_getElem?,Option.isSome_iff_exists]
  constructor
  · rintro ⟨raw,given⟩
    obtain ⟨answer,holds,taken⟩ := (reads.exact id raw).mp given
    exact ⟨answer,holds,taken.ne_null⟩
  · rintro ⟨answer,holds,given⟩
    obtain ⟨raw,taken⟩ := TakenFor.of_scalar (reads.scalars id answer holds) given
    exact ⟨raw,(reads.exact id raw).mpr ⟨answer,holds,taken⟩⟩

-- What comes of responses to a form: the verdict on them, their submission and the preview that shows them.
def outcome (form : Form) (wording : Wording) (responses : Responses) :
    Verdict × Except Submission.Refusal (List Submitted) × Preview :=
  (form.verdict responses wording,Submission.submit (Submission.entries form.questions wording) responses,
    .ofForm form (some responses) wording)

theorem reading_exact (value : Value) :
    ((∃ responses, ofValue value = .ok responses) ↔
      ∃ members, value = .map members ∧ ∀ id answer, Holds members id answer → Scalar answer) ∧
    (∀ members responses, value = .map members → ofValue value = .ok responses →
      (∀ id, id ∈ responses ↔ ∃ answer, Holds members id answer ∧ answer ≠ .null) ∧
      ∀ id raw, responses[id]? = some raw ↔ ∃ answer, Holds members id answer ∧ TakenFor answer raw) ∧
    (ofValue value = .error .notAMap ↔ ∀ members, value ≠ .map members) ∧
    (∀ members refusal, value = .map members →
      (ofValue value = .error refusal ↔ ∃ id answer, refusal = .nested id answer ∧ Offends members id answer)) ∧
    ∀ one two, value = .map one → Relation.EqvGen NullAdded one two → ∀ form wording,
      (ofValue value).map (outcome form wording) = (ofValue (.map two)).map (outcome form wording) := by
  refine ⟨?_,?_,?_,?_,?_⟩
  · constructor
    · rintro ⟨responses,taken⟩
      cases value with
      | map members => exact ⟨members,rfl,(ofValue_eq_ok_iff.mp taken).scalars⟩
      | null | bool | number | text | list => cases taken
    · rintro ⟨members,rfl,scalars⟩
      obtain ⟨responses,reads⟩ := exists_reads scalars
      exact ⟨responses,ofValue_eq_ok_iff.mpr reads⟩
  · rintro members responses rfl taken
    have reads := ofValue_eq_ok_iff.mp taken
    exact ⟨fun _ => reads.mem_iff,reads.exact⟩
  · cases value with
    | map members =>
      refine iff_of_false (fun refused => ?_) fun apart => apart members rfl
      obtain ⟨_,_,named,_⟩ := ofValue_eq_error_iff.mp refused
      cases named
    | null | bool | number | text | list => exact iff_of_true rfl nofun
  · rintro members refusal rfl
    exact ofValue_eq_error_iff
  · rintro one two rfl path form wording
    rw [ofValue_eq_of_nulls path]

-- To be given null twice is to be left out.
theorem repeated_null_unanswered :
    let form : Form := ⟨"Visit","",[{ id := "age", text := some "Age" },
      { id := "spare", text := some "Spare", validation := some ⟨true,.length ⟨.min,2,"Too short"⟩⟩ }]⟩
    let given : List (String × Value) := [("age",.number (.whole 37))]
    let padded : List (String × Value) := [("spare",.null),("age",.number (.whole 37)),("spare",.null)]
    (∃ responses, ofValue (.map given) = .ok responses) ∧ Relation.EqvGen NullAdded given padded ∧
      (ofValue (.map given)).map (outcome form {}) = (ofValue (.map padded)).map (outcome form {}) := by
  intro form given padded
  have scalars : ∀ id answer, Holds given id answer → Scalar answer := by
    intro id answer holds
    cases List.mem_singleton.mp (mem_of_holds holds)
    exact .number _
  have before : NullAdded given (("spare",.null) :: given) := @NullAdded.insert [] given "spare" (by simp [given])
  have after : NullAdded (("spare",.null) :: given) padded :=
    @NullAdded.insert (("spare",.null) :: given) [] "spare" (by simp [given])
  have path : Relation.EqvGen NullAdded given padded := .trans _ _ _ (.rel _ _ before) (.rel _ _ after)
  obtain ⟨taken,_,_,_,nulls⟩ := reading_exact (.map given)
  exact ⟨taken.mpr ⟨given,rfl,scalars⟩,path,nulls given padded rfl path form {}⟩

end Questionnaire.Responses
