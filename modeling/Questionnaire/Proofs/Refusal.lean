import Questionnaire.Proofs.Draft
/-!
Refusals. Only a second choice for free text is ever refused, and a refusal leaves nothing behind. So a
row of edits stops exactly where one of them is refused, and stepping over the refused ones is applying
the others.
-/

namespace Questionnaire

namespace Outcome

-- What comes of an edit, apart from what there is to say about it.
def effect (outcome : Outcome) : Except Rejection Form × IdSource := (outcome.result,outcome.ids)

def noting (notices : List Notice) (outcome : Outcome) : Outcome :=
  { outcome with notices := notices ++ outcome.notices }

-- Work goes on with the form and the identifiers that are left, but not after a refusal.
def andThen (first : Outcome) (rest : Form → IdSource → Outcome) : Outcome :=
  match first.result with
  | .error _ => first
  | .ok form => (rest form first.ids).noting first.notices

variable {first : Outcome} {form : Form} {rejection : Rejection}

theorem andThen_ok (ok : first.result = .ok form) (rest : Form → IdSource → Outcome) :
    first.andThen rest = (rest form first.ids).noting first.notices := by
  rw [andThen,ok]

theorem andThen_error (error : first.result = .error rejection) (rest : Form → IdSource → Outcome) :
    first.andThen rest = first := by
  rw [andThen,error]

theorem andThen_accepted {rest : Form → IdSource → Outcome} {next : Form} :
    (first.andThen rest).result = .ok next ↔
      ∃ form, first.result = .ok form ∧ (rest form first.ids).result = .ok next := by
  cases made : first.result with
  | error rejection => simp [andThen_error made,made]
  | ok form => simp [andThen_ok made,noting]

theorem effect_andThen_ok (ok : first.result = .ok form) (rest : Form → IdSource → Outcome) :
    (first.andThen rest).effect = (rest form first.ids).effect := by
  rw [andThen_ok ok]
  rfl

theorem noting_andThen (notices : List Notice) (first : Outcome) (rest : Form → IdSource → Outcome) :
    (first.noting notices).andThen rest = (first.andThen rest).noting notices := by
  cases made : first.result with
  | error rejection =>
    have noted : (first.noting notices).result = .error rejection := made
    rw [andThen_error made,andThen_error noted]
  | ok form =>
    have noted : (first.noting notices).result = .ok form := made
    rw [andThen_ok made,andThen_ok noted]
    simp only [noting,List.append_assoc]

theorem andThen_assoc (first : Outcome) (second third : Form → IdSource → Outcome) :
    (first.andThen second).andThen third = first.andThen fun form ids => (second form ids).andThen third := by
  cases made : first.result with
  | error rejection => rw [andThen_error made,andThen_error made,andThen_error made]
  | ok form => rw [andThen_ok made,andThen_ok made,noting_andThen]

end Outcome

namespace Form

-- Read off the form alone: where the question or its choice for free text is not there, nothing is
-- refused, and under the other policy nothing ever is.
def Refuses (form : Form) (settings : Settings) (edit : Edit) : Prop :=
  settings.otherPolicy = .strict ∧
    ∃ id q, edit = .addChoice id true ∧ form.question? id = some q ∧ ∃ c ∈ q.choices, c.kind = .other

variable {form : Form} {settings : Settings} {edit : Edit} {ids : IdSource}

theorem apply_refused (refused : form.Refuses settings edit) (ids : IdSource) :
    form.apply edit settings ids = ⟨.error .otherExists,ids,[.secondOther]⟩ := by
  obtain ⟨strict,id,q,rfl,found,held⟩ := refused
  exact addChoice_refused found (Choices.refuses_iff.mpr ⟨strict,rfl,held⟩) ids

theorem apply_granted (granted : ¬ form.Refuses settings edit) (ids : IdSource) :
    ∃ next, (form.apply edit settings ids).result = .ok next := by
  cases edit with
  | addChoice id other =>
    cases found : form.question? id with
    | none => exact ⟨form,congrArg Outcome.result (addChoice_unknown found ids)⟩
    | some q =>
      have allowed : Choices.refuses settings q.choices other = false := by
        rw [Bool.eq_false_iff]
        intro refuses
        obtain ⟨strict,rfl,held⟩ := Choices.refuses_iff.mp refuses
        exact granted ⟨strict,id,q,rfl,found,held⟩
      exact ⟨_,congrArg Outcome.result (addChoice_allowed found allowed ids)⟩
  | _ => exact ⟨_,rfl⟩

theorem apply_error_iff :
    (∃ rejection, (form.apply edit settings ids).result = .error rejection) ↔ form.Refuses settings edit := by
  constructor
  · rintro ⟨rejection,error⟩
    by_cases refused : form.Refuses settings edit
    · exact refused
    · obtain ⟨next,ok⟩ := apply_granted refused ids
      rw [ok] at error
      cases error
  · intro refused
    exact ⟨.otherExists,congrArg Outcome.result (apply_refused refused ids)⟩

theorem applyAll_cons (form : Form) (edit : Edit) (rest : List Edit) (settings : Settings) (ids : IdSource) :
    form.applyAll (edit :: rest) settings ids =
      (form.apply edit settings ids).andThen fun next ids => next.applyAll rest settings ids := by
  rw [applyAll,Outcome.andThen]
  cases (form.apply edit settings ids).result <;> rfl

theorem applyAll_append (form : Form) (before after : List Edit) (settings : Settings) (ids : IdSource) :
    form.applyAll (before ++ after) settings ids =
      (form.applyAll before settings ids).andThen fun reached ids => reached.applyAll after settings ids := by
  induction before generalizing form ids with
  | nil => rfl
  | cons edit rest ih =>
    rw [List.cons_append,applyAll_cons,applyAll_cons,Outcome.andThen_assoc]
    congr 1
    funext next ids
    exact ih next ids

theorem applyAll_preserves (Holds : Form → Prop) {edits : List Edit} {next : Form}
    (step : ∀ edit ∈ edits, ∀ reached ids next, Holds reached →
      (reached.apply edit settings ids).result = .ok next → Holds next)
    (start : Holds form) (ok : (form.applyAll edits settings ids).result = .ok next) : Holds next := by
  induction edits generalizing form ids with
  | nil =>
    cases ok
    exact start
  | cons edit rest ih =>
    obtain ⟨first,others⟩ := List.forall_mem_cons.mp step
    rw [applyAll_cons] at ok
    obtain ⟨reached,made,later⟩ := Outcome.andThen_accepted.mp ok
    exact ih others (first form ids reached start made) later

theorem applyAll_error_iff {edits : List Edit} :
    (∃ rejection, (form.applyAll edits settings ids).result = .error rejection) ↔
      ∃ before edit after reached, edits = before ++ edit :: after ∧
        (form.applyAll before settings ids).result = .ok reached ∧ reached.Refuses settings edit := by
  constructor
  · rintro ⟨rejection,error⟩
    induction edits generalizing form ids with
    | nil => cases error
    | cons edit rest ih =>
      by_cases refused : form.Refuses settings edit
      · exact ⟨[],edit,rest,form,rfl,rfl,refused⟩
      · obtain ⟨next,ok⟩ := apply_granted refused ids
        rw [applyAll_cons,Outcome.andThen_ok ok] at error
        obtain ⟨before,later,after,reached,split,led,refuses⟩ := ih error
        refine ⟨edit :: before,later,after,reached,by rw [split,List.cons_append],?_,refuses⟩
        rw [applyAll_cons,Outcome.andThen_ok ok]
        exact led
  · rintro ⟨before,edit,after,reached,rfl,led,refused⟩
    refine ⟨.otherExists,?_⟩
    have stopped := congrArg Outcome.result (apply_refused refused (form.applyAll before settings ids).ids)
    rw [applyAll_append,Outcome.andThen_ok led,applyAll_cons,Outcome.andThen_error stopped]
    exact stopped

theorem applyAll_permissive (permissive : settings.otherPolicy = .permissive) (form : Form) (edits : List Edit)
    (ids : IdSource) : ∃ reached, (form.applyAll edits settings ids).result = .ok reached := by
  cases made : (form.applyAll edits settings ids).result with
  | ok reached => exact ⟨reached,rfl⟩
  | error rejection =>
    obtain ⟨_,_,_,_,_,_,strict,_⟩ := applyAll_error_iff.mp ⟨rejection,made⟩
    rw [permissive] at strict
    cases strict

end Form

namespace Draft

variable {settings : Settings} {draft : Draft} {edit : Edit}

theorem next_refused (refused : draft.form.Refuses settings edit) : draft.next settings edit = draft := by
  rw [next,Form.apply_refused refused]

theorem next_granted {form : Form} (ok : (draft.form.apply edit settings draft.ids).result = .ok form) :
    draft.next settings edit = ⟨form,(draft.form.apply edit settings draft.ids).ids⟩ := by
  rw [next,ok]

-- The edits that are not refused when their turn comes.
def granted (settings : Settings) : Draft → List Edit → List Edit
  | _,[] => []
  | draft,edit :: rest =>
    match (draft.form.apply edit settings draft.ids).result with
    | .error _ => granted settings (draft.next settings edit) rest
    | .ok _ => edit :: granted settings (draft.next settings edit) rest

theorem applyAll_granted (settings : Settings) (draft : Draft) (edits : List Edit) :
    (draft.form.applyAll (granted settings draft edits) settings draft.ids).effect =
      (.ok (draft.run settings edits).form,(draft.run settings edits).ids) := by
  induction edits generalizing draft with
  | nil => rfl
  | cons edit rest ih =>
    have later := ih (draft.next settings edit)
    rw [granted]
    cases made : (draft.form.apply edit settings draft.ids).result with
    | error rejection =>
      have same := next_refused (Form.apply_error_iff.mp ⟨rejection,made⟩)
      rw [same] at later
      simpa only [run,List.foldl_cons,same] using later
    | ok form =>
      rw [next_granted made] at later
      simp only [Form.applyAll_cons,Outcome.effect_andThen_ok made,next_granted made,run,List.foldl_cons]
      exact later

end Draft

theorem refusal_exact (form : Form) (settings : Settings) (ids : IdSource) :
    (∀ edit,
      ((∃ rejection, (form.apply edit settings ids).result = .error rejection) ↔ form.Refuses settings edit) ∧
      ∀ rejection, (form.apply edit settings ids).result = .error rejection → (form.apply edit settings ids).ids = ids) ∧
    (settings.otherPolicy = .permissive → ∀ edits, ∃ reached, (form.applyAll edits settings ids).result = .ok reached) ∧
    (∀ edits, (∃ rejection, (form.applyAll edits settings ids).result = .error rejection) ↔
      ∃ before edit after reached, edits = before ++ edit :: after ∧
        (form.applyAll before settings ids).result = .ok reached ∧ reached.Refuses settings edit) ∧
    (∀ before after, form.applyAll (before ++ after) settings ids =
      (form.applyAll before settings ids).andThen fun reached ids => reached.applyAll after settings ids) ∧
    ∀ edits,
      let reached := Draft.run settings ⟨form,ids⟩ edits
      (form.applyAll (Draft.granted settings ⟨form,ids⟩ edits) settings ids).effect = (.ok reached.form,reached.ids) := by
  refine ⟨?_,?_,?_,?_,?_⟩
  · intro edit
    refine ⟨Form.apply_error_iff,?_⟩
    intro rejection error
    rw [Form.apply_refused (Form.apply_error_iff.mp ⟨rejection,error⟩) ids]
  · exact fun permissive edits => Form.applyAll_permissive permissive form edits ids
  · exact fun edits => Form.applyAll_error_iff
  · exact fun before after => Form.applyAll_append form before after settings ids
  · exact fun edits => Draft.applyAll_granted settings ⟨form,ids⟩ edits

theorem second_other_stepped_over :
    let strict : Settings := ⟨.strict,{}⟩
    let start := Draft.fresh strict (.numbered "id")
    let edits : List Edit := [.addChoice "id-1" true,.addChoice "id-1" true,.addChoice "id-1" false]
    (∃ rejection, (start.form.applyAll edits strict start.ids).result = .error rejection) ∧
      start.granted strict edits = [.addChoice "id-1" true,.addChoice "id-1" false] ∧
      (start.form.applyAll (start.granted strict edits) strict start.ids).effect =
        (.ok (start.run strict edits).form,(start.run strict edits).ids) := by
  intro strict start edits
  obtain ⟨_,_,stops,_,steps⟩ := refusal_exact start.form strict start.ids
  refine ⟨?_,by decide,steps edits⟩
  refine (stops edits).mpr ⟨[.addChoice "id-1" true],.addChoice "id-1" true,[.addChoice "id-1" false],
    (start.next strict (.addChoice "id-1" true)).form,rfl,rfl,rfl,"id-1",_,rfl,rfl,?_⟩
  exact ⟨⟨"id-3","Other",.other⟩,by decide,rfl⟩

end Questionnaire
