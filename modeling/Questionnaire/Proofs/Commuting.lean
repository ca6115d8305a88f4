import Questionnaire.Proofs.Refusal
/-!
Edits to different questions. What an edit rewrites and whether it is refused is decided by the question
it names, and that question is left alone by an edit that names another: two of them may change places.
-/

namespace Questionnaire

namespace Questions

-- A change that has eyes only for the questions with one identifier, and leaves them that identifier.
-- It may stop at the first of them or drop them all, but what follows has no say in which.
structure Rewrites (id : String) (rewrite : List Question → List Question) : Prop where
  nil : rewrite [] = []
  others : ∀ q rest, q.id ≠ id → rewrite (q :: rest) = q :: rewrite rest
  named : ∀ q, q.id = id →
    (∃ changed, changed.id = id ∧ ∀ rest, rewrite (q :: rest) = changed :: rest) ∨
      ∀ rest, rewrite (q :: rest) = rewrite rest

theorem change_rewrites {edit : Question → Noted Question} (kept : ∀ q, (edit q).value.id = q.id) (id : String) :
    Rewrites id fun questions => (change id edit questions).value where
  nil := rfl
  others q rest other := by simp only [change,if_neg other]
  named q same := .inl ⟨(edit q).value,(kept q).trans same,fun rest => by simp only [change,if_pos same]⟩

theorem remove_rewrites (id : String) : Rewrites id (remove id) where
  nil := rfl
  others q rest other := List.filter_cons_of_pos (by simpa using other)
  named q same := .inr fun rest => List.filter_cons_of_neg (by simpa using same)

namespace Rewrites

variable {a b : String} {one two : List Question → List Question}

theorem comm (first : Rewrites a one) (second : Rewrites b two) (apart : a ≠ b) (questions : List Question) :
    one (two questions) = two (one questions) := by
  induction questions with
  | nil => rw [first.nil,second.nil,first.nil]
  | cons q rest ih =>
    by_cases here : q.id = a
    · rw [second.others q rest (here ▸ apart)]
      rcases first.named q here with ⟨changed,same,changes⟩ | drops
      · rw [changes,changes,second.others changed rest (same ▸ apart)]
      · rw [drops,drops,ih]
    · rw [first.others q rest here]
      by_cases there : q.id = b
      · rcases second.named q there with ⟨changed,same,changes⟩ | drops
        · rw [changes,changes,first.others changed rest (same ▸ apart.symm)]
        · rw [drops,drops,ih]
      · rw [second.others q rest there,second.others q _ there,first.others q _ here,ih]

theorem find_other (rewrites : Rewrites a one) (apart : a ≠ b) (questions : List Question) :
    (one questions).find? (·.id = b) = questions.find? (·.id = b) := by
  have unlike : ∀ q : Question, q.id = a → decide (q.id = b) = false := fun q same => by simp [same,apart]
  induction questions with
  | nil => rw [rewrites.nil]
  | cons q rest ih =>
    by_cases here : q.id = a
    · rcases rewrites.named q here with ⟨changed,same,changes⟩ | drops
      · simp only [changes,List.find?_cons,unlike changed same,unlike q here]
      · simp only [drops,List.find?_cons,unlike q here,ih]
    · rw [rewrites.others q rest here,List.find?_cons,List.find?_cons,ih]

end Rewrites
end Questions

open Questions

namespace Edit

-- The question an edit rewrites where it stands, or removes. A copy is put elsewhere, under an
-- identifier of its own.
def rewrites? : Edit → Option String
  | .duplicateQuestion _ => none
  | edit => edit.question?

def addsChoice : Edit → Bool
  | .addChoice _ _ => true
  | _ => false

end Edit

namespace Form

variable {form : Form} {settings : Settings} {ids : IdSource} {edit one two : Edit} {a b id : String}
  {rewrite first second : List Question → List Question}

def rewritten (rewrite : List Question → List Question) (form : Form) : Form :=
  { form with questions := rewrite form.questions }

theorem rewritten_question? (rewrites : Rewrites b rewrite) (apart : a ≠ b) (form : Form) :
    (form.rewritten rewrite).question? a = form.question? a :=
  rewrites.find_other apart.symm form.questions

theorem rewritten_comm (one : Rewrites a first) (two : Rewrites b second) (apart : a ≠ b) (form : Form) :
    (form.rewritten first).rewritten second = (form.rewritten second).rewritten first := by
  simp only [rewritten,one.comm two apart]

-- What the edit does to a form is settled before the form is known.
def Quiet (settings : Settings) (edit : Edit) (rewrite : List Question → List Question) : Prop :=
  ∀ (form : Form) (ids : IdSource), (form.apply edit settings ids).effect = (.ok (form.rewritten rewrite),ids)

theorem quiet_inPlace {change : Question → Noted Question}
    (inPlace : edit.inPlace? settings.wording = some (id,change)) :
    ∃ rewrite, Rewrites id rewrite ∧ Quiet settings edit rewrite := by
  refine ⟨_,change_rewrites (Edit.inPlace_id inPlace) id,?_⟩
  intro form ids
  rw [Edit.inPlace_apply inPlace]
  rfl

theorem quiet_of_rewrites (names : edit.rewrites? = some id) (draws : edit.addsChoice = false) (settings : Settings) :
    ∃ rewrite, Rewrites id rewrite ∧ Quiet settings edit rewrite := by
  cases edit with
  | removeQuestion named =>
    cases names
    exact ⟨_,remove_rewrites id,fun _ _ => rfl⟩
  | addChoice => cases draws
  | setTitle | setDescription | createQuestion | duplicateQuestion | reorderQuestions => cases names
  | _ =>
    cases names
    exact quiet_inPlace rfl

-- An outcome worked over by a rewriting that comes after it.
def followed (rewrite : List Question → List Question) (outcome : Outcome) : Outcome :=
  { outcome with result := outcome.result.map (rewritten rewrite) }

-- The question that decides whether a choice may be added is the same after the rewriting, and so is
-- the choice.
theorem addChoice_rewritten (rewrites : Rewrites b rewrite) (apart : a ≠ b) (form : Form) (other : Bool)
    (settings : Settings) (ids : IdSource) :
    ((form.rewritten rewrite).addChoice a other settings ids).effect =
      (followed rewrite (form.addChoice a other settings ids)).effect := by
  have asked := rewritten_question? rewrites apart form
  cases found : form.question? a with
  | none =>
    rw [found] at asked
    rw [addChoice_unknown found,addChoice_unknown asked]
    rfl
  | some q =>
    rw [found] at asked
    cases refuses : Choices.refuses settings q.choices other with
    | true =>
      rw [addChoice_refused found refuses,addChoice_refused asked refuses]
      rfl
    | false =>
      rw [addChoice_allowed found refuses,addChoice_allowed asked refuses]
      have added : Rewrites a fun questions => (Questions.update a
          ({ · with choices := q.choices ++ [Choices.fresh settings.wording q.choices other ids.draw.1] })
          questions).value := change_rewrites (fun _ => rfl) a
      exact congrArg (fun form => (Except.ok form,ids.draw.2)) (rewritten_comm rewrites added apart.symm form)

theorem apply_rewritten (names : one.rewrites? = some a) (rewrites : Rewrites b rewrite) (apart : a ≠ b) (form : Form)
    (settings : Settings) (ids : IdSource) :
    ((form.rewritten rewrite).apply one settings ids).effect =
      (followed rewrite (form.apply one settings ids)).effect := by
  cases draws : one.addsChoice with
  | true =>
    cases one with
    | addChoice named other =>
      cases names
      exact addChoice_rewritten rewrites apart form other settings ids
    | _ => cases draws
  | false =>
    obtain ⟨own,ownRewrites,quiet⟩ := quiet_of_rewrites names draws settings
    obtain ⟨ok,left⟩ := Prod.mk.inj (quiet form ids)
    rw [quiet (form.rewritten rewrite) ids,followed,Outcome.effect,ok,left,rewritten_comm rewrites ownRewrites apart.symm]
    rfl

theorem applyAll_single (form : Form) (edit : Edit) (settings : Settings) (ids : IdSource) :
    (form.applyAll [edit] settings ids).effect = (form.apply edit settings ids).effect := by
  rw [applyAll_cons]
  cases made : (form.apply edit settings ids).result with
  | error rejection => rw [Outcome.andThen_error made]
  | ok next =>
    rw [Outcome.effect_andThen_ok made]
    exact Prod.ext made.symm rfl

theorem quiet_commutes (first : one.rewrites? = some a) (rewrites : Rewrites b rewrite)
    (quiet : Quiet settings two rewrite) (apart : a ≠ b) (form : Form) (ids : IdSource) :
    (form.applyAll [one,two] settings ids).effect = (form.applyAll [two,one] settings ids).effect := by
  obtain ⟨ok,left⟩ := Prod.mk.inj (quiet form ids)
  have later : (form.applyAll [two,one] settings ids).effect =
      (followed rewrite (form.apply one settings ids)).effect := by
    rw [applyAll_cons,Outcome.effect_andThen_ok ok,left,applyAll_single]
    exact apply_rewritten first rewrites apart form settings ids
  have sooner : (form.applyAll [one,two] settings ids).effect =
      (followed rewrite (form.apply one settings ids)).effect := by
    rw [applyAll_cons,followed]
    cases made : (form.apply one settings ids).result with
    | error rejection =>
      rw [Outcome.andThen_error made]
      exact Prod.ext made rfl
    | ok next =>
      rw [Outcome.effect_andThen_ok made,applyAll_single]
      exact quiet next _
  exact sooner.trans later.symm

end Form

-- Two additions would draw each other's identifiers, so one of the edits may add a choice at most.
theorem edits_commute (form : Form) (settings : Settings) (ids : IdSource) {one two : Edit} {a b : String}
    (first : one.rewrites? = some a) (second : two.rewrites? = some b) (apart : a ≠ b)
    (single : ¬ (one.addsChoice = true ∧ two.addsChoice = true)) :
    (form.applyAll [one,two] settings ids).effect = (form.applyAll [two,one] settings ids).effect := by
  cases draws : two.addsChoice with
  | false =>
    obtain ⟨rewrite,rewrites,quiet⟩ := Form.quiet_of_rewrites second draws settings
    exact Form.quiet_commutes first rewrites quiet apart form ids
  | true =>
    have silent : one.addsChoice = false := Bool.eq_false_iff.mpr fun also => single ⟨also,draws⟩
    obtain ⟨rewrite,rewrites,quiet⟩ := Form.quiet_of_rewrites first silent settings
    exact (Form.quiet_commutes second rewrites quiet apart.symm form ids).symm

-- Two questions share the identifier that the choice is added under; the first of them gets it.
theorem choice_and_removal_commute :
    let form : Form := ⟨"Trip","",[{ id := "stay" },{ id := "pets" },{ id := "stay" }]⟩
    let one : Edit := .addChoice "stay" true
    let two : Edit := .removeQuestion "pets"
    one.rewrites? = some "stay" ∧ two.rewrites? = some "pets" ∧ "stay" ≠ "pets" ∧
      ¬ (one.addsChoice = true ∧ two.addsChoice = true) ∧
      (form.applyAll [one,two] {} (.numbered "id")).effect = (form.applyAll [two,one] {} (.numbered "id")).effect := by
  intro form one two
  have apart : "stay" ≠ "pets" := by decide
  have single : ¬ (one.addsChoice = true ∧ two.addsChoice = true) := by decide
  exact ⟨rfl,rfl,apart,single,edits_commute form {} (.numbered "id") rfl rfl apart single⟩

end Questionnaire
