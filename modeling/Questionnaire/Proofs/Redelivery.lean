import Questionnaire.Proofs.Refusal
import Questionnaire.Proofs.Reordering
/-!
Edits that arrive again. One that draws no identifier has done all it does when it is applied first: the
form it leaves is the form it leaves again, whatever identifiers and labels repeat in it.
-/

namespace Questionnaire

namespace Choices

theorem rename_settled {id label : String} {c : Choice} (named : c.id = id)
    (settled : c.isOther = true ∨ c.label = label) (rest : List Choice) :
    (rename id label (c :: rest)).value = c :: rest := by
  rw [rename_first named]
  rcases settled with pinned | rfl
  · rw [if_pos pinned]
  · rw [ite_self]

theorem rename_again (id label : String) (choices : List Choice) :
    (rename id label (rename id label choices).value).value = (rename id label choices).value := by
  induction choices with
  | nil => rfl
  | cons c rest ih =>
    by_cases named : c.id = id
    · rw [rename_first named]
      by_cases pinned : c.isOther = true
      · rw [if_pos pinned]
        exact rename_settled named (.inl pinned) rest
      · rw [if_neg pinned]
        have renamed : ({ c with label } : Choice).id = id := named
        exact rename_settled renamed (.inr rfl) rest
    · simp only [rename,if_neg named,ih]

theorem remove_again (id : String) (choices : List Choice) : remove id (remove id choices) = remove id choices := by
  rw [remove,remove,List.filter_filter]
  simp only [Bool.and_self]

theorem reorder_again (order : List String) (choices : List Choice) :
    reorder order (reorder order choices) = reorder order choices :=
  picked_again order

end Choices

namespace Question

-- A kind that drops the validation finds none when it is set again, so nothing is left to be dropped.
theorem setKind_again (kind : QuestionKind) (q : Question) : setKind kind (setKind kind q) = setKind kind q := by
  cases kind with
  | short | multipleChoice => rfl
  | long =>
    cases numeric : q.hasNumberRule with
    | true =>
      have cleared : setKind .long q = { q with kind := .long, validation := none } := by
        simp only [setKind,numeric,if_true]
      rw [cleared]
      rfl
    | false =>
      have kept : ∀ r : Question, r.hasNumberRule = false → setKind .long r = { r with kind := .long } := by
        intro r free
        simp [setKind,free]
      have still : ({ q with kind := .long } : Question).hasNumberRule = false := numeric
      rw [kept q numeric,kept _ still]

theorem addMask_again (wording : Wording) (q : Question) :
    addMask wording (addMask wording q) = addMask wording q := by
  by_cases short : q.kind = .short
  · simp [addMask,short]
  · simp only [addMask,if_neg short]

theorem renameChoice_again (choice label : String) (q : Question) :
    (renameChoice choice label (renameChoice choice label q).value).value = (renameChoice choice label q).value := by
  simp only [renameChoice,Choices.rename_again]

end Question

namespace Questions

theorem change_again {edit : Question → Noted Question} (kept : ∀ q, (edit q).value.id = q.id)
    (again : ∀ q, (edit (edit q).value).value = (edit q).value) (id : String) (questions : List Question) :
    (change id edit (change id edit questions).value).value = (change id edit questions).value := by
  induction questions with
  | nil => rfl
  | cons q rest ih =>
    by_cases named : q.id = id
    · have still : (edit q).value.id = id := (kept q).trans named
      simp only [change,if_pos named,if_pos still,again]
    · simp only [change,if_neg named,ih]

theorem remove_again (id : String) (questions : List Question) :
    remove id (remove id questions) = remove id questions := by
  rw [remove,remove,List.filter_filter]
  simp only [Bool.and_self]

-- What was put in order need not be recognised as being in order: the same questions come out either way.
theorem reorder_again (order : List String) (questions : List Question) :
    (reorder order (reorder order questions).value).value = (reorder order questions).value := by
  cases checked : isOrderOf order questions with
  | false => rw [reorder_disordered checked,reorder_disordered checked]
  | true =>
    rw [reorder_eq_picked checked]
    cases again : isOrderOf order (picked Question.id order questions) with
    | false => exact reorder_disordered again
    | true =>
      rw [reorder_eq_picked again]
      exact picked_again order

end Questions

namespace Edit

def draws : Edit → Bool
  | .createQuestion | .duplicateQuestion _ | .addChoice _ _ => true
  | _ => false

theorem inPlace_again {wording : Wording} {edit : Edit} {id : String} {change : Question → Noted Question}
    (inPlace : edit.inPlace? wording = some (id,change)) (q : Question) :
    (change (change q).value).value = (change q).value := by
  cases edit with
  | setKind _ kind => cases inPlace; exact Question.setKind_again kind q
  | addMask => cases inPlace; exact Question.addMask_again wording q
  | renameChoice _ choice label => cases inPlace; exact Question.renameChoice_again choice label q
  | removeChoice _ choice =>
    cases inPlace
    simp only [silently,Choices.remove_again]
  | reorderChoices _ order =>
    cases inPlace
    simp only [silently,Choices.reorder_again]
  | _ => cases inPlace <;> rfl

end Edit

namespace Form

-- An edit that comes to a function of the form alone, one that changes nothing the second time.
structure Settles (settings : Settings) (edit : Edit) (settle : Form → Form) : Prop where
  applied : ∀ (form : Form) (ids : IdSource), (form.apply edit settings ids).effect = (.ok (settle form),ids)
  again : ∀ form, settle (settle form) = settle form

variable {settings : Settings} {edit : Edit}

theorem settles_inPlace {id : String} {change : Question → Noted Question}
    (inPlace : edit.inPlace? settings.wording = some (id,change)) : ∃ settle, Settles settings edit settle := by
  refine ⟨fun form => { form with questions := (Questions.change id change form.questions).value },?_,?_⟩
  · intro form ids
    rw [Edit.inPlace_apply inPlace]
    rfl
  · intro form
    simp only [Questions.change_again (Edit.inPlace_id inPlace) (Edit.inPlace_again inPlace)]

theorem settles_of_undrawn (undrawn : edit.draws = false) (settings : Settings) :
    ∃ settle, Settles settings edit settle := by
  cases edit with
  | setTitle title => exact ⟨fun form => { form with title },fun _ _ => rfl,fun _ => rfl⟩
  | setDescription description => exact ⟨fun form => { form with description },fun _ _ => rfl,fun _ => rfl⟩
  | removeQuestion id =>
    refine ⟨fun form => { form with questions := Questions.remove id form.questions },fun _ _ => rfl,?_⟩
    intro form
    simp only [Questions.remove_again]
  | reorderQuestions order =>
    refine ⟨fun form => { form with questions := (Questions.reorder order form.questions).value },fun _ _ => rfl,?_⟩
    intro form
    simp only [Questions.reorder_again]
  | createQuestion | duplicateQuestion | addChoice => cases undrawn
  | _ => exact settles_inPlace rfl

theorem applyAll_replicate {settle : Form → Form} (settles : Settles settings edit settle) (form : Form)
    (ids : IdSource) (times : Nat) :
    (form.applyAll (List.replicate (times + 1) edit) settings ids).effect = (.ok (settle form),ids) := by
  induction times generalizing form with
  | zero =>
    obtain ⟨ok,left⟩ := Prod.mk.inj (settles.applied form ids)
    rw [List.replicate_one,applyAll_cons,Outcome.effect_andThen_ok ok,left]
    rfl
  | succ times ih =>
    obtain ⟨ok,left⟩ := Prod.mk.inj (settles.applied form ids)
    rw [List.replicate_succ,applyAll_cons,Outcome.effect_andThen_ok ok,left,ih,settles.again]

end Form

-- However often the edit comes, and from whatever source identifiers are drawn by then.
theorem redelivery_ignored (form : Form) (settings : Settings) (ids : IdSource) {edit : Edit}
    (undrawn : edit.draws = false) :
    ∃ next, (form.apply edit settings ids).effect = (.ok next,ids) ∧
      (∀ later, (next.apply edit settings later).effect = (.ok next,later)) ∧
      ∀ times, (form.applyAll (List.replicate (times + 1) edit) settings ids).effect = (.ok next,ids) := by
  obtain ⟨settle,settles⟩ := Form.settles_of_undrawn undrawn settings
  refine ⟨settle form,settles.applied form ids,?_,Form.applyAll_replicate settles form ids⟩
  intro later
  have again := settles.applied (settle form) later
  rwa [settles.again] at again

-- Two questions share an identifier and two choices a label. The order names that label twice and one
-- that no choice has.
theorem repeated_labels_settle :
    let yes : Choice := { id := "a", label := "Yes" }
    let again : Choice := { id := "b", label := "Yes" }
    let no : Choice := { id := "c", label := "No" }
    let poll (choices : List Choice) : Form :=
      ⟨"Poll","",[{ id := "q", choices },{ id := "q", kind := .multipleChoice, choices := [yes,again,no] }]⟩
    let order : Edit := .reorderChoices "q" ["No","Yes","Gone","Yes"]
    order.draws = false ∧
      ((poll [yes,again,no]).apply order {} (.numbered "id")).effect = (.ok (poll [no,yes,yes]),.numbered "id") ∧
      ((poll [no,yes,yes]).apply order {} (.numbered "id")).effect = (.ok (poll [no,yes,yes]),.numbered "id") := by
  intro yes again no poll order
  obtain ⟨next,first,second,_⟩ :=
    redelivery_ignored (poll [yes,again,no]) {} (.numbered "id") (rfl : order.draws = false)
  have reached : next = poll [no,yes,yes] := (Except.ok.inj (Prod.mk.inj first).1).symm
  subst reached
  exact ⟨rfl,first,second (.numbered "id")⟩

end Questionnaire
