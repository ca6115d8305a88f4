import Questionnaire.Proofs.Commuting
/-!
A copy of a question as scratch paper. Edits that keep to the copy leave the rest of the form as it was, and
are gone with the copy.
-/

namespace Questionnaire

theorem Questions.Rewrites.removed {id : String} {rewrite : List Question → List Question}
    (rewrites : Rewrites id rewrite) (questions : List Question) :
    remove id (rewrite questions) = remove id questions := by
  have gone : ∀ q rest, q.id = id → remove id (q :: rest) = remove id rest := fun q rest same =>
    List.filter_cons_of_neg (by simpa using same)
  induction questions with
  | nil => rw [rewrites.nil]
  | cons q rest ih =>
    by_cases here : q.id = id
    · rcases rewrites.named q here with ⟨changed,same,changes⟩ | drops
      · rw [changes,gone changed rest same,gone q rest here]
      · rw [drops,ih,gone q rest here]
    · have stays := (remove_rewrites id).others q
      rw [rewrites.others q rest here,stays _ here,stays _ here,ih]

-- The edits that name one question and no other. To copy it once more is not among them, and an order names
-- all the questions in it.
inductive Edit.KeepsTo (id : String) : Edit → Prop where
  | rewrites {edit : Edit} (names : edit.rewrites? = some id) : KeepsTo id edit
  | reorders {order : List String} (names : ∀ named ∈ order, named = id) : KeepsTo id (.reorderQuestions order)

theorem Edit.rewrites_question {edit : Edit} {id : String} (names : edit.rewrites? = some id) :
    edit.question? = some id := by
  cases edit with
  | duplicateQuestion => cases names
  | _ => exact names

def Form.without (id : String) (form : Form) : Form := form.rewritten (Questions.remove id)

theorem Form.rewritten_without {id : String} {rewrite : List Question → List Question}
    (rewrites : Questions.Rewrites id rewrite) (form : Form) :
    (form.rewritten rewrite).without id = form.without id := by
  simp only [without,rewritten,rewrites.removed]

namespace Draft

variable {settings : Settings} {draft after : Draft} {edit : Edit} {id : String}

theorem move_rewrites (names : edit.rewrites? = some id) (moved : Move settings draft edit after) :
    after.form.without id = draft.form.without id := by
  cases moved with
  | removed =>
    cases names
    exact Form.rewritten_without (Questions.remove_rewrites id) draft.form
  | changed inPlace =>
    cases (Edit.rewrites_question names).symm.trans (Edit.inPlace_question inPlace)
    exact Form.rewritten_without (Questions.change_rewrites (Edit.inPlace_id inPlace) id) draft.form
  | extended =>
    cases names
    exact Form.rewritten_without (Questions.change_rewrites (fun _ => rfl) id) draft.form
  | retitled | redescribed | created | copied | reordered => cases names
  | copiedUnknown | misordered | extendedUnknown | refused => rfl

-- An order that names no other question than the copy has no place for the one it was copied from.
theorem move_reorders {order : List String} (names : ∀ named ∈ order, named = id)
    (others : ∃ q ∈ draft.form.questions, q.id ≠ id) (moved : Move settings draft (.reorderQuestions order) after) :
    after = draft := by
  cases moved with
  | changed inPlace => cases inPlace
  | reordered ordered =>
    obtain ⟨q,member,other⟩ := others
    have same := (Questions.isOrderOf_iff.mp ordered).2
    exact absurd (names q.id (same.mem_iff.mpr (List.mem_map_of_mem member))) other
  | misordered => rfl

theorem move_without (keeps : edit.KeepsTo id) (others : ∃ q ∈ draft.form.questions, q.id ≠ id)
    (moved : Move settings draft edit after) : after.form.without id = draft.form.without id := by
  cases keeps with
  | rewrites names => exact move_rewrites names moved
  | reorders names => rw [move_reorders names others moved]

end Draft

namespace Form

variable {form next : Form} {settings : Settings} {edit : Edit} {ids : IdSource} {id : String}

theorem apply_without (keeps : edit.KeepsTo id) (others : ∃ q ∈ form.questions, q.id ≠ id)
    (ok : (form.apply edit settings ids).result = .ok next) : next.without id = form.without id := by
  have same := Draft.move_without keeps others (Draft.next_moves settings ⟨form,ids⟩ edit)
  rwa [Draft.next_granted ok] at same

theorem mem_without {q : Question} : q ∈ (form.without id).questions ↔ q ∈ form.questions ∧ q.id ≠ id := by
  simp [without,rewritten,Questions.remove]

theorem applyAll_without {edits : List Edit} (keeps : ∀ edit ∈ edits, edit.KeepsTo id)
    (others : ∃ q ∈ form.questions, q.id ≠ id) (ok : (form.applyAll edits settings ids).result = .ok next) :
    next.without id = form.without id := by
  refine applyAll_preserves (fun reached => reached.without id = form.without id) ?_ rfl ok
  intro edit member reached ids next same made
  obtain ⟨q,held,other⟩ := others
  have left : q ∈ reached.questions ∧ q.id ≠ id := mem_without.mp (same ▸ mem_without.mpr ⟨held,other⟩)
  exact (apply_without (keeps edit member) ⟨q,left⟩ made).trans same

theorem duplicate_effect {q : Question} (found : form.question? id = some q) (settings : Settings) (ids : IdSource) :
    (form.apply (.duplicateQuestion id) settings ids).effect =
      (.ok { form with questions := form.questions ++ [{ q with id := ids.draw.1, mask := none }] },ids.draw.2) := by
  rw [question?] at found
  simp only [apply,Questions.duplicate,found]
  rfl

theorem without_last {q : Question} (named : q.id = id) (new : ∀ other ∈ form.questions, other.id ≠ id) :
    ({ form with questions := form.questions ++ [q] } : Form).without id = form := by
  have rest : Questions.remove id (form.questions ++ [q]) = Questions.remove id form.questions := by
    simp [Questions.remove,named]
  simp only [without,rewritten,rest,Questions.remove_unknown new]

end Form

-- The edits may draw from any source: it is only the identifier of the copy that has to be new.
theorem scratch_copy_discarded (form : Form) (settings : Settings) (ids : IdSource) {id : String} {q : Question}
    (found : form.question? id = some q) (new : ∀ other ∈ form.questions, other.id ≠ ids.draw.1) :
    let copy : Question := { q with id := ids.draw.1, mask := none }
    let copied : Form := { form with questions := form.questions ++ [copy] }
    (form.apply (.duplicateQuestion id) settings ids).effect = (.ok copied,ids.draw.2) ∧
    ∀ edits, (∀ edit ∈ edits, edit.KeepsTo copy.id) → ∀ later next,
      (copied.applyAll edits settings later).result = .ok next →
        (copied.applyAll (edits ++ [.removeQuestion copy.id]) settings later).result = .ok form := by
  intro copy copied
  refine ⟨Form.duplicate_effect found settings ids,?_⟩
  intro edits keeps later next ok
  have member : q ∈ form.questions := List.mem_of_find?_eq_some found
  have others : ∃ q ∈ copied.questions, q.id ≠ copy.id := ⟨q,List.mem_append_left _ member,new q member⟩
  have left : next.without copy.id = form :=
    (Form.applyAll_without keeps others ok).trans (Form.without_last rfl new)
  rw [Form.applyAll_append,Outcome.andThen_ok ok]
  exact congrArg Except.ok left

-- Two questions share the identifier, and the first of them is copied. The copy becomes something else
-- altogether before it goes, and an order that names nothing but the copy is ignored.
theorem rewritten_copy_discarded :
    let colour : Question :=
      { id := "q", text := some "Colour", mask := some "99", choices := [⟨"c","Red",.option⟩] }
    let form : Form := ⟨"Survey","",[colour,{ id := "age" },{ id := "q", text := some "Size" }]⟩
    let ids := IdSource.numbered "copy"
    let copy : Question := { colour with id := ids.draw.1, mask := none }
    let copied : Form := { form with questions := form.questions ++ [copy] }
    let edits : List Edit := [.setKind copy.id .multipleChoice,.addChoice copy.id true,
      .renameChoice copy.id "c" "Blue",.reorderQuestions [copy.id]]
    let edited : Question :=
      { copy with kind := .multipleChoice, choices := [⟨"c","Blue",.option⟩,⟨"copy-2","Other",.other⟩] }
    form.question? "q" = some colour ∧ (∀ other ∈ form.questions, other.id ≠ ids.draw.1) ∧
      (∀ edit ∈ edits, edit.KeepsTo copy.id) ∧
      (copied.applyAll edits {} ids.draw.2).result = .ok { form with questions := form.questions ++ [edited] } ∧
      (form.apply (.duplicateQuestion "q") {} ids).effect = (.ok copied,ids.draw.2) ∧
      (copied.applyAll (edits ++ [.removeQuestion copy.id]) {} ids.draw.2).result = .ok form := by
  intro colour form ids copy copied edits edited
  have found : form.question? "q" = some colour := rfl
  have new : ∀ other ∈ form.questions, other.id ≠ ids.draw.1 := by decide
  have keeps : ∀ edit ∈ edits, edit.KeepsTo copy.id := by
    intro edit member
    simp only [edits,List.mem_cons,List.not_mem_nil,or_false] at member
    rcases member with rfl | rfl | rfl | rfl
    · exact .rewrites rfl
    · exact .rewrites rfl
    · exact .rewrites rfl
    · exact .reorders (by simp)
  have ok : (copied.applyAll edits {} ids.draw.2).result =
      .ok { form with questions := form.questions ++ [edited] } := by decide
  obtain ⟨appended,discards⟩ := scratch_copy_discarded form {} ids found new
  exact ⟨found,new,keeps,ok,appended,discards edits keeps ids.draw.2 _ ok⟩

end Questionnaire
