import Mathlib.Data.List.Perm.Subperm
import Questionnaire.Edit
/-!
What an edit does to the one question it names, apart from where in the form that question stands.
-/

namespace Questionnaire

namespace Questions

theorem change_absent {id : String} {questions : List Question} (absent : questions.find? (·.id = id) = none)
    (edit : Question → Noted Question) : change id edit questions = ⟨questions,[.unknownQuestion id]⟩ := by
  induction questions with
  | nil => rfl
  | cons q rest ih =>
    have other : q.id ≠ id := by intro same; simp [same] at absent
    rw [List.find?_cons_of_neg (by simpa using other)] at absent
    simp only [change,if_neg other,ih absent]

theorem change_append {id : String} {before : List Question} {q : Question} (others : ∀ other ∈ before, other.id ≠ id)
    (named : q.id = id) (after : List Question) (edit : Question → Noted Question) :
    change id edit (before ++ q :: after) = ⟨before ++ (edit q).value :: after,(edit q).notices⟩ := by
  induction before with
  | nil => simp only [List.nil_append,change,if_pos named]
  | cons head before ih =>
    have first := others head List.mem_cons_self
    have rest := ih fun other member => others other (List.mem_cons_of_mem _ member)
    simp only [List.cons_append,change,if_neg first,rest]

-- Only the first question with the identifier is touched, so the list is split at it once and for all.
theorem change_present {id : String} {questions : List Question} {q : Question}
    (found : questions.find? (·.id = id) = some q) (edit : Question → Noted Question) :
    ∃ before after, questions = before ++ q :: after ∧
      change id edit questions = ⟨before ++ (edit q).value :: after,(edit q).notices⟩ := by
  obtain ⟨named,before,after,split,others⟩ := List.find?_eq_some_iff_append.mp found
  refine ⟨before,after,split,?_⟩
  rw [split]
  exact change_append (by simpa using others) (by simpa using named) after edit

theorem mem_change {id : String} {edit : Question → Noted Question} {questions : List Question} {q : Question}
    (member : q ∈ (change id edit questions).value) :
    q ∈ questions ∨ ∃ old, questions.find? (·.id = id) = some old ∧ q = (edit old).value := by
  cases found : questions.find? (·.id = id) with
  | none => rw [change_absent found] at member; exact .inl member
  | some old =>
    obtain ⟨before,after,split,changed⟩ := change_present found edit
    rw [changed] at member
    rw [split]
    rcases List.mem_append.mp member with earlier | later
    · exact .inl (List.mem_append_left _ earlier)
    · rcases List.mem_cons.mp later with here | later
      · exact .inr ⟨old,rfl,here⟩
      · exact .inl (List.mem_append_right _ (List.mem_cons_of_mem _ later))

theorem changed_mem {id : String} {questions : List Question} {q : Question}
    (found : questions.find? (·.id = id) = some q) (edit : Question → Noted Question) :
    (edit q).value ∈ (change id edit questions).value := by
  obtain ⟨before,after,_,changed⟩ := change_present found edit
  rw [changed]
  exact List.mem_append_right _ List.mem_cons_self

theorem change_same {id : String} {questions : List Question} {q : Question}
    (found : questions.find? (·.id = id) = some q) {edit : Question → Noted Question} (same : (edit q).value = q) :
    (change id edit questions).value = questions := by
  obtain ⟨before,after,split,changed⟩ := change_present found edit
  rw [changed,same]
  exact split.symm

theorem change_eq_iff {id : String} {questions : List Question} {q : Question}
    (found : questions.find? (·.id = id) = some q) (edit : Question → Noted Question) :
    (change id edit questions).value = questions ↔ (edit q).value = q := by
  constructor
  · intro kept
    obtain ⟨before,after,split,changed⟩ := change_present found edit
    rw [changed] at kept
    exact (List.cons.inj (List.append_cancel_left (kept.trans split))).1
  · exact change_same found

theorem remove_unknown {id : String} {questions : List Question} (absent : ∀ q ∈ questions, q.id ≠ id) :
    remove id questions = questions :=
  List.filter_eq_self.mpr fun q member => decide_eq_true (absent q member)

theorem isOrderOf_iff {order : List String} {questions : List Question} :
    isOrderOf order questions = true ↔ order.Nodup ∧ order.Perm (questions.map Question.id) := by
  simp only [isOrderOf,Bool.and_eq_true,decide_eq_true_eq,List.all_eq_true,List.contains_iff_mem]
  constructor
  · rintro ⟨⟨⟨length,distinct⟩,known⟩,_⟩
    have long : (questions.map Question.id).length = order.length := by rw [List.length_map,length]
    exact ⟨distinct,(distinct.subperm known).perm_of_length_le (Nat.le_of_eq long)⟩
  · rintro ⟨distinct,same⟩
    exact ⟨⟨⟨by rw [same.length_eq,List.length_map],distinct⟩,fun _ => same.mem_iff.mp⟩,fun _ => same.mem_iff.mpr⟩

theorem map_change_found {α : Type} {view : Question → α} {edit : Question → Noted Question} {id : String}
    {questions : List Question} (kept : ∀ q, questions.find? (·.id = id) = some q → view (edit q).value = view q) :
    (change id edit questions).value.map view = questions.map view := by
  cases found : questions.find? (·.id = id) with
  | none => rw [change_absent found]
  | some q =>
    obtain ⟨before,after,split,changed⟩ := change_present found edit
    have here := kept q found
    rw [changed,split]
    simp only [List.map_append,List.map_cons,here]

theorem map_change {α : Type} {view : Question → α} {edit : Question → Noted Question}
    (kept : ∀ q, view (edit q).value = view q) (id : String) (questions : List Question) :
    (change id edit questions).value.map view = questions.map view :=
  map_change_found fun q _ => kept q

end Questions

namespace Choices

theorem rename_unknown {id : String} {choices : List Choice} (absent : ∀ c ∈ choices, c.id ≠ id) (label : String) :
    rename id label choices = ⟨choices,[.unknownChoice id]⟩ := by
  induction choices with
  | nil => rfl
  | cons c rest ih =>
    have later := ih fun other member => absent other (List.mem_cons_of_mem _ member)
    rw [rename,if_neg (absent c List.mem_cons_self),later]

theorem rename_first {id : String} {c : Choice} (named : c.id = id) (label : String) (rest : List Choice) :
    (rename id label (c :: rest)).value = (if c.isOther then c else { c with label }) :: rest := by
  rw [rename,if_pos named]
  split <;> rfl

theorem rename_append {id : String} {before : List Choice} {c : Choice} (others : ∀ other ∈ before, other.id ≠ id)
    (named : c.id = id) (label : String) (after : List Choice) :
    (rename id label (before ++ c :: after)).value =
      before ++ (if c.isOther then c else { c with label }) :: after := by
  induction before with
  | nil => exact rename_first named label after
  | cons head before ih =>
    have first := others head List.mem_cons_self
    have rest := ih fun other member => others other (List.mem_cons_of_mem _ member)
    simp only [List.cons_append,rename,if_neg first,rest]

theorem remove_unknown {id : String} {choices : List Choice} (absent : ∀ c ∈ choices, c.id ≠ id) :
    remove id choices = choices :=
  List.filter_eq_self.mpr fun c member => decide_eq_true (absent c member)

theorem refuses_iff {settings : Settings} {choices : List Choice} {other : Bool} :
    refuses settings choices other = true ↔
      settings.otherPolicy = .strict ∧ other = true ∧ ∃ c ∈ choices, c.kind = .other := by
  simp only [refuses,hasOther,Choice.isOther,Bool.and_eq_true,decide_eq_true_eq,List.any_eq_true]
  exact ⟨fun ⟨⟨other,strict⟩,held⟩ => ⟨strict,other,held⟩,fun ⟨strict,other,held⟩ => ⟨⟨other,strict⟩,held⟩⟩

end Choices

theorem Question.choice?_eq_none {q : Question} {id : String} : q.choice? id = none ↔ ∀ c ∈ q.choices, c.id ≠ id := by
  simp only [choice?,List.find?_eq_none,decide_eq_true_eq,ne_eq]

namespace Form

theorem question?_eq_none {form : Form} {id : String} : form.question? id = none ↔ ∀ q ∈ form.questions, q.id ≠ id := by
  simp only [question?,List.find?_eq_none,decide_eq_true_eq,ne_eq]

variable {form : Form} {id : String} {other : Bool} {settings : Settings} {q : Question}

theorem question?_id (found : form.question? id = some q) : q.id = id := by
  simpa using List.find?_some found

theorem addChoice_unknown (absent : form.question? id = none) (ids : IdSource) :
    form.addChoice id other settings ids = ⟨.ok form,ids,[.choiceForUnknownQuestion id]⟩ := by
  rw [question?] at absent
  simp only [addChoice,absent]

theorem addChoice_refused (found : form.question? id = some q)
    (refuses : Choices.refuses settings q.choices other = true) (ids : IdSource) :
    form.addChoice id other settings ids = ⟨.error .otherExists,ids,[.secondOther]⟩ := by
  rw [question?] at found
  simp only [addChoice,found,Choices.add,refuses,if_true]

theorem addChoice_allowed (found : form.question? id = some q)
    (allowed : Choices.refuses settings q.choices other = false) (ids : IdSource) :
    form.addChoice id other settings ids =
      form.withQuestions ids.draw.2
        (Questions.update id
          ({ · with choices := q.choices ++ [Choices.fresh settings.wording q.choices other ids.draw.1] })
          form.questions) := by
  rw [question?] at found
  simp [addChoice,found,Choices.add,allowed]

end Form

namespace Edit

-- The question an edit names. Others may share its identifier.
def question? : Edit → Option String
  | .duplicateQuestion id | .removeQuestion id | .setQuestionText id _ | .setQuestionDescription id _
  | .setMask id _ | .setKind id _ | .setValidation id _ | .setRequired id _ | .setRuleKind id _
  | .addDescription id | .addMask id | .addChoice id _ | .renameChoice id _ _ | .removeChoice id _
  | .reorderChoices id _ => some id
  | .setTitle _ | .setDescription _ | .createQuestion | .reorderQuestions _ => none

-- The choice of that question an edit names by its identifier.
def choice? : Edit → Option String
  | .renameChoice _ choice _ | .removeChoice _ choice => some choice
  | _ => none

def silently (edit : Question → Question) (q : Question) : Noted Question := ⟨edit q,[]⟩

-- The edits that change one question where it stands and draw nothing. `addChoice` is not among
-- them: it draws an identifier and can be refused.
def inPlace? (wording : Wording) : Edit → Option (String × (Question → Noted Question))
  | .setQuestionText id text => some (id,silently ({ · with text }))
  | .setQuestionDescription id description => some (id,silently ({ · with description }))
  | .setMask id mask => some (id,silently ({ · with mask }))
  | .setKind id kind => some (id,silently (Question.setKind kind))
  | .setValidation id validation => some (id,silently ({ · with validation }))
  | .setRequired id required => some (id,silently (Question.setRequired required))
  | .setRuleKind id kind => some (id,silently (Question.setRuleKind kind wording))
  | .addDescription id => some (id,silently (Question.addDescription wording))
  | .addMask id => some (id,silently (Question.addMask wording))
  | .renameChoice id choice label => some (id,Question.renameChoice choice label)
  | .removeChoice id choice => some (id,silently fun q => { q with choices := Choices.remove choice q.choices })
  | .reorderChoices id order => some (id,silently fun q => { q with choices := Choices.reorder order q.choices })
  | .setTitle _ | .setDescription _ | .createQuestion | .duplicateQuestion _ | .removeQuestion _
  | .reorderQuestions _ | .addChoice _ _ => none

def onChoices : Edit → List Choice → List Choice
  | .renameChoice _ choice label,choices => (Choices.rename choice label choices).value
  | .removeChoice _ choice,choices => Choices.remove choice choices
  | .reorderChoices _ order,choices => Choices.reorder order choices
  | _,choices => choices

variable {wording : Wording} {edit : Edit} {id : String} {change : Question → Noted Question}

theorem inPlace_apply {settings : Settings} (inPlace : edit.inPlace? settings.wording = some (id,change))
    (form : Form) (ids : IdSource) :
    form.apply edit settings ids = form.withQuestions ids (Questions.change id change form.questions) := by
  cases edit <;> cases inPlace <;> rfl

theorem inPlace_question (inPlace : edit.inPlace? wording = some (id,change)) : edit.question? = some id := by
  cases edit <;> cases inPlace <;> rfl

theorem inPlace_id (inPlace : edit.inPlace? wording = some (id,change)) (q : Question) :
    (change q).value.id = q.id := by
  cases edit with
  | addMask =>
    cases inPlace
    simp only [silently,Question.addMask]
    split <;> rfl
  | _ => cases inPlace <;> rfl

theorem inPlace_choices (inPlace : edit.inPlace? wording = some (id,change)) (q : Question) :
    (change q).value.choices = edit.onChoices q.choices := by
  cases edit with
  | addMask =>
    cases inPlace
    simp only [silently,Question.addMask]
    split <;> rfl
  | _ => cases inPlace <;> rfl

end Edit
end Questionnaire
