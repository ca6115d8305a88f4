import Questionnaire.Proofs.Edits
import Questionnaire.Proofs.Reordering
/-!
What an edit leaves alone. An edit that revises a question where it stands has eyes for the first one with
the identifier only, and there for the part it is about.
-/

namespace Questionnaire

namespace Question

-- Whether a question keeps its validation when its kind changes.
def DropsAs (kind : QuestionKind) (q : Question) : Prop :=
  kind = .multipleChoice ∨ kind = .long ∧ ∃ required rule, q.validation = some ⟨required,.number rule⟩

-- What becomes of the question an edit names. Each case writes out the parts that may differ; all the
-- others are those of the question as it was.
inductive Revised : Edit → Question → Question → Prop where
  | text {id : String} {text : Option String} {q : Question} :
      Revised (.setQuestionText id text) q { q with text }
  | description {id : String} {description : Option String} {q : Question} :
      Revised (.setQuestionDescription id description) q { q with description }
  | described {id description : String} {q : Question}
      (kept : ∀ shown, q.description = some shown → description = shown) :
      Revised (.addDescription id) q { q with description := some description }
  | mask {id : String} {mask : Option String} {q : Question} : Revised (.setMask id mask) q { q with mask }
  | masked {id mask : String} {q : Question} (short : q.kind = .short)
      (kept : ∀ given, q.mask = some given → mask = given) : Revised (.addMask id) q { q with mask := some mask }
  | unmasked {id : String} {q : Question} (other : q.kind ≠ .short) : Revised (.addMask id) q q
  | kind {id : String} {kind : QuestionKind} {validation : Option Validation} {q : Question}
      (dropped : q.DropsAs kind → validation = none) (kept : ¬ q.DropsAs kind → validation = q.validation) :
      Revised (.setKind id kind) q { q with kind, validation }
  | validation {id : String} {validation : Option Validation} {q : Question} :
      Revised (.setValidation id validation) q { q with validation }
  | required {id : String} {required : Bool} {v : Validation} {q : Question} (held : q.validation = some v) :
      Revised (.setRequired id required) q { q with validation := some { v with required } }
  | requiredAlone {id : String} {required : Bool} {q : Question} (bare : q.validation = none) :
      Revised (.setRequired id required) q { q with validation := some ⟨required,.free⟩ }
  | rule {id : String} {kind : Option RuleKind} {rule : Rule} {q : Question} (asked : rule.kind = kind) :
      Revised (.setRuleKind id kind) q { q with validation := some ⟨q.isRequired,rule⟩ }
  | relabelled {id choice label : String} {before after : List Choice} {c : Choice} {q : Question}
      (split : q.choices = before ++ c :: after) (first : ∀ other ∈ before, other.id ≠ choice)
      (named : c.id = choice) (free : c.kind = .option) :
      Revised (.renameChoice id choice label) q { q with choices := before ++ { c with label } :: after }
  | pinned {id choice label : String} {q : Question}
      (pinned : ∀ c, q.choice? choice = some c → c.kind = .other) : Revised (.renameChoice id choice label) q q
  | withdrawn {id choice : String} {q : Question} :
      Revised (.removeChoice id choice) q { q with choices := q.choices.filter (·.id ≠ choice) }
  | reordered {id : String} {order : List String} {choices : List Choice} {q : Question}
      (held : choices ⊆ q.choices)
      (labels : choices.map Choice.label = order.filter (· ∈ q.choices.map Choice.label)) :
      Revised (.reorderChoices id order) q { q with choices }
  | offered {id : String} {other : Bool} {c : Choice} {q : Question} (kind : c.isOther = other) :
      Revised (.addChoice id other) q { q with choices := q.choices ++ [c] }

variable {wording : Wording} {q : Question}

theorem revised_kind (id : String) (kind : QuestionKind) (q : Question) :
    Revised (.setKind id kind) q (q.setKind kind) := by
  have numeric : q.hasNumberRule = true ↔ ∃ required rule, q.validation = some ⟨required,.number rule⟩ := by
    rcases q with ⟨_,_,_,_,_,_ | ⟨required,rule⟩,_⟩
    · simp [hasNumberRule]
    · cases rule <;> simp [hasNumberRule,Validation.hasNumberRule]
  refine .kind ?_ ?_
  · rintro (rfl | ⟨rfl,ruled⟩)
    · rfl
    · exact if_pos (numeric.mpr ruled)
  · intro keeps
    cases kind with
    | short => rfl
    | long => exact if_neg fun ruled => keeps (.inr ⟨rfl,numeric.mp ruled⟩)
    | multipleChoice => exact absurd (.inl rfl) keeps

theorem revised_required (id : String) (required : Bool) (q : Question) :
    Revised (.setRequired id required) q (q.setRequired required) := by
  cases held : q.validation with
  | none =>
    simp only [setRequired,held]
    exact .requiredAlone held
  | some v =>
    simp only [setRequired,held]
    exact .required held

theorem revised_rule (id : String) (kind : Option RuleKind) (q : Question) :
    Revised (.setRuleKind id kind) q (q.setRuleKind kind wording) := by
  refine .rule ?_
  cases kind with
  | none => rfl
  | some kind => cases kind <;> rfl

theorem revised_description (id : String) (q : Question) : Revised (.addDescription id) q (q.addDescription wording) := by
  refine .described ?_
  intro shown held
  rw [held]
  rfl

theorem revised_mask (id : String) (q : Question) : Revised (.addMask id) q (q.addMask wording) := by
  by_cases short : q.kind = .short
  · rw [addMask,if_pos short]
    refine .masked short ?_
    intro given held
    rw [held]
    rfl
  · rw [addMask,if_neg short]
    exact .unmasked short

theorem revised_label (id choice label : String) (q : Question) :
    Revised (.renameChoice id choice label) q (q.renameChoice choice label).value := by
  rw [renameChoice]
  cases found : q.choice? choice with
  | none =>
    have absent : ∀ c ∈ q.choices, c.id ≠ choice := by simpa [choice?] using found
    rw [Choices.rename_unknown absent]
    exact .pinned fun c known => by rw [found] at known; cases known
  | some c =>
    obtain ⟨named,before,after,split,others⟩ := List.find?_eq_some_iff_append.mp found
    have first : ∀ other ∈ before, other.id ≠ choice := by simpa using others
    have renamed := Choices.rename_append first (by simpa using named) label after
    rw [← split] at renamed
    cases kind : c.kind with
    | option =>
      have free : c.isOther = false := by simp [Choice.isOther,kind]
      rw [renamed,if_neg (Bool.eq_false_iff.mp free)]
      exact .relabelled split first (by simpa using named) kind
    | other =>
      have held : c.isOther = true := by simp [Choice.isOther,kind]
      rw [renamed,if_pos held,← split]
      exact .pinned fun d known => by rw [Option.some.inj (known.symm.trans found)]; exact kind

end Question

open Question

theorem Edit.inPlace_revised {wording : Wording} {edit : Edit} {id : String} {change : Question → Noted Question}
    (inPlace : edit.inPlace? wording = some (id,change)) (q : Question) : Revised edit q (change q).value := by
  cases edit with
  | setQuestionText => cases inPlace; exact .text
  | setQuestionDescription => cases inPlace; exact .description
  | setMask => cases inPlace; exact .mask
  | setKind => cases inPlace; exact revised_kind _ _ q
  | setValidation => cases inPlace; exact .validation
  | setRequired => cases inPlace; exact revised_required _ _ q
  | setRuleKind => cases inPlace; exact revised_rule _ _ q
  | addDescription => cases inPlace; exact revised_description _ q
  | addMask => cases inPlace; exact revised_mask _ q
  | renameChoice => cases inPlace; exact revised_label _ _ _ q
  | removeChoice => cases inPlace; exact .withdrawn
  | reorderChoices _ order =>
    cases inPlace
    exact .reordered (fun _ moved => (mem_picked moved).1) (map_picked order)
  | _ => cases inPlace

-- The question an edit revises where it stands. A copy is put elsewhere, and what is removed does not
-- stand any more.
def Edit.revises? : Edit → Option String
  | .removeQuestion _ | .duplicateQuestion _ => none
  | edit => edit.question?

namespace Form

-- One form is another in all but the first question with an identifier.
structure Frames (id : String) (revised : Question → Question → Prop) (form next : Form) : Prop where
  title : next.title = form.title
  description : next.description = form.description
  identifiers : next.questions.map Question.id = form.questions.map Question.id
  absent : (∀ q ∈ form.questions, q.id ≠ id) → next.questions = form.questions
  present : ∀ before q after, form.questions = before ++ q :: after → (∀ other ∈ before, other.id ≠ id) → q.id = id →
    ∃ now, next.questions = before ++ now :: after ∧ revised q now

variable {form next : Form} {settings : Settings} {edit : Edit} {id : String} {ids : IdSource}
  {revised : Question → Question → Prop}

theorem question?_of_split {before after : List Question} {q : Question} (split : form.questions = before ++ q :: after)
    (first : ∀ other ∈ before, other.id ≠ id) (named : q.id = id) : form.question? id = some q := by
  refine List.find?_eq_some_iff_append.mpr ⟨by simpa using named,before,after,split,?_⟩
  simpa using first

theorem change_frames {change : Question → Noted Question} (kept : ∀ q, (change q).value.id = q.id)
    (revises : ∀ q, form.question? id = some q → revised q (change q).value) :
    Frames id revised form { form with questions := (Questions.change id change form.questions).value } where
  title := rfl
  description := rfl
  identifiers := Questions.map_change kept id form.questions
  absent unknown := by rw [Questions.change_absent (question?_eq_none.mpr unknown)]
  present before q after split first named := by
    refine ⟨(change q).value,?_,revises q (question?_of_split split first named)⟩
    rw [split,Questions.change_append first named]

theorem unknown_frames (unknown : form.question? id = none) : Frames id revised form form where
  title := rfl
  description := rfl
  identifiers := rfl
  absent _ := rfl
  present before q after split first named := by
    rw [question?_of_split split first named] at unknown
    cases unknown

theorem inPlace_frames {change : Question → Noted Question}
    (inPlace : edit.inPlace? settings.wording = some (id,change))
    (ok : (form.apply edit settings ids).result = .ok next) : Frames id (Revised edit) form next := by
  rw [Edit.inPlace_apply inPlace] at ok
  cases ok
  exact change_frames (Edit.inPlace_id inPlace) fun q _ => Edit.inPlace_revised inPlace q

theorem addChoice_frames {other : Bool} (ok : (form.addChoice id other settings ids).result = .ok next) :
    Frames id (Revised (.addChoice id other)) form next := by
  cases found : form.question? id with
  | none =>
    rw [addChoice_unknown found] at ok
    cases ok
    exact unknown_frames found
  | some q =>
    cases refuses : Choices.refuses settings q.choices other with
    | true =>
      rw [addChoice_refused found refuses] at ok
      cases ok
    | false =>
      rw [addChoice_allowed found refuses] at ok
      cases ok
      refine change_frames (fun _ => rfl) fun again known => ?_
      obtain rfl := Option.some.inj (found.symm.trans known)
      refine .offered ?_
      cases other <;> rfl

end Form

theorem only_named_question_revised (form : Form) (settings : Settings) (ids : IdSource) {edit : Edit} {id : String}
    (names : edit.revises? = some id) {next : Form} (ok : (form.apply edit settings ids).result = .ok next) :
    form.Frames id (Revised edit) next := by
  cases edit with
  | addChoice =>
    cases names
    exact Form.addChoice_frames ok
  | setTitle | setDescription | createQuestion | duplicateQuestion | removeQuestion | reorderQuestions => cases names
  | _ =>
    cases names
    exact Form.inPlace_frames rfl ok

-- Two questions share the identifier and the rule. Only the first of them loses it with its kind.
theorem first_of_two_revised :
    let age : Question := { id := "age", validation := some ⟨true,.number ⟨.isNumber,0,"A number"⟩⟩ }
    let form : Form := ⟨"Entry","",[{ id := "name" },age,age]⟩
    let next : Form := ⟨"Entry","",[{ id := "name" },{ age with kind := .long, validation := none },age]⟩
    let edit : Edit := .setKind "age" .long
    edit.revises? = some "age" ∧ (form.apply edit {} (.numbered "id")).result = .ok next ∧
      form.Frames "age" (Revised edit) next := by
  intro age form next edit
  have names : edit.revises? = some "age" := rfl
  have ok : (form.apply edit {} (.numbered "id")).result = .ok next := rfl
  exact ⟨names,ok,only_named_question_revised form {} (.numbered "id") names ok⟩

end Questionnaire
