import Questionnaire.Proofs.Draft
import Questionnaire.Proofs.Frame
/-!
Rules for numbers and the questions they stand on. A change of kind takes such a rule off a question that
stops being short. What puts one on a question does not ask what kind the question is of, so it stands on
another kind of question exactly where it was put on one.
-/

namespace Questionnaire

namespace Rule

def IsNumber (rule : Rule) : Prop := ∃ number, rule = .number number

-- Also where the rule for numbers that is announced is missing.
def AnnouncesNumber (rule : Rule) : Prop := rule.kind = some .number

theorem announces_iff {rule : Rule} : rule.AnnouncesNumber ↔ rule.IsNumber ∨ rule = .missing .number := by
  cases rule <;> simp [AnnouncesNumber,IsNumber,kind]

end Rule

open Rule

def Question.KeepsShort (Numeric : Rule → Prop) (q : Question) : Prop :=
  q.kind ≠ .short → ∀ v, q.validation = some v → ¬ Numeric v.rule

def Form.KeepsShort (Numeric : Rule → Prop) (form : Form) : Prop :=
  ∀ q ∈ form.questions, q.KeepsShort Numeric

-- Whether an edit puts a rule for numbers on its question, missing or not.
def Edit.attachesNumber : Edit → Bool
  | .setValidation _ (some v) => v.rule.kind = some .number
  | .setRuleKind _ kind => kind = some .number
  | _ => false

def Form.Attaches (form : Form) (edit : Edit) : Prop :=
  edit.attachesNumber = true ∧ ∃ id q, edit.question? = some id ∧ form.question? id = some q ∧ q.kind ≠ .short

-- A rule that is missing is no rule to be dropped when the question becomes a long one.
def Form.Strands (form : Form) (edit : Edit) : Prop :=
  ∃ id q required, edit = .setKind id .long ∧ form.question? id = some q ∧
    q.validation = some ⟨required,.missing .number⟩

namespace Question

variable {Numeric : Rule → Prop} {edit : Edit} {q now : Question}

theorem revised_kind_keepsShort (numeric : ∀ rule, Numeric rule → rule.AnnouncesNumber) {id : String}
    {kind : QuestionKind} {validation : Option Validation} (dropped : q.DropsAs kind → validation = none)
    (kept : ¬ q.DropsAs kind → validation = q.validation)
    (stranded : ∀ required, kind = .long → q.validation = some ⟨required,.missing .number⟩ →
      ¬ Numeric (.missing .number)) :
    ({ q with id, kind, validation } : Question).KeepsShort Numeric := by
  intro other v held ruled
  have keeps : ¬ q.DropsAs kind := by
    intro drops
    rw [dropped drops] at held
    cases held
  have was : q.validation = some v := (kept keeps).symm.trans held
  obtain ⟨required,rule⟩ := v
  cases kind with
  | short => exact other rfl
  | multipleChoice => exact keeps (.inl rfl)
  | long =>
    rcases announces_iff.mp (numeric rule ruled) with ⟨number,rfl⟩ | rfl
    · exact keeps (.inr ⟨rfl,required,number,was⟩)
    · exact stranded required rfl was ruled

theorem revised_keepsShort (numeric : ∀ rule, Numeric rule → rule.AnnouncesNumber) (revised : Revised edit q now)
    (before : q.KeepsShort Numeric) (short : edit.attachesNumber = true → q.kind = .short)
    (stranded : ∀ id required, edit = .setKind id .long → q.validation = some ⟨required,.missing .number⟩ →
      ¬ Numeric (.missing .number)) : now.KeepsShort Numeric := by
  cases revised with
  | kind dropped kept =>
    refine revised_kind_keepsShort numeric dropped kept ?_
    rintro required rfl was
    exact stranded _ required rfl was
  | @validation id given q =>
    intro other v held ruled
    cases held
    exact other (short (decide_eq_true (numeric _ ruled)))
  | required held =>
    intro other v again ruled
    cases again
    exact before other _ held ruled
  | requiredAlone =>
    intro _ v again ruled
    cases again
    cases numeric _ ruled
  | @rule id kind rule q asked =>
    intro other v again ruled
    cases again
    exact other (short (decide_eq_true (asked.symm.trans (numeric _ ruled))))
  | _ => exact before

end Question

namespace Draft

variable {Numeric : Rule → Prop} {settings : Settings} {draft : Draft} {edit : Edit}

theorem next_keepsShort (numeric : ∀ rule, Numeric rule → rule.AnnouncesNumber)
    (before : draft.form.KeepsShort Numeric) (apart : ¬ draft.form.Attaches edit)
    (held : Numeric (.missing .number) → ¬ draft.form.Strands edit) :
    (draft.next settings edit).form.KeepsShort Numeric := by
  intro q member
  cases origin_of_mem member with
  | kept old => exact before q old
  | created => exact fun other => absurd rfl other
  | @copied id q _ found => exact before q (List.mem_of_find?_eq_some found)
  | @extended id _ q _ found => exact before q (List.mem_of_find?_eq_some found)
  | @changed id change q inPlace found =>
    have names := Edit.inPlace_question inPlace
    refine Question.revised_keepsShort numeric (Edit.inPlace_revised inPlace q)
      (before q (List.mem_of_find?_eq_some found)) ?_ ?_
    · intro attaches
      by_contra other
      exact apart ⟨attaches,id,q,names,found,other⟩
    · rintro named required rfl missing ruled
      cases names
      exact held ruled ⟨id,q,required,rfl,found,missing⟩

theorem next_attached (attaches : draft.form.Attaches edit) :
    ∃ q ∈ (draft.next settings edit).form.questions, edit.question? = some q.id ∧
      ¬ q.KeepsShort AnnouncesNumber := by
  obtain ⟨numbers,id,q,names,found,other⟩ := attaches
  have named : q.id = id := Form.question?_id found
  cases edit with
  | setValidation _ given =>
    cases names
    cases given with
    | none => cases numbers
    | some v =>
      have announced : v.rule.kind = some .number := of_decide_eq_true numbers
      exact ⟨{ q with validation := some v },Questions.changed_mem found _,congrArg some named.symm,
        fun kept => kept other v rfl announced⟩
  | setRuleKind _ kind =>
    cases names
    have asked : kind = some .number := of_decide_eq_true numbers
    subst asked
    exact ⟨q.setRuleKind (some .number) settings.wording,Questions.changed_mem found _,congrArg some named.symm,
      fun kept => kept other _ rfl rfl⟩
  | _ => cases numbers

theorem fresh_keepsShort (settings : Settings) (ids : IdSource) : (fresh settings ids).form.KeepsShort Numeric := by
  intro q member other
  rw [List.mem_singleton.mp member] at other
  exact absurd rfl other

end Draft

-- The rule that is missing where numbers are announced is kept apart: nothing is said of a question that
-- becomes a long one with it.
theorem number_rules_attached (settings : Settings) (ids : IdSource) (edits : List Edit) :
    let reached := (Draft.fresh settings ids).run settings
    ((∀ done edit, done ++ [edit] <+: edits → ¬ (reached done).form.Attaches edit) →
      (reached edits).form.KeepsShort IsNumber ∧
      ((∀ done edit, done ++ [edit] <+: edits → ¬ (reached done).form.Strands edit) →
        (reached edits).form.KeepsShort AnnouncesNumber)) ∧
    ∀ edit, (reached edits).form.Attaches edit →
      ∃ q ∈ (reached (edits ++ [edit])).form.questions, edit.question? = some q.id ∧
        ¬ q.KeepsShort AnnouncesNumber := by
  intro reached
  refine ⟨?_,?_⟩
  · intro apart
    refine ⟨?_,?_⟩
    · refine Draft.run_preserves_unless (·.form.KeepsShort IsNumber) (·.form.Attaches ·)
        (Draft.fresh_keepsShort settings ids) ?_ apart
      intro draft edit _ before away
      refine Draft.next_keepsShort (fun rule number => announces_iff.mpr (.inl number)) before away ?_
      rintro ⟨number,missing⟩
      cases missing
    · intro held
      have neither : ∀ done edit, done ++ [edit] <+: edits →
          ¬ ((reached done).form.Attaches edit ∨ (reached done).form.Strands edit) := by
        intro done edit soFar breaks
        exact breaks.elim (apart done edit soFar) (held done edit soFar)
      refine Draft.run_preserves_unless (·.form.KeepsShort AnnouncesNumber)
        (fun draft edit => draft.form.Attaches edit ∨ draft.form.Strands edit)
        (Draft.fresh_keepsShort settings ids) ?_ neither
      intro draft edit _ before clear
      exact Draft.next_keepsShort (fun rule announced => announced) before (fun attaches => clear (.inl attaches))
        fun _ strands => clear (.inr strands)
  · intro edit attaches
    have last : reached (edits ++ [edit]) = (reached edits).next settings edit := Draft.run_concat settings _ edits edit
    rw [last]
    exact Draft.next_attached attaches

-- The copy keeps the rule for numbers that the question it was made of loses as a long one.
theorem copy_keeps_number_rule :
    let edits : List Edit := [.setRuleKind "id-1" (some .number),.duplicateQuestion "id-1",.setKind "id-1" .long,
      .setRuleKind "id-1" (some .length)]
    let reached := (Draft.fresh {} (.numbered "id")).run {}
    (∀ done edit, done ++ [edit] <+: edits → ¬ (reached done).form.Attaches edit) ∧
      (∀ done edit, done ++ [edit] <+: edits → ¬ (reached done).form.Strands edit) ∧
      (reached edits).form.KeepsShort IsNumber ∧ (reached edits).form.KeepsShort AnnouncesNumber := by
  intro edits reached
  have apart : ∀ done edit, done ++ [edit] <+: edits → ¬ (reached done).form.Attaches edit := by
    simp only [edits,Draft.turns_cons]
    refine ⟨?_,?_,?_,?_,Draft.turns_nil⟩
    · rintro ⟨_,id,q,names,found,other⟩
      cases names
      cases found
      exact other rfl
    · rintro ⟨numbers,_⟩; cases numbers
    · rintro ⟨numbers,_⟩; cases numbers
    · rintro ⟨numbers,_⟩; cases numbers
  have held : ∀ done edit, done ++ [edit] <+: edits → ¬ (reached done).form.Strands edit := by
    simp only [edits,Draft.turns_cons]
    refine ⟨?_,?_,?_,?_,Draft.turns_nil⟩
    · rintro ⟨_,_,_,changes,_⟩; cases changes
    · rintro ⟨_,_,_,changes,_⟩; cases changes
    · rintro ⟨id,q,required,changes,found,missing⟩
      cases changes
      cases found
      cases missing
    · rintro ⟨_,_,_,changes,_⟩; cases changes
  obtain ⟨short,announced⟩ := (number_rules_attached {} (.numbered "id") edits).1 apart
  exact ⟨apart,held,short,announced held⟩

theorem long_question_takes_number_rule :
    ¬ ∀ (settings : Settings) (ids : IdSource) (edits : List Edit),
      ((Draft.fresh settings ids).run settings edits).form.KeepsShort AnnouncesNumber := by
  intro always
  have kept := always {} (.numbered "id") [.setKind "id-1" .long,.setRuleKind "id-1" (some .number)]
  exact kept _ List.mem_cons_self (by decide) _ rfl rfl

end Questionnaire
