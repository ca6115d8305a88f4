import Questionnaire.Proofs.Stale
/-!
What is said about edits. An edit gets one notice at most, a warning exactly when it is refused. One that
comes too late is told of, with a single exception: a removal does not see that there is nothing to remove.
-/

namespace Questionnaire

namespace Choices

theorem rename_notices (id label : String) (choices : List Choice) :
    (rename id label choices).notices =
      match choices.find? (·.id = id) with
      | none => [.unknownChoice id]
      | some c => if c.isOther then [.renameOfOther id] else [] := by
  induction choices with
  | nil => rfl
  | cons c rest ih =>
    by_cases named : c.id = id
    · rw [rename,if_pos named,List.find?_cons_of_pos (by simpa using named)]
      dsimp only
      split <;> rfl
    · rw [rename,if_neg named,List.find?_cons_of_neg (by simpa using named)]
      exact ih

end Choices

namespace Questions

theorem change_notices {id : String} {questions : List Question} {q : Question}
    (found : questions.find? (·.id = id) = some q) (edit : Question → Noted Question) :
    (change id edit questions).notices = (edit q).notices := by
  obtain ⟨before,after,_,changed⟩ := change_present found edit
  rw [changed]

end Questions

namespace Outcome

theorem mem_andThen_notices {first : Outcome} {rest : Form → IdSource → Outcome} {notice : Notice} :
    notice ∈ (first.andThen rest).notices ↔
      notice ∈ first.notices ∨ ∃ form, first.result = .ok form ∧ notice ∈ (rest form first.ids).notices := by
  cases made : first.result with
  | error rejection => simp [andThen_error made]
  | ok form => simp [andThen_ok made,noting]

end Outcome

namespace Form

-- What a removal takes out is picked by its identifier, and that may be nothing at all. Of a choice to be
-- removed the question is looked for first, and told of if it is not there.
inductive Overlooks (form : Form) : Edit → Prop where
  | question {id : String} (unknown : form.question? id = none) : Overlooks form (.removeQuestion id)
  | choice {id choice : String} {q : Question} (found : form.question? id = some q)
      (unknown : q.choice? choice = none) : Overlooks form (.removeChoice id choice)

-- All that such an edit names is there, but the label of a choice for free text stays.
inductive Pins (form : Form) : Edit → Prop where
  | rename {id choice label : String} {q : Question} {c : Choice} (found : form.question? id = some q)
      (held : q.choice? choice = some c) (free : c.kind = .other) : Pins form (.renameChoice id choice label)

-- The notice that an edit calls for, by what it finds in the form. It carries the identifier, or the order,
-- that the edit gave in vain.
inductive Due (form : Form) (settings : Settings) : Edit → Notice → Prop where
  | unknownQuestion {edit : Edit} {id : String} {change : Question → Noted Question}
      (inPlace : edit.inPlace? settings.wording = some (id,change)) (unknown : form.question? id = none) :
      Due form settings edit (.unknownQuestion id)
  | unknownCopied {id : String} (unknown : form.question? id = none) :
      Due form settings (.duplicateQuestion id) (.duplicateOfUnknownQuestion id)
  | unknownExtended {id : String} {other : Bool} (unknown : form.question? id = none) :
      Due form settings (.addChoice id other) (.choiceForUnknownQuestion id)
  | unknownRenamed {id choice label : String} {q : Question} (found : form.question? id = some q)
      (unknown : q.choice? choice = none) : Due form settings (.renameChoice id choice label) (.unknownChoice choice)
  | pinned {edit : Edit} {choice : String} (pins : form.Pins edit) (chooses : edit.choice? = some choice) :
      Due form settings edit (.renameOfOther choice)
  | disordered {order : List String}
      (disordered : ¬ (order.Nodup ∧ order.Perm (form.questions.map Question.id))) :
      Due form settings (.reorderQuestions order) (.notAPermutation order)
  | refused {edit : Edit} (refused : form.Refuses settings edit) : Due form settings edit .secondOther

variable {form : Form} {settings : Settings} {edit : Edit} {notice : Notice} {ids : IdSource} {id : String}
  {change : Question → Noted Question} {q : Question}

theorem inPlace_notices_unknown (inPlace : edit.inPlace? settings.wording = some (id,change))
    (unknown : form.question? id = none) (ids : IdSource) :
    (form.apply edit settings ids).notices = [.unknownQuestion id] := by
  rw [Edit.inPlace_apply inPlace,withQuestions,Questions.change_absent unknown]

theorem inPlace_notices_found (inPlace : edit.inPlace? settings.wording = some (id,change))
    (found : form.question? id = some q) (ids : IdSource) :
    (form.apply edit settings ids).notices = (change q).notices := by
  rw [Edit.inPlace_apply inPlace,withQuestions,Questions.change_notices found]

theorem rename_notices {choice label : String} (found : form.question? id = some q) (settings : Settings)
    (ids : IdSource) :
    (form.apply (.renameChoice id choice label) settings ids).notices =
      match q.choice? choice with
      | none => [.unknownChoice choice]
      | some c => if c.isOther then [.renameOfOther choice] else [] :=
  (inPlace_notices_found rfl found ids).trans (Choices.rename_notices choice label q.choices)

theorem apply_due (due : form.Due settings edit notice) (ids : IdSource) :
    (form.apply edit settings ids).notices = [notice] := by
  cases due with
  | unknownQuestion inPlace unknown => exact inPlace_notices_unknown inPlace unknown ids
  | unknownCopied unknown =>
    rw [question?] at unknown
    simp only [apply,Questions.duplicate,unknown,withQuestions]
  | unknownExtended unknown => exact congrArg Outcome.notices (addChoice_unknown unknown ids)
  | unknownRenamed found unknown => rw [rename_notices found,unknown]
  | pinned pins chooses =>
    obtain ⟨found,held,free⟩ := pins
    cases chooses
    rw [rename_notices found,held]
    exact if_pos (decide_eq_true free)
  | disordered disordered =>
    simp only [apply,Questions.reorder,if_neg (mt Questions.isOrderOf_iff.mp disordered),withQuestions]
  | refused refused => exact congrArg Outcome.notices (apply_refused refused ids)

theorem inPlace_due_or_silent (inPlace : edit.inPlace? settings.wording = some (id,change))
    (silent : ∀ q, (change q).notices = []) (ids : IdSource) :
    (∃ notice, form.Due settings edit notice) ∨ (form.apply edit settings ids).notices = [] := by
  cases found : form.question? id with
  | none => exact .inl ⟨_,.unknownQuestion inPlace found⟩
  | some q => exact .inr ((inPlace_notices_found inPlace found ids).trans (silent q))

theorem addChoice_due_or_silent (form : Form) (settings : Settings) (id : String) (other : Bool) (ids : IdSource) :
    (∃ notice, form.Due settings (.addChoice id other) notice) ∨
      (form.apply (.addChoice id other) settings ids).notices = [] := by
  cases found : form.question? id with
  | none => exact .inl ⟨_,.unknownExtended found⟩
  | some q =>
    cases refuses : Choices.refuses settings q.choices other with
    | true =>
      obtain ⟨strict,rfl,held⟩ := Choices.refuses_iff.mp refuses
      exact .inl ⟨_,.refused ⟨strict,id,q,rfl,found,held⟩⟩
    | false =>
      refine .inr ((congrArg Outcome.notices (addChoice_allowed found refuses ids)).trans ?_)
      exact Questions.change_notices found _

theorem renameChoice_due_or_silent (form : Form) (settings : Settings) (id choice label : String) (ids : IdSource) :
    (∃ notice, form.Due settings (.renameChoice id choice label) notice) ∨
      (form.apply (.renameChoice id choice label) settings ids).notices = [] := by
  cases found : form.question? id with
  | none => exact .inl ⟨_,.unknownQuestion rfl found⟩
  | some q =>
    cases held : q.choice? choice with
    | none => exact .inl ⟨_,.unknownRenamed found held⟩
    | some c =>
      cases kind : c.kind with
      | other => exact .inl ⟨_,.pinned (.rename found held kind) rfl⟩
      | option =>
        right
        rw [rename_notices found,held]
        exact if_neg (by simp [Choice.isOther,kind])

-- An edit that finds all it looks for calls for nothing, nor does one that looks for nothing.
theorem due_or_silent (form : Form) (settings : Settings) (edit : Edit) (ids : IdSource) :
    (∃ notice, form.Due settings edit notice) ∨ (form.apply edit settings ids).notices = [] := by
  cases edit with
  | setTitle | setDescription | createQuestion | removeQuestion => exact .inr rfl
  | duplicateQuestion id =>
    cases found : form.question? id with
    | none => exact .inl ⟨_,.unknownCopied found⟩
    | some q =>
      rw [question?] at found
      exact .inr (by simp only [apply,Questions.duplicate,found,withQuestions])
  | reorderQuestions order =>
    by_cases ordered : order.Nodup ∧ order.Perm (form.questions.map Question.id)
    · have accepted := Questions.isOrderOf_iff.mpr ordered
      exact .inr (by simp only [apply,Questions.reorder,if_pos accepted,withQuestions])
    · exact .inl ⟨_,.disordered ordered⟩
  | addChoice id other => exact addChoice_due_or_silent form settings id other ids
  | renameChoice id choice label => exact renameChoice_due_or_silent form settings id choice label ids
  | _ => exact inPlace_due_or_silent rfl (fun _ => rfl) ids

theorem mem_notices_iff : notice ∈ (form.apply edit settings ids).notices ↔ form.Due settings edit notice := by
  constructor
  · intro said
    rcases due_or_silent form settings edit ids with ⟨other,due⟩ | silent
    · rw [apply_due due,List.mem_singleton] at said
      exact said ▸ due
    · rw [silent] at said
      cases said
  · intro due
    rw [apply_due due]
    exact List.mem_singleton_self notice

theorem notices_length_le (form : Form) (settings : Settings) (edit : Edit) (ids : IdSource) :
    (form.apply edit settings ids).notices.length ≤ 1 := by
  rcases due_or_silent form settings edit ids with ⟨notice,due⟩ | silent
  · exact Nat.le_of_eq (congrArg List.length (apply_due due ids))
  · rw [silent]
    exact Nat.zero_le 1

theorem notices_eq_singleton_iff :
    (form.apply edit settings ids).notices = [notice] ↔ form.Due settings edit notice := by
  constructor
  · intro said
    exact mem_notices_iff.mp (said ▸ List.mem_singleton_self notice)
  · intro due
    exact apply_due due ids

theorem levels_eq_singleton_iff {level : Notice.Level} :
    (form.apply edit settings ids).notices.map Notice.level = [level] ↔
      ∃ notice, form.Due settings edit notice ∧ notice.level = level := by
  constructor
  · intro levels
    obtain ⟨notice,said,rfl⟩ := List.map_eq_singleton_iff.mp levels
    exact ⟨notice,notices_eq_singleton_iff.mp said,rfl⟩
  · rintro ⟨notice,due,rfl⟩
    rw [apply_due due,List.map_singleton]

theorem overlooks_stale (overlooks : form.Overlooks edit) : form.Stale edit := by
  cases overlooks with
  | question unknown => exact .unknownQuestion rfl (question?_eq_none.mp unknown)
  | choice found unknown => exact .unknownChoice rfl rfl found (Question.choice?_eq_none.mp unknown)

theorem overlooks_silent (overlooks : form.Overlooks edit) (settings : Settings) (ids : IdSource) :
    (form.apply edit settings ids).notices = [] := by
  cases overlooks with
  | question => rfl
  | @choice id choice _ found =>
    have inPlace : (Edit.removeChoice id choice).inPlace? settings.wording = some (id,_) := rfl
    exact inPlace_notices_found inPlace found ids

theorem apply_overlooked (overlooks : form.Overlooks edit) (settings : Settings) (ids : IdSource) :
    form.apply edit settings ids = ⟨.ok form,ids,[]⟩ := by
  obtain ⟨ok,left⟩ := Prod.mk.inj (apply_stale (overlooks_stale overlooks) settings ids)
  let outcome := form.apply edit settings ids
  calc outcome = ⟨outcome.result,outcome.ids,outcome.notices⟩ := rfl
    _ = ⟨.ok form,ids,[]⟩ := by rw [ok,left,overlooks_silent overlooks]

theorem due_of_stale (stale : form.Stale edit) (seen : ¬ form.Overlooks edit) (settings : Settings) :
    ∃ notice, form.Due settings edit notice ∧ notice.level = .debug := by
  cases stale with
  | unknownQuestion names absent =>
    have unknown := question?_eq_none.mpr absent
    cases edit with
    | duplicateQuestion =>
      cases names
      exact ⟨_,.unknownCopied unknown,rfl⟩
    | addChoice =>
      cases names
      exact ⟨_,.unknownExtended unknown,rfl⟩
    | removeQuestion =>
      cases names
      exact absurd (.question unknown) seen
    | setTitle | setDescription | createQuestion | reorderQuestions => cases names
    | _ =>
      cases names
      exact ⟨_,.unknownQuestion rfl unknown,rfl⟩
  | unknownChoice names chooses found absent =>
    have unknown := Question.choice?_eq_none.mpr absent
    cases edit with
    | renameChoice =>
      cases names
      cases chooses
      exact ⟨_,.unknownRenamed found unknown,rfl⟩
    | removeChoice =>
      cases names
      cases chooses
      exact absurd (.choice found unknown) seen
    | _ => cases chooses
  | disordered disordered => exact ⟨_,.disordered disordered,rfl⟩

theorem stale_of_due (due : form.Due settings edit notice) (debug : notice.level = .debug) :
    form.Stale edit ∨ form.Pins edit := by
  cases due with
  | unknownQuestion inPlace unknown =>
    exact .inl (.unknownQuestion (Edit.inPlace_question inPlace) (question?_eq_none.mp unknown))
  | unknownCopied unknown | unknownExtended unknown =>
    exact .inl (.unknownQuestion rfl (question?_eq_none.mp unknown))
  | unknownRenamed found unknown =>
    exact .inl (.unknownChoice rfl rfl found (Question.choice?_eq_none.mp unknown))
  | pinned pins _ => exact .inr pins
  | disordered disordered => exact .inl (.disordered disordered)
  | refused => cases debug

theorem debug_iff :
    (∃ notice, form.Due settings edit notice ∧ notice.level = .debug) ↔
      form.Stale edit ∧ ¬ form.Overlooks edit ∨ form.Pins edit := by
  constructor
  · rintro ⟨notice,due,debug⟩
    have seen : ¬ form.Overlooks edit := by
      intro overlooks
      have said := apply_due due (.numbered "")
      rw [overlooks_silent overlooks] at said
      cases said
    exact (stale_of_due due debug).imp (fun stale => ⟨stale,seen⟩) id
  · rintro (⟨stale,seen⟩ | pins)
    · exact due_of_stale stale seen settings
    · obtain ⟨found,held,free⟩ := pins
      exact ⟨_,.pinned (.rename found held free) rfl,rfl⟩

theorem warning_iff :
    (∃ notice, form.Due settings edit notice ∧ notice.level = .warning) ↔
      (form.apply edit settings ids).result = .error .otherExists := by
  constructor
  · rintro ⟨notice,due,warning⟩
    cases due with
    | refused refused => exact congrArg Outcome.result (apply_refused refused ids)
    | _ => cases warning
  · intro error
    exact ⟨_,.refused (apply_error_iff.mp ⟨_,error⟩),rfl⟩

-- Nothing more is said of a row once one of its edits is refused.
theorem mem_applyAll_notices_iff {edits : List Edit} :
    notice ∈ (form.applyAll edits settings ids).notices ↔
      ∃ before edit after reached, edits = before ++ edit :: after ∧
        (form.applyAll before settings ids).result = .ok reached ∧ reached.Due settings edit notice := by
  induction edits generalizing form ids with
  | nil => simp [applyAll]
  | cons first rest ih =>
    rw [applyAll_cons,Outcome.mem_andThen_notices,mem_notices_iff]
    constructor
    · rintro (due | ⟨next,made,said⟩)
      · exact ⟨[],first,rest,form,rfl,rfl,due⟩
      · obtain ⟨before,edit,after,reached,rfl,led,due⟩ := ih.mp said
        refine ⟨first :: before,edit,after,reached,rfl,?_,due⟩
        rw [applyAll_cons]
        exact Outcome.andThen_accepted.mpr ⟨next,made,led⟩
    · rintro ⟨before,edit,after,reached,split,led,due⟩
      cases before with
      | nil =>
        obtain ⟨rfl,rfl⟩ := List.cons.inj split
        cases led
        exact .inl due
      | cons other before =>
        obtain ⟨rfl,rfl⟩ := List.cons.inj split
        rw [applyAll_cons] at led
        obtain ⟨next,made,later⟩ := Outcome.andThen_accepted.mp led
        exact .inr ⟨next,made,ih.mpr ⟨before,edit,after,reached,rfl,later,due⟩⟩

end Form

-- What the second part says the first leaves open: a removal that finds nothing changes nothing, and
-- nothing is said of it either.
theorem notices_exact (form : Form) (settings : Settings) (ids : IdSource) :
    (∀ edit,
      let outcome := form.apply edit settings ids
      let levels := outcome.notices.map Notice.level
      levels.length ≤ 1 ∧
        (∀ notice, outcome.notices = [notice] ↔ form.Due settings edit notice) ∧
        (levels = [.debug] ↔ form.Stale edit ∧ ¬ form.Overlooks edit ∨ form.Pins edit) ∧
        (levels = [.warning] ↔ outcome.result = .error .otherExists)) ∧
    (∀ edit, form.Overlooks edit → form.Stale edit ∧ form.apply edit settings ids = ⟨.ok form,ids,[]⟩) ∧
    ∀ edits notice, notice ∈ (form.applyAll edits settings ids).notices ↔
      ∃ before edit after reached, edits = before ++ edit :: after ∧
        (form.applyAll before settings ids).result = .ok reached ∧ reached.Due settings edit notice := by
  refine ⟨?_,?_,fun edits notice => Form.mem_applyAll_notices_iff⟩
  · intro edit outcome levels
    refine ⟨?_,fun notice => Form.notices_eq_singleton_iff,Form.levels_eq_singleton_iff.trans Form.debug_iff,
      Form.levels_eq_singleton_iff.trans Form.warning_iff⟩
    rw [List.length_map]
    exact Form.notices_length_le form settings edit ids
  · exact fun edit overlooks =>
      ⟨Form.overlooks_stale overlooks,Form.apply_overlooked overlooks settings ids⟩

-- The question is gone when it is to be removed once more, and when it is to get another mask. Only the
-- second edit is told of.
theorem second_removal_unnoticed :
    let start := Draft.fresh {} (.numbered "id")
    let left : Form := { start.form with questions := [] }
    let removal : Edit := .removeQuestion "id-1"
    let late : Edit := .setMask "id-1" none
    left.Overlooks removal ∧ left.apply removal {} start.ids = ⟨.ok left,start.ids,[]⟩ ∧
      (left.apply late {} start.ids).notices.map Notice.level = [.debug] ∧
      (start.form.applyAll [removal,removal,late] {} start.ids).notices = [.unknownQuestion "id-1"] := by
  intro start left removal late
  obtain ⟨levels,overlooked,_⟩ := notices_exact left {} start.ids
  have unknown : left.Overlooks removal := .question rfl
  have stale : left.Stale late := .unknownQuestion rfl (List.forall_mem_nil _)
  have seen : ¬ left.Overlooks (.setMask "id-1" none) := by rintro ⟨⟩
  exact ⟨unknown,(overlooked removal unknown).2,(levels late).2.2.1.mpr (.inl ⟨stale,seen⟩),rfl⟩

-- Where a question is looked up, or a choice to be given another label, a miss is told of.
theorem unknown_removals_unnoticed :
    (¬ ∀ (form : Form) (settings : Settings) (ids : IdSource) (edit : Edit) (id : String),
      edit.question? = some id → form.question? id = none →
        (form.apply edit settings ids).notices.countP (·.level = .debug) = 1) ∧
    ¬ ∀ (form : Form) (settings : Settings) (ids : IdSource) (edit : Edit) (id choice : String) (q : Question),
      edit.question? = some id → edit.choice? = some choice → form.question? id = some q →
        q.choice? choice = none → (form.apply edit settings ids).notices.countP (·.level = .debug) = 1 := by
  let start := Draft.fresh {} (.numbered "id")
  constructor
  · intro always
    have once := always start.form {} start.ids (.removeQuestion "gone") "gone" rfl (by decide)
    cases once
  · intro always
    have once := always start.form {} start.ids (.removeChoice "id-1" "gone") "id-1" "gone" _ rfl rfl rfl (by decide)
    cases once

end Questionnaire
