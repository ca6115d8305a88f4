import Questionnaire.Proofs.ChoiceIds
/-!
The label of the choice for free text. In every form of a run it is the one the settings name, and no choice
turns into one of the other kind. Where each choice of the next form comes from is listed once.
-/

namespace Questionnaire

namespace Choices

theorem mem_rename {id label : String} {choices : List Choice} {c : Choice}
    (member : c ∈ (rename id label choices).value) :
    c ∈ choices ∨ ∃ before ∈ choices, before.id = id ∧ before.kind = .option ∧ c = { before with label } := by
  induction choices with
  | nil => exact .inl member
  | cons head rest ih =>
    by_cases named : head.id = id
    · rw [rename_first named] at member
      rcases List.mem_cons.mp member with here | later
      · cases kind : head.kind with
        | other =>
          have pinned : head.isOther = true := by rw [Choice.isOther,kind]; rfl
          rw [pinned,if_pos rfl] at here
          exact .inl (here ▸ List.mem_cons_self)
        | option =>
          have plain : head.isOther = false := by rw [Choice.isOther,kind]; rfl
          rw [plain,if_neg Bool.false_ne_true] at here
          exact .inr ⟨head,List.mem_cons_self,named,kind,here⟩
      · exact .inl (List.mem_cons_of_mem head later)
    · simp only [rename,if_neg named] at member
      rcases List.mem_cons.mp member with rfl | later
      · exact .inl List.mem_cons_self
      · rcases ih later with old | ⟨before,held,same,kind,renamed⟩
        · exact .inl (List.mem_cons_of_mem head old)
        · exact .inr ⟨before,List.mem_cons_of_mem head held,same,kind,renamed⟩

end Choices

theorem Edit.mem_onChoices {edit : Edit} {choices : List Choice} {c : Choice} (member : c ∈ edit.onChoices choices) :
    c ∈ choices ∨ ∃ id label, ∃ before ∈ choices, edit = .renameChoice id before.id label ∧ before.kind = .option ∧
      c = { before with label } := by
  cases edit with
  | renameChoice id choice label =>
    rcases Choices.mem_rename member with old | ⟨before,held,rfl,kind,renamed⟩
    · exact .inl old
    · exact .inr ⟨id,label,before,held,rfl,kind,renamed⟩
  | removeChoice id choice => exact .inl (List.mem_filter.mp member).1
  | reorderChoices id order => exact .inl (mem_picked member).1
  | _ => exact .inl member

namespace Draft

variable {settings : Settings} {draft : Draft} {edit : Edit} {source : IdSource} {q : Question} {c : Choice}

-- Where a choice of a question of the next form comes from. Only an option gets another label.
inductive ChoiceOrigin (settings : Settings) (draft : Draft) (edit : Edit) (q : Question) : Choice → Prop where
  | kept {old : Question} {c : Choice} (member : old ∈ draft.form.questions)
      (stays : old.id = q.id ∨ edit = .duplicateQuestion old.id) (held : c ∈ old.choices) :
      ChoiceOrigin settings draft edit q c
  | renamed {old : Question} {c : Choice} {label : String} (renames : edit = .renameChoice q.id c.id label)
      (member : old ∈ draft.form.questions) (stays : old.id = q.id) (held : c ∈ old.choices)
      (isOption : c.kind = .option) : ChoiceOrigin settings draft edit q { c with label }
  | created (creates : edit = .createQuestion) :
      ChoiceOrigin settings draft edit q
        ⟨draft.ids.draw.2.draw.1,Choices.optionLabel settings.wording 1,.option⟩
  | added {old : Question} {other : Bool} (adds : edit = .addChoice q.id other)
      (found : draft.form.question? q.id = some old) :
      ChoiceOrigin settings draft edit q (Choices.fresh settings.wording old.choices other draft.ids.draw.1)

theorem choice_origin (member : q ∈ (draft.next settings edit).form.questions) (held : c ∈ q.choices) :
    ChoiceOrigin settings draft edit q c := by
  cases origin_of_mem member with
  | kept old => exact .kept old (.inl rfl) held
  | created creates =>
    rw [List.mem_singleton.mp held]
    exact .created creates
  | @copied id old copies found =>
    have named : old.id = id := Form.question?_id found
    exact .kept (List.mem_of_find?_eq_some found) (.inr (named ▸ copies)) held
  | @changed id change old inPlace found =>
    have was := List.mem_of_find?_eq_some found
    have named : old.id = id := Form.question?_id found
    have stays : old.id = (change old).value.id := (Edit.inPlace_id inPlace old).symm
    rw [Edit.inPlace_choices inPlace] at held
    rcases Edit.mem_onChoices held with kept | ⟨asked,label,before,holds,rfl,isOption,rfl⟩
    · exact .kept was (.inl stays) kept
    · have same : asked = id := by
        cases inPlace
        rfl
      refine .renamed ?_ was stays holds isOption
      rw [← stays,named,same]
  | @extended id other old adds found _ =>
    have named : old.id = id := Form.question?_id found
    subst named
    rcases List.mem_append.mp held with kept | new
    · exact .kept (List.mem_of_find?_eq_some found) (.inl rfl) kept
    · rw [List.mem_singleton.mp new]
      exact .added adds found

end Draft

def Form.OtherPinned (wording : Wording) (form : Form) : Prop :=
  ∀ q ∈ form.questions, ∀ c ∈ q.choices, c.kind = .other → c.label = wording.otherLabel

def Form.HasChoice (form : Form) (id : String) (kind : ChoiceKind) : Prop :=
  ∃ q ∈ form.questions, ∃ c ∈ q.choices, c.id = id ∧ c.kind = kind

-- No identifier of a choice stands for an option in one form and for free text in the other.
def Form.AgreesWith (form later : Form) : Prop :=
  ∀ id one two, form.HasChoice id one → later.HasChoice id two → one = two

-- The kind of the choice an edit brings in, if it brings one in.
def Edit.brings : Edit → ChoiceKind
  | .addChoice _ true => .other
  | _ => .option

namespace Draft

variable {settings : Settings} {draft : Draft} {edit : Edit} {source : IdSource} {id : String} {kind : ChoiceKind}

theorem fresh_otherPinned (settings : Settings) (source : IdSource) :
    (fresh settings source).form.OtherPinned settings.wording := by
  intro q member c held isOther
  rw [List.mem_singleton.mp member] at held
  rw [List.mem_singleton.mp held] at isOther
  cases isOther

theorem next_otherPinned (pinned : draft.form.OtherPinned settings.wording) :
    (draft.next settings edit).form.OtherPinned settings.wording := by
  intro q member c held isOther
  cases choice_origin member held with
  | kept old _ before => exact pinned _ old c before isOther
  | renamed _ _ _ _ isOption => cases isOption.symm.trans isOther
  | created => cases isOther
  | @added old other _ _ =>
    cases other with
    | true => rfl
    | false => cases isOther

theorem kind_kept_or_drawn (has : (draft.next settings edit).form.HasChoice id kind) :
    draft.form.HasChoice id kind ∨ kind = edit.brings ∧ ∃ n, draft.ids.spent ≤ n ∧ id = draft.ids.id n := by
  obtain ⟨q,member,c,held,rfl,rfl⟩ := has
  cases choice_origin member held with
  | kept old _ before => exact .inl ⟨_,old,c,before,rfl,rfl⟩
  | @renamed _ before _ _ old _ has _ => exact .inl ⟨_,old,before,has,rfl,rfl⟩
  | created creates =>
    subst creates
    exact .inr ⟨rfl,draft.ids.spent + 1,Nat.le_succ _,rfl⟩
  | @added old other adds _ =>
    subst adds
    refine .inr ⟨?_,draft.ids.spent,Nat.le_refl _,fresh_choice_id _ _ _ _⟩
    cases other <;> rfl

-- Every choice of the form holds a drawn identifier, which stands for the kind it stood for in the first form.
structure Traced (source : IdSource) (first draft : Draft) : Prop where
  sequence : draft.ids.id = source.id
  drawn : ∀ q ∈ draft.form.questions, ∀ c ∈ q.choices, ∃ n, n < draft.ids.spent ∧ c.id = source.id n
  further : first.ids.spent ≤ draft.ids.spent
  agrees : first.form.AgreesWith draft.form

theorem fresh_traced (settings : Settings) (source : IdSource) :
    Traced source (fresh settings source) (fresh settings source) := by
  have issued := fresh_choicesIssued settings source
  refine ⟨issued.sequence,issued.drawn,Nat.le_refl _,?_⟩
  have only : ∀ id kind, (fresh settings source).form.HasChoice id kind → kind = .option := by
    rintro id kind ⟨q,member,c,held,_,rfl⟩
    rw [List.mem_singleton.mp member] at held
    rw [List.mem_singleton.mp held]
  intro id one two first second
  rw [only id one first,only id two second]

-- What an edit brings in has an identifier that no choice of the first form has.
theorem next_traced (injective : Function.Injective source.id) {first : Draft} (start : Traced source first first)
    (traced : Traced source first draft) : Traced source first (draft.next settings edit) := by
  obtain ⟨kept,grown⟩ := move_source (next_moves settings draft edit)
  refine ⟨kept.trans traced.sequence,fun _ member => choices_drawn traced.sequence traced.drawn member,
    Nat.le_trans traced.further grown,?_⟩
  intro id one two before after
  rcases kind_kept_or_drawn after with kept | ⟨_,n,unspent,named⟩
  · exact traced.agrees id one two before kept
  · obtain ⟨q,member,c,held,rfl,_⟩ := before
    obtain ⟨m,spent,same⟩ := start.drawn q member c held
    have further := traced.further
    rw [traced.sequence] at named
    have equal : n = m := injective (named.symm.trans same)
    omega

theorem next_traced_itself (injective : Function.Injective source.id) (traced : Traced source draft draft) :
    Traced source (draft.next settings edit) (draft.next settings edit) := by
  have across : Traced source draft (draft.next settings edit) := next_traced injective traced traced
  refine ⟨across.sequence,across.drawn,Nat.le_refl _,?_⟩
  intro id one two first second
  rcases kind_kept_or_drawn first with kept | ⟨brought,_⟩
  · exact across.agrees id one two kept second
  · rcases kind_kept_or_drawn second with kept | ⟨broughtToo,_⟩
    · exact (across.agrees id two one kept first).symm
    · rw [brought,broughtToo]

theorem run_traced (injective : Function.Injective source.id) (settings : Settings) (done rest : List Edit) :
    let reached := (fresh settings source).run settings
    Traced source (reached done) (reached (done ++ rest)) := by
  intro reached
  have itself : Traced source (reached done) (reached done) :=
    @run_preserves settings (fun draft => Traced source draft draft) (fun _ _ => next_traced_itself injective) _
      (fresh_traced settings source) done
  have onward : reached (done ++ rest) = (reached done).run settings rest := List.foldl_append
  rw [onward]
  exact run_preserves (fun _ _ => next_traced injective itself) itself rest

-- The second part holds of every source. Where identifiers come back, only it tells which choice is which.
theorem other_label_pinned (settings : Settings) (source : IdSource) (edits : List Edit) :
    let reached := (fresh settings source).run settings
    (reached edits).form.OtherPinned settings.wording ∧
    (∀ edit, ∀ q ∈ (reached (edits ++ [edit])).form.questions, ∀ c ∈ q.choices,
      ChoiceOrigin settings (reached edits) edit q c) ∧
    (Function.Injective source.id → ∀ done, done <+: edits →
      (reached done).form.AgreesWith (reached edits).form) := by
  intro reached
  have pinned : (reached edits).form.OtherPinned settings.wording :=
    @run_preserves settings (·.form.OtherPinned settings.wording) (fun _ _ => next_otherPinned) _
      (fresh_otherPinned settings source) edits
  refine ⟨pinned,?_,?_⟩
  · intro edit q member c held
    have last : reached (edits ++ [edit]) = (reached edits).next settings edit := run_concat settings _ edits edit
    rw [last] at member
    exact choice_origin member held
  · rintro injective done ⟨rest,rfl⟩
    exact (run_traced injective settings done rest).agrees

-- The order repeats the choice for free text, the question is copied, and neither copy can be renamed.
theorem repeated_other_stays_other :
    let source := IdSource.numbered "id"
    let made := [.addChoice "id-1" true]
    let edits := made ++ [.reorderChoices "id-1" ["Other","Option 01","Other"],.renameChoice "id-1" "id-3" "Etc",
      .duplicateQuestion "id-1",.renameChoice "id-4" "id-2" "First"]
    let reached := (fresh {} source).run {}
    Function.Injective source.id ∧
      (reached edits).form.questions.map Question.choices =
        [[⟨"id-3","Other",.other⟩,⟨"id-2","Option 01",.option⟩,⟨"id-3","Other",.other⟩],
         [⟨"id-3","Other",.other⟩,⟨"id-2","First",.option⟩,⟨"id-3","Other",.other⟩]] ∧
      (reached made).form.AgreesWith (reached edits).form := by
  intro source made edits reached
  have injective := IdSource.numbered_injective "id"
  exact ⟨injective,by decide,(other_label_pinned {} source edits).2.2 injective made (List.prefix_append _ _)⟩

end Draft
end Questionnaire
