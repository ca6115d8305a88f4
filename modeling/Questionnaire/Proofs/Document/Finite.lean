import Questionnaire.Proofs.Document.Edit
import Questionnaire.Proofs.Frame
import Questionnaire.Proofs.Json.Finite
import Questionnaire.Proofs.Refusal
/-!
Whatever forms and edits are read from a text, the numbers in their rules are finite, and they stay finite
however the form is edited.
-/

namespace Questionnaire

open Json

variable {α β ε : Type} {P : α → Prop} {Q : β → Prop} {source : Reader α}

theorem bind_eq_ok {x : Except ε α} {f : α → Except ε β} {b : β} : x >>= f = .ok b ↔ ∃ a, x = .ok a ∧ f a = .ok b := by
  cases x with
  | error e => simp [bind,Except.bind]
  | ok a => simp [bind,Except.bind]

theorem map_eq_ok {x : Except ε α} {f : α → β} {b : β} : x.map f = .ok b ↔ ∃ a, x = .ok a ∧ f a = b := by
  cases x with
  | error e => simp [Except.map]
  | ok a => simp [Except.map]

theorem Json.mismatch_ne_ok {wanted : String} {t : Tree} {a : α} : mismatch wanted t ≠ .ok a := by
  intro read
  obtain ⟨_,_,never⟩ := bind_eq_ok.mp read
  cases never

def Json.Items.Finite (items : Items) : Prop := items.Each fun n => n.toFloat.isFinite = true

def Json.Members.Finite (members : Members) : Prop := members.Each fun n => n.toFloat.isFinite = true

-- What is read holds of the value, as long as every number in the text is finite.
def Json.Gives (read : Reader α) (P : α → Prop) : Prop :=
  ∀ mode t a, t.Finite → read mode t = .ok a → P a

def Json.FieldReader.Keeps (field : FieldReader α) (P : α → Prop) : Prop :=
  ∀ mode t a b, t.Finite → field.put mode t a = .ok b → P a → P b

namespace Json.Gives

theorem float : Gives readFloat fun x => x.isFinite = true := by
  intro mode t x finite found
  unfold readFloat at found
  split at found
  · cases found
    exact finite
  · exact absurd found mismatch_ne_ok

theorem anything (source : Reader α) : Gives source fun _ => True := fun _ _ _ _ _ => trivial

theorem option (gives : Gives source P) : Gives (readOption source) fun given => ∀ a ∈ given, P a := by
  intro mode t given finite found
  unfold readOption at found
  split at found
  · cases found
    exact nofun
  · obtain ⟨a,inner,rfl⟩ := map_eq_ok.mp found
    rintro _ ⟨⟩
    exact gives mode t a finite inner

theorem items {mode : Mode} (gives : Gives source P) (items : Items) {found : List α} (finite : items.Finite)
    (all : items.readAll (source mode) = .ok found) : ∀ a ∈ found, P a := by
  induction found generalizing items with
  | nil => exact List.forall_mem_nil _
  | cons a found ih =>
    cases items with
    | closed => cases all
    | fault place => cases all
    | cons item rest =>
      obtain ⟨first,inner,further⟩ := bind_eq_ok.mp all
      obtain ⟨others,outer,same⟩ := bind_eq_ok.mp further
      cases same
      exact List.forall_mem_cons.mpr ⟨gives mode item a finite.1 inner,ih rest finite.2 outer⟩

theorem list (gives : Gives source P) : Gives (readList source) fun found => ∀ a ∈ found, P a := by
  intro mode t found finite all
  unfold readList at all
  split at all
  · rename_i items
    exact gives.items items finite all
  · exact absurd all mismatch_ne_ok

end Json.Gives

namespace Json.FieldReader

variable {fields : List (FieldReader α)} {name : String} {required : Bool} {reader : Reader β} {put : β → α → α}

theorem keeps_given (gives : Gives reader Q) (keeps : ∀ b a, Q b → P a → P (put b a))
    (others : ∀ field ∈ fields, field.Keeps P) : ∀ field ∈ .of name required reader put :: fields, field.Keeps P := by
  refine List.forall_mem_cons.mpr ⟨?_,others⟩
  intro mode t a b finite found held
  obtain ⟨x,inner,same⟩ := bind_eq_ok.mp found
  cases same
  exact keeps x a (gives mode t x finite inner) held

theorem keeps_other (keeps : ∀ b a, P a → P (put b a)) (others : ∀ field ∈ fields, field.Keeps P) :
    ∀ field ∈ .of name required reader put :: fields, field.Keeps P :=
  keeps_given (.anything reader) (fun b a _ => keeps b a) others

theorem keeps_none : ∀ field ∈ ([] : List (FieldReader α)), field.Keeps P := List.forall_mem_nil _

end Json.FieldReader

namespace Json.Record

variable {fields : List (FieldReader α)} {mode : Mode} {a b : α}

theorem readMembers_keeps (keeps : ∀ field ∈ fields, field.Keeps P) (members : Members) {seen last : List String}
    (finite : members.Finite) (found : readMembers fields mode members seen a = .ok (last,b)) (held : P a) : P b := by
  induction members,seen,a using readMembers.induct fields with
  | case1 seen a =>
    cases found
    exact held
  | case2 | case3 | case4 => cases found
  | case5 key value rest seen a unknown ih =>
    rw [readMembers,unknown] at found
    obtain ⟨_,_,further⟩ := bind_eq_ok.mp found
    exact ih finite.2 further held
  | case6 key value rest seen a field named again =>
    simp only [readMembers,named,again] at found
    cases found
  | case7 key value rest seen a field named fresh ih =>
    simp only [readMembers,named,fresh] at found
    obtain ⟨c,put,further⟩ := bind_eq_ok.mp found
    exact ih c finite.2 further (keeps field (List.mem_of_find?_eq_some named) mode value a c finite.1 put held)

theorem readItems_keeps {wanted : String} (keeps : ∀ field ∈ fields, field.Keeps P) (count : Nat) (items : Items)
    (finite : items.Finite) (found : readItems wanted mode fields count items a = .ok b) (held : P a) : P b := by
  induction fields,count,items,a using readItems.induct with
  | case1 count items a =>
    obtain ⟨_,_,same⟩ := bind_eq_ok.mp found
    cases same
    exact held
  | case2 field fields count item rest a ih =>
    obtain ⟨first,others⟩ := List.forall_mem_cons.mp keeps
    obtain ⟨c,put,further⟩ := bind_eq_ok.mp found
    exact ih c others finite.2 further (first mode item a c finite.1 put held)
  | case3 field fields count a required =>
    rw [readItems,if_pos required] at found
    cases found
  | case4 field fields count a optional ih =>
    rw [readItems,if_neg optional] at found
    exact ih (List.forall_mem_cons.mp keeps).2 finite found held
  | case5 => cases found

theorem gives {record : Record α} (blank : P record.blank) (keeps : ∀ field ∈ record.fields, field.Keeps P) :
    Gives record.read P := by
  intro mode t a finite found
  unfold read at found
  split at found
  · obtain ⟨⟨seen,b⟩,inner,further⟩ := bind_eq_ok.mp found
    dsimp only at further
    split at further
    · cases further
    · cases further
      exact readMembers_keeps keeps _ finite inner blank
  · exact readItems_keeps keeps 0 _ finite found blank
  · exact absurd found mismatch_ne_ok

end Json.Record

open FieldReader

theorem numberRule_finite : Gives NumberRule.record.read fun rule => rule.value.isFinite = true :=
  Record.gives (by decide +kernel)
    (keeps_other (fun _ _ held => held) (keeps_given .float (fun _ _ finite _ => finite)
      (keeps_other (fun _ _ held => held) keeps_none)))

theorem lengthRule_finite : Gives LengthRule.record.read fun rule => rule.value.isFinite = true :=
  Record.gives (by decide +kernel)
    (keeps_other (fun _ _ held => held) (keeps_given .float (fun _ _ finite _ => finite)
      (keeps_other (fun _ _ held => held) keeps_none)))

theorem ruleSheet_finite : Gives RuleSheet.record.read fun sheet =>
    (∀ rule ∈ sheet.number, rule.value.isFinite = true) ∧ ∀ rule ∈ sheet.length, rule.value.isFinite = true := by
  refine Record.gives ⟨nofun,nofun⟩ ?_
  refine keeps_other (fun _ _ held => held) (keeps_other (fun _ _ held => held) ?_)
  refine keeps_given (.option numberRule_finite) (fun _ _ number held => ⟨number,held.2⟩) ?_
  refine keeps_other (fun _ _ held => held) ?_
  exact keeps_given (.option lengthRule_finite) (fun _ _ length held => ⟨held.1,length⟩) keeps_none

def Rule.Finite (rule : Rule) : Prop := ∀ x ∈ rule.thresholds, x.isFinite = true

theorem ruleSheet_rule_finite {sheet : RuleSheet} (number : ∀ rule ∈ sheet.number, rule.value.isFinite = true)
    (length : ∀ rule ∈ sheet.length, rule.value.isFinite = true) : sheet.rule.Finite := by
  obtain ⟨required,kind,numberRule,textRule,lengthRule⟩ := sheet
  cases kind with
  | none => exact List.forall_mem_nil _
  | some kind =>
    cases kind with
    | number =>
      cases numberRule with
      | none => exact List.forall_mem_nil _
      | some rule => exact List.forall_mem_singleton.mpr (number rule rfl)
    | text => cases textRule <;> exact List.forall_mem_nil _
    | length =>
      cases lengthRule with
      | none => exact List.forall_mem_nil _
      | some rule => exact List.forall_mem_singleton.mpr (length rule rfl)

theorem validation_finite : Gives Validation.read fun v => v.rule.Finite := by
  intro mode t v finite found
  obtain ⟨sheet,inner,rfl⟩ := map_eq_ok.mp found
  obtain ⟨number,length⟩ := ruleSheet_finite mode t sheet finite inner
  exact ruleSheet_rule_finite number length

-- The numbers in the rules of a question are those of its validation, if it has one.
def Question.Finite (question : Question) : Prop := ∀ v ∈ question.validation, v.rule.Finite

def Form.Finite (form : Form) : Prop := ∀ question ∈ form.questions, question.Finite

theorem question_finite : Gives Question.record.read Question.Finite := by
  refine Record.gives nofun ?_
  refine keeps_other (fun _ _ held => held) (keeps_other (fun _ _ held => held) ?_)
  refine keeps_other (fun _ _ held => held) (keeps_other (fun _ _ held => held) ?_)
  refine keeps_other (fun _ _ held => held) ?_
  refine keeps_given (.option validation_finite) (fun _ _ given _ => given) ?_
  exact keeps_other (fun _ _ held => held) keeps_none

theorem form_finite : Gives Form.record.read Form.Finite := by
  refine Record.gives (List.forall_mem_nil _) ?_
  refine keeps_other (fun _ _ held => held) (keeps_other (fun _ _ held => held) ?_)
  exact keeps_given (.list question_finite) (fun _ _ given _ => given) keeps_none

theorem Form.thresholds_finite {form : Form} (finite : form.Finite) : ∀ x ∈ form.thresholds, x.isFinite = true := by
  intro x member
  obtain ⟨question,held,member⟩ := List.mem_flatMap.mp member
  have each : ∀ v ∈ question.validation, v.rule.Finite := finite question held
  rw [Question.thresholds] at member
  cases given : question.validation with
  | none =>
    rw [given] at member
    cases member
  | some v =>
    rw [given] at member
    exact each v given x member

theorem Document.read_eq_ok {read : Tree → Read α} {d : Document} {a : α} (found : d.read read = .ok a) :
    read d.root = .ok a := by
  obtain ⟨b,inner,further⟩ := bind_eq_ok.mp found
  split at further
  · cases further
    exact inner
  · cases further

theorem Form.ofText_finite {text : String} {form : Form} (read : Form.ofText text = .ok form) : form.Finite :=
  form_finite .fromText _ form (Document.root_finite text.toList) (Document.read_eq_ok read)

namespace Edit

def Finite : Edit → Prop
  | .setValidation _ given => ∀ v ∈ given, v.rule.Finite
  | _ => True

def Parts.Finite (parts : Parts) : Prop := ∀ v ∈ parts.validation, v.rule.Finite

def Shape.GivesFinite (shape : Shape) : Prop :=
  (∀ field ∈ shape.fields, field.Keeps Parts.Finite) ∧ ∀ parts : Parts, parts.Finite → (shape.build parts).Finite

-- One shape takes a validation; the fields of the others, three at most, leave it alone.
theorem shapes_finite : ∀ shape ∈ shapes, shape.GivesFinite := by
  intro shape member
  simp only [shapes,List.mem_cons,List.not_mem_nil,or_false] at member
  rcases member with rfl | rfl | rfl | rfl | rfl | rfl | rfl | rfl | rfl | rfl | rfl | rfl | rfl | rfl | rfl | rfl | rfl |
    rfl | rfl
  all_goals first
    | exact ⟨keeps_none,fun _ _ => trivial⟩
    | exact ⟨keeps_other (fun _ _ held => held) keeps_none,fun _ _ => trivial⟩
    | exact ⟨keeps_other (fun _ _ held => held) (keeps_other (fun _ _ held => held) keeps_none),fun _ _ => trivial⟩
    | exact ⟨keeps_other (fun _ _ held => held) (keeps_other (fun _ _ held => held)
        (keeps_other (fun _ _ held => held) keeps_none)),fun _ _ => trivial⟩
    | exact ⟨keeps_other (fun _ _ held => held)
        (keeps_given (.option validation_finite) (fun _ _ given _ => given) keeps_none),fun _ held => held⟩

theorem shape_read_finite {shape : Shape} (known : shape ∈ shapes) {t : Tree} (finite : t.Finite) {edit : Edit}
    (found : shape.read t = .ok edit) : edit.Finite := by
  obtain ⟨parts,inner,rfl⟩ := map_eq_ok.mp found
  obtain ⟨keeps,builds⟩ := shapes_finite shape known
  have gives : Gives shape.record.read Parts.Finite := Record.gives (show Parts.Finite {} from nofun) keeps
  exact builds parts (gives .fromCopy t parts finite inner)

theorem readName_known {t : Tree} {shape : Shape} (found : readName t = .ok shape) : shape ∈ shapes := by
  unfold readName at found
  split at found
  · split at found
    · rename_i named
      cases found
      exact List.mem_of_find?_eq_some named
    · cases found
  · exact absurd found mismatch_ne_ok

theorem splitName_finite {levels : Nat} (members : Members) {named shape : Option Shape} {others : Members}
    (known : ∀ shape ∈ named, shape ∈ shapes) (finite : members.Finite)
    (found : splitName levels members named = .ok (shape,others)) :
    (∀ other ∈ shape, other ∈ shapes) ∧ others.Finite := by
  induction members,named using splitName.induct generalizing shape others with
  | case1 named =>
    cases found
    exact ⟨known,trivial⟩
  | case2 | case3 | case4 => cases found
  | case5 value rest named => cases found
  | case6 value rest ih =>
    obtain ⟨first,name,further⟩ := bind_eq_ok.mp found
    refine ih first ?_ finite.2 further
    rintro _ ⟨⟩
    exact readName_known name
  | case7 key value rest named other ih =>
    rw [splitName.eq_def] at found
    simp only [if_neg other] at found
    obtain ⟨_,_,further⟩ := bind_eq_ok.mp found
    obtain ⟨⟨last,more⟩,outer,same⟩ := bind_eq_ok.mp further
    cases same
    obtain ⟨known,left⟩ := ih known finite.2 outer
    exact ⟨known,finite.1,left⟩

theorem read_finite {levels : Nat} {t : Tree} (finite : t.Finite) {edit : Edit} (found : read levels t = .ok edit) :
    edit.Finite := by
  unfold read at found
  split at found
  · obtain ⟨⟨named,others⟩,split,further⟩ := bind_eq_ok.mp found
    obtain ⟨known,left⟩ := splitName_finite _ (fun _ absent => by cases absent) finite split
    cases named with
    | none => cases further
    | some shape => exact @shape_read_finite shape (known shape rfl) (.map others) left edit further
  · obtain ⟨shape,name,further⟩ := bind_eq_ok.mp found
    obtain ⟨_,_,inner⟩ := bind_eq_ok.mp further
    exact @shape_read_finite shape (readName_known name) (.list _) finite.2 edit inner
  · cases found
  · cases found
  · exact absurd found mismatch_ne_ok

theorem allOfText_finite {text : String} {edits : List Edit} (found : allOfText text = .ok edits) :
    ∀ edit ∈ edits, edit.Finite := by
  have each : Gives (fun _ => read (deepest - 1)) Finite := fun _ _ _ finite read => read_finite finite read
  exact each.list .fromText _ edits (Document.root_finite text.toList) (Document.read_eq_ok found)

end Edit

section Editing

variable {edit : Edit} {q now : Question} {form next : Form} {settings : Settings} {ids : IdSource}

theorem initial_finite (kind : RuleKind) (wording : Wording) : (Rule.initial kind wording).Finite := by
  have ten : ∀ x ∈ [(10.0 : Float)], x.isFinite = true := by decide +kernel
  cases kind with
  | number => exact ten
  | text => exact List.forall_mem_nil _
  | length => exact ten

theorem ruled_finite (q : Question) (kind : Option RuleKind) (wording : Wording) :
    (q.setRuleKind kind wording).Finite := by
  rintro _ ⟨⟩
  cases kind with
  | none => exact List.forall_mem_nil _
  | some kind => exact initial_finite kind wording

-- A rule the edit makes up is asked for apart: its kind is all that is said of it.
theorem revised_finite (revised : q.Revised edit now) (given : edit.Finite)
    (ruled : ∀ id kind, edit = .setRuleKind id kind → now.Finite) (finite : q.Finite) : now.Finite := by
  cases revised with
  | @kind id kind validation q dropped kept =>
    intro v held
    by_cases drops : q.DropsAs kind
    · rw [show validation = none from dropped drops] at held
      cases held
    · rw [show validation = q.validation from kept drops] at held
      exact finite v held
  | validation => exact given
  | @required id required v q held =>
    rintro _ ⟨⟩
    exact finite v held
  | requiredAlone =>
    rintro _ ⟨⟩
    exact List.forall_mem_nil _
  | @rule id kind => exact ruled id kind rfl
  | _ => exact finite

theorem next_finite {draft : Draft} (finite : draft.form.Finite) (given : edit.Finite) :
    (draft.next settings edit).form.Finite := by
  intro q member
  cases Draft.origin_of_mem member with
  | kept old => exact finite q old
  | created => exact nofun
  | @copied id q _ found => exact finite q (List.mem_of_find?_eq_some found)
  | @extended id _ q _ found => exact finite q (List.mem_of_find?_eq_some found)
  | @changed id change q inPlace found =>
    refine revised_finite (Edit.inPlace_revised inPlace q) given ?_ (finite q (List.mem_of_find?_eq_some found))
    rintro id kind rfl
    cases inPlace
    exact ruled_finite q kind settings.wording

theorem Form.applyAll_finite {edits : List Edit} (finite : form.Finite) (given : ∀ edit ∈ edits, edit.Finite)
    (accepted : (form.applyAll edits settings ids).result = .ok next) : next.Finite := by
  induction edits generalizing form ids with
  | nil =>
    cases accepted
    exact finite
  | cons edit rest ih =>
    obtain ⟨first,others⟩ := List.forall_mem_cons.mp given
    rw [applyAll_cons] at accepted
    obtain ⟨reached,made,accepted⟩ := Outcome.andThen_accepted.mp accepted
    have stepped := @next_finite edit settings ⟨form,ids⟩ finite first
    rw [Draft.next_granted made] at stepped
    exact ih stepped others accepted

end Editing

end Questionnaire
