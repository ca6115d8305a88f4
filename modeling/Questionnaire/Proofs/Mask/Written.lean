import Mathlib.Data.Set.Image
import Mathlib.Dynamics.FixedPoints.Basic
import Questionnaire.Proofs.Mask.Typing
/-!
What a mask writes. The texts it can write are those that conform to the head of its template, and it leaves
each of them as it is. The digits in them are the first ones that were typed, one for each slot.
-/

namespace Questionnaire.Mask
open Decimal (isDigit)

def Takes (m c : Char) : Prop := if m = slot then isDigit c = true else c = m

-- The text may end anywhere: a template that is not filled to its end has been followed so far.
structure Conforms (template text : List Char) : Prop where
  short : text.length ≤ template.length
  each : ∀ (i : Nat) (m c : Char), template[i]? = some m → text[i]? = some c → Takes m c

variable {template text : List Char} {m c : Char}

theorem takes_slot : Takes slot c ↔ isDigit c = true := by
  rw [Takes,if_pos rfl]

theorem takes_literal (literal : m ≠ slot) : Takes m c ↔ c = m := by
  rw [Takes,if_neg literal]

theorem conforms_nil (template : List Char) : Conforms template [] where
  short := Nat.zero_le _
  each i m c _ typed := by cases typed

theorem not_conforms_nil : ¬ Conforms [] (c :: text) := fun conforms => absurd conforms.short (Nat.not_succ_le_zero _)

theorem conforms_cons : Conforms (m :: template) (c :: text) ↔ Takes m c ∧ Conforms template text := by
  constructor
  · rintro ⟨short,each⟩
    refine ⟨each 0 m c rfl rfl,Nat.le_of_succ_le_succ short,?_⟩
    intro i other d here typed
    exact each (i + 1) other d here typed
  · rintro ⟨takes,short,each⟩
    refine ⟨Nat.succ_le_succ short,?_⟩
    intro i other d here typed
    cases i with
    | zero =>
      cases here
      cases typed
      exact takes
    | succ i => exact each i other d here typed

theorem conforms_iff_head :
    Conforms template text ↔ ∃ head, head <+: template ∧ List.Forall₂ Takes head text := by
  constructor
  · intro conforms
    induction text generalizing template with
    | nil => exact ⟨[],List.nil_prefix,.nil⟩
    | cons c text ih =>
      cases template with
      | nil => exact absurd conforms not_conforms_nil
      | cons m template =>
        obtain ⟨takes,rest⟩ := conforms_cons.mp conforms
        obtain ⟨head,opens,filled⟩ := ih rest
        exact ⟨m :: head,List.cons_prefix_cons.mpr ⟨rfl,opens⟩,.cons takes filled⟩
  · rintro ⟨head,⟨left,rfl⟩,filled⟩
    induction filled with
    | nil => exact conforms_nil _
    | cons takes _ ih => exact conforms_cons.mpr ⟨takes,ih⟩

theorem fit_conforms (template text : List Char) : Conforms template (fit template text) := by
  induction template generalizing text with
  | nil => exact conforms_nil []
  | cons m template ih =>
    by_cases takes : m = slot
    · subst takes
      rw [fit_slot]
      cases found : text.dropWhile (!isDigit ·) with
      | nil => exact conforms_nil _
      | cons digit later => exact conforms_cons.mpr ⟨takes_slot.mpr (isDigit_of_dropWhile found),ih later⟩
    · cases text with
      | nil => exact conforms_nil _
      | cons c rest =>
        rw [fit_literal takes]
        exact conforms_cons.mpr ⟨(takes_literal takes).mpr rfl,ih _⟩

theorem fit_of_conforms (conforms : Conforms template text) : fit template text = text := by
  induction text generalizing template with
  | nil => exact fit_nil_right template
  | cons c text ih =>
    cases template with
    | nil => exact absurd conforms not_conforms_nil
    | cons m template =>
      obtain ⟨takes,rest⟩ := conforms_cons.mp conforms
      by_cases digit : m = slot
      · subst digit
        rw [fit_slot_digit (takes_slot.mp takes),ih rest]
      · obtain rfl := (takes_literal digit).mp takes
        rw [fit_literal digit,if_pos rfl,ih rest]

theorem fit_eq_iff : fit template text = text ↔ Conforms template text :=
  ⟨fun same => same ▸ fit_conforms template text,fit_of_conforms⟩

theorem apply_eq_iff (template text : String) :
    apply template text = text ↔ Conforms template.toList text.toList := by
  rw [← fit_eq_iff,← toList_apply]
  exact String.toList_inj.symm

-- Nothing is asked of the template: its literals may be digits, may repeat, or be all there is to it.
theorem masked_exact (template : String) :
    (∀ text, apply template text = text ↔ Conforms template.toList text.toList) ∧
    (∀ raw, Conforms template.toList (apply template raw).toList) ∧
    Set.range (apply template) = Function.fixedPoints (apply template) ∧
    Function.fixedPoints (apply template) =
      {text | ∃ head, head <+: template.toList ∧ List.Forall₂ Takes head text.toList} := by
  refine ⟨apply_eq_iff template,?_,?_,?_⟩
  · intro raw
    rw [toList_apply]
    exact fit_conforms _ _
  · ext text
    constructor
    · rintro ⟨raw,rfl⟩
      exact apply_apply template raw
    · intro fixed
      exact ⟨text,fixed⟩
  · ext text
    exact (apply_eq_iff template text).trans conforms_iff_head

-- A template whose only digits are its slots.
def Plain (template : List Char) : Prop := ∀ m ∈ template, isDigit m = true → m = slot

instance (template : List Char) : Decidable (Plain template) :=
  List.decidableBAll (fun m => isDigit m = true → m = slot) template

theorem digits_dropWhile (text : List Char) :
    (text.dropWhile (!isDigit ·)).filter isDigit = text.filter isDigit := by
  induction text with
  | nil => rfl
  | cons c rest ih =>
    cases digit : isDigit c with
    | true => rw [List.dropWhile_cons_of_neg (by simp [digit])]
    | false =>
      have other : ¬ isDigit c = true := by simp [digit]
      rw [List.dropWhile_cons_of_pos (by simp [digit]),ih,List.filter_cons_of_neg other]

-- A literal may swallow the character it was typed as, and that one is no digit.
theorem digits_swallow (literal : ¬ isDigit m = true) (c : Char) (rest : List Char) :
    (if c = m then rest else c :: rest).filter isDigit = (c :: rest).filter isDigit := by
  by_cases typed : c = m
  · subst typed
    rw [if_pos rfl,List.filter_cons_of_neg literal]
  · rw [if_neg typed]

theorem digits_fit (plain : Plain template) (text : List Char) :
    (fit template text).filter isDigit = (text.filter isDigit).take (template.count slot) := by
  induction template generalizing text with
  | nil => rfl
  | cons m template ih =>
    have rest := ih fun other member => plain other (List.mem_cons_of_mem _ member)
    by_cases takes : m = slot
    · subst takes
      rw [fit_slot,List.count_cons_self,← digits_dropWhile text]
      cases found : text.dropWhile (!isDigit ·) with
      | nil => rfl
      | cons digit later =>
        have isOne := isDigit_of_dropWhile found
        rw [List.filter_cons_of_pos isOne,List.filter_cons_of_pos isOne,List.take_succ_cons,rest]
    · have literal : ¬ isDigit m = true := fun digit => takes (plain m List.mem_cons_self digit)
      rw [List.count_cons_of_ne takes]
      cases text with
      | nil => rw [fit_nil_right,List.filter_nil,List.take_nil]
      | cons c later => rw [fit_literal takes,List.filter_cons_of_neg literal,rest,digits_swallow literal]

theorem typed_digits_kept (template raw : String) (plain : Plain template.toList) :
    (apply template raw).toList.filter isDigit =
      (raw.toList.filter isDigit).take (template.toList.count slot) := by
  rw [toList_apply,digits_fit plain]

-- A closing bracket typed too late to be swallowed, and one digit more than there are slots.
theorem bracketed_digits_kept :
    let template := "(99) 9-9"
    let raw := "1a-(2x)3 45"
    Plain template.toList ∧ apply template raw = "(12) 3-4" ∧
      (apply template raw).toList.filter isDigit = (raw.toList.filter isDigit).take (template.toList.count slot) := by
  intro template raw
  have checked : template.toList.all (fun m => !isDigit m || m = slot) = true := by decide
  have plain : Plain template.toList := by
    intro m member digit
    simpa [digit] using List.all_eq_true.mp checked m member
  exact ⟨plain,by decide,typed_digits_kept template raw plain⟩

end Questionnaire.Mask
