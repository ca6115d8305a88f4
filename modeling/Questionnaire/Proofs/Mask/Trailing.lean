import Mathlib.Data.List.DropRight
import Mathlib.Data.List.TakeWhile
import Questionnaire.Proofs.Mask.Written
/-!
What stands at the end of a masked value. Each digit takes the template to just behind its slot. What is typed
behind the last digit fills no slot, but it lets the literals in front of the next one through.
-/

namespace Questionnaire.Mask
open Decimal (isDigit)

-- The empty text is one: nothing stands at its end that is no digit.
def EndsInDigit (text : List Char) : Prop := text.getLast?.all isDigit = true

instance (text : List Char) : Decidable (EndsInDigit text) := inferInstanceAs (Decidable (_ = _))

-- No literal of the template was typed.
def Untyped (template text : List Char) : Prop := ∀ m ∈ template, m ≠ slot → m ∉ text

instance (template text : List Char) : Decidable (Untyped template text) :=
  List.decidableBAll (fun m => m ≠ slot → m ∉ text) template

-- The literals in front of the first slot, or all there are if no slot follows.
def literals (template : List Char) : List Char := template.takeWhile (· ≠ slot)

@[simp] theorem literals_slot (template : List Char) : literals (slot :: template) = [] := by
  simp [literals]

theorem literals_cons {m : Char} (literal : m ≠ slot) (template : List Char) :
    literals (m :: template) = m :: literals template := by
  simp [literals,literal]

-- What stands behind the first so many slots.
def behind : Nat → List Char → List Char
  | 0,template => template
  | n + 1,template => behind n (template.dropWhile (· ≠ slot)).tail

variable {template text before skipped rest later : List Char} {digit m : Char}

theorem endsInDigit_append_cons (isOne : isDigit digit = true) :
    EndsInDigit (before ++ digit :: later) ↔ EndsInDigit later := by
  rw [EndsInDigit,List.getLast?_append_of_ne_nil before (List.cons_ne_nil _ _)]
  cases later with
  | nil => exact iff_of_true isOne rfl
  | cons c later => rw [List.getLast?_cons_cons]; rfl

theorem endsInDigit_append_iff (ends : EndsInDigit text) (others : ∀ c ∈ rest, ¬ isDigit c = true) :
    EndsInDigit (text ++ rest) ↔ rest = [] := by
  constructor
  · intro still
    by_contra more
    have last : EndsInDigit rest := by rwa [EndsInDigit,List.getLast?_append_of_ne_nil text more] at still
    rw [EndsInDigit,List.getLast?_eq_some_getLast more] at last
    exact others _ (List.getLast_mem more) last
  · rintro rfl
    rwa [List.append_nil]

-- The text up to its last digit, and what was typed behind it.
theorem exists_last_digit (text : List Char) :
    ∃ before rest, text = before ++ rest ∧ EndsInDigit before ∧ ∀ c ∈ rest, ¬ isDigit c = true := by
  refine ⟨_,_,(List.rdropWhile_append_rtakeWhile (p := (!isDigit ·))).symm,?_,?_⟩
  · rw [EndsInDigit]
    cases last : (text.rdropWhile (!isDigit ·)).getLast? with
    | none => rfl
    | some c =>
      obtain ⟨more,rfl⟩ := List.mem_getLast?_eq_getLast last
      simpa using List.rdropWhile_last_not (!isDigit ·) text more
  · intro c member
    simpa using List.mem_rtakeWhile_imp member

theorem behind_suffix (n : Nat) (template : List Char) : behind n template <:+ template := by
  induction n generalizing template with
  | zero => exact List.suffix_refl _
  | succ n ih =>
    have dropped : (template.dropWhile (· ≠ slot)).tail <:+ template :=
      (List.tail_suffix _).trans (List.dropWhile_suffix _)
    exact (ih _).trans dropped

theorem behind_succ (literal : slot ∉ before) (n : Nat) (template : List Char) :
    behind (n + 1) (before ++ slot :: template) = behind n template := by
  have others : ∀ m ∈ before, decide (m ≠ slot) = true := fun m member =>
    decide_eq_true fun same => literal (same ▸ member)
  rw [behind,List.dropWhile_append_of_pos others,List.dropWhile_cons_of_neg (by simp),List.tail_cons]

theorem plain_literals (plain : Plain template) : ∀ m ∈ literals template, ¬ isDigit m = true := by
  intro m member isOne
  have other : m ≠ slot := by simpa using List.mem_takeWhile_imp member
  exact other (plain m ((List.takeWhile_prefix _).subset member) isOne)

-- The text is cut at its next digit and the template at its next slot. Whatever was typed before that digit,
-- the literals swallow it or the slot passes over it.
theorem fit_next (literal : slot ∉ before) (plain : Plain before) (others : ∀ c ∈ skipped, ¬ isDigit c = true)
    (isOne : isDigit digit = true) (template later : List Char) :
    fit (before ++ slot :: template) (skipped ++ digit :: later) = before ++ digit :: fit template later ∧
      left (before ++ slot :: template) (skipped ++ digit :: later) = left template later := by
  induction before generalizing skipped with
  | nil =>
    have found : (skipped ++ digit :: later).dropWhile (!isDigit ·) = digit :: later := by
      rw [List.dropWhile_append_of_pos (by simpa using others),List.dropWhile_cons_of_neg (by simp [isOne])]
    rw [List.nil_append,List.nil_append,fit_slot,left_slot,found]
    exact ⟨rfl,rfl⟩
  | cons m before ih =>
    obtain ⟨here,literal⟩ := not_or.mp (mt List.mem_cons.mpr literal)
    have takes : m ≠ slot := Ne.symm here
    have plainRest : Plain before := fun other member => plain other (List.mem_cons_of_mem _ member)
    cases skipped with
    | nil =>
      have other : digit ≠ m := fun same => takes (plain m List.mem_cons_self (same ▸ isOne))
      simpa [fit_literal takes,left_literal takes,other] using ih literal plainRest others
    | cons c skipped =>
      by_cases typed : c = m
      · have later := (List.forall_mem_cons.mp others).2
        simpa [fit_literal takes,left_literal takes,typed] using ih literal plainRest later
      · simpa [fit_literal takes,left_literal takes,typed] using ih literal plainRest others

-- By induction on the digits of the text: each one finds the next slot, for there are as many.
theorem fit_digits (plain : Plain template) (ends : EndsInDigit text)
    (room : (text.filter isDigit).length ≤ template.count slot) :
    EndsInDigit (fit template text) ∧ left template text = behind (text.filter isDigit).length template := by
  induction digits : text.filter isDigit generalizing template text with
  | nil =>
    have empty : EndsInDigit [] := rfl
    have none : text = [] := (endsInDigit_append_iff empty (List.filter_eq_nil_iff.mp digits)).mp ends
    rw [none,fit_nil_right,left_nil]
    exact ⟨rfl,rfl⟩
  | cons digit later ih =>
    obtain ⟨skipped,more,rfl,others,isOne,rfl⟩ := List.filter_eq_cons_iff.mp digits
    rw [digits,List.length_cons] at room
    obtain ⟨before,rest,rfl,literal⟩ := List.eq_append_cons_of_mem (List.count_pos_iff.mp (Nat.zero_lt_of_lt room))
    obtain ⟨plainBefore,plainRest⟩ : Plain before ∧ Plain rest :=
      ⟨fun m member => plain m (by simp [member]),fun m member => plain m (by simp [member])⟩
    obtain ⟨fits,leaves⟩ := fit_next literal plainBefore others isOne rest more
    have fewer : (more.filter isDigit).length ≤ rest.count slot := by
      rw [List.count_append,List.count_eq_zero.mpr literal,List.count_cons_self] at room
      omega
    obtain ⟨last,opened⟩ := ih plainRest ((endsInDigit_append_cons isOne).mp ends) fewer rfl
    rw [fits,leaves,List.length_cons,behind_succ literal]
    exact ⟨(endsInDigit_append_cons isOne).mpr last,opened⟩

-- Where no digit follows, only literals are written, from the first on.
theorem fit_others_literals (others : ∀ c ∈ text, ¬ isDigit c = true) : fit template text <+: literals template := by
  induction template generalizing text with
  | nil => exact List.nil_prefix
  | cons m template ih =>
    by_cases takes : m = slot
    · subst takes
      rw [fit_slot,List.dropWhile_eq_nil_iff.mpr (by simpa using others)]
      exact List.nil_prefix
    · cases text with
      | nil => exact List.nil_prefix
      | cons c rest =>
        rw [fit_literal takes,literals_cons takes]
        refine List.cons_prefix_cons.mpr ⟨rfl,ih ?_⟩
        split
        · exact (List.forall_mem_cons.mp others).2
        · exact others

theorem fit_others_eq_nil_iff (others : ∀ c ∈ text, ¬ isDigit c = true) :
    fit template text = [] ↔ text = [] ∨ literals template = [] := by
  constructor
  · intro nothing
    cases template with
    | nil => exact .inr rfl
    | cons m template =>
      by_cases takes : m = slot
      · exact .inr (takes ▸ literals_slot template)
      · cases text with
        | nil => exact .inl rfl
        | cons c rest =>
          rw [fit_literal takes] at nothing
          cases nothing
  · rintro (rfl | none)
    · exact fit_nil_right template
    · exact List.prefix_nil.mp (none ▸ fit_others_literals others)

theorem fit_untyped (others : ∀ c ∈ text, ¬ isDigit c = true) (untyped : Untyped template text)
    (typed : text ≠ []) : fit template text = literals template := by
  obtain ⟨c,rest,rfl⟩ := List.exists_cons_of_ne_nil typed
  induction template with
  | nil => rfl
  | cons m template ih =>
    by_cases takes : m = slot
    · subst takes
      rw [fit_slot,List.dropWhile_eq_nil_iff.mpr (by simpa using others),literals_slot]
    · obtain ⟨here,later⟩ := List.forall_mem_cons.mp untyped
      have other : c ≠ m := fun same => here takes (same ▸ List.mem_cons_self)
      rw [fit_literal takes,if_neg other,ih later,literals_cons takes]

-- A value ends in a digit unless something was typed behind its last digit and a literal stands in front of
-- the next slot. Where none of the literals was typed, all those up to that slot then trail the value.
theorem trailing_exact (template raw : String) (plain : Plain template.toList)
    (room : (raw.toList.filter isDigit).length ≤ template.toList.count slot) :
    let next := literals (behind (raw.toList.filter isDigit).length template.toList)
    (EndsInDigit (apply template raw).toList ↔ EndsInDigit raw.toList ∨ next = []) ∧
      (Untyped template.toList raw.toList → ¬ EndsInDigit raw.toList → next <:+ (apply template raw).toList) := by
  rw [toList_apply]
  generalize raw.toList = text at room
  obtain ⟨before,rest,rfl,ends,others⟩ := exists_last_digit text
  have digits : (before ++ rest).filter isDigit = before.filter isDigit := by
    rw [List.filter_append,List.filter_eq_nil_iff.mpr others,List.append_nil]
  rw [digits] at room ⊢
  obtain ⟨shown,leaves⟩ := fit_digits plain ends room
  have within := (behind_suffix (before.filter isDigit).length template.toList).subset
  rw [fit_append,leaves]
  generalize behind (before.filter isDigit).length template.toList = remaining at within
  have trails : ∀ m ∈ fit remaining rest, ¬ isDigit m = true := by
    intro m member
    exact plain_literals (fun m held => plain m (within held)) m ((fit_others_literals others).subset member)
  intro next
  constructor
  · rw [endsInDigit_append_iff shown trails,endsInDigit_append_iff ends others]
    exact fit_others_eq_nil_iff others
  · intro untyped more
    have unswallowed : Untyped remaining rest :=
      fun m member takes held => untyped m (within member) takes (List.mem_append_right _ held)
    rw [fit_untyped others unswallowed (mt (endsInDigit_append_iff ends others).mpr more)]
    exact List.suffix_append _ _

-- A letter typed behind the second digit lets the dash through, and nothing comes after it.
theorem letter_lets_dash_through :
    let template := "99-99"
    let raw := "12a"
    Plain template.toList ∧ (raw.toList.filter isDigit).length ≤ template.toList.count slot ∧
      ¬ EndsInDigit (apply template raw).toList ∧ ['-'] <:+ (apply template raw).toList := by
  intro template raw
  have plain : Plain template.toList := by decide
  have room : (raw.toList.filter isDigit).length ≤ template.toList.count slot := by decide
  have next : literals (behind (raw.toList.filter isDigit).length template.toList) = ['-'] := by decide
  obtain ⟨ends,trails⟩ := trailing_exact template raw plain room
  rw [next] at ends trails
  refine ⟨plain,room,?_,trails (by decide) (by decide)⟩
  rw [ends]
  decide

theorem partial_ends_in_literal :
    ¬ ∀ template raw : String, Plain template.toList → (raw.toList.filter isDigit).length < template.toList.count slot →
      Untyped template.toList raw.toList → EndsInDigit (apply template raw).toList := by
  intro always
  have ends := always "99-99" "12a" (by decide) (by decide) (by decide)
  revert ends
  decide

end Questionnaire.Mask
