import Questionnaire.Json.Spelling
import Questionnaire.Json.Value
/-!
What follows a number in a document does not change how the number reads, unless it could be more
of the number.
-/

namespace Questionnaire.Json.Spelling

open Decimal (isDigit splitDigits splitSign)

-- No character that could continue a number stands first. A comma, a closing bracket, a blank and
-- the end of the text all do.
def Ends (rest : List Char) : Prop :=
  ∀ c ∈ rest.head?, isDigit c = false ∧ c ≠ '.' ∧ c ≠ 'e' ∧ c ≠ 'E'

variable {text after rest : List Char}

theorem splitDigits_before (ends : Ends rest) (text : List Char) :
    splitDigits (text ++ rest) = ((splitDigits text).1,(splitDigits text).2 ++ rest) := by
  induction text with
  | nil =>
    cases rest with
    | nil => rfl
    | cons c rest => simp [splitDigits,(ends c rfl).1]
  | cons c text ih =>
    simp only [splitDigits,Prod.mk.injEq] at ih
    cases digit : isDigit c with
    | true => simp [splitDigits,digit,ih]
    | false => simp [splitDigits,digit]

theorem someDigits_before (ends : Ends rest) {digits : List Char} (read : someDigits text = .ok (digits,after)) :
    someDigits (text ++ rest) = .ok (digits,after ++ rest) := by
  cases text with
  | nil => simp [someDigits] at read
  | cons c text =>
    simp only [List.cons_append,someDigits] at read ⊢
    split at read
    · rename_i digit
      rw [if_pos digit,← List.cons_append,splitDigits_before ends,Except.ok.inj read]
    · simp at read

theorem scanWhole_nonzero {c : Char} (nonzero : c ≠ '0') (text : List Char) :
    scanWhole (c :: text) = someDigits (c :: text) := by
  rw [scanWhole.eq_def]
  split
  · simp_all
  · rfl

theorem scanWhole_before (ends : Ends rest) {digits : List Char} (read : scanWhole text = .ok (digits,after)) :
    scanWhole (text ++ rest) = .ok (digits,after ++ rest) := by
  cases text with
  | nil => simp [scanWhole,someDigits] at read
  | cons first text =>
    by_cases zero : first = '0'
    · subst zero
      cases text with
      | nil =>
        cases rest with
        | nil => simpa using read
        | cons c rest =>
          have alone : scanWhole ['0'] = .ok (['0'],[]) := by rfl
          cases alone.symm.trans read
          simp [scanWhole,(ends c rfl).1]
      | cons c text =>
        simp only [List.cons_append,scanWhole] at read ⊢
        split at read
        · simp at read
        · rename_i alone
          cases read
          rw [if_neg alone,List.cons_append]
    · rw [scanWhole_nonzero zero] at read
      rw [List.cons_append,scanWhole_nonzero zero,← List.cons_append]
      exact someDigits_before ends read

theorem scanFraction_before (ends : Ends rest) {digits : Option (List Char)}
    (read : scanFraction text = .ok (digits,after)) : scanFraction (text ++ rest) = .ok (digits,after ++ rest) := by
  unfold scanFraction at read
  split at read
  · rename_i tail
    cases found : someDigits tail with
    | error _ => simp [found,bind,Except.bind] at read
    | ok pair =>
      rw [found] at read
      cases read
      rw [List.cons_append,scanFraction,someDigits_before ends found]
      rfl
  · rename_i others
    cases read
    rw [scanFraction.eq_def]
    split
    · rename_i tail same
      cases text with
      | nil => exact absurd rfl (ends '.' (by simp_all)).2.1
      | cons c text =>
        cases (List.cons.inj same).1
        exact absurd rfl (others _)
    · rfl

theorem scanPower_before (ends : Ends rest) {power : Option Int}
    (read : scanPower text = .ok (power,after)) : scanPower (text ++ rest) = .ok (power,after ++ rest) := by
  cases text with
  | nil =>
    cases read
    cases rest with
    | nil => rfl
    | cons c rest =>
      obtain ⟨-,-,small,big⟩ := ends c rfl
      simp [scanPower,small,big]
  | cons c text =>
    simp only [List.cons_append,scanPower] at read ⊢
    split at read
    · rename_i exponent
      rw [if_pos exponent]
      cases found : someDigits (splitSign text).2 with
      | error _ => simp [found,bind,Except.bind] at read
      | ok pair =>
        rw [found] at read
        cases read
        have sign : splitSign (text ++ rest) = ((splitSign text).1,(splitSign text).2 ++ rest) := by
          cases text with
          | nil => simp [splitSign,someDigits] at found
          | cons c text => simp only [List.cons_append,splitSign]; split <;> rfl
        simp only [sign,someDigits_before ends found]
        rfl
    · rename_i plain
      cases read
      rw [if_neg plain,List.cons_append]

theorem splitMinus_before {c : Char} (text rest : List Char) :
    splitMinus (c :: text ++ rest) = ((splitMinus (c :: text)).1,(splitMinus (c :: text)).2 ++ rest) := by
  unfold splitMinus
  split <;> simp_all

theorem scan_before (ends : Ends rest) {spelling : Spelling} (read : scan text = .ok (spelling,after)) :
    scan (text ++ rest) = .ok (spelling,after ++ rest) := by
  have sign : splitMinus (text ++ rest) = ((splitMinus text).1,(splitMinus text).2 ++ rest) := by
    cases text with
    | nil => cases read
    | cons c text => exact splitMinus_before text rest
  simp only [scan,bind,Except.bind] at read ⊢
  cases whole : scanWhole (splitMinus text).2 with
  | error _ => simp [whole] at read
  | ok front =>
    simp only [whole] at read
    cases fraction : scanFraction front.2 with
    | error _ => simp [fraction] at read
    | ok middle =>
      simp only [fraction] at read
      cases power : scanPower middle.2 with
      | error _ => simp [power] at read
      | ok last =>
        simp only [power] at read
        cases read
        simp only [sign,scanWhole_before ends whole,scanFraction_before ends fraction,scanPower_before ends power]
        rfl

theorem scan_head {c : Char} {spelling : Spelling} (read : scan (c :: text) = .ok (spelling,after)) :
    c = '-' ∨ isDigit c = true := by
  by_cases minus : c = '-'
  · exact .inl minus
  · have unsigned : splitMinus (c :: text) = (false,c :: text) := by
      unfold splitMinus
      split <;> simp_all
    simp only [scan,unsigned,bind,Except.bind] at read
    cases digit : isDigit c with
    | true => exact .inr rfl
    | false =>
      have nonzero : c ≠ '0' := by rintro rfl; exact absurd digit (by decide)
      simp [scanWhole_nonzero nonzero,someDigits,digit] at read

end Questionnaire.Json.Spelling
