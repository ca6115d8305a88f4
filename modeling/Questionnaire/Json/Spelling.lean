import Questionnaire.Json.Fault
import Questionnaire.Json.Number
/-!
Finding the number at the head of a text. A number that breaks off at the end of the text is
reported as an end of the text to a reader that keeps it, and as a bad number to one that skips it.
-/

namespace Questionnaire.Json.Spelling

open Decimal (isDigit splitDigits splitSign ofDigits)

def cutShort : Break := ⟨.endInValue,.badNumber⟩

def bad : Break := .of .badNumber

def someDigits : List Char → Except Break (List Char × List Char)
  | [] => .error cutShort
  | c :: rest => if isDigit c then .ok (splitDigits (c :: rest)) else .error bad

def scanWhole : List Char → Except Break (List Char × List Char)
  | '0' :: c :: rest => if isDigit c then .error bad else .ok (['0'],c :: rest)
  | text => someDigits text

def scanFraction : List Char → Except Break (Option (List Char) × List Char)
  | '.' :: rest => do
    let (digits,after) ← someDigits rest
    return (some digits,after)
  | text => .ok (none,text)

def scanPower : List Char → Except Break (Option Int × List Char)
  | [] => .ok (none,[])
  | c :: rest =>
    if c = 'e' || c = 'E' then do
      let (sign,unsigned) := splitSign rest
      let (digits,after) ← someDigits unsigned
      return (some (if sign = ['-'] then -(ofDigits digits) else ofDigits digits),after)
    else .ok (none,c :: rest)

def splitMinus : List Char → Bool × List Char
  | '-' :: rest => (true,rest)
  | text => (false,text)

def scan (text : List Char) : Except Break (Spelling × List Char) := do
  let (negative,unsigned) := splitMinus text
  let (whole,afterWhole) ← scanWhole unsigned
  let (fraction,afterFraction) ← scanFraction afterWhole
  let (power,after) ← scanPower afterFraction
  return (⟨negative,whole,fraction,power⟩,after)

theorem someDigits_shorter {text digits rest : List Char} (h : someDigits text = .ok (digits,rest)) :
    rest.length < text.length := by
  cases text with
  | nil => simp [someDigits] at h
  | cons c text =>
    simp only [someDigits] at h
    split at h <;> simp only [splitDigits,Except.ok.injEq,Prod.mk.injEq,reduceCtorEq] at h
    rename_i digit
    obtain ⟨-,rfl⟩ := h
    have shrinks := (List.dropWhile_sublist isDigit (l := text)).length_le
    simp only [List.dropWhile_cons,digit,if_true,List.length_cons]
    omega

theorem scanWhole_shorter {text digits rest : List Char} (h : scanWhole text = .ok (digits,rest)) :
    rest.length < text.length := by
  unfold scanWhole at h
  split at h
  · split at h <;> simp only [Except.ok.injEq,Prod.mk.injEq,reduceCtorEq] at h
    obtain ⟨-,rfl⟩ := h
    simp
  · exact someDigits_shorter h

theorem scanFraction_shorter {text rest : List Char} {digits : Option (List Char)}
    (h : scanFraction text = .ok (digits,rest)) : rest.length ≤ text.length := by
  unfold scanFraction at h
  split at h
  · rename_i after
    cases found : someDigits after with
    | error _ => simp [found,bind,Except.bind] at h
    | ok pair =>
      simp only [found,bind,Except.bind,pure,Except.pure,Except.ok.injEq,Prod.mk.injEq] at h
      have shorter : pair.2.length < _ := someDigits_shorter found
      rw [← h.2,List.length_cons]
      omega
  · simp only [Except.ok.injEq,Prod.mk.injEq] at h
    simp [h.2]

theorem scanPower_shorter {text rest : List Char} {power : Option Int}
    (h : scanPower text = .ok (power,rest)) : rest.length ≤ text.length := by
  cases text with
  | nil => simp only [scanPower,Except.ok.injEq,Prod.mk.injEq] at h; simp [h.2.symm]
  | cons c after =>
    simp only [scanPower] at h
    split at h
    · cases found : someDigits (splitSign after).2 with
      | error _ => simp [found,bind,Except.bind] at h
      | ok pair =>
        simp only [found,bind,Except.bind,pure,Except.pure,Except.ok.injEq,Prod.mk.injEq] at h
        have shorter : pair.2.length < _ := someDigits_shorter found
        have unsigned := Decimal.length_splitSign_le after
        rw [← h.2,List.length_cons]
        omega
    · simp only [Except.ok.injEq,Prod.mk.injEq] at h
      simp [h.2.symm]

theorem length_splitMinus_le (text : List Char) : (splitMinus text).2.length ≤ text.length := by
  unfold splitMinus
  split <;> simp

theorem scan_shorter {text rest : List Char} {spelling : Spelling}
    (h : scan text = .ok (spelling,rest)) : rest.length < text.length := by
  simp only [scan,bind,Except.bind] at h
  cases whole : scanWhole (splitMinus text).2 with
  | error _ => simp [whole] at h
  | ok pair =>
    have first : pair.2.length < _ := scanWhole_shorter whole
    have unsigned := length_splitMinus_le text
    simp only [whole] at h
    cases fraction : scanFraction pair.2 with
    | error _ => simp [fraction] at h
    | ok middle =>
      have second : middle.2.length ≤ _ := scanFraction_shorter fraction
      simp only [fraction] at h
      cases power : scanPower middle.2 with
      | error _ => simp [power] at h
      | ok last =>
        have third : last.2.length ≤ _ := scanPower_shorter power
        simp only [power,pure,Except.pure,Except.ok.injEq,Prod.mk.injEq] at h
        rw [← h.2]
        omega

end Questionnaire.Json.Spelling
