import Questionnaire.Json.Quoted
import Questionnaire.Json.Value
/-!
Quoted text reads back as it was written, whatever characters it holds and whatever follows it.
-/

namespace Questionnaire.Json.Quoted

theorem unit?_hexDigits : ∀ n < 32, unit? '0' '0' (hexDigit (n / 16)) (hexDigit (n % 16)) = some n := by
  decide

theorem toNat_of_control {c : Char} (control : c < ' ') : c.toNat < 32 := control

-- No control character is half of a surrogate pair, so its escape stands alone.
theorem content_control {c : Char} (control : c < ' ') (rest : List Char) :
    content ('\\' :: 'u' :: '0' :: '0' :: hexDigit (c.toNat / 16) :: hexDigit (c.toNat % 16) :: rest) =
      (content rest).map (c :: ·) := by
  have small := toNat_of_control control
  have notTrail : isTrail c.toNat = false := by simp [isTrail]; omega
  have notLead : isLead c.toNat = false := by simp [isLead]; omega
  rw [content]
  simp only [unit?_hexDigits _ small,notTrail,notLead,Char.ofNat_toNat,Bool.false_eq_true,if_false]

theorem content_plain {c : Char} (notQuote : c ≠ '"') (notEscape : c ≠ '\\') (visible : ¬ c < ' ')
    (rest : List Char) : content (c :: rest) = (content rest).map (c :: ·) := by
  rw [content.eq_def]
  split
  case h_7 same =>
    obtain ⟨rfl,rfl⟩ := List.cons.inj same
    rw [if_neg visible]
  all_goals simp_all

theorem skip_plain {c : Char} (notQuote : c ≠ '"') (notEscape : c ≠ '\\') (visible : ¬ c < ' ')
    (rest : List Char) : skip (c :: rest) = skip rest := by
  rw [skip.eq_def]
  split
  case h_7 same =>
    obtain ⟨rfl,rfl⟩ := List.cons.inj same
    rw [if_neg visible]
  all_goals simp_all

theorem content_escape (c : Char) (rest : List Char) :
    content (escape c ++ rest) = (content rest).map (c :: ·) := by
  unfold escape
  split
  case h_8 notQuote notEscape _ _ _ _ _ =>
    split
    · rename_i control
      exact content_control control rest
    · rename_i visible
      exact content_plain notQuote notEscape visible rest
  all_goals simp [content,escaped?]

theorem skip_escape (c : Char) (rest : List Char) : skip (escape c ++ rest) = skip rest := by
  unfold escape
  split
  case h_8 notQuote notEscape _ _ _ _ _ =>
    split
    · rename_i control
      simp [skip,unit?_hexDigits _ (toNat_of_control control)]
    · rename_i visible
      exact skip_plain notQuote notEscape visible rest
  all_goals simp [skip,escaped?]

theorem content_flatMap_escape (text rest : List Char) : content (text.flatMap escape ++ '"' :: rest) = .ok text := by
  induction text with
  | nil => simp [content]
  | cons c text ih => rw [List.flatMap_cons,List.append_assoc,content_escape,ih]; rfl

theorem skip_flatMap_escape (text rest : List Char) : skip (text.flatMap escape ++ '"' :: rest) = .ok rest := by
  induction text with
  | nil => simp [skip]
  | cons c text ih => rw [List.flatMap_cons,List.append_assoc,skip_escape,ih]

end Questionnaire.Json.Quoted
