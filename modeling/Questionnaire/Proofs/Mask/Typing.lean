import Mathlib.Data.List.Infix
import Questionnaire.Mask
/-!
Masking while typing. What a mask makes of a text and the part of the template still open behind it
say all there is to say about that text, so masking key by key comes to masking once.
-/

namespace Questionnaire.Mask
open Decimal (isDigit)

@[simp] theorem fit_nil_right (template : List Char) : fit template [] = [] := by
  cases template <;> rfl

theorem fit_slot (template text : List Char) :
    fit (slot :: template) text = match text.dropWhile (!isDigit ·) with
      | [] => []
      | digit :: later => digit :: fit template later := by
  cases text with
  | nil => rfl
  | cons c rest => exact if_pos rfl

theorem fit_literal {m : Char} (literal : m ≠ slot) (template : List Char) (c : Char) (rest : List Char) :
    fit (m :: template) (c :: rest) = m :: fit template (if c = m then rest else c :: rest) := by
  simp only [fit,if_neg literal]

-- A slot that finds no digit stays open, and nothing that was typed is kept for it.
def left : List Char → List Char → List Char
  | [],_ => []
  | m :: template,text =>
    if m = slot then
      match text.dropWhile (!isDigit ·) with
      | [] => m :: template
      | _ :: later => left template later
    else match text with
      | [] => m :: template
      | c :: rest => left template (if c = m then rest else c :: rest)

theorem left_slot (template text : List Char) :
    left (slot :: template) text = match text.dropWhile (!isDigit ·) with
      | [] => slot :: template
      | _ :: later => left template later := by
  simp only [left,if_pos]

theorem left_literal {m : Char} (literal : m ≠ slot) (template : List Char) (c : Char) (rest : List Char) :
    left (m :: template) (c :: rest) = left template (if c = m then rest else c :: rest) := by
  simp only [left,if_neg literal]

theorem left_nil (template : List Char) : left template [] = template := by
  cases template with
  | nil => rfl
  | cons m template =>
    unfold left
    split <;> rfl

theorem fit_append (template a b : List Char) :
    fit template (a ++ b) = fit template a ++ fit (left template a) b := by
  induction template generalizing a with
  | nil => rfl
  | cons m template ih =>
    by_cases takes : m = slot
    · subst takes
      rw [fit_slot,fit_slot,left_slot,List.dropWhile_append]
      cases found : a.dropWhile (!isDigit ·) with
      | nil => simp only [List.isEmpty_nil,if_pos,List.nil_append,fit_slot]
      | cons digit later => simp [ih later]
    · cases a with
      | nil => rw [List.nil_append,fit_nil_right,left_nil,List.nil_append]
      | cons c rest =>
        rw [List.cons_append,fit_literal takes,fit_literal takes,left_literal takes,List.cons_append]
        by_cases typed : c = m
        · rw [if_pos typed,if_pos typed,ih rest]
        · rw [if_neg typed,if_neg typed,← List.cons_append,ih (c :: rest)]

theorem fit_slot_digit {digit : Char} (isOne : isDigit digit = true) (template later : List Char) :
    fit (slot :: template) (digit :: later) = digit :: fit template later := by
  rw [fit_slot,List.dropWhile_cons_of_neg (by simp [isOne])]

theorem isDigit_of_dropWhile {text later : List Char} {digit : Char}
    (found : text.dropWhile (!isDigit ·) = digit :: later) : isDigit digit = true := by
  have head := List.head?_dropWhile_not (!isDigit ·) text
  simpa [found] using head

-- What a mask wrote it takes back as it stands, each slot its digit and each literal itself, and
-- goes on where the text that was typed left it.
theorem fit_written (template a b : List Char) :
    fit template (fit template a ++ b) = fit template a ++ fit (left template a) b := by
  induction template generalizing a with
  | nil => rfl
  | cons m template ih =>
    by_cases takes : m = slot
    · subst takes
      rw [fit_slot template a,left_slot]
      cases found : a.dropWhile (!isDigit ·) with
      | nil => rfl
      | cons digit later =>
        dsimp only
        rw [List.cons_append,fit_slot_digit (isDigit_of_dropWhile found),ih,List.cons_append]
    · cases a with
      | nil => rw [fit_nil_right,left_nil]; rfl
      | cons c rest =>
        rw [fit_literal takes,left_literal takes,List.cons_append,fit_literal takes,if_pos rfl,ih,List.cons_append]

theorem fit_fit_append (template a b : List Char) :
    fit template (fit template a ++ b) = fit template (a ++ b) := by
  rw [fit_written,← fit_append]

theorem fit_fit (template text : List Char) : fit template (fit template text) = fit template text := by
  have written := fit_written template text []
  rwa [List.append_nil,fit_nil_right,List.append_nil] at written

@[simp] theorem toList_apply (template raw : String) :
    (apply template raw).toList = fit template.toList raw.toList := by
  simp [apply]

theorem apply_append (template a b : String) :
    apply template (apply template a ++ b) = apply template (a ++ b) := by
  apply String.toList_injective
  simp only [toList_apply,String.toList_append,fit_fit_append]

theorem apply_apply (template raw : String) : apply template (apply template raw) = apply template raw := by
  apply String.toList_injective
  simp only [toList_apply,fit_fit]

theorem apply_push (template a : String) (c : Char) :
    apply template ((apply template a).push c) = apply template (a.push c) := by
  apply String.toList_injective
  simp only [toList_apply,String.toList_push,fit_fit_append]

theorem keystrokes_go (template typed : String) (rest : List Char) :
    keystrokes.go template (apply template typed) rest =
      rest.inits.tail.map fun more => apply template (typed ++ String.ofList more) := by
  induction rest generalizing typed with
  | nil => rfl
  | cons c rest ih =>
    have here : typed ++ String.ofList [c] = typed.push c := by
      apply String.toList_injective
      simp
    have later (more : List Char) : typed.push c ++ String.ofList more = typed ++ String.ofList (c :: more) := by
      apply String.toList_injective
      simp
    have split : rest.inits = [] :: rest.inits.tail := by cases rest <;> simp
    rw [List.inits_cons,List.tail_cons,split]
    simp only [keystrokes.go,apply_push,ih (typed.push c),List.map_cons,List.map_map,here,later,Function.comp_def]

theorem apply_empty (template : String) : apply template "" = "" := by
  apply String.toList_injective
  simp

theorem keystrokes_eq (template : String) (typed : List Char) :
    keystrokes template typed = typed.inits.tail.map fun more => apply template (String.ofList more) := by
  have steps := keystrokes_go template "" typed
  rw [apply_empty] at steps
  simpa [keystrokes] using steps

theorem keystrokes_last (template raw : String) :
    (keystrokes template raw.toList).getLastD "" = apply template raw := by
  rw [keystrokes_eq]
  rcases List.eq_nil_or_concat raw.toList with empty | ⟨before,c,typed⟩
  · have nothing : raw = "" := String.toList_injective empty
    simp [nothing,apply_empty]
  · have nonempty : before.inits ≠ [] := List.ne_nil_of_length_pos (by simp)
    have whole : String.ofList (before ++ [c]) = raw := by rw [← List.concat_eq_append,← typed,String.ofList_toList]
    rw [typed,List.concat_eq_append,List.inits_append,List.tail_append_of_ne_nil nonempty,List.map_append]
    simp [whole]

-- A mask sees only what it still has to place: text typed behind a masked value meets the same
-- open part of the template as text typed behind the raw one.
theorem typing_incremental (template : String) :
    (∀ a b, (apply template a).toList <+: (apply template (a ++ b)).toList) ∧
    (∀ a b, apply template (apply template a ++ b) = apply template (a ++ b)) ∧
    (∀ raw, keystrokes template raw.toList =
        raw.toList.inits.tail.map (fun typed => apply template (String.ofList typed)) ∧
      (keystrokes template raw.toList).getLastD "" = apply template raw) ∧
    ∀ raw, apply template (apply template raw) = apply template raw := by
  refine ⟨?_,apply_append template,?_,apply_apply template⟩
  · intro a b
    rw [toList_apply,toList_apply,String.toList_append,fit_append]
    exact List.prefix_append _ _
  · intro raw
    exact ⟨keystrokes_eq template raw.toList,keystrokes_last template raw⟩

end Questionnaire.Mask
