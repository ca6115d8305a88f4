/-!
Cutting a text at a separator.
-/

namespace Questionnaire.Text

def split (separator : Char) (text : List Char) : List (List Char) :=
  text.foldr
    (fun c pieces => if c = separator then [] :: pieces else match pieces with
      | [] => [[c]]
      | piece :: more => (c :: piece) :: more)
    [[]]

theorem split_ne_nil (separator : Char) (text : List Char) : split separator text ≠ [] := by
  cases text with
  | nil => simp [split]
  | cons c rest =>
    simp only [split,List.foldr_cons]
    split
    · simp
    · split <;> simp

theorem split_cons_of_ne {separator c : Char} {rest piece : List Char} {more : List (List Char)}
    (other : c ≠ separator) (h : split separator rest = piece :: more) :
    split separator (c :: rest) = (c :: piece) :: more := by
  simp only [split,List.foldr_cons] at h ⊢
  rw [h]
  simp [other]

end Questionnaire.Text
