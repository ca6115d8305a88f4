/-!
Where one text occurs in another, character by character and without folding of any kind.
-/

namespace Questionnaire.Text

def occurs (needle : List Char) : List Char → Bool
  | [] => needle.isEmpty
  | c :: rest => needle.isPrefixOf (c :: rest) || occurs needle rest

theorem occurs_iff {needle text : List Char} : occurs needle text = true ↔ needle <:+: text := by
  induction text with
  | nil => simp [occurs]
  | cons c rest ih => simp [occurs,ih,List.infix_cons_iff]

end Questionnaire.Text
