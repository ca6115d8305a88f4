import Questionnaire.Decimal.Layout
/-!
Answers: what a raw response is once its question has accepted it.
-/

namespace Questionnaire

inductive Answer where
  | missing
  | text (s : String)
  | number (x : Float)
deriving DecidableEq

def plainLayout : Decimal.Layout where
  tie := .up
  positional _ := true
  pointZero := false
  infinite := ['i','n','f']
  negativeInfinite := ['-','i','n','f']
  notANumber := ['N','a','N']

namespace Answer

def display : Answer → String
  | .missing => ""
  | .text s => s
  | .number x => String.ofList (plainLayout.text x)

end Answer

end Questionnaire
