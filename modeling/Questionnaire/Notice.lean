import Questionnaire.Rule
import Questionnaire.Text.Visible
/-!
Notices: what an operation has to say about input it did not act on, and what that input was.
-/

namespace Questionnaire

inductive Notice.Level where
  | debug
  | warning
deriving DecidableEq, Repr

inductive Notice where
  | ruleMissing (kind : RuleKind)
  | unknownNumberMethod
  | unknownTextMethod
  | unknownLengthMethod
  | unknownQuestion (question : String)
  | duplicateOfUnknownQuestion (question : String)
  | choiceForUnknownQuestion (question : String)
  | unknownChoice (choice : String)
  | renameOfOther (choice : String)
  | notAPermutation (order : List String)
  | secondOther
deriving DecidableEq, Repr

namespace Notice

def level : Notice → Level
  | .secondOther => .warning
  | _ => .debug

def message : Notice → String
  | .ruleMissing _ => "validation type declared without its rule; using bare check"
  | .unknownNumberMethod => "unrecognized number method; using bare check"
  | .unknownTextMethod => "unrecognized text method; using bare check"
  | .unknownLengthMethod => "unrecognized length method; using bare check"
  | .unknownQuestion _ => "edit of unknown question ignored"
  | .duplicateOfUnknownQuestion _ => "duplicate of unknown question ignored"
  | .choiceForUnknownQuestion _ => "choice added to unknown question ignored"
  | .unknownChoice _ => "rename of unknown choice ignored"
  | .renameOfOther _ => "ignoring rename of the \"Other\" choice"
  | .notAPermutation _ => "question reorder that is not a permutation ignored"
  | .secondOther => "rejected a second \"Other\" choice"

def kindName : RuleKind → String
  | .number => "Number"
  | .text => "Text"
  | .length => "Length"

-- The input a notice is about, under the name it goes by in a log.
def field? : Notice → Option (String × String)
  | .ruleMissing kind => some ("kind",kindName kind)
  | .unknownQuestion id | .duplicateOfUnknownQuestion id | .choiceForUnknownQuestion id =>
    some ("question_id",Text.visible id)
  | .unknownChoice id | .renameOfOther id => some ("choice_id",Text.visible id)
  | .notAPermutation order =>
    some ("order","[" ++ ", ".intercalate (order.map Text.visible) ++ "]")
  | .unknownNumberMethod | .unknownTextMethod | .unknownLengthMethod | .secondOther => none

def text (notice : Notice) : String :=
  match notice.field? with
  | none => notice.message
  | some (name,value) => notice.message ++ " " ++ name ++ "=" ++ value

end Notice

structure Noted (α : Type) where
  value : α
  notices : List Notice := []
deriving DecidableEq, Repr

end Questionnaire
