import Questionnaire.Json.Value
import Std.Data.ExtTreeMap
/-!
Values whose maps are in the order of their keys, as their readers see them: a key stands for the
last member that has it.
-/

namespace Questionnaire.Json.Value

def byKey (members : List (String × Value)) : Std.ExtTreeMap String Value := .ofList members

mutual
def sorted : Value → Value
  | .list items => .list (sortedItems items)
  | .map members => .map (byKey (sortedMembers members)).toList
  | v => v
termination_by structural v => v
def sortedItems : List Value → List Value
  | [] => []
  | item :: rest => sorted item :: sortedItems rest
termination_by structural items => items
def sortedMembers : List (String × Value) → List (String × Value)
  | [] => []
  | member :: rest => sortedMember member :: sortedMembers rest
termination_by structural members => members
def sortedMember : String × Value → String × Value
  | (key,value) => (key,sorted value)
termination_by structural member => member
end

end Questionnaire.Json.Value
