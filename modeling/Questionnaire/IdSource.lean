/-!
Where new questions and choices get their identifiers from.
-/

namespace Questionnaire

structure IdSource where
  id : Nat → String
  spent : Nat := 0

namespace IdSource

def draw (source : IdSource) : String × IdSource :=
  (source.id source.spent,{ source with spent := source.spent + 1 })

def numbered (stem : String) : IdSource where
  id n := stem ++ "-" ++ toString (n + 1)

end IdSource

end Questionnaire
