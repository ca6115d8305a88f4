import Questionnaire.Text.Search
import Questionnaire.Text.Split
/-!
E-mail addresses, as far as a form can judge them: a local part, one `@`, and a domain of two
labels or more.
-/

namespace Questionnaire.Mailbox

-- Letters count without regard to case, and two characters outside ASCII are the same letter in
-- another case: the long s and the Kelvin sign.
def isLetter (c : Char) : Bool :=
  ('a' ≤ c && c ≤ 'z') || ('A' ≤ c && c ≤ 'Z') || c = '\u017f' || c = '\u212a'

def isDigit (c : Char) : Bool := '0' ≤ c && c ≤ '9'

def isLocalEnd (c : Char) : Bool := isLetter c || isDigit c || c = '_' || c = '+' || c = '-'

def isLocal (c : Char) : Bool := isLocalEnd c || c = '\x27' || c = '.'

def localPart (part : List Char) : Bool :=
  part.all isLocal && (part.getLast?.elim false isLocalEnd)

def label (part : List Char) : Bool :=
  (part.head?.elim false fun c => isLetter c || isDigit c) &&
    part.all fun c => isLetter c || isDigit c || c = '-'

def topLabel (part : List Char) : Bool := part.all isLetter && 2 ≤ part.length

def domain (part : List Char) : Bool :=
  match (Text.split '.' part).reverse with
  | top :: labels => topLabel top && labels ≠ [] && labels.all label
  | [] => false

def isValid (text : List Char) : Bool :=
  !(['.'].isPrefixOf text) && !Text.occurs ['.','.'] text &&
    match Text.split '@' text with
    | [name,host] => localPart name && domain host
    | _ => false

end Questionnaire.Mailbox
