import Questionnaire.Address.Domain
import Questionnaire.Address.Ipv6
/-!
Hosts of URLs.
-/

namespace Questionnaire.Host

def isBracketed (text : List Char) : Bool :=
  match text with
  | '[' :: rest => rest.getLast? = some ']' && Ipv6.isValid rest.dropLast
  | _ => false

def hexPair? (a b : Char) : Option UInt8 := do
  return UInt8.ofNat ((← Ipv4.digitIn 16 a) * 16 + (← Ipv4.digitIn 16 b))

def bytes : List Char → List UInt8
  | '%' :: a :: b :: rest =>
    match hexPair? a b with
    | some byte => byte :: bytes rest
    | none => (String.singleton '%').toUTF8.toList ++ bytes (a :: b :: rest)
  | c :: rest => (String.singleton c).toUTF8.toList ++ bytes rest
  | [] => []

def unescaped? (text : List Char) : Option (List Char) :=
  (String.fromUTF8? ⟨(bytes text).toArray⟩).map String.toList

-- A name that ends in a number has to be an address.
def isValid (text : List Char) : Bool :=
  match text with
  | '[' :: _ => isBracketed text
  | _ =>
    match (unescaped? text).bind Domain.name? with
    | none => false
    | some name => name ≠ [] && (!Ipv4.isNumeric name || Ipv4.isValid name)

def isForbidden (c : Char) : Bool :=
  ['\x00','\t','\n','\r',' ','#','/',':','<','>','?','@','[','\\',']','^',
    '|'].contains c

def isOpaque (text : List Char) : Bool :=
  match text with
  | '[' :: _ => isBracketed text
  | _ => !text.any isForbidden

end Questionnaire.Host
