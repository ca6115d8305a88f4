import Questionnaire.Address.Host
/-!
Absolute URLs. Only the scheme, the user, the host and the port can make a text no URL: paths,
queries and fragments take any character.
-/

namespace Questionnaire.Url

inductive SchemeKind where
  | file
  | special
  | other
deriving DecidableEq

def SchemeKind.isSpecial (kind : SchemeKind) : Bool := kind ≠ .other

def schemeKind (scheme : List Char) : SchemeKind :=
  let name := String.ofList scheme
  if name = "file" then .file
  else if ["http","https","ws","wss","ftp"].contains name then .special
  else .other

def trimmed (text : List Char) : List Char :=
  let isOuter (c : Char) : Bool := c ≤ ' '
  let inner := ((text.dropWhile isOuter).reverse.dropWhile isOuter).reverse
  inner.filter fun c => c ≠ '\t' && c ≠ '\n' && c ≠ '\r'

def isSchemeChar (c : Char) : Bool := c.isAlphanum || c = '+' || c = '-' || c = '.'

def splitScheme? (text : List Char) : Option (List Char × List Char) :=
  match text.takeWhile isSchemeChar,text.dropWhile isSchemeChar with
  | c :: scheme,':' :: rest =>
    if c.isAlpha then some ((c :: scheme).map Char.toLower,rest) else none
  | _,_ => none

def isSlash (kind : SchemeKind) (c : Char) : Bool := c = '/' || (kind.isSpecial && c = '\\')

def endsAuthority (kind : SchemeKind) (c : Char) : Bool := isSlash kind c || c = '?' || c = '#'

def splitUser (authority : List Char) : Option (List Char) × List Char :=
  let host := (authority.reverse.takeWhile (· ≠ '@')).reverse
  if host.length = authority.length then (none,authority)
  else (some (authority.take (authority.length - host.length - 1)),host)

def splitHost (bracketed : Bool) : List Char → List Char × List Char
  | [] => ([],[])
  | c :: rest =>
    if c = ':' && !bracketed then ([],c :: rest)
    else
      let (host,after) := splitHost (if c = '[' then true else if c = ']' then false else bracketed) rest
      (c :: host,after)

def portFits (text : List Char) : Bool :=
  let digits := text.takeWhile Char.isDigit
  let after := text.dropWhile Char.isDigit
  (Ipv4.numberIn 10 digits).elim false (· ≤ 65535) &&
    after.head?.elim true fun c => ['/','\\','?','#'].contains c

-- A user needs a host, and so does a port; where nothing but an `@` is written, the text has to end
-- there.
def authorityFits (kind : SchemeKind) (text : List Char) : Bool :=
  let authority := text.takeWhile (!endsAuthority kind ·)
  let after := text.dropWhile (!endsAuthority kind ·)
  let (user,place) := splitUser authority
  let (host,port) := splitHost false place
  let namesUser := user.any fun name => name ≠ [] && name ≠ [':']
  if host = [] then
    kind = .other && port = [] && !namesUser && !(user = some [] && after ≠ [])
  else
    (if kind.isSpecial then Host.isValid host else Host.isOpaque host) &&
      (port = [] || portFits port.tail)

def isDriveLetter (text : List Char) : Bool :=
  match text with
  | [c,d] => c.isAlpha && (d = ':' || d = '|')
  | _ => false

def fileHostFits (text : List Char) : Bool :=
  let host := text.takeWhile (!endsAuthority .file ·)
  host = [] || isDriveLetter host || Host.isValid host

def isValid (text : List Char) : Bool :=
  match splitScheme? (trimmed text) with
  | none => false
  | some (scheme,rest) =>
    match schemeKind scheme,rest with
    | .special,rest => authorityFits .special (rest.dropWhile (isSlash .special))
    | .file,a :: b :: rest => !(isSlash .file a && isSlash .file b) || fileHostFits rest
    | .other,'/' :: '/' :: rest => authorityFits .other rest
    | _,_ => true

end Questionnaire.Url
