import Questionnaire.Json.Fault
/-!
Quoted text: what stands between an opening and a closing quote. A reader that skips a text only
looks for its end; one that keeps it also pairs the surrogates of its escapes.
-/

namespace Questionnaire.Json.Quoted

def hexValue? (c : Char) : Option Nat :=
  if '0' ≤ c && c ≤ '9' then some (c.toNat - '0'.toNat)
  else if 'a' ≤ c && c ≤ 'f' then some (c.toNat - 'a'.toNat + 10)
  else if 'A' ≤ c && c ≤ 'F' then some (c.toNat - 'A'.toNat + 10)
  else none

def unit? (a b c d : Char) : Option Nat := do
  return (((← hexValue? a) * 16 + (← hexValue? b)) * 16 + (← hexValue? c)) * 16 + (← hexValue? d)

def isLead (unit : Nat) : Bool := 0xD800 ≤ unit && unit ≤ 0xDBFF
def isTrail (unit : Nat) : Bool := 0xDC00 ≤ unit && unit ≤ 0xDFFF

def pairUp (lead trail : Nat) : Char :=
  Char.ofNat (0x10000 + (lead - 0xD800) * 0x400 + (trail - 0xDC00))

def escaped? : Char → Option Char
  | '"' => some '"'
  | '\\' => some '\\'
  | '/' => some '/'
  | 'b' => some '\x08'
  | 'f' => some '\x0c'
  | 'n' => some '\n'
  | 'r' => some '\r'
  | 't' => some '\t'
  | _ => none

-- Four bytes, not four characters, decide whether the escape or the text breaks off.
def brokenUnit (text : List Char) : Fault :=
  if (String.ofList text).utf8ByteSize < 4 then .endInText else .badEscape

def skip : List Char → Except Fault (List Char)
  | [] => .error .endInText
  | '"' :: rest => .ok rest
  | '\\' :: 'u' :: a :: b :: c :: d :: rest =>
    if (unit? a b c d).isSome then skip rest else .error .badEscape
  | '\\' :: 'u' :: rest => .error (brokenUnit rest)
  | '\\' :: c :: rest => if (escaped? c).isSome then skip rest else .error .badEscape
  | ['\\'] => .error .endInText
  | c :: rest => if c < ' ' then .error .controlCharacter else skip rest

def content : List Char → Except Fault (List Char)
  | [] => .error .endInText
  | '"' :: _ => .ok []
  | '\\' :: 'u' :: a :: b :: c :: d :: rest =>
    match unit? a b c d with
    | none => .error .badEscape
    | some unit =>
      if isTrail unit then .error .loneSurrogate
      else if isLead unit then
        match rest with
        | '\\' :: 'u' :: e :: f :: g :: h :: after =>
          match unit? e f g h with
          | none => .error .badEscape
          | some trail =>
            if isTrail trail then (content after).map (pairUp unit trail :: ·)
            else .error .loneSurrogate
        | '\\' :: 'u' :: after => .error (brokenUnit after)
        | ['\\'] => .error .endInText
        | [] => .error .endInText
        | _ => .error .escapeCutShort
      else (content rest).map (Char.ofNat unit :: ·)
  | '\\' :: 'u' :: rest => .error (brokenUnit rest)
  | '\\' :: c :: rest =>
    match escaped? c with
    | some plain => (content rest).map (plain :: ·)
    | none => .error .badEscape
  | ['\\'] => .error .endInText
  | c :: rest => if c < ' ' then .error .controlCharacter else (content rest).map (c :: ·)

theorem skip_shorter {text rest : List Char} (h : skip text = .ok rest) :
    rest.length < text.length := by
  fun_induction skip text <;> simp_all <;> omega

end Questionnaire.Json.Quoted
