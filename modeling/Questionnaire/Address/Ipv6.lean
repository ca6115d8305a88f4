import Questionnaire.Address.Ipv4
/-!
IPv6 addresses: eight groups of up to four hexadecimal digits between colons. Two colons stand for
a run of groups left out, once at most, and the last two groups may be an IPv4 address.
-/

namespace Questionnaire.Ipv6

def isGroup (part : List Char) : Bool :=
  1 ≤ part.length && part.length ≤ 4 && (Ipv4.numberIn 16 part).isSome

def isByte (part : List Char) : Bool :=
  match part with
  | [] => false
  | ['0'] => true
  | '0' :: _ => false
  | _ => (Ipv4.numberIn 10 part).elim false (· ≤ 255)

def isDotted (part : List Char) : Bool :=
  let bytes := Text.split '.' part
  bytes.length = 4 && bytes.all isByte

def groups? (dotted : Bool) : List (List Char) → Option Nat
  | [] => some 0
  | [part] => if isGroup part then some 1 else if dotted && isDotted part then some 2 else none
  | part :: rest => if isGroup part then (groups? dotted rest).map (1 + ·) else none

def splitGap : List Char → Option (List Char × List Char)
  | ':' :: ':' :: rest => some ([],rest)
  | c :: rest => (splitGap rest).map fun (before,after) => (c :: before,after)
  | [] => none

def side (dotted : Bool) (text : List Char) : Option Nat :=
  if text = [] then some 0 else groups? dotted (Text.split ':' text)

def isValid (text : List Char) : Bool :=
  match splitGap text with
  | none => groups? true (Text.split ':' text) = some 8
  | some (before,after) =>
    match side false before,side true after with
    | some left,some right => left + right ≤ 7
    | _,_ => false

end Questionnaire.Ipv6
