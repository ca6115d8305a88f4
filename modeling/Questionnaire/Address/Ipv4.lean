import Questionnaire.Text.Split
/-!
IPv4 addresses as host names spell them: one to four numbers between points, each decimal, octal
behind a `0` or hexadecimal behind `0x`. The last number fills all the bytes that are left.
-/

namespace Questionnaire.Ipv4

def digitIn (base : Nat) (c : Char) : Option Nat :=
  let n :=
    if '0' ≤ c && c ≤ '9' then c.toNat - '0'.toNat
    else if 'a' ≤ c && c ≤ 'z' then c.toNat - 'a'.toNat + 10
    else if 'A' ≤ c && c ≤ 'Z' then c.toNat - 'A'.toNat + 10
    else base
  if n < base then some n else none

def numberIn (base : Nat) (digits : List Char) : Option Nat :=
  digits.foldlM (fun n c => (digitIn base c).map (base * n + ·)) 0

def number? : List Char → Option Nat
  | [] => none
  | '0' :: 'x' :: digits => numberIn 16 digits
  | '0' :: 'X' :: digits => numberIn 16 digits
  | '0' :: c :: digits => numberIn 8 (c :: digits)
  | digits => numberIn 10 digits

def parts (name : List Char) : List (List Char) :=
  let pieces := Text.split '.' name
  if pieces.getLast? = some [] then pieces.dropLast else pieces

def isNumeric (name : List Char) : Bool :=
  match (parts name).getLast? with
  | none => false
  | some last =>
    (last ≠ [] && last.all fun c => '0' ≤ c && c ≤ '9') || (number? last).isSome

def isValid (name : List Char) : Bool :=
  match (parts name).mapM number? with
  | none => false
  | some numbers =>
    match numbers.reverse with
    | [] => false
    | last :: bytes =>
      bytes.length ≤ 3 && bytes.all (· ≤ 255) && last < Nat.pow 256 (4 - bytes.length)

end Questionnaire.Ipv4
