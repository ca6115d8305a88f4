/-!
Punycode: labels of any characters written in ASCII letters and digits. The characters that are
ASCII come first; the others follow as distances, from one insertion to the next, in digits of
base thirty-six whose weights adapt.
-/

namespace Questionnaire.Punycode

def digit? (c : Char) : Option Nat :=
  if 'a' ≤ c && c ≤ 'z' then some (c.toNat - 'a'.toNat)
  else if 'A' ≤ c && c ≤ 'Z' then some (c.toNat - 'A'.toNat)
  else if '0' ≤ c && c ≤ '9' then some (c.toNat - '0'.toNat + 26)
  else none

-- Distances are numbers of thirty-two bits.
def limit : Nat := 0x100000000

def threshold (place bias : Nat) : Nat :=
  if place ≤ bias then 1 else if bias + 26 ≤ place then 26 else place - bias

def distance? (bias : Nat) (place weight sum : Nat) : List Char → Option (Nat × List Char)
  | [] => none
  | c :: rest => do
    let digit ← digit? c
    let sum := sum + digit * weight
    let t := threshold place bias
    if limit ≤ sum then none
    else if digit < t then some (sum,rest)
    else if limit ≤ weight * (36 - t) then none
    else distance? bias (place + 36) (weight * (36 - t)) sum rest

theorem distance?_shorter {bias place weight sum sum' : Nat} {text rest : List Char}
    (h : distance? bias place weight sum text = some (sum',rest)) : rest.length < text.length := by
  induction text generalizing place weight sum with
  | nil => simp [distance?] at h
  | cons c text ih =>
    simp only [distance?,Option.bind_eq_bind,Option.bind_eq_some_iff] at h
    obtain ⟨digit,-,h⟩ := h
    split at h
    · simp at h
    · split at h
      · simp only [Option.some.injEq,Prod.mk.injEq] at h
        simp [h.2]
      · split at h
        · simp at h
        · have := ih h
          simp only [List.length_cons]
          omega

def adaptFrom (delta places : Nat) : Nat :=
  if 455 < delta then adaptFrom (delta / 35) (places + 36) else places + 36 * delta / (delta + 38)
termination_by delta

def adapt (delta length : Nat) (first : Bool) : Nat :=
  let delta := if first then delta / 700 else delta / 2
  adaptFrom (delta + delta / length) 0

-- `code` is the last code point inserted and `index` the place behind it.
def insertAll (output : List Char) (code index bias : Nat) (text : List Char) :
    Option (List Char) :=
  if text = [] then some output
  else match _ : distance? bias 36 1 index text with
    | none => none
    | some (sum,rest) =>
      let length := output.length + 1
      let code := code + sum / length
      if code.isValidChar then
        insertAll (output.insertIdx (sum % length) (Char.ofNat code)) code (sum % length + 1)
          (adapt (sum - index) length (index = 0)) rest
      else none
termination_by text.length
decreasing_by exact distance?_shorter ‹_›

def splitLast (text : List Char) : List Char × List Char :=
  let tail := (text.reverse.takeWhile (· ≠ '-')).reverse
  let head := text.take (text.length - tail.length - 1)
  if head = [] then ([],text) else (head,tail)

def decode (text : List Char) : Option (List Char) :=
  let (ascii,distances) := splitLast text
  insertAll ascii 128 0 72 distances

example : decode "bcher-kva".toList = some "bücher".toList := by decide +kernel
example : decode "80ak6aa92e".toList = some "аррӏе".toList := by decide +kernel

end Questionnaire.Punycode
